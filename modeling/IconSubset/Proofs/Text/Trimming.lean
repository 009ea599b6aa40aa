import IconSubset.Text.Blank
import Mathlib.Data.List.Infix
import Mathlib.Data.List.TakeWhile

/-!
# What trimming keeps

A text occurs in another when its characters stand there in a row (`contains_iff`). Trimming takes
away blanks at the ends and nothing else, so a text that has no blanks at its own ends occurs in the
trim of a text exactly when it occurs in the text (`infix_trim_iff`).

The trim of a text has no blanks at its ends, and a text without blanks at its ends is its own trim
(`trimmed_iff`).
-/

namespace IconSubset.Text

/-- A list of characters occurs in another when it is a row of its characters. -/
theorem occursIn_iff {cs needle : List Char} : occursIn cs needle = true ↔ needle <:+: cs := by
  induction cs with
  | nil =>
    rw [occursIn, Bool.or_false, List.isPrefixOf_iff_prefix, List.prefix_nil, List.infix_nil]
  | cons c rest ih =>
    rw [occursIn, Bool.or_eq_true, List.isPrefixOf_iff_prefix, ih, List.infix_cons_iff]

/-- A text occurs in another when its characters stand there in a row. -/
theorem contains_iff {s needle : String} :
    contains s needle = true ↔ needle.toList <:+: s.toList := occursIn_iff

/-- A row of characters whose first stays is not cut by dropping characters at the front. -/
theorem infix_dropWhile_iff {p : Char → Bool} {cs needle : List Char} (hne : needle ≠ [])
    (hhead : ∀ c ∈ needle.head?, p c = false) :
    needle <:+: cs.dropWhile p ↔ needle <:+: cs := by
  induction cs with
  | nil => rw [List.dropWhile_nil]
  | cons c rest ih =>
    rw [List.dropWhile_cons]
    split_ifs with hc
    · rw [ih, List.infix_cons_iff]
      refine ⟨Or.inr, ?_⟩
      rintro (hstart | hinfix)
      · -- The row would begin with the character that is dropped.
        obtain ⟨d, needle, rfl⟩ := List.exists_cons_of_ne_nil hne
        obtain ⟨rfl, -⟩ := List.cons_prefix_cons.1 hstart
        rw [hhead d rfl] at hc
        exact absurd hc Bool.false_ne_true
      · exact hinfix
    · exact Iff.rfl

/-- A text without blanks at its ends occurs in the trim of a text when it occurs in the text. -/
theorem infix_trim_iff {s needle : String} (hne : needle ≠ "")
    (hhead : ∀ c ∈ needle.toList.head?, isBlank c = false)
    (hlast : ∀ c ∈ needle.toList.getLast?, isBlank c = false) :
    needle.toList <:+: (trim s).toList ↔ needle.toList <:+: s.toList := by
  have hne' : needle.toList ≠ [] := fun h => hne (String.toList_eq_nil_iff.1 h)
  have hreverse : needle.toList.reverse ≠ [] := fun h => hne' (List.reverse_eq_nil_iff.1 h)
  unfold trim trimChars trimEnd
  rw [String.toList_ofList, ← List.reverse_infix, List.reverse_reverse,
    infix_dropWhile_iff hreverse, List.reverse_infix, infix_dropWhile_iff hne' hhead]
  rw [List.head?_reverse]
  exact hlast

/-- The characters of a trim are characters of the text. -/
theorem mem_of_mem_trim {s : String} {c : Char} (h : c ∈ (trim s).toList) : c ∈ s.toList := by
  unfold trim trimChars trimEnd at h
  rw [String.toList_ofList, List.mem_reverse] at h
  have hfront := (List.dropWhile_suffix _).subset h
  rw [List.mem_reverse] at hfront
  exact (List.dropWhile_suffix _).subset hfront

/-! ## Trimmed texts -/

/-- A text is not empty and has no blanks at its ends. -/
structure Trimmed (s : String) : Prop where
  /-- The text has characters. -/
  ne_empty : s ≠ ""
  /-- The first of them is not blank. -/
  head : ∀ c ∈ s.toList.head?, isBlank c = false
  /-- The last of them is not blank. -/
  last : ∀ c ∈ s.toList.getLast?, isBlank c = false

/-- Nothing is dropped in front of a character that stays. -/
theorem dropWhile_eq_self {p : Char → Bool} {cs : List Char} (h : ∀ c ∈ cs.head?, p c = false) :
    cs.dropWhile p = cs := by
  cases cs with
  | nil => rfl
  | cons c cs => rw [List.dropWhile_cons, if_neg (Bool.eq_false_iff.1 (h c rfl))]

/-- What dropping stops at stays. -/
theorem head_dropWhile {p : Char → Bool} {cs : List Char} {c : Char}
    (h : c ∈ (cs.dropWhile p).head?) : p c = false := by
  have hnot := List.head?_dropWhile_not p cs
  rw [Option.mem_def.1 h] at hnot
  exact hnot

/-- The first character of a trim is not blank, and neither is the last. -/
theorem ends_trimChars (cs : List Char) :
    (∀ c ∈ (trimChars cs).head?, isBlank c = false) ∧
      ∀ c ∈ (trimChars cs).getLast?, isBlank c = false := by
  unfold trimChars trimEnd
  constructor
  · intro c hc
    -- The end is cut only, so what is first stays first.
    obtain ⟨cut, hcut⟩ : ((cs.dropWhile isBlank).reverse.dropWhile isBlank).reverse <+:
        cs.dropWhile isBlank := by
      rw [← List.reverse_suffix, List.reverse_reverse]
      exact List.dropWhile_suffix _
    have hfirst : c ∈ (cs.dropWhile isBlank).head? := by
      rw [← hcut, List.head?_append, Option.mem_def.1 hc]
      rfl
    exact head_dropWhile hfirst
  · intro c hc
    rw [List.getLast?_reverse] at hc
    exact head_dropWhile hc

/-- The trim of a text is trimmed, unless nothing is left. -/
theorem trimmed_trim {s : String} (h : trim s ≠ "") : Trimmed (trim s) := by
  obtain ⟨hhead, hlast⟩ := ends_trimChars s.toList
  unfold trim at h ⊢
  rw [← String.toList_ofList (l := trimChars s.toList)] at hhead hlast
  exact ⟨h, hhead, hlast⟩

/-- Trimming leaves nothing of a text exactly when the text is blank. -/
theorem trim_eq_empty_iff {s : String} : trim s = "" ↔ isBlankText s = true := by
  unfold trim trimChars trimEnd isBlankText
  rw [← String.toList_eq_nil_iff, String.toList_ofList, List.reverse_eq_nil_iff,
    List.dropWhile_eq_nil_iff, List.all_eq_true]
  constructor
  · intro h
    -- What dropping stops at would not be blank, so the whole text is dropped.
    have hnil : s.toList.dropWhile isBlank = [] := by
      rw [List.eq_nil_iff_forall_not_mem]
      intro c hc
      obtain ⟨d, hd⟩ := Option.isSome_iff_exists.1 (List.isSome_head?.2 (List.ne_nil_of_mem hc))
      have hmem : d ∈ (s.toList.dropWhile isBlank).reverse :=
        List.mem_reverse.2 (List.mem_of_head? hd)
      exact Bool.false_ne_true ((head_dropWhile hd).symm.trans (h d hmem))
    exact List.dropWhile_eq_nil_iff.1 hnil
  · intro h c hc
    exact h c ((List.dropWhile_suffix _).subset (List.mem_reverse.1 hc))

/-- A trimmed text is its own trim. -/
theorem Trimmed.trim_eq {s : String} (h : Trimmed s) : trim s = s := by
  have hlast : ∀ c ∈ s.toList.reverse.head?, isBlank c = false := by
    rw [List.head?_reverse]
    exact h.last
  unfold trim trimChars trimEnd
  rw [dropWhile_eq_self h.head, dropWhile_eq_self hlast, List.reverse_reverse, String.ofList_toList]

/-- The trimmed texts are those that trimming does not change, but for the empty one. -/
theorem trimmed_iff {s : String} : Trimmed s ↔ s ≠ "" ∧ trim s = s := by
  constructor
  · exact fun h => ⟨h.ne_empty, h.trim_eq⟩
  · rintro ⟨hne, htrim⟩
    rw [← htrim] at hne ⊢
    exact trimmed_trim hne

end IconSubset.Text
