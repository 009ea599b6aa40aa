import Mathlib.Data.List.Basic

/-!
# Texts that are split at a separator

A text is split into the parts between the places of a separator. The parts do not have the
separator in them, and put together with it they are the text; only one list of parts is so
(`split_eq_iff`). So what stands in front of the first separator of a text is determined by the text
(`append_separator_inj`).
-/

namespace IconSubset.Text

/-- The parts of a text between the places of a separator. -/
def split (separator : Char) (s : String) : List String :=
  (s.toList.splitOn separator).map String.ofList

variable {c : Char} {s : String} {parts : List String}

/-- The characters of parts that are put together. -/
theorem toList_intercalate_singleton : (String.intercalate (String.singleton c) parts).toList =
    [c].intercalate (parts.map String.toList) := by
  rw [String.toList_intercalate, String.toList_singleton]

/-- No part that characters are split into has the separator in it. -/
theorem not_mem_of_mem_splitOn {cs part : List Char} (h : part ∈ cs.splitOn c) : c ∉ part := by
  induction cs generalizing part with
  | nil =>
    obtain rfl := List.mem_singleton.1 h
    exact List.not_mem_nil
  | cons d rest ih =>
    rw [List.splitOn_cons_eq_if_modifyHead] at h
    split_ifs at h with hd
    · obtain rfl | h := List.mem_cons.1 h
      · exact List.not_mem_nil
      · exact ih h
    · -- The character goes to the first part of the rest.
      obtain ⟨first, more, hrest⟩ := List.exists_cons_of_ne_nil (List.splitOn_ne_nil c rest)
      rw [hrest] at h ih
      obtain rfl | h := List.mem_cons.1 h
      · rw [List.mem_cons, not_or]
        exact ⟨fun heq => hd (beq_iff_eq.2 heq.symm), ih List.mem_cons_self⟩
      · exact ih (List.mem_cons_of_mem _ h)

/-- The parts of a text are the one list of texts without the separator that, put together with it,
is the text. -/
theorem split_eq_iff : split c s = parts ↔
    parts ≠ [] ∧ (∀ part ∈ parts, c ∉ part.toList) ∧
      String.intercalate (String.singleton c) parts = s := by
  constructor
  · rintro rfl
    unfold split
    refine ⟨fun h => List.splitOn_ne_nil c s.toList (List.map_eq_nil_iff.1 h), ?_, ?_⟩
    · intro part hpart
      obtain ⟨cs, hcs, rfl⟩ := List.mem_map.1 hpart
      rw [String.toList_ofList]
      exact not_mem_of_mem_splitOn hcs
    · rw [← String.toList_inj, toList_intercalate_singleton, List.map_map]
      have hid : String.toList ∘ String.ofList = id := funext fun cs => String.toList_ofList
      rw [hid, List.map_id, List.intercalate_splitOn]
  · rintro ⟨hne, hparts, rfl⟩
    have hchars : ∀ cs ∈ parts.map String.toList, c ∉ cs := by
      intro cs hcs
      obtain ⟨part, hpart, rfl⟩ := List.mem_map.1 hcs
      exact hparts part hpart
    unfold split
    rw [toList_intercalate_singleton,
      List.splitOn_intercalate c hchars fun h => hne (List.map_eq_nil_iff.1 h), List.map_map]
    have hid : String.ofList ∘ String.toList = id := funext fun _ => String.ofList_toList
    rw [hid, List.map_id]

/-- A character that does not stand between texts that are put together is in the whole when it is
in one of the texts. -/
theorem mem_intercalate_iff {between : String} (h : c ∉ between.toList) :
    c ∈ (String.intercalate between parts).toList ↔ ∃ part ∈ parts, c ∈ part.toList := by
  induction parts with
  | nil =>
    rw [String.intercalate_nil]
    exact iff_of_false List.not_mem_nil fun ⟨_, hpart, _⟩ => List.not_mem_nil hpart
  | cons first rest ih =>
    rw [List.exists_mem_cons_iff]
    cases rest with
    | nil =>
      rw [String.intercalate_singleton]
      exact (or_iff_left fun ⟨_, hpart, _⟩ => List.not_mem_nil hpart).symm
    | cons next rest =>
      rw [String.intercalate_cons_cons, String.toList_append, String.toList_append, List.mem_append,
        List.mem_append, or_iff_left h, ih]

/-- What stands in front of the first separator, and what stands behind it, are determined. -/
theorem append_separator_inj {a b a' b' : List Char} (ha : c ∉ a) (ha' : c ∉ a')
    (h : a ++ c :: b = a' ++ c :: b') : a = a' ∧ b = b' := by
  have hsplit := congrArg (List.splitOn c) h
  rw [List.splitOn_append_cons_self_of_not_mem ha, List.splitOn_append_cons_self_of_not_mem ha']
    at hsplit
  obtain rfl := (List.cons.inj hsplit).1
  exact ⟨rfl, (List.cons.inj (List.append_cancel_left h)).2⟩

end IconSubset.Text
