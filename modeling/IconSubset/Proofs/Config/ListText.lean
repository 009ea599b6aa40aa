import IconSubset.Config.Reading
import IconSubset.Config.Variable
import Mathlib.Data.List.Forall2
import Mathlib.Data.List.Infix
import Mathlib.Data.List.TakeWhile

/-!
# Lists in environment variables

A variable may hold a list: entries between brackets, with commas between them. What an entry is is
said by the way in which it is read (`IsEntry`), so that texts with and without quotes, numbers and
lists in lists are all meant. A list of entries is read as the list of their values
(`read_listText`). The induction goes over the entries; what it needs of each is that an entry
leaves alone what follows it, and that the steps that are left are enough for the rest.
-/

namespace IconSubset.Config.Variable

/-- What stands between brackets and commas as one entry of a list, with the blanks around it: it is
read as one value wherever it stands in front of a comma or the bracket at the end. -/
structure IsEntry (cs : List Char) (v : Value) : Prop where
  /-- An entry has characters. -/
  ne_nil : cs ≠ []
  /-- It is read as the value. -/
  reads : ∀ (fuel : Nat) (rest : List Char), 2 * cs.length + 2 ≤ fuel →
    rest.head? = some ',' ∨ rest.head? = some ']' → value fuel (cs ++ rest) = some (v, rest)

/-- A character that begins a value without quotes or brackets, and no truth value. -/
def IsPlainStart (c : Char) : Prop :=
  isSpace c = false ∧ c ≠ 't' ∧ c ≠ 'f' ∧ c ≠ '{' ∧ c ≠ '[' ∧ c ≠ '"' ∧ c ≠ '\''

instance (c : Char) : Decidable (IsPlainStart c) := inferInstanceAs (Decidable (_ ∧ _))

/-- Blanks in front of a value are skipped. -/
theorem skipSpace_append {left cs : List Char} (hleft : ∀ c ∈ left, isSpace c = true)
    (hcs : ∀ c ∈ cs.head?, isSpace c = false) : skipSpace (left ++ cs) = cs := by
  rw [skipSpace, List.dropWhile_append_of_pos hleft]
  cases cs with
  | nil => rfl
  | cons c cs => rw [List.dropWhile_cons, if_neg (Bool.eq_false_iff.1 (hcs c rfl))]

/-- A value without quotes and brackets ends at the next separator. -/
theorem value_plain {left cs rest : List Char} (hleft : ∀ c ∈ left, isSpace c = true)
    (hne : cs ≠ []) (hstart : ∀ c ∈ cs.head?, IsPlainStart c)
    (hcs : ∀ c ∈ cs, isSeparator c = false)
    (hrest : ∀ c ∈ rest.head?, isSeparator c = true ∧ isSpace c = false) (fuel : Nat) :
    value (fuel + 1) (left ++ (cs ++ rest)) = some (plain cs, rest) := by
  obtain ⟨c, cs, rfl⟩ := List.exists_cons_of_ne_nil hne
  obtain ⟨hspace, ht, hf, hbrace, hbracket, hquote, hsingle⟩ := hstart c rfl
  have hskip : skipSpace (left ++ (c :: cs ++ rest)) = c :: cs ++ rest := by
    refine skipSpace_append hleft fun d hd => ?_
    obtain rfl : c = d := Option.some.inj hd
    exact hspace
  have hend : skipSpace rest = rest := by
    have hnothing : ∀ c ∈ ([] : List Char), isSpace c = true := by simp
    exact skipSpace_append hnothing fun d hd => (hrest d hd).2
  have hpositive : ∀ d ∈ c :: cs, (!isSeparator d) = true := fun d hd => by simp [hcs d hd]
  have htake : rest.takeWhile (fun c => !isSeparator c) = [] := by
    cases rest with
    | nil => rfl
    | cons d rest => simp [(hrest d rfl).1]
  have hdrop : rest.dropWhile (fun c => !isSeparator c) = rest := by
    cases rest with
    | nil => rfl
    | cons d rest => simp [(hrest d rfl).1]
  rw [value]
  dsimp only
  rw [hskip, List.cons_append]
  split
  · next heq => exact absurd (List.cons.inj heq).1 ht
  · next heq => exact absurd (List.cons.inj heq).1 hf
  · next heq => exact absurd (List.cons.inj heq).1 hbrace
  · next heq => exact absurd (List.cons.inj heq).1 hbracket
  · next heq => exact absurd (List.cons.inj heq).1 hquote
  · next heq => exact absurd (List.cons.inj heq).1 hsingle
  · next heq => exact absurd (List.cons.inj heq).1 hsingle
  · rw [← List.cons_append, List.takeWhile_append_of_pos hpositive,
      List.dropWhile_append_of_pos hpositive, htake, hdrop, List.append_nil, Option.map_some, hend]

/-- A value without quotes and brackets is an entry, with blanks on both sides. Those after it
belong to its characters. -/
theorem isEntry_plain {left cs : List Char} (hleft : ∀ c ∈ left, isSpace c = true) (hne : cs ≠ [])
    (hstart : ∀ c ∈ cs.head?, IsPlainStart c) (hcs : ∀ c ∈ cs, isSeparator c = false) :
    IsEntry (left ++ cs) (plain cs) := by
  refine ⟨by simp [hne], fun fuel rest hfuel hrest => ?_⟩
  obtain ⟨fuel, rfl⟩ : ∃ fuel', fuel = fuel' + 1 := ⟨fuel - 1, by omega⟩
  rw [List.append_assoc]
  refine value_plain hleft hne hstart hcs (fun c hc => ?_) fuel
  rcases hrest with hcomma | hbracket
  · obtain rfl := Option.some.inj (hcomma.symm.trans hc)
    decide
  · obtain rfl := Option.some.inj (hbracket.symm.trans hc)
    decide

/-- The characters of entries with commas between them and the bracket at the end. -/
def entryChars : List (List Char) → List Char
  | [] => [']']
  | [cs] => cs ++ [']']
  | cs :: rest => cs ++ ',' :: entryChars rest

/-- The text of a list with some entries. -/
def listText (entries : List (List Char)) : String := String.ofList ('[' :: entryChars entries)

/-- An entry does not begin with the bracket at the end. -/
theorem IsEntry.ne_bracket {cs : List Char} {v : Value} (h : IsEntry cs v) (rest more : List Char)
    (hrest : rest.head? = some ',' ∨ rest.head? = some ']') : cs ++ rest ≠ ']' :: more := by
  intro heq
  -- From a bracket nothing is taken.
  have hreads := h.reads (2 * cs.length + 2) rest le_rfl hrest
  have hnothing : value (2 * cs.length + 2) (']' :: more) = some (plain [], ']' :: more) := rfl
  rw [heq, hnothing] at hreads
  have hlength := congrArg List.length heq
  have hsame := congrArg (fun p => p.2.length) (Option.some.inj hreads)
  have hpos := List.length_pos_of_ne_nil h.ne_nil
  simp only [List.length_append, List.length_cons] at hlength hsame
  omega

/-- Where no bracket stands, items begin with a value. -/
theorem items_succ {cs : List Char} (h : ∀ more, cs ≠ ']' :: more) (fuel : Nat) :
    items (fuel + 1) cs = match value fuel cs with
      | some (v, ',' :: rest) => (items fuel rest).map fun (vs, rest) => (v :: vs, rest)
      | some (v, ']' :: rest) => some ([v], rest)
      | _ => none := by
  rw [items.eq_def]
  split
  · next heq => exact absurd heq (Nat.succ_ne_zero fuel)
  · next rest _ => exact absurd rfl (h rest)
  · next heq _ =>
    obtain rfl := Nat.succ.inj heq
    rfl

/-- Entries are read one after another, as the values that they are read as. -/
theorem items_entryChars {entries : List (List Char)} {vs : List Value}
    (h : List.Forall₂ IsEntry entries vs) {fuel : Nat}
    (hfuel : 2 * (entryChars entries).length + 1 ≤ fuel) :
    items fuel (entryChars entries) = some (vs, []) := by
  obtain ⟨fuel, rfl⟩ : ∃ fuel', fuel = fuel' + 1 := ⟨fuel - 1, by omega⟩
  induction h generalizing fuel with
  | nil => rfl
  | @cons cs v entries vs hentry hentries ih =>
    have hreads := hentry.reads fuel
    rcases entries with _ | ⟨next, entries⟩
    · obtain rfl := List.forall₂_nil_left_iff.1 hentries
      have hchars : entryChars [cs] = cs ++ [']'] := rfl
      rw [hchars, List.length_append, List.length_singleton] at hfuel
      rw [hchars, items_succ fun more => hentry.ne_bracket _ more (.inr rfl),
        hreads _ (by omega) (.inr rfl)]
      rfl
    · have hchars :
          entryChars (cs :: next :: entries) = cs ++ ',' :: entryChars (next :: entries) :=
        rfl
      rw [hchars, List.length_append, List.length_cons] at hfuel
      obtain ⟨fuel, rfl⟩ : ∃ fuel', fuel = fuel' + 1 := ⟨fuel - 1, by omega⟩
      rw [hchars, items_succ fun more => hentry.ne_bracket _ more (.inl rfl),
        hreads _ (by omega) (.inl rfl)]
      show (items (fuel + 1) (entryChars (next :: entries))).map _ = _
      rw [ih fuel (by omega)]
      rfl

/-- A variable with the text of a list holds the values of the entries. -/
theorem read_listText {entries : List (List Char)} {vs : List Value}
    (h : List.Forall₂ IsEntry entries vs) : read (listText entries) = .list vs := by
  have hitems : items (2 * (entryChars entries).length + 3) (entryChars entries) = some (vs, []) :=
    items_entryChars h (by omega)
  have hvalue : value (2 * ((entryChars entries).length + 1) + 2) ('[' :: entryChars entries) =
      some (.list vs, []) := by
    show value (2 * (entryChars entries).length + 3 + 1) ('[' :: entryChars entries) = _
    rw [value]
    show ((items (2 * (entryChars entries).length + 3) (entryChars entries)).map _).map _ = _
    rw [hitems]
    rfl
  unfold read listText
  rw [String.toList_ofList]
  dsimp only
  rw [List.length_cons, hvalue]

/-- An entry that stands for a text. -/
def IsTextEntry (cs : List Char) (text : String) : Prop :=
  ∃ v : Value, IsEntry cs v ∧ v.scalarText? = some text

/-- Entries that stand for texts are those of values that do. -/
theorem exists_values {entries : List (List Char)} {texts : List String}
    (h : List.Forall₂ IsTextEntry entries texts) :
    ∃ vs : List Value, List.Forall₂ IsEntry entries vs ∧
      List.Forall₂ (fun v text => Value.scalarText? v = some text) vs texts := by
  induction h with
  | nil => exact ⟨[], .nil, .nil⟩
  | cons hentry _ ih =>
    obtain ⟨v, hreads, htext⟩ := hentry
    obtain ⟨vs, hentries, htexts⟩ := ih
    exact ⟨v :: vs, .cons hreads hentries, .cons htext htexts⟩

end IconSubset.Config.Variable
