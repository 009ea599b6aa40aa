import IconSubset.Text.Blank

/-!
# Sets of icon names

A set holds its names in increasing order, each once. Names that are put in one by one are trimmed,
and blank ones are left out; a set that is read back from its serialized form holds the names as
they were written.
-/

namespace IconSubset

/-- A set of icon names. -/
structure IconSet where
  /-- The names. -/
  names : List String
  /-- The names are in increasing order, so each stands once. -/
  sorted : names.Pairwise (· < ·)

namespace IconSet

/-- Puts a name into a list in its place. -/
def place (name : String) : List String → List String
  | [] => [name]
  | x :: xs =>
    if name < x then name :: x :: xs else if x < name then x :: place name xs else x :: xs

/-- The members of a list with one more name. -/
theorem mem_place {name x : String} {xs : List String} :
    x ∈ place name xs ↔ x = name ∨ x ∈ xs := by
  induction xs with
  | nil => simp [place]
  | cons y ys ih =>
    by_cases h₁ : name < y
    · simp [place, h₁]
    · by_cases h₂ : y < name
      · simp only [place, h₁, h₂, if_false, if_true, List.mem_cons, ih]
        constructor
        · rintro (h | h | h) <;> simp [h]
        · rintro (h | h | h) <;> simp [h]
      · have : name = y := by
          rcases Std.lt_trichotomy name y with h | h | h
          · exact absurd h h₁
          · exact h
          · exact absurd h h₂
        subst this
        simp only [place, h₁, if_false, List.mem_cons]
        constructor
        · exact fun h => .inr h
        · rintro (h | h)
          · exact .inl h
          · exact h

/-- A sorted list stays sorted when a name is put in its place. -/
theorem sorted_place {name : String} {xs : List String} (h : xs.Pairwise (· < ·)) :
    (place name xs).Pairwise (· < ·) := by
  induction xs with
  | nil => simp [place]
  | cons y ys ih =>
    have ⟨hy, hys⟩ := List.pairwise_cons.1 h
    by_cases h₁ : name < y
    · simp only [place, h₁, if_true]
      refine List.pairwise_cons.2 ⟨fun z hz => ?_, h⟩
      rcases List.mem_cons.1 hz with rfl | hz
      · exact h₁
      · exact String.lt_trans h₁ (hy z hz)
    · by_cases h₂ : y < name
      · simp only [place, h₁, h₂, if_false, if_true]
        refine List.pairwise_cons.2 ⟨fun z hz => ?_, ih hys⟩
        rcases mem_place.1 hz with rfl | hz
        · exact h₂
        · exact hy z hz
      · simpa only [place, h₁, h₂, if_false] using h

/-- The set without names. -/
def empty : IconSet := ⟨[], .nil⟩

instance : Inhabited IconSet := ⟨empty⟩

/-- Two sets are equal when they have the same names. -/
theorem ext {a b : IconSet} (h : a.names = b.names) : a = b := by
  cases a; cases b; cases h; rfl

instance : DecidableEq IconSet := fun a b =>
  if h : a.names = b.names then isTrue (ext h) else isFalse fun e => h (e ▸ rfl)

/-- The set with one more name, as it is written. -/
def insertVerbatim (s : IconSet) (name : String) : IconSet :=
  ⟨place name s.names, sorted_place s.sorted⟩

/-- The set with the trim of a name; a blank name leaves it as it is. -/
def insert (s : IconSet) (name : String) : IconSet :=
  let trimmed := Text.trim name
  if trimmed = "" then s else s.insertVerbatim trimmed

/-- Whether inserting a name adds one. -/
def accepts (s : IconSet) (name : String) : Bool :=
  let trimmed := Text.trim name
  trimmed ≠ "" && !s.names.contains trimmed

/-- Whether the trim of a name is in the set. -/
def contains (s : IconSet) (name : String) : Bool := s.names.contains (Text.trim name)

/-- The number of names. -/
def size (s : IconSet) : Nat := s.names.length

/-- Whether there are no names. -/
def isEmpty (s : IconSet) : Bool := s.names.isEmpty

/-- The names in increasing order. -/
def toList (s : IconSet) : List String := s.names

/-- The set with the trims of more names. -/
def insertMany (s : IconSet) (names : List String) : IconSet := names.foldl insert s

/-- The set of the trims of the names that are not blank. -/
def ofList (names : List String) : IconSet := empty.insertMany names

/-- The set of names that are written so, as a serialized set is read back. -/
def ofVerbatim (names : List String) : IconSet := names.foldl insertVerbatim empty

/-- The names of both sets; nothing is put into an empty set one by one. -/
def union (a b : IconSet) : IconSet :=
  if a.isEmpty then b else b.names.foldl insertVerbatim a

end IconSet

end IconSubset
