import IconSubset.Files.Tree
import Mathlib.Data.List.Infix

/-!
# The leaves of a tree

A tree is observed through the files and links in it, each reached by names alone
(`Entry.leafAt?`). Putting an entry into a directory changes what the names lead to that begin with
the name of the entry, and it changes the directories above. Every other file and link stays
(`leafAt?_put`).
-/

namespace IconSubset.Entry

/-- The file or the link that names lead to; nothing when they lead to a directory or nowhere. -/
def leafAt? (tree : Entry) (names : List ByteString) : Option Entry :=
  match tree.at? names with
  | some (.file content) => some (.file content)
  | some (.link target) => some (.link target)
  | _ => none

/-! ## What names lead to -/

/-- No names lead to the entry itself. -/
@[simp]
theorem at?_nil (tree : Entry) : tree.at? [] = some tree := by
  unfold at?
  rfl

/-- A name leads into a directory. -/
theorem at?_directory (entries : List (ByteString × Entry)) (name : ByteString)
    (names : List ByteString) :
    (Entry.directory entries).at? (name :: names) =
      (lookup name entries).bind fun e => e.at? names := by
  rw [at?]
  cases lookup name entries with
  | none => rfl
  | some e => rfl

/-- Names that lead on lead from where the names before them lead. -/
theorem at?_append (tree : Entry) (above below : List ByteString) :
    tree.at? (above ++ below) = (tree.at? above).bind fun e => e.at? below := by
  induction above generalizing tree with
  | nil => simp
  | cons name above ih =>
    cases tree with
    | file content => rfl
    | link target => rfl
    | directory entries =>
      rw [List.cons_append, at?_directory, at?_directory]
      cases lookup name entries with
      | none => rfl
      | some e => exact ih e

/-- Only a directory has something in it. -/
theorem exists_entries_of_at? {tree e : Entry} {above below : List ByteString} (hbelow : below ≠ [])
    (h : tree.at? (above ++ below) = some e) :
    ∃ entries, tree.at? above = some (.directory entries) := by
  rw [at?_append, Option.bind_eq_some_iff] at h
  obtain ⟨inner, habove, hinner⟩ := h
  obtain ⟨name, names, rfl⟩ := List.exists_cons_of_ne_nil hbelow
  cases inner with
  | file content => cases hinner
  | link target => cases hinner
  | directory entries => exact ⟨entries, habove⟩

/-- A directory is no leaf. -/
theorem leafAt?_of_directory {tree : Entry} {names : List ByteString}
    {entries : List (ByteString × Entry)}
    (h : tree.at? names = some (.directory entries)) : tree.leafAt? names = none := by
  unfold leafAt?
  rw [h]

/-- Nothing is no leaf. -/
theorem leafAt?_of_none {tree : Entry} {names : List ByteString} (h : tree.at? names = none) :
    tree.leafAt? names = none := by
  unfold leafAt?
  rw [h]

/-- A leaf in a directory is one of the entry that the first name leads to. -/
theorem leafAt?_directory (entries : List (ByteString × Entry)) (name : ByteString)
    (names : List ByteString) :
    (Entry.directory entries).leafAt? (name :: names) =
      (lookup name entries).bind fun e => e.leafAt? names := by
  unfold leafAt?
  rw [at?_directory]
  cases lookup name entries with
  | none => rfl
  | some e => rfl

/-- A file or a link stands in every tree that has the same leaf there. -/
theorem at?_of_leafAt?_eq {tree tree' e : Entry} {names : List ByteString}
    (h : tree'.leafAt? names = tree.leafAt? names) (hat : tree.at? names = some e)
    (hnot : ∀ entries, e ≠ .directory entries) : tree'.at? names = some e := by
  have hleaf : tree.leafAt? names = some e := by
    unfold leafAt?
    rw [hat]
    cases e with
    | file content => rfl
    | link target => rfl
    | directory entries => exact absurd rfl (hnot entries)
  rw [hleaf] at h
  unfold leafAt? at h
  split at h
  · next hat' => rw [hat', h]
  · next hat' => rw [hat', h]
  · cases h

/-- Nothing stands below what is no directory. -/
theorem leafAt?_below {tree : Entry} {names below : List ByteString} (hbelow : below ≠ [])
    (h : ∀ entries, tree.at? names ≠ some (.directory entries)) :
    tree.leafAt? (names ++ below) = none := by
  apply leafAt?_of_none
  cases hat : tree.at? (names ++ below) with
  | none => rfl
  | some e =>
    obtain ⟨entries, hentries⟩ := exists_entries_of_at? hbelow hat
    exact absurd hentries (h entries)

/-- Nothing stands in a file. -/
theorem leafAt?_file (content : FileContent) {names : List ByteString} (h : names ≠ []) :
    (Entry.file content).leafAt? names = none := by
  obtain ⟨name, names, rfl⟩ := List.exists_cons_of_ne_nil h
  rfl

/-! ## Putting an entry into a directory -/

/-- What stands under a name after an entry has been put under one. -/
theorem lookup_putEntry (name other : ByteString) (e : Entry)
    (entries : List (ByteString × Entry)) :
    lookup other (putEntry name e entries) =
      if name = other then some e else lookup other entries := by
  induction entries with
  | nil => rfl
  | cons x rest ih =>
    obtain ⟨n, old⟩ := x
    unfold putEntry
    by_cases hn : n = name
    · rw [if_pos hn, lookup, lookup, hn]
      split_ifs <;> rfl
    · rw [if_neg hn, lookup, lookup, ih]
      by_cases hother : n = other
      · rw [if_pos hother, if_pos hother, if_neg fun h => hn (hother.trans h.symm)]
      · rw [if_neg hother, if_neg hother]

/-- An entry that is put into a directory stands there among the others. -/
theorem at?_put {tree : Entry} {above : List ByteString} {entries : List (ByteString × Entry)}
    (e : Entry) (name : ByteString) (h : tree.at? above = some (.directory entries)) :
    (put e tree (above ++ [name])).at? above = some (.directory (putEntry name e entries)) := by
  induction above generalizing tree with
  | nil =>
    rw [at?_nil, Option.some.injEq] at h
    subst h
    simp [put]
  | cons n above ih =>
    cases tree with
    | file content => cases h
    | link target => cases h
    | directory outer =>
      rw [at?_directory, Option.bind_eq_some_iff] at h
      obtain ⟨inner, hinner, habove⟩ := h
      rw [List.cons_append, put, hinner, at?_directory, lookup_putEntry, if_pos rfl]
      exact ih habove

/-- What stands in an entry that is put into a directory. -/
theorem at?_put_append {tree : Entry} {above : List ByteString}
    {entries : List (ByteString × Entry)}
    (e : Entry) (name : ByteString) (h : tree.at? above = some (.directory entries))
    (below : List ByteString) :
    (put e tree (above ++ [name])).at? (above ++ name :: below) = e.at? below := by
  rw [at?_append, at?_put e name h, Option.bind_some, at?_directory, lookup_putEntry, if_pos rfl,
    Option.bind_some]

/-- What stands elsewhere stays when an entry is put into a directory, and so does each directory
above, with other entries. -/
theorem at?_put_other {tree : Entry} {above : List ByteString} {entries : List (ByteString × Entry)}
    (e : Entry) (name : ByteString) (h : tree.at? above = some (.directory entries))
    {others : List ByteString} (hother : ¬above ++ [name] <+: others) :
    (put e tree (above ++ [name])).at? others = tree.at? others ∨
      ∃ old new, tree.at? others = some (.directory old) ∧
        (put e tree (above ++ [name])).at? others = some (.directory new) := by
  induction above generalizing tree others with
  | nil =>
    rw [at?_nil, Option.some.injEq] at h
    subst h
    cases others with
    | nil => exact .inr ⟨_, _, at?_nil _, at?_nil _⟩
    | cons other others =>
      have hne : name ≠ other := by
        rintro rfl
        exact hother (List.cons_prefix_cons.2 ⟨rfl, List.nil_prefix⟩)
      left
      rw [List.nil_append, put, at?_directory, at?_directory, lookup_putEntry, if_neg hne]
  | cons n above ih =>
    cases tree with
    | file content => cases h
    | link target => cases h
    | directory outer =>
      rw [at?_directory, Option.bind_eq_some_iff] at h
      obtain ⟨inner, hinner, habove⟩ := h
      rw [List.cons_append, put, hinner, Option.getD_some]
      cases others with
      | nil => exact .inr ⟨_, _, at?_nil _, at?_nil _⟩
      | cons other others =>
        rw [at?_directory, at?_directory, lookup_putEntry]
        by_cases hne : n = other
        · -- The names go on into the entry that is changed further in.
          subst hne
          have hinside : ¬above ++ [name] <+: others := fun hprefix =>
            hother (List.cons_prefix_cons.2 ⟨rfl, hprefix⟩)
          rw [if_pos rfl, hinner, Option.bind_some, Option.bind_some]
          exact ih habove hinside
        · rw [if_neg hne]
          exact .inl rfl

/-- Leaves elsewhere stay when an entry is put into a directory. -/
theorem leafAt?_put {tree : Entry} {above : List ByteString} {entries : List (ByteString × Entry)}
    (e : Entry) (name : ByteString) (h : tree.at? above = some (.directory entries))
    {others : List ByteString} (hother : ¬above ++ [name] <+: others) :
    (put e tree (above ++ [name])).leafAt? others = tree.leafAt? others := by
  obtain hsame | ⟨old, new, hold, hnew⟩ := at?_put_other e name h hother
  · unfold leafAt?
    rw [hsame]
  · rw [leafAt?_of_directory hold, leafAt?_of_directory hnew]

end IconSubset.Entry
