import IconSubset.Proofs.Files.SourceName
import Mathlib.Data.List.Perm.Basic
import Mathlib.Logic.Relation

/-!
# The order of the entries of a directory

A directory lists its entries in some order, and nothing that a path leads to depends on it. Trees
that differ in such orders alone (`Entry.Reorders`) have the same directories, files and links at
the same names (`Entry.Alike`), so a path is followed to the same place in both (`Walks.alike`), and
the same files lie there (`Alike.exists_find`).
-/

namespace IconSubset.Entry

/-- One directory of a tree lists its entries in another order. -/
inductive Reorders : Entry → Entry → Prop
  /-- The directory is the tree. -/
  | here {entries entries' : List (ByteString × Entry)} (h : entries.Perm entries') :
      Reorders (.directory entries) (.directory entries')
  /-- The directory lies in the tree. -/
  | inside {before after : List (ByteString × Entry)} {name : ByteString} {e e' : Entry}
      (h : Reorders e e') : Reorders (.directory (before ++ (name, e) :: after))
        (.directory (before ++ (name, e') :: after))

/-- An entry without what lies in it. -/
def bare : Entry → Entry
  | .directory _ => .empty
  | e => e

/-- The same names lead to directories in two trees, to the same files and to the same links. -/
def Alike (tree tree' : Entry) : Prop :=
  ∀ names, (tree.at? names).map bare = (tree'.at? names).map bare

/-! ## Changes of order -/

/-- What stands under a name does not depend on the order of entries with different names. -/
theorem lookup_perm {entries entries' : List (ByteString × Entry)} (h : entries.Perm entries')
    (hdistinct : (entries.map (·.1)).Nodup) (name : ByteString) :
    lookup name entries = lookup name entries' := by
  induction h with
  | nil => rfl
  | cons x _ ih =>
    rw [lookup, lookup, ih (List.nodup_cons.1 hdistinct).2]
  | swap x y rest =>
    -- The two names differ, so at most one of them is the one looked for.
    have hne : y.1 ≠ x.1 := fun he => (List.nodup_cons.1 hdistinct).1 (List.mem_cons.2 (.inl he))
    simp only [lookup]
    by_cases hy : y.1 = name
    · rw [if_pos hy, if_neg fun hx => hne (hy.trans hx.symm), if_pos hy]
    · rw [if_neg hy, if_neg hy]
  | trans hab _ ihab ihbc =>
    exact (ihab hdistinct).trans (ihbc ((hab.map _).nodup_iff.1 hdistinct))

/-- A tree in another order is well-formed. -/
theorem Reorders.isTree {tree tree' : Entry} (h : Reorders tree tree') (htree : tree.IsTree) :
    tree'.IsTree := by
  induction h with
  | here hperm =>
    cases htree with
    | directory hdistinct hnames hentries =>
      refine .directory ((hperm.map _).nodup_iff.1 hdistinct) ?_ ?_
      · exact fun x hx => hnames x (hperm.mem_iff.2 hx)
      · exact fun x hx => hentries x (hperm.mem_iff.2 hx)
  | @inside before after name e e' _ ih =>
    cases htree with
    | directory hdistinct hnames hentries =>
      have hmem : ∀ x ∈ before ++ (name, e') :: after,
          x = (name, e') ∨ x ∈ before ++ (name, e) :: after := by
        intro x hx
        simp only [List.mem_append, List.mem_cons] at hx ⊢
        tauto
      have hself : (name, e) ∈ before ++ (name, e) :: after := by simp
      refine .directory (by simpa using hdistinct) (fun x hx => ?_) fun x hx => ?_
      · rcases hmem x hx with rfl | hold
        · exact hnames (name, e) hself
        · exact hnames x hold
      · rcases hmem x hx with rfl | hold
        · exact ih (hentries (name, e) hself)
        · exact hentries x hold

/-- Directories are alike that differ in one entry, when this is alike. -/
theorem alike_inside {e e' : Entry} (h : e.Alike e') (before after : List (ByteString × Entry))
    (name : ByteString) : Alike (.directory (before ++ (name, e) :: after))
      (.directory (before ++ (name, e') :: after)) := by
  intro names
  cases names with
  | nil => rw [at?_nil, at?_nil]; rfl
  | cons next names =>
    rw [at?_directory, at?_directory]
    induction before with
    | nil =>
      rw [List.nil_append, List.nil_append, lookup, lookup]
      split_ifs
      · exact h names
      · rfl
    | cons x before ih =>
      rw [List.cons_append, List.cons_append, lookup, lookup]
      split_ifs
      · rfl
      · exact ih

/-- A tree in another order is alike. -/
theorem Reorders.alike {tree tree' : Entry} (h : Reorders tree tree') (htree : tree.IsTree) :
    tree.Alike tree' := by
  induction h with
  | here hperm =>
    intro names
    cases htree with
    | directory hdistinct _ _ =>
      cases names with
      | nil => rw [at?_nil, at?_nil]; rfl
      | cons name names => rw [at?_directory, at?_directory, lookup_perm hperm hdistinct]
  | @inside before after name e e' _ ih =>
    cases htree with
    | directory _ _ hentries =>
      exact alike_inside (ih (hentries (name, e) (by simp))) before after name

/-- So is a tree after any number of such changes, and it is well-formed. -/
theorem isTree_and_alike_of_reorders {tree tree' : Entry}
    (h : Relation.ReflTransGen Reorders tree tree') (htree : tree.IsTree) :
    tree'.IsTree ∧ tree.Alike tree' := by
  induction h with
  | refl => exact ⟨htree, fun _ => rfl⟩
  | tail _ hstep ih =>
    obtain ⟨hmiddle, halike⟩ := ih
    exact ⟨hstep.isTree hmiddle, fun names => (halike names).trans (hstep.alike hmiddle names)⟩

/-! ## What does not depend on the order -/

/-- Trees are alike in either direction. -/
theorem Alike.symm {tree tree' : Entry} (h : tree.Alike tree') : tree'.Alike tree :=
  fun names => (h names).symm

/-- The same names lead to something. -/
theorem Alike.exists_at? {tree tree' e : Entry} (h : tree.Alike tree') {names : List ByteString}
    (he : tree.at? names = some e) : ∃ e', tree'.at? names = some e' ∧ bare e' = bare e := by
  have hnames := h names
  rw [he] at hnames
  obtain ⟨e', he', hbare⟩ := Option.map_eq_some_iff.1 hnames.symm
  exact ⟨e', he', hbare⟩

/-- The same names lead to directories. -/
theorem Alike.directory {tree tree' : Entry} (h : tree.Alike tree') {names : List ByteString}
    (hdir : ∃ entries, tree.at? names = some (.directory entries)) :
    ∃ entries, tree'.at? names = some (.directory entries) := by
  obtain ⟨entries, hentries⟩ := hdir
  obtain ⟨e', he', hbare⟩ := h.exists_at? hentries
  cases e' with
  | directory entries' => exact ⟨entries', he'⟩
  | file content => cases hbare
  | link target => cases hbare

/-- What is no directory stands at the same names. -/
theorem Alike.at?_eq {tree tree' e : Entry} (h : tree.Alike tree') {names : List ByteString}
    (he : tree.at? names = some e) (hnot : ∀ entries, e ≠ .directory entries) :
    tree'.at? names = some e := by
  obtain ⟨e', he', hbare⟩ := h.exists_at? he
  rw [he']
  cases e with
  | directory entries => exact absurd rfl (hnot entries)
  | file content => cases e' <;> cases hbare; rfl
  | link target => cases e' <;> cases hbare; rfl

/-- Nothing stands at the same names. -/
theorem Alike.at?_eq_none {tree tree' : Entry} (h : tree.Alike tree') {names : List ByteString}
    (hnone : tree.at? names = none) : tree'.at? names = none := by
  have hnames := h names
  rw [hnone] at hnames
  exact Option.map_eq_none_iff.1 hnames.symm

/-- What names lead to is alike when the trees are. -/
theorem Alike.of_at? {tree tree' e e' : Entry} (h : tree.Alike tree') {names : List ByteString}
    (he : tree.at? names = some e) (he' : tree'.at? names = some e') : e.Alike e' := by
  intro below
  have hnames := h (names ++ below)
  rw [at?_append, at?_append, he, he'] at hnames
  exact hnames

/-- A part that is a name stays one. -/
theorem Names.alike {tree tree' : Entry} {position : List ByteString} {part : List UInt8}
    (h : Names tree position part) (halike : tree.Alike tree') : Names tree' position part :=
  ⟨halike.directory h.directory, h.not_idle, h.not_up⟩

/-- A walk comes to the same place in a tree that is alike. -/
theorem Walks.alike {tree tree' : Entry} {final : Bool} {links : Nat} {position : List ByteString}
    {parts : List (List UInt8)} {place : Place} (h : Walks tree final links position parts place)
    (halike : tree.Alike tree') :
    Walks tree' final links position parts { place with occupant := tree'.at? place.names } := by
  induction h with
  | done => exact .done
  | idle hdir hidle _ ih => exact .idle (halike.directory hdir) hidle ih
  | up hdir _ ih => exact .up (halike.directory hdir) ih
  | stop hnames hfinal hlink =>
    have hlink' := halike.at?_eq hlink nofun
    rw [hlink']
    exact .stop (hnames.alike halike) hfinal hlink'
  | follow hnames hgo hlink hinside _ ih =>
    exact .follow (hnames.alike halike) hgo (halike.at?_eq hlink nofun) hinside ih
  | step hnames he hnot _ ih =>
    obtain ⟨e', he', hbare⟩ := halike.exists_at? he
    refine .step (hnames.alike halike) he' ?_ ih
    rintro target rfl
    have hlink := halike.symm.at?_eq he' nofun
    exact hnot target (Option.some.inj (he.symm.trans hlink))
  | missing hnames hnone hparts =>
    have hnone' := halike.at?_eq_none hnone
    rw [hnone']
    exact .missing (hnames.alike halike) hnone' hparts

/-- A path leads to the occupant of the place that it comes to. -/
theorem find_eq_ok_iff {tree e : Entry} {path : ByteString} : tree.find path = .ok e ↔
    ∃ place, tree.locate path = .ok place ∧ place.occupant = some e := by
  unfold find
  constructor
  · intro h
    split at h
    · next hlocate =>
      cases h
      exact ⟨_, hlocate, rfl⟩
    · cases h
    · cases h
  · rintro ⟨⟨names, occupant, slash⟩, hlocate, rfl⟩
    rw [hlocate]

/-- A path leads to something alike in a tree that is alike. -/
theorem Alike.exists_find {tree tree' e : Entry} (h : tree.Alike tree') {path : ByteString}
    (hfind : tree.find path = .ok e) : ∃ e', tree'.find path = .ok e' ∧ e.Alike e' := by
  obtain ⟨place, hlocate, hoccupant⟩ := find_eq_ok_iff.1 hfind
  have hat : tree.at? place.names = some e := (locate_sound hlocate).occupant_eq.trans hoccupant
  obtain ⟨e', hat', -⟩ := h.exists_at? hat
  refine ⟨e', find_eq_ok_iff.2 ⟨{ place with occupant := tree'.at? place.names }, ?_, hat'⟩,
    h.of_at? hat hat'⟩
  unfold locate at hlocate ⊢
  split_ifs at hlocate ⊢
  exact ((walks_of_walk tree true _ _ _ hlocate).alike h).walk_eq

/-- What is one of the entries with different names stands under its name. -/
theorem lookup_of_mem {entries : List (ByteString × Entry)} (hdistinct : (entries.map (·.1)).Nodup)
    {x : ByteString × Entry} (hx : x ∈ entries) : lookup x.1 entries = some x.2 := by
  induction entries with
  | nil => exact absurd hx List.not_mem_nil
  | cons y rest ih =>
    obtain ⟨hy, hrest⟩ := List.nodup_cons.1 hdistinct
    rw [lookup]
    rcases List.mem_cons.1 hx with rfl | hx
    · rw [if_pos rfl]
    · rw [if_neg fun he => hy (List.mem_map.2 ⟨x, hx, he.symm⟩), ih hrest hx]

/-- What lies in a well-formed tree stands at its names. -/
theorem Holds.at?_eq {content : FileContent} {names : List ByteString} {e : Entry}
    (h : Holds content names e) (htree : e.IsTree) : e.at? names = some (.file content) := by
  induction h with
  | file => exact at?_nil _
  | @inside entries x names hx _ ih =>
    cases htree with
    | directory hdistinct _ hentries =>
      rw [at?_directory, lookup_of_mem hdistinct hx]
      exact ih (hentries x hx)

/-- The same files lie in well-formed trees that are alike. -/
theorem Alike.holds {tree tree' : Entry} (h : tree.Alike tree') (htree : tree.IsTree)
    {content : FileContent} {names : List ByteString} (hholds : Holds content names tree) :
    Holds content names tree' := by
  have hat := h.at?_eq (hholds.at?_eq htree) nofun
  rw [← List.append_nil names]
  exact Holds.of_at? hat .file

end IconSubset.Entry
