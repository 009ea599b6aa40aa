import IconSubset.Proofs.Files.Tree
import IconSubset.Scan.Collection
import Mathlib.Data.List.Nodup

/-!
# What is collected below a directory

The source files below a directory are collected completely and each once (`collects_of`).
`Collects` says so without the walk: what lies under a root is said by the names that lead there
(`LiesUnder`). The files are in the order of their paths; those that are no text are listed apart,
in an order that is not told.

The walk finds what lies in an entry (`mem_sources`), by induction over the tree, and its paths are
all different (`nodup_sources`), since different names lead to different paths.
-/

namespace IconSubset

open Entry (Holds IsTree)

/-- A source file lies under a root: names lead to it from what the path of the root leads to, and
no link stands on that way. -/
inductive LiesUnder (tree : Entry) (root : ByteString) : ByteString → FileContent → Prop
  /-- The path of the file is that of the root and the names. -/
  | intro {e : Entry} {names : List ByteString} {content : FileContent}
      (hroot : Path.isStandardInput root = false) (hfind : tree.find root = .ok e)
      (hholds : Holds content names e)
      (hsource : Path.isSource (names.foldl Path.child root) = true) :
      LiesUnder tree root (names.foldl Path.child root) content

/-- A collection has the source files under a root, those that are texts and the others. -/
structure Collects (tree : Entry) (root : ByteString) (c : Collection) : Prop where
  /-- It is about the root. -/
  root_eq : c.root = root
  /-- The files are in the order of their paths. -/
  sorted : c.files.Pairwise fun a b => Path.atMost a.path b.path = true
  /-- No path stands twice. -/
  nodup : (c.files.map SourceFile.path ++ c.skipped.map SkippedFile.path).Nodup
  /-- The files are the texts under the root. -/
  mem_files : ∀ f, f ∈ c.files ↔ LiesUnder tree root f.path (.text f.text)
  /-- The others are listed as files that cannot be read. -/
  mem_skipped : ∀ f, f ∈ c.skipped ↔ (∃ readable, LiesUnder tree root f.path (.binary readable)) ∧
    f.reason = .read ∧ f.message = FileError.notText.message

/-! ## The walk -/

section Walk

variable {x : ByteString × FileContent}

mutual

/-- The walk finds the source files that lie in an entry. -/
theorem mem_sources : ∀ (e : Entry) (path : ByteString), x ∈ e.sources path ↔
    ∃ names, Holds x.2 names e ∧ x.1 = names.foldl Path.child path ∧ Path.isSource x.1 = true
  | .file content, path => by
    rw [Entry.sources]
    constructor
    · intro h
      split_ifs at h with hsource
      · obtain rfl := List.mem_singleton.1 h
        exact ⟨[], .file, rfl, hsource⟩
      · exact absurd h List.not_mem_nil
    · rintro ⟨names, hholds, hpath, hsource⟩
      cases hholds
      obtain rfl : x.1 = path := hpath
      rw [if_pos hsource]
      exact List.mem_singleton_self x
  | .link target, path => by
    rw [Entry.sources]
    refine iff_of_false List.not_mem_nil ?_
    rintro ⟨names, hholds, -⟩
    cases hholds
  | .directory entries, path => by
    rw [Entry.sources, mem_sourcesIn entries path]
    constructor
    · rintro ⟨y, hy, names, hholds, hpath, hsource⟩
      exact ⟨y.1 :: names, .inside hy hholds, hpath, hsource⟩
    · rintro ⟨_, hholds, hpath, hsource⟩
      cases hholds with
      | inside hy hholds => exact ⟨_, hy, _, hholds, hpath, hsource⟩

/-- The walk through a directory finds the source files that lie in its entries. -/
theorem mem_sourcesIn : ∀ (entries : List (ByteString × Entry)) (path : ByteString),
    x ∈ sourcesIn path entries ↔ ∃ y ∈ entries, ∃ names, Holds x.2 names y.2 ∧
      x.1 = names.foldl Path.child (Path.child path y.1) ∧ Path.isSource x.1 = true
  | [], path => by
    rw [sourcesIn]
    refine iff_of_false List.not_mem_nil ?_
    rintro ⟨y, hy, -⟩
    exact absurd hy List.not_mem_nil
  | (name, e) :: rest, path => by
    rw [sourcesIn, List.mem_append, mem_sources e, mem_sourcesIn rest path,
      List.exists_mem_cons_iff]

end

mutual

/-- The paths that the walk finds are different. -/
theorem nodup_sources : ∀ (e : Entry) (path : ByteString), e.IsTree →
    ((e.sources path).map Prod.fst).Nodup
  | .file content, path, _ => by
    rw [Entry.sources]
    split_ifs
    · exact List.nodup_singleton path
    · exact List.nodup_nil
  | .link target, path, _ => by
    rw [Entry.sources]
    exact List.nodup_nil
  | .directory entries, path, htree => by
    rw [Entry.sources]
    cases htree with
    | directory hdistinct hnames htrees =>
      exact nodup_sourcesIn entries path hdistinct hnames htrees

/-- The paths that the walk through a directory finds are different. -/
theorem nodup_sourcesIn : ∀ (entries : List (ByteString × Entry)) (path : ByteString),
    (entries.map (·.1)).Nodup → (∀ y ∈ entries, Path.IsName y.1) →
      (∀ y ∈ entries, y.2.IsTree) → ((sourcesIn path entries).map Prod.fst).Nodup
  | [], path, _, _, _ => by
    rw [sourcesIn]
    exact List.nodup_nil
  | (name, e) :: rest, path, hdistinct, hnames, htrees => by
    obtain ⟨hname, hrest⟩ := List.nodup_cons.1 hdistinct
    obtain ⟨hisName, hnames⟩ := List.forall_mem_cons.1 hnames
    obtain ⟨htree, htrees⟩ := List.forall_mem_cons.1 htrees
    rw [sourcesIn, List.map_append, List.nodup_append']
    refine ⟨nodup_sources e _ htree, nodup_sourcesIn rest path hrest hnames htrees, ?_⟩
    -- A path below two entries would begin with the names of both.
    intro p hp hp'
    obtain ⟨x, hx, rfl⟩ := List.mem_map.1 hp
    obtain ⟨x', hx', heq⟩ := List.mem_map.1 hp'
    obtain ⟨names, hholds, hpath, -⟩ := (mem_sources e _).1 hx
    obtain ⟨y, hy, names', hholds', hpath', -⟩ := (mem_sourcesIn rest path).1 hx'
    have hlists : name :: names = y.1 :: names' := by
      refine @Path.foldl_child_injective path _ _
        (List.forall_mem_cons.2 ⟨hisName, hholds.isName htree⟩)
        (List.forall_mem_cons.2 ⟨hnames y hy, hholds'.isName (htrees y hy)⟩) ?_
      rw [List.foldl_cons, List.foldl_cons, ← hpath, ← hpath', heq]
    exact hname (List.mem_map.2 ⟨y, hy, (List.cons.inj hlists).1.symm⟩)

end

end Walk

/-! ## Texts and other files -/

/-- The texts among files of a walk. -/
theorem mem_succeeded_ofContent {found : List (ByteString × FileContent)} {f : SourceFile} :
    f ∈ succeeded (found.map fun x => SourceFile.ofContent x.1 x.2) ↔
      (f.path, .text f.text) ∈ found := by
  unfold succeeded
  rw [List.mem_filterMap]
  constructor
  · rintro ⟨result, hresult, h⟩
    obtain ⟨⟨path, content⟩, hx, rfl⟩ := List.mem_map.1 hresult
    cases content with
    | text text => cases h; exact hx
    | binary readable => cases h
  · intro h
    exact ⟨.ok f, List.mem_map.2 ⟨_, h, rfl⟩, rfl⟩

/-- The other files of a walk. -/
theorem mem_failed_ofContent {found : List (ByteString × FileContent)} {f : SkippedFile} :
    f ∈ failed (found.map fun x => SourceFile.ofContent x.1 x.2) ↔
      (∃ readable, (f.path, .binary readable) ∈ found) ∧ f.reason = .read ∧
        f.message = FileError.notText.message := by
  unfold failed
  rw [List.mem_filterMap]
  constructor
  · rintro ⟨result, hresult, h⟩
    obtain ⟨⟨path, content⟩, hx, rfl⟩ := List.mem_map.1 hresult
    cases content with
    | text text => cases h
    | binary readable => cases h; exact ⟨⟨readable, hx⟩, rfl, rfl⟩
  · rintro ⟨⟨readable, h⟩, hreason, hmessage⟩
    refine ⟨.error f, List.mem_map.2 ⟨_, h, ?_⟩, rfl⟩
    obtain ⟨path, reason, message⟩ := f
    obtain rfl : reason = .read := hreason
    obtain rfl : message = FileError.notText.message := hmessage
    rfl

/-- The texts among files of a walk are in the order of the walk. -/
theorem pairwise_succeeded_ofContent {found : List (ByteString × FileContent)}
    (h : found.Pairwise fun a b => Path.atMost a.1 b.1 = true) :
    (succeeded (found.map fun x => SourceFile.ofContent x.1 x.2)).Pairwise
      fun a b => Path.atMost a.path b.path = true := by
  unfold succeeded
  rw [List.filterMap_map]
  refine h.filterMap _ ?_
  rintro ⟨path, content⟩ ⟨path', content'⟩ hle f hf f' hf'
  cases content with
  | binary readable => cases hf
  | text text =>
    cases content' with
    | binary readable => cases hf'
    | text text' => cases hf; cases hf'; exact hle

/-- The paths of the texts and of the other files are those of the walk. -/
theorem perm_paths_ofContent (found : List (ByteString × FileContent)) :
    let results := found.map fun x => SourceFile.ofContent x.1 x.2
    ((succeeded results).map SourceFile.path ++ (failed results).map SkippedFile.path).Perm
      (found.map Prod.fst) := by
  induction found with
  | nil => exact .refl _
  | cons x rest ih =>
    obtain ⟨path, content⟩ := x
    cases content with
    | text text => exact ih.cons path
    | binary readable => exact List.perm_middle.trans (ih.cons path)

/-! ## Collections -/

/-- Files are sorted by their paths. -/
theorem pairwise_mergeSort_path (found : List (ByteString × FileContent)) :
    (found.mergeSort fun a b => Path.atMost a.1 b.1).Pairwise
      fun a b => Path.atMost a.1 b.1 = true := by
  refine @List.pairwise_mergeSort _ (fun a b => Path.atMost a.1 b.1) ?_ ?_ found
  · exact fun a b c => Path.atMost_trans a.1 b.1 c.1
  · exact fun a b => Path.atMost_total a.1 b.1

/-- A walk that finds the source files under a root, each once and in the order of their paths,
gives a collection of them. -/
theorem collects_found {tree : Entry} {root : ByteString} {found : List (ByteString × FileContent)}
    (hsorted : found.Pairwise fun a b => Path.atMost a.1 b.1 = true)
    (hnodup : (found.map Prod.fst).Nodup)
    (hmem : ∀ path content, (path, content) ∈ found ↔ LiesUnder tree root path content) :
    let results := found.map fun x => SourceFile.ofContent x.1 x.2
    Collects tree root { root, files := succeeded results, skipped := failed results } where
  root_eq := rfl
  sorted := pairwise_succeeded_ofContent hsorted
  nodup := (perm_paths_ofContent found).nodup_iff.2 hnodup
  mem_files _ := mem_succeeded_ofContent.trans (hmem _ _)
  mem_skipped _ := mem_failed_ofContent.trans
    (and_congr_left fun _ => exists_congr fun _ => hmem _ _)

/-- A collection has the source files under its root, each once and the texts in the order of their
paths. -/
theorem collects_of {tree : Entry} (htree : tree.IsTree) {root : ByteString} {c : Collection}
    (h : Collection.of tree root = .ok c) : Collects tree root c := by
  unfold Collection.of at h
  by_cases hinput : Path.isStandardInput root = true
  · rw [if_pos hinput] at h
    obtain rfl := Except.ok.inj h
    -- Nothing lies under the standard input.
    refine collects_found .nil List.nodup_nil fun path content => ?_
    refine iff_of_false List.not_mem_nil ?_
    rintro ⟨hroot, -⟩
    rw [hinput] at hroot
    cases hroot
  · rw [if_neg hinput] at h
    split at h
    · cases h
    · next e hfind =>
      obtain rfl := Except.ok.inj h
      have hperm := List.mergeSort_perm (e.sources root) fun a b => Path.atMost a.1 b.1
      refine collects_found ?_ ?_ fun path content => ?_
      · exact pairwise_mergeSort_path (e.sources root)
      · exact (hperm.map Prod.fst).nodup_iff.2 (nodup_sources e root (htree.of_find hfind))
      · rw [hperm.mem_iff, mem_sources]
        constructor
        · rintro ⟨names, hholds, rfl, hsource⟩
          exact .intro (Bool.not_eq_true _ ▸ hinput) hfind hholds hsource
        · intro hlies
          cases hlies with
          | intro _ hfind' hholds hsource =>
            rw [hfind] at hfind'
            obtain rfl := Except.ok.inj hfind'
            exact ⟨_, hholds, rfl, hsource⟩

end IconSubset
