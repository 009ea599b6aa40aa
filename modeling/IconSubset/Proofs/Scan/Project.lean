import IconSubset.Proofs.Scan.Accumulation
import IconSubset.Proofs.Scan.Collection
import IconSubset.Scan.Project
import Mathlib

/-!
# What a scan of a project accounts for

A scan fails exactly when a directory cannot be walked, and it tells the first such. Otherwise every
source file below the directories and every further file is scanned or listed, once for each time
that it is named (`scan_accounts`). `AccountsFor` says what the report has: how many files there
are, which are listed and in which order, and where the icons come from.
-/

namespace IconSubset

/-- A root can be walked when it is the standard input, below which there is nothing, or leads to
something in the tree. -/
def Walkable (tree : Entry) (root : ByteString) : Prop :=
  Path.isStandardInput root = true ∨ ∃ e, tree.find root = .ok e

/-- A further file, when it can be read. -/
def readable? (tree : Entry) (path : ByteString) : Option SourceFile :=
  match tree.readText path with
  | .ok text => some ⟨path, text⟩
  | .error _ => none

/-- The entry of a further file in the list of skipped files, when it cannot be read. -/
def unreadable? (tree : Entry) (path : ByteString) : Option SkippedFile :=
  match tree.readText path with
  | .ok _ => none
  | .error error => some ⟨path, .read, error.message⟩

/-- The source files of a project that can be read: root by root, and then the further files. -/
def Settings.sources (s : Settings) (tree : Entry) (collections : List Collection) :
    List SourceFile :=
  collections.flatMap Collection.files ++ s.files.filterMap (readable? tree)

/-- A report accounts for all that was collected and for the further files. -/
structure AccountsFor (s : Settings) (tree : Entry) (collections : List Collection)
    (report : ScanReport) : Prop where
  /-- Every file is scanned or listed. -/
  total : report.filesScanned + report.skipped.length =
    (collections.map fun c => c.files.length + c.skipped.length).sum + s.files.length
  /-- Listed are the collected files that cannot be read, root by root, then such further files, and
  then the files that are not well formed. -/
  skipped_eq : report.skipped = collections.flatMap Collection.skipped ++
    s.files.filterMap (unreadable? tree) ++
      (s.sources tree collections).filterMap s.ownSkippedFile?
  /-- The icons are those that the project keeps and those of the well-formed files. -/
  mem_icons : ∀ name, name ∈ report.icons ↔
    (∃ kept ∈ s.safelist, name = Text.trim kept) ∧ name ≠ "" ∨
      ∃ file ∈ s.sources tree collections, ∃ found,
        s.extractor.extract file.text = .ok found ∧ name ∈ found

/-! ## Roots -/

/-- A root is collected when it can be walked. -/
theorem exists_collection_iff {tree : Entry} {root : ByteString} :
    (∃ c, Collection.of tree root = .ok c) ↔ Walkable tree root := by
  unfold Collection.of Walkable
  by_cases hinput : Path.isStandardInput root = true
  · rw [if_pos hinput]
    exact iff_of_true ⟨_, rfl⟩ (.inl hinput)
  · rw [if_neg hinput]
    cases tree.find root with
    | ok e => exact iff_of_true ⟨_, rfl⟩ (.inr ⟨e, rfl⟩)
    | error error => simp [hinput]

/-- The error of a root that cannot be walked names it and tells why. -/
theorem collection_eq_error_iff {tree : Entry} {root : ByteString} {e : WalkError} :
    Collection.of tree root = .error e ↔
      ¬Walkable tree root ∧ e.root = root ∧ tree.find root = .error e.error := by
  unfold Collection.of Walkable
  by_cases hinput : Path.isStandardInput root = true
  · rw [if_pos hinput]
    simp [hinput]
  · rw [if_neg hinput]
    obtain ⟨root', error'⟩ := e
    cases tree.find root with
    | ok e => simp
    | error error => simp [hinput, eq_comm]

/-- Collecting stops at the first root that cannot be walked, and tells why. -/
theorem ofAll_snd_eq_some_iff {tree : Entry} {roots : List ByteString} {e : WalkError} :
    (Collection.ofAll tree roots).2 = some e ↔ ∃ before after, roots = before ++ e.root :: after ∧
      (∀ root ∈ before, Walkable tree root) ∧ ¬Walkable tree e.root ∧
        tree.find e.root = .error e.error := by
  induction roots with
  | nil => simp [Collection.ofAll]
  | cons root roots ih =>
    unfold Collection.ofAll
    cases hroot : Collection.of tree root with
    | error first =>
      have hfirst := collection_eq_error_iff.1 hroot
      constructor
      · intro h
        obtain rfl := Option.some.inj h
        obtain ⟨hwalk, rfl, hfind⟩ := hfirst
        exact ⟨[], roots, rfl, fun _ h => absurd h List.not_mem_nil, hwalk, hfind⟩
      · rintro ⟨before, after, hsplit, hbefore, hwalk, hfind⟩
        cases before with
        | nil =>
          obtain ⟨rfl, -⟩ := List.cons.inj hsplit
          have he := collection_eq_error_iff.2 ⟨hwalk, rfl, hfind⟩
          rw [hroot] at he
          exact congrArg some (Except.error.inj he)
        | cons other before =>
          obtain ⟨rfl, -⟩ := List.cons.inj hsplit
          exact absurd (hbefore root List.mem_cons_self) hfirst.1
    | ok c =>
      have hwalkable : Walkable tree root := exists_collection_iff.1 ⟨c, hroot⟩
      dsimp only
      rw [ih]
      constructor
      · rintro ⟨before, after, hsplit, hbefore, h⟩
        exact ⟨root :: before, after, by rw [hsplit, List.cons_append],
          List.forall_mem_cons.2 ⟨hwalkable, hbefore⟩, h⟩
      · rintro ⟨before, after, hsplit, hbefore, hwalk, hfind⟩
        cases before with
        | nil =>
          obtain ⟨rfl, -⟩ := List.cons.inj hsplit
          exact absurd hwalkable hwalk
        | cons other before =>
          obtain ⟨-, rfl⟩ := List.cons.inj hsplit
          exact ⟨before, after, rfl, (List.forall_mem_cons.1 hbefore).2, hwalk, hfind⟩

/-- When no root stops it, every root is collected. -/
theorem forall₂_of_ofAll {tree : Entry} {roots : List ByteString}
    (h : (Collection.ofAll tree roots).2 = none) :
    List.Forall₂ (fun root c => Collection.of tree root = .ok c) roots
      (Collection.ofAll tree roots).1 := by
  induction roots with
  | nil => exact .nil
  | cons root roots ih =>
    unfold Collection.ofAll at h ⊢
    cases hroot : Collection.of tree root with
    | error e => simp [hroot] at h
    | ok c =>
      rw [hroot] at h
      exact .cons hroot (ih h)

/-- No root stops it exactly when all can be walked. -/
theorem ofAll_snd_eq_none_iff {tree : Entry} {roots : List ByteString} :
    (Collection.ofAll tree roots).2 = none ↔ ∀ root ∈ roots, Walkable tree root := by
  constructor
  · intro h root hroot
    have hall := (forall₂_of_ofAll h).imp fun _ c hc =>
      And.intro (exists_collection_iff.1 ⟨c, hc⟩) hc
    exact ((List.forall₂_and_left _ _).1 hall).1 root hroot
  · intro h
    cases hsnd : (Collection.ofAll tree roots).2 with
    | none => rfl
    | some e =>
      obtain ⟨before, after, rfl, -, hwalk, -⟩ := ofAll_snd_eq_some_iff.1 hsnd
      exact absurd (h e.root (by simp)) hwalk

/-! ## Further files -/

/-- The further files that can be read. -/
theorem succeeded_find (tree : Entry) (paths : List ByteString) :
    succeeded (paths.map (SourceFile.find tree)) = paths.filterMap (readable? tree) := by
  unfold succeeded
  rw [List.filterMap_map]
  refine congrArg (List.filterMap · paths) (funext fun path => ?_)
  unfold readable? SourceFile.find
  dsimp only [Function.comp]
  cases tree.readText path with
  | ok text => rfl
  | error error => rfl

/-- The entries of the others. -/
theorem failed_find (tree : Entry) (paths : List ByteString) :
    failed (paths.map (SourceFile.find tree)) = paths.filterMap (unreadable? tree) := by
  unfold failed
  rw [List.filterMap_map]
  refine congrArg (List.filterMap · paths) (funext fun path => ?_)
  unfold unreadable? SourceFile.find
  dsimp only [Function.comp]
  cases tree.readText path with
  | ok text => rfl
  | error error => rfl

/-! ## The report -/

/-- Of source files at hand each is counted or listed. -/
theorem Settings.scanned_add_skipped (s : Settings) (sources : List SourceFile) :
    (s.scanSources sources).filesScanned + (s.scanSources sources).skipped.length =
      sources.length := by
  unfold scanSources
  rw [ScanReport.filesScanned_foldl, ScanReport.skipped_foldl, Nat.zero_add, List.nil_append,
    length_succeeded_add_length_failed, List.length_map]

/-- What is found in source files is told by the report of a scan of these files, to which the files
are added that could not be read. -/
theorem report_scanCollected (s : Settings) (tree : Entry) (collections : List Collection) :
    (s.scanCollected collections (s.files.map (SourceFile.find tree))).report =
      { s.scanSources (s.sources tree collections) with
        skipped := collections.flatMap Collection.skipped ++
          s.files.filterMap (unreadable? tree) ++
            (s.scanSources (s.sources tree collections)).skipped } := by
  unfold Settings.scanCollected ProjectScan.report Settings.scanSources Settings.sources
  dsimp only
  rw [List.map_map, succeeded_find, failed_find]
  rfl

/-- The report of what was collected accounts for it and for the further files. -/
theorem accountsFor_scanCollected (s : Settings) (tree : Entry) (collections : List Collection) :
    AccountsFor s tree collections
      (s.scanCollected collections (s.files.map (SourceFile.find tree))).report := by
  rw [report_scanCollected]
  refine ⟨?_, ?_, fun name => ?_⟩
  · -- Every source is counted or listed, and every further file is a source or listed.
    have hsources : (s.scanSources (s.sources tree collections)).filesScanned +
        (s.scanSources (s.sources tree collections)).skipped.length =
          (s.sources tree collections).length := s.scanned_add_skipped _
    have hfurther : (s.files.filterMap (readable? tree)).length +
        (s.files.filterMap (unreadable? tree)).length = s.files.length := by
      rw [← succeeded_find, ← failed_find, length_succeeded_add_length_failed, List.length_map]
    have hcollected : (collections.map fun c => c.files.length + c.skipped.length).sum =
        (collections.flatMap Collection.files).length +
          (collections.flatMap Collection.skipped).length := by
      rw [List.length_flatMap, List.length_flatMap, List.sum_map_add]
    have hlength : (s.sources tree collections).length =
        (collections.flatMap Collection.files).length +
          (s.files.filterMap (readable? tree)).length := List.length_append
    simp only [List.length_append]
    omega
  · rw [Settings.skipped_scanSources]
  · rw [Settings.mem_icons_scanSources, IconSet.mem_ofList]

/-- A scan collects all roots, or tells the first that cannot be walked. -/
theorem scan_eq (s : Settings) (tree : Entry) : s.scan tree =
    match (Collection.ofAll tree s.paths).2 with
    | some e => .error e
    | none => .ok (s.scanCollected (Collection.ofAll tree s.paths).1
        (s.files.map (SourceFile.find tree))).report := by
  unfold Settings.scan Settings.scanProject
  rcases Collection.ofAll tree s.paths with ⟨collections, _ | e⟩
  · rfl
  · rfl

/-- A scan succeeds exactly when all roots can be walked. -/
theorem exists_scan_iff {s : Settings} {tree : Entry} :
    (∃ report, s.scan tree = .ok report) ↔ ∀ root ∈ s.paths, Walkable tree root := by
  rw [← ofAll_snd_eq_none_iff, scan_eq]
  cases (Collection.ofAll tree s.paths).2 with
  | none => exact ⟨fun _ => rfl, fun _ => ⟨_, rfl⟩⟩
  | some e => exact ⟨nofun, nofun⟩

/-- A scan that succeeds has collected the source files under each root, and its report accounts for
them and for the further files. -/
theorem exists_collections {s : Settings} {tree : Entry} (htree : tree.IsTree) {report : ScanReport}
    (h : s.scan tree = .ok report) : ∃ collections,
      List.Forall₂ (Collects tree) s.paths collections ∧ AccountsFor s tree collections report := by
  rw [scan_eq] at h
  cases hstop : (Collection.ofAll tree s.paths).2 with
  | some e =>
    rw [hstop] at h
    cases h
  | none =>
    rw [hstop] at h
    obtain rfl := Except.ok.inj h
    refine ⟨(Collection.ofAll tree s.paths).1, ?_, accountsFor_scanCollected s tree _⟩
    exact (forall₂_of_ofAll hstop).imp fun _ _ hc => collects_of htree hc

/-- A scan fails exactly when a root cannot be walked, and tells the first such root and why.
Otherwise it collects the source files under each root, each once and in the order of their paths,
and its report accounts for them and for the further files. -/
theorem scan_accounts (s : Settings) (tree : Entry) (htree : tree.IsTree) :
    ((∃ report, s.scan tree = .ok report) ↔ ∀ root ∈ s.paths, Walkable tree root) ∧
    (∀ e, s.scan tree = .error e ↔ ∃ before after, s.paths = before ++ e.root :: after ∧
      (∀ root ∈ before, Walkable tree root) ∧ ¬Walkable tree e.root ∧
        tree.find e.root = .error e.error) ∧
    ∀ report, s.scan tree = .ok report → ∃ collections,
      List.Forall₂ (Collects tree) s.paths collections ∧ AccountsFor s tree collections report := by
  refine ⟨exists_scan_iff, fun e => ?_, fun report hreport => exists_collections htree hreport⟩
  rw [← ofAll_snd_eq_some_iff, scan_eq]
  cases (Collection.ofAll tree s.paths).2 with
  | some first => simp
  | none => exact iff_of_false nofun nofun

/-- A project with a directory, in which a link and a file that is no text stand beside a source
file, and with a further file. -/
def sampleTree : Entry :=
  .directory
    [ ("src", .directory
        [ ("App.tsx", .file (.text "const x = <i className='material-symbols-rounded'>menu</i>;")),
          ("Link.tsx", .link "App.tsx"),
          ("raw.ts", .file (.binary "")) ]),
      ("main.tsx", .file (.text "const x = ;")) ]

/-- The settings of that project, which name a further file that is missing. -/
def sampleSettings : Settings :=
  { variant := .rounded, paths := ["src"], files := ["main.tsx", "missing.tsx"],
    safelist := [" home "] }

/-- The names in that project are different and can stand in paths. -/
theorem isTree_sampleTree : sampleTree.IsTree := by
  refine .directory (by decide) (by decide) ?_
  simp only [List.forall_mem_cons]
  refine ⟨.directory (by decide) (by decide) ?_, .file _, fun _ h => absurd h List.not_mem_nil⟩
  simp only [List.forall_mem_cons]
  exact ⟨.file _, .link _, .file _, fun _ h => absurd h List.not_mem_nil⟩

/-- The scan of that project accounts for four files. -/
theorem scan_accounts_sample : sampleTree.IsTree ∧ ∃ report collections,
    sampleSettings.scan sampleTree = .ok report ∧
      List.Forall₂ (Collects sampleTree) ["src"] collections ∧
        AccountsFor sampleSettings sampleTree collections report := by
  obtain ⟨hok, -, haccounts⟩ := scan_accounts sampleSettings sampleTree isTree_sampleTree
  have hwalkable : ∀ root ∈ sampleSettings.paths, Walkable sampleTree root := by
    intro root hroot
    obtain rfl := List.mem_singleton.1 hroot
    exact .inr ⟨_, by cbv⟩
  obtain ⟨report, hreport⟩ := hok.2 hwalkable
  obtain ⟨collections, hcollects, hreports⟩ := haccounts report hreport
  exact ⟨isTree_sampleTree, report, collections, hreport, hcollects, hreports⟩

end IconSubset
