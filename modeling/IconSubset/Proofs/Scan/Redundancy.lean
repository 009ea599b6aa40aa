import IconSubset.Proofs.Extraction.Contribution
import IconSubset.Proofs.Files.SourceName
import IconSubset.Proofs.Scan.Project
import Mathlib.Logic.Relation

/-!
# Settings that ask for the same icons

A project may list the same thing twice: an entry again, a directory below another, or a file that a
directory holds anyway. Such files are scanned more than once, and counted and listed so, but the
icons stay the same, and with them the address of the stylesheet (`scan_redundant`). Nor does it
matter in which order things are listed.

The icons of a scan depend on the texts that it reads (`mem_icons_iff`), however often it reads
them, so it is enough that each of the changes (`Redundant`) leaves these texts as they are
(`Redundant.alike`). For a directory this says that a file is a source file on whatever way it is
reached. The path `-` is an exception: it stands for the standard input, below which nothing is
found, also where a directory has this name (`scan_hyphen`).
-/

namespace IconSubset

open Entry (Holds Undotted)

/-! ## Texts that are read -/

/-- A scan of a project reads a text. -/
inductive Settings.Reads (s : Settings) (tree : Entry) (text : String) : Prop
  /-- It is that of a source file under a root. -/
  | collected {root path : ByteString} (hroot : root ∈ s.paths)
      (hlies : LiesUnder tree root path (.text text))
  /-- It is that of a further file. -/
  | further {path : ByteString} (hpath : path ∈ s.files) (hread : tree.readText path = .ok text)

section Scan

variable {s : Settings} {tree : Entry}

/-- A text is read from under a root or from a further file. -/
theorem Settings.reads_iff {text : String} : s.Reads tree text ↔
    (∃ root ∈ s.paths, ∃ path, LiesUnder tree root path (.text text)) ∨
      ∃ path ∈ s.files, tree.readText path = .ok text := by
  constructor
  · rintro (⟨hroot, hlies⟩ | ⟨hpath, hread⟩)
    · exact .inl ⟨_, hroot, _, hlies⟩
    · exact .inr ⟨_, hpath, hread⟩
  · rintro (⟨_, hroot, _, hlies⟩ | ⟨_, hpath, hread⟩)
    · exact .collected hroot hlies
    · exact .further hpath hread

/-- The files that are collected are those under the roots. -/
theorem mem_files_iff {roots : List ByteString} {collections : List Collection}
    (h : List.Forall₂ (Collects tree) roots collections) {file : SourceFile} :
    file ∈ collections.flatMap Collection.files ↔
      ∃ root ∈ roots, LiesUnder tree root file.path (.text file.text) := by
  induction h with
  | nil => simp
  | cons hc _ ih =>
    rw [List.flatMap_cons, List.mem_append, hc.mem_files, ih, List.exists_mem_cons_iff]

/-- A further file can be read when it has a text. -/
theorem readable?_eq_some_iff {path : ByteString} {file : SourceFile} :
    readable? tree path = some file ↔ path = file.path ∧ tree.readText path = .ok file.text := by
  obtain ⟨path', text⟩ := file
  unfold readable?
  cases tree.readText path with
  | ok read => simp
  | error error => simp

/-- The texts that are read are those of the source files. -/
theorem exists_mem_sources_iff {collections : List Collection}
    (h : List.Forall₂ (Collects tree) s.paths collections) {text : String} :
    (∃ file ∈ s.sources tree collections, file.text = text) ↔ s.Reads tree text := by
  unfold Settings.sources
  simp only [List.mem_append, mem_files_iff h, List.mem_filterMap, readable?_eq_some_iff]
  constructor
  · rintro ⟨file, ⟨root, hroot, hlies⟩ | ⟨path, hpath, -, hread⟩, rfl⟩
    · exact .collected hroot hlies
    · exact .further hpath hread
  · rintro (⟨hroot, hlies⟩ | ⟨hpath, hread⟩)
    · exact ⟨⟨_, text⟩, .inl ⟨_, hroot, hlies⟩, rfl⟩
    · exact ⟨⟨_, text⟩, .inr ⟨_, hpath, rfl, hread⟩, rfl⟩

/-- The icons of a scan are those that the project keeps and those of the texts that it reads. -/
theorem mem_icons_iff (htree : tree.IsTree) {report : ScanReport} (h : s.scan tree = .ok report)
    {name : String} : name ∈ report.icons ↔
      (∃ kept ∈ s.safelist, name = Text.trim kept) ∧ name ≠ "" ∨
        ∃ text, s.Reads tree text ∧ ∃ found, s.extractor.extract text = .ok found ∧
          name ∈ found := by
  obtain ⟨collections, hcollects, haccounts⟩ := exists_collections htree h
  rw [haccounts.mem_icons]
  refine or_congr_right ?_
  simp only [← exists_mem_sources_iff hcollects]
  constructor
  · rintro ⟨file, hfile, hfound⟩
    exact ⟨file.text, ⟨file, hfile, rfl⟩, hfound⟩
  · rintro ⟨_, ⟨file, hfile, rfl⟩, hfound⟩
    exact ⟨file, hfile, hfound⟩

end Scan

/-- What is looked for in a source does not depend on the order of the icon properties. -/
theorem Extractor.extract_congr {e e' : Extractor} (hvariant : e'.variant = e.variant)
    (hprops : ∀ p, p ∈ e'.iconProps ↔ p ∈ e.iconProps) (source : String) :
    e'.extract source = e.extract source := by
  unfold extract
  rw [hvariant]
  cases Tsx.parse source with
  | ok tree => exact congrArg Except.ok (Extraction.scanElements_congr hprops tree _ _)
  | error fault => rfl

/-! ## Settings that a scan does not tell apart -/

/-- Two projects in a tree look for the same things in the same texts. -/
structure Settings.Alike (tree : Entry) (s s' : Settings) : Prop where
  /-- The style is the same. -/
  variant_eq : s'.variant = s.variant
  /-- The ranges are the same. -/
  axes_eq : s'.axes = s.axes
  /-- The roots of the other can be walked as well. -/
  walkable : (∀ root ∈ s.paths, Walkable tree root) → ∀ root ∈ s'.paths, Walkable tree root
  /-- They read the same texts. -/
  reads_iff : ∀ text, s'.Reads tree text ↔ s.Reads tree text
  /-- They keep the same icons. -/
  mem_safelist : ∀ name, name ∈ s'.safelist ↔ name ∈ s.safelist
  /-- They have the same icon properties. -/
  mem_iconProps : ∀ p, p ∈ s'.iconProps ↔ p ∈ s.iconProps

namespace Settings.Alike

variable {tree : Entry} {s s' s'' : Settings}

/-- A project is like itself. -/
theorem refl (tree : Entry) (s : Settings) : Alike tree s s :=
  ⟨rfl, rfl, id, fun _ => .rfl, fun _ => .rfl, fun _ => .rfl⟩

/-- What is like a project that is like another is like that one. -/
theorem trans (h : Alike tree s s') (h' : Alike tree s' s'') : Alike tree s s'' where
  variant_eq := h'.variant_eq.trans h.variant_eq
  axes_eq := h'.axes_eq.trans h.axes_eq
  walkable := h'.walkable ∘ h.walkable
  reads_iff text := (h'.reads_iff text).trans (h.reads_iff text)
  mem_safelist name := (h'.mem_safelist name).trans (h.mem_safelist name)
  mem_iconProps p := (h'.mem_iconProps p).trans (h.mem_iconProps p)

/-- Scans of projects that are alike find the same icons. -/
theorem icons_eq (h : Alike tree s s') (htree : tree.IsTree) {report report' : ScanReport}
    (hreport : s.scan tree = .ok report) (hreport' : s'.scan tree = .ok report') :
    report'.icons = report.icons := by
  have hextract : ∀ text, s'.extractor.extract text = s.extractor.extract text :=
    Extractor.extract_congr h.variant_eq h.mem_iconProps
  refine IconSet.ext_mem fun name => ?_
  rw [mem_icons_iff htree hreport, mem_icons_iff htree hreport']
  simp only [h.mem_safelist, h.reads_iff, hextract]

/-- The address of the stylesheet for some icons is the same. -/
theorem stylesheetAddress_eq (h : Alike tree s s') (icons : IconSet) :
    s'.stylesheetAddress icons = s.stylesheetAddress icons := by
  unfold stylesheetAddress
  rw [h.variant_eq, h.axes_eq]

end Settings.Alike

/-! ## Changes that add nothing -/

/-- A directory with these entries lies under a root: names lead to it from what the path of the
root leads to, and no link stands on that way. -/
inductive DirectoryUnder (tree : Entry) (root : ByteString) (entries : List (ByteString × Entry)) :
    Prop
  /-- The root is not the standard input. -/
  | intro {e : Entry} {names : List ByteString} (hroot : Path.isStandardInput root = false)
      (hfind : tree.find root = .ok e) (hat : e.at? names = some (.directory entries))

/-- A change of the settings of a project that asks for nothing new. -/
inductive Redundant (tree : Entry) : Settings → Settings → Prop
  /-- What is listed is listed in another order. -/
  | reorder {s s' : Settings} (hvariant : s'.variant = s.variant) (haxes : s'.axes = s.axes)
      (hpaths : s.paths.Perm s'.paths) (hfiles : s.files.Perm s'.files)
      (hsafelist : s.safelist.Perm s'.safelist) (hprops : s.iconProps.Perm s'.iconProps) :
      Redundant tree s s'
  /-- A root is listed again. -/
  | repeatPath {s : Settings} {path : ByteString} (h : path ∈ s.paths) :
      Redundant tree s { s with paths := path :: s.paths }
  /-- A further file is listed again. -/
  | repeatFile {s : Settings} {path : ByteString} (h : path ∈ s.files) :
      Redundant tree s { s with files := path :: s.files }
  /-- An icon to keep is listed again. -/
  | repeatKept {s : Settings} {name : String} (h : name ∈ s.safelist) :
      Redundant tree s { s with safelist := name :: s.safelist }
  /-- An icon property is listed again. -/
  | repeatProperty {s : Settings} {name : String} (h : name ∈ s.iconProps) :
      Redundant tree s { s with iconProps := name :: s.iconProps }
  /-- A directory that lies under a root becomes a root. -/
  | directory {s : Settings} {root path : ByteString} {entries : List (ByteString × Entry)}
      (hroot : root ∈ s.paths) (hunder : DirectoryUnder tree root entries)
      (hfind : tree.find path = .ok (.directory entries)) :
      Redundant tree s { s with paths := path :: s.paths }
  /-- A source file that lies under a root becomes a further file. -/
  | source {s : Settings} {root place path : ByteString} {content : FileContent}
      (hroot : root ∈ s.paths) (hlies : LiesUnder tree root place content)
      (hfind : tree.find path = .ok (.file content)) :
      Redundant tree s { s with files := path :: s.files }

namespace Settings.Alike

variable {tree : Entry} {s s' : Settings}

/-- Projects that list the same things are alike. -/
theorem of_mem_iff (hvariant : s'.variant = s.variant) (haxes : s'.axes = s.axes)
    (hpaths : ∀ path, path ∈ s'.paths ↔ path ∈ s.paths)
    (hfiles : ∀ path, path ∈ s'.files ↔ path ∈ s.files)
    (hsafelist : ∀ name, name ∈ s'.safelist ↔ name ∈ s.safelist)
    (hprops : ∀ p, p ∈ s'.iconProps ↔ p ∈ s.iconProps) : Alike tree s s' where
  variant_eq := hvariant
  axes_eq := haxes
  walkable h root hroot := h root ((hpaths root).1 hroot)
  reads_iff text := by simp only [Settings.reads_iff, hpaths, hfiles]
  mem_safelist := hsafelist
  mem_iconProps := hprops

/-- A root below which there is nothing new adds nothing. -/
theorem cons_path {path : ByteString} (hwalkable : Walkable tree path)
    (h : ∀ place text, LiesUnder tree path place (.text text) → s.Reads tree text) :
    Alike tree s { s with paths := path :: s.paths } where
  variant_eq := rfl
  axes_eq := rfl
  walkable hs := List.forall_mem_cons.2 ⟨hwalkable, hs⟩
  reads_iff text := by
    constructor
    · rintro (⟨hroot, hlies⟩ | ⟨hpath, hread⟩)
      · rcases List.mem_cons.1 hroot with rfl | hroot
        · exact h _ text hlies
        · exact .collected hroot hlies
      · exact .further hpath hread
    · rintro (⟨hroot, hlies⟩ | ⟨hpath, hread⟩)
      · exact .collected (List.mem_cons_of_mem path hroot) hlies
      · exact .further hpath hread
  mem_safelist _ := .rfl
  mem_iconProps _ := .rfl

/-- A further file with nothing new adds nothing. -/
theorem cons_file {path : ByteString}
    (h : ∀ text, tree.readText path = .ok text → s.Reads tree text) :
    Alike tree s { s with files := path :: s.files } where
  variant_eq := rfl
  axes_eq := rfl
  walkable := id
  reads_iff text := by
    constructor
    · rintro (⟨hroot, hlies⟩ | ⟨hpath, hread⟩)
      · exact .collected hroot hlies
      · rcases List.mem_cons.1 hpath with rfl | hpath
        · exact h text hread
        · exact .further hpath hread
    · rintro (⟨hroot, hlies⟩ | ⟨hpath, hread⟩)
      · exact .collected hroot hlies
      · exact .further (List.mem_cons_of_mem path hpath) hread
  mem_safelist _ := .rfl
  mem_iconProps _ := .rfl

end Settings.Alike

section Redundancy

variable {tree : Entry} {s s' : Settings}

/-- What lies under a directory that lies under a root lies under the root. -/
theorem DirectoryUnder.exists_liesUnder (htree : tree.IsTree) (hdots : tree.Undotted)
    {root path place : ByteString} {entries : List (ByteString × Entry)} {content : FileContent}
    (hunder : DirectoryUnder tree root entries) (hfind : tree.find path = .ok (.directory entries))
    (hlies : LiesUnder tree path place content) : ∃ place', LiesUnder tree root place' content := by
  obtain @⟨top, above, hinput, htop, hat⟩ := hunder
  obtain @⟨e, below, _, -, hfind', hholds, hsource⟩ := hlies
  obtain rfl : e = .directory entries := Except.ok.inj (hfind'.symm.trans hfind)
  have hbelow : below ≠ [] := by
    rintro rfl
    cases hholds
  refine ⟨_, @LiesUnder.intro tree root top (above ++ below) _ hinput htop (hholds.of_at? hat) ?_⟩
  -- The last names are the same on either way.
  rw [List.foldl_append, ← hsource]
  exact Path.isSource_foldl_child _ _ hbelow (hholds.isName (htree.of_find hfind))
    (hdots.of_find hfind content below hholds)

/-- A change that asks for nothing new leaves the settings alike. -/
theorem Redundant.alike (h : Redundant tree s s') (htree : tree.IsTree) (hdots : tree.Undotted) :
    s.Alike tree s' := by
  -- What is in a list is in it with one of its members before it, and conversely.
  have hcons : ∀ {α : Type} {x : α} {xs : List α}, x ∈ xs → ∀ y, y ∈ x :: xs ↔ y ∈ xs := by
    intro α x xs hx y
    rw [List.mem_cons, or_iff_right_of_imp]
    rintro rfl
    exact hx
  cases h with
  | reorder hvariant haxes hpaths hfiles hsafelist hprops =>
    exact .of_mem_iff hvariant haxes (fun _ => hpaths.mem_iff.symm) (fun _ => hfiles.mem_iff.symm)
      (fun _ => hsafelist.mem_iff.symm) (fun _ => hprops.mem_iff.symm)
  | repeatPath h =>
    exact .of_mem_iff rfl rfl (hcons h) (fun _ => .rfl) (fun _ => .rfl) (fun _ => .rfl)
  | repeatFile h =>
    exact .of_mem_iff rfl rfl (fun _ => .rfl) (hcons h) (fun _ => .rfl) (fun _ => .rfl)
  | repeatKept h =>
    exact .of_mem_iff rfl rfl (fun _ => .rfl) (fun _ => .rfl) (hcons h) (fun _ => .rfl)
  | repeatProperty h =>
    exact .of_mem_iff rfl rfl (fun _ => .rfl) (fun _ => .rfl) (fun _ => .rfl) (hcons h)
  | directory hroot hunder hfind =>
    refine .cons_path (.inr ⟨_, hfind⟩) fun place text hlies => ?_
    obtain ⟨place', hlies'⟩ := hunder.exists_liesUnder htree hdots hfind hlies
    exact .collected hroot hlies'
  | @source root place path content hroot hlies hfind =>
    refine .cons_file fun text hread => ?_
    have hcontent : content.decode = .ok text := by
      rw [← hread, Entry.readText, Entry.read, hfind]
      rfl
    -- A file that is no text is read neither way.
    cases content with
    | text decoded =>
      obtain rfl := Except.ok.inj hcontent
      exact .collected hroot hlies
    | binary readable => cases hcontent

/-- Changes one after another leave the settings alike. -/
theorem alike_of_redundant (htree : tree.IsTree) (hdots : tree.Undotted)
    (h : Relation.ReflTransGen (Redundant tree) s s') : s.Alike tree s' := by
  induction h with
  | refl => exact .refl tree s
  | tail _ hstep ih => exact ih.trans (hstep.alike htree hdots)

/-- When the roots of a project can be walked, its scan finds the same icons, and so gives the same
address of the stylesheet, after any changes of the settings that ask for nothing new: what is
listed may be put into another order, any entry may be listed again, and directories and source
files that lie under the roots may be listed as well. -/
theorem scan_redundant (htree : tree.IsTree) (hdots : tree.Undotted)
    (hwalkable : ∀ root ∈ s.paths, Walkable tree root)
    (h : Relation.ReflTransGen (Redundant tree) s s') : ∃ report report',
      s.scan tree = .ok report ∧ s'.scan tree = .ok report' ∧ report'.icons = report.icons ∧
        s'.stylesheetAddress report'.icons = s.stylesheetAddress report.icons := by
  have halike := alike_of_redundant htree hdots h
  obtain ⟨report, hreport⟩ := exists_scan_iff.2 hwalkable
  obtain ⟨report', hreport'⟩ := exists_scan_iff.2 (halike.walkable hwalkable)
  have hicons := halike.icons_eq htree hreport hreport'
  refine ⟨report, report', hreport, hreport', hicons, ?_⟩
  rw [hicons, halike.stylesheetAddress_eq]

end Redundancy

/-! ## Two projects -/

/-- The directory of a project, in which another directory stands beside a source file. -/
def nestedEntries : List (ByteString × Entry) :=
  [ ("App.tsx", .file (.text "const x = <Menu icon='home' />;")),
    ("parts", .directory
      [("Menu.tsx", .file (.text "const x = <i className='material-symbols-rounded'>menu</i>;"))]) ]

/-- The tree of that project. -/
def nestedTree : Entry := .directory [("src", .directory nestedEntries)]

/-- The settings of that project. -/
def nestedSettings : Settings :=
  { variant := .rounded, paths := ["src"], safelist := [" close "], iconProps := ["icon"] }

/-- The names in that project are different and can stand in paths. -/
theorem isTree_nestedTree : nestedTree.IsTree := by
  refine .directory (by decide) (by decide) (List.forall_mem_singleton.2 ?_)
  refine .directory (by decide) (by decide) ?_
  refine List.forall_mem_cons.2 ⟨.file _, List.forall_mem_singleton.2 ?_⟩
  exact .directory (by decide) (by decide) (List.forall_mem_singleton.2 (.file _))

/-- No name in that project is a dot. -/
theorem undotted_nestedTree : nestedTree.Undotted := by
  refine Entry.undotted_directory (List.forall_mem_singleton.2 ⟨by decide, ?_⟩)
  refine Entry.undotted_directory (List.forall_mem_cons.2
    ⟨⟨by decide, Entry.undotted_file _⟩, List.forall_mem_singleton.2 ⟨by decide, ?_⟩⟩)
  exact Entry.undotted_directory (List.forall_mem_singleton.2 ⟨by decide, Entry.undotted_file _⟩)

/-- In that project the inner directory can be listed behind the outer one, and a file that lies
there, and an icon twice. -/
theorem scan_redundant_nested :
    let s' : Settings :=
      { nestedSettings with
        paths := ["src", "src/parts"], files := ["src/App.tsx"],
        safelist := [" close ", " close "] }
    ∃ report report', nestedSettings.scan nestedTree = .ok report ∧
      s'.scan nestedTree = .ok report' ∧ report'.icons = report.icons ∧
        s'.stylesheetAddress report'.icons = nestedSettings.stylesheetAddress report.icons := by
  have hinput : Path.isStandardInput "src" = false := by cbv
  have hsrc : nestedTree.find "src" = .ok (.directory nestedEntries) := by cbv
  have hdirectory : Redundant nestedTree nestedSettings
      { nestedSettings with paths := ["src/parts", "src"] } :=
    .directory List.mem_cons_self (@DirectoryUnder.intro _ _ _ _ ["parts"] hinput hsrc rfl) (by cbv)
  have hlies := @LiesUnder.intro nestedTree "src" _ ["App.tsx"] _ hinput hsrc
    (@Holds.inside _ nestedEntries ("App.tsx", _) [] List.mem_cons_self .file) (by cbv)
  have hfile : Redundant nestedTree { nestedSettings with paths := ["src/parts", "src"] }
      { nestedSettings with paths := ["src/parts", "src"], files := ["src/App.tsx"] } :=
    .source (List.mem_cons_of_mem _ List.mem_cons_self) hlies (by cbv)
  have hkept : Redundant nestedTree
      { nestedSettings with paths := ["src/parts", "src"], files := ["src/App.tsx"] }
      { nestedSettings with
        paths := ["src/parts", "src"], files := ["src/App.tsx"],
        safelist := [" close ", " close "] } := .repeatKept List.mem_cons_self
  have horder : Redundant nestedTree
      { nestedSettings with
        paths := ["src/parts", "src"], files := ["src/App.tsx"],
        safelist := [" close ", " close "] }
      { nestedSettings with
        paths := ["src", "src/parts"], files := ["src/App.tsx"],
        safelist := [" close ", " close "] } :=
    .reorder rfl rfl (.swap _ _ _) (.refl _) (.refl _) (.refl _)
  exact scan_redundant isTree_nestedTree undotted_nestedTree
    (List.forall_mem_singleton.2 (.inr ⟨_, hsrc⟩))
    ((((Relation.ReflTransGen.single hdirectory).tail hfile).tail hkept).tail horder)

/-- A directory with a source file. -/
def innerEntries : List (ByteString × Entry) :=
  [("A.tsx", .file (.text "const a = <i className=\"material-symbols-rounded\">home</i>;"))]

/-- A project with that directory in one whose name is a hyphen. -/
def hyphenTree : Entry := .directory [("-", .directory [("sub", .directory innerEntries)])]

/-- The names in that project are different and can stand in paths. -/
theorem isTree_hyphenTree : hyphenTree.IsTree := by
  refine .directory (by decide) (by decide) (List.forall_mem_singleton.2 ?_)
  refine .directory (by decide) (by decide) (List.forall_mem_singleton.2 ?_)
  exact .directory (by decide) (by decide) (List.forall_mem_singleton.2 (.file _))

/-- A root with the name `-` stands for the standard input. Where a directory has that name, the
icons below it are not found, but they are when a directory in it becomes a root as well. -/
theorem scan_hyphen :
    let s : Settings := { variant := .rounded, paths := ["-"] }
    let s' : Settings := { s with paths := ["-", "-/sub"] }
    hyphenTree.IsTree ∧ (∀ root ∈ s.paths, Walkable hyphenTree root) ∧
      (∃ top entries, hyphenTree.find "-" = .ok top ∧
        top.at? ["sub"] = some (.directory entries) ∧
          hyphenTree.find "-/sub" = .ok (.directory entries)) ∧
      ∃ report report', s.scan hyphenTree = .ok report ∧ s'.scan hyphenTree = .ok report' ∧
        "home" ∉ report.icons ∧ "home" ∈ report'.icons := by
  intro s s'
  have htop : hyphenTree.find "-" = .ok (.directory [("sub", .directory innerEntries)]) := by cbv
  have hsub : hyphenTree.find "-/sub" = .ok (.directory innerEntries) := by cbv
  have hwalkable : ∀ root ∈ s.paths, Walkable hyphenTree root :=
    List.forall_mem_singleton.2 (.inr ⟨_, htop⟩)
  have hwalkable' : ∀ root ∈ s'.paths, Walkable hyphenTree root :=
    List.forall_mem_cons.2 ⟨.inr ⟨_, htop⟩, List.forall_mem_singleton.2 (.inr ⟨_, hsub⟩)⟩
  have hinput : Path.isStandardInput "-" = true := by cbv
  have hextract : s'.extractor.extract
      "const a = <i className=\"material-symbols-rounded\">home</i>;" = .ok (.ofList ["home"]) := by
    decide +kernel
  obtain ⟨report, hreport⟩ := exists_scan_iff.2 hwalkable
  obtain ⟨report', hreport'⟩ := exists_scan_iff.2 hwalkable'
  refine ⟨isTree_hyphenTree, hwalkable, ⟨_, _, htop, rfl, hsub⟩, report, report', hreport, hreport',
    fun hmem => ?_, ?_⟩
  · -- Nothing lies under the only root, so no text is read.
    rcases (mem_icons_iff isTree_hyphenTree hreport).1 hmem with
      ⟨⟨_, hkept, -⟩, -⟩ | ⟨text, hreads, -⟩
    · exact absurd hkept List.not_mem_nil
    · rcases hreads with ⟨hroot, hlies⟩ | ⟨hpath, -⟩
      · obtain ⟨hroot', -⟩ := hlies
        rw [List.mem_singleton.1 hroot, hinput] at hroot'
        cases hroot'
      · exact absurd hpath List.not_mem_nil
  · -- The other root is walked.
    have hhome : "home" ∈ IconSet.ofList ["home"] :=
      IconSet.mem_ofList.2 ⟨⟨"home", List.mem_cons_self, by decide⟩, by decide⟩
    refine (mem_icons_iff isTree_hyphenTree hreport').2 (.inr ⟨_, ?_, _, hextract, hhome⟩)
    have hlies := @LiesUnder.intro hyphenTree "-/sub" _ ["A.tsx"] _ (by cbv) hsub
      (@Holds.inside _ innerEntries ("A.tsx", _) [] List.mem_cons_self .file) (by cbv)
    exact .collected (List.mem_cons_of_mem _ List.mem_cons_self) hlies

end IconSubset
