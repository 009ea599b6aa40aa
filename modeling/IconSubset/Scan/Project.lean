import IconSubset.Log.Event
import IconSubset.Scan.Collection

/-!
# Scanning a project

The source files of a project are those below its directories, directory by directory, and then its
further files. A directory that cannot be walked ends the scan. Otherwise each file counts once for
each time that it is named, and one that cannot be used is listed with the reason: first the files
below the directories that cannot be read, then such further files, then the files that are not well
formed.
-/

namespace IconSubset

/-- The source files below directories, up to the first that cannot be walked. -/
def Collection.ofAll (tree : Entry) : List ByteString → List Collection × Option WalkError
  | [] => ([], none)
  | root :: roots =>
    match Collection.of tree root with
    | .error e => ([], some e)
    | .ok c =>
      let (cs, e) := Collection.ofAll tree roots
      (c :: cs, e)

/-- A further file. -/
def SourceFile.find (tree : Entry) (path : ByteString) : Except SkippedFile SourceFile :=
  match tree.readText path with
  | .ok text => .ok ⟨path, text⟩
  | .error error => .error ⟨path, .read, error.message⟩

/-- A scan of a project whose directories could all be walked. -/
structure ProjectScan where
  /-- The source files below the directories. -/
  collections : List Collection
  /-- The further files. -/
  further : List (Except SkippedFile SourceFile)
  /-- What came of each file. -/
  outcomes : List (SourceFile × Except SkippedFile IconSet)
  /-- The icons that the project always keeps. -/
  kept : IconSet
deriving Inhabited

namespace ProjectScan

/-- What the scan found. -/
def report (s : ProjectScan) : ScanReport :=
  let found := (s.outcomes.map (·.2)).foldl ScanReport.addFile { icons := s.kept }
  { found with
    skipped := s.collections.flatMap Collection.skipped ++ failed s.further ++ found.skipped }

end ProjectScan

namespace Settings

/-- The scan of the source files that were collected and of further files. -/
def scanCollected (s : Settings) (collections : List Collection)
    (further : List (Except SkippedFile SourceFile)) : ProjectScan :=
  let sources := collections.flatMap Collection.files ++ succeeded further
  { collections, further, outcomes := sources.map fun f => (f, s.scanFile f),
    kept := .ofList s.safelist }

/-- Scans a project. -/
def scanProject (s : Settings) (tree : Entry) : Except WalkError ProjectScan :=
  match Collection.ofAll tree s.paths with
  | (_, some e) => .error e
  | (collections, none) => .ok (s.scanCollected collections (s.files.map (SourceFile.find tree)))

/-- What a scan of a project finds. -/
def scan (s : Settings) (tree : Entry) : Except WalkError ScanReport :=
  (s.scanProject tree).map ProjectScan.report

end Settings

/-- A report that a file is skipped. -/
def SkippedFile.event (target message : String) (f : SkippedFile) : LogEvent :=
  { level := .warn, target, message, fields := [("path", f.path.shown), ("error", f.message)] }

/-- What is logged of the source files below a directory. -/
def Collection.events (c : Collection) : List LogEvent :=
  c.skipped.map (·.event "glyph_scan::collect" "failed to read source file; skipping") ++
    [{ level := .debug, target := "glyph_scan::collect", message := "collected source files",
       fields := [("root", c.root.shown), ("files", toString c.files.length)] }]

/-- What is logged of a file. -/
def outcomeEvent : SourceFile × Except SkippedFile IconSet → LogEvent
  | (f, .ok icons) =>
    { level := .debug, target := "glyph_parser::processor", message := "scanned source file",
      fields := [("path", f.path.shown), ("icons", toString icons.size)] }
  | (_, .error skipped) =>
    skipped.event "glyph_parser::processor" "failed to parse source file; skipping"

/-- What is logged of a scan, after the source files have been collected. -/
def ProjectScan.events (s : ProjectScan) (variant : Variant) : List LogEvent :=
  (failed s.further).map (·.event "glyph_scan::pipeline" "failed to read file; skipping") ++
    s.outcomes.map outcomeEvent ++
    [{ level := .info, target := "glyph_scan::pipeline", message := "icon scan complete",
       fields := [("variant", variant.name), ("icons", toString s.report.icons.size),
         ("files", toString s.report.filesScanned),
         ("skipped", toString s.report.skipped.length)] }]

/-- What is logged while a project is scanned, with what came of it. -/
def Settings.scanWithLog (s : Settings) (tree : Entry) :
    List LogEvent × Except WalkError ScanReport :=
  let (collections, failure) := Collection.ofAll tree s.paths
  let collected := collections.flatMap Collection.events
  match failure with
  | some e => (collected, .error e)
  | none =>
    let scan := s.scanCollected collections (s.files.map (SourceFile.find tree))
    (collected ++ scan.events s.variant, .ok scan.report)

/-- The outcome of a scan does not depend on whether it is logged. -/
theorem Settings.scanWithLog_snd (s : Settings) (tree : Entry) :
    (s.scanWithLog tree).2 = s.scan tree := by
  unfold scanWithLog scan scanProject
  rcases Collection.ofAll tree s.paths with ⟨cs, _ | e⟩ <;> rfl

end IconSubset
