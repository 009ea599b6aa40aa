import IconSubset.Extraction.SourceFile
import IconSubset.Settings
import IconSubset.Stylesheet.Address

/-!
# The outcome of a scan

A scan gives the icons of all its source files together with those that the project always keeps. A
file that cannot be used is listed with the reason and does not spoil the rest. The files do not
influence each other: each is scanned on its own, and the sets are united.
-/

namespace IconSubset

/-- Why a file contributed nothing. -/
inductive SkipReason where
  /-- It could not be read as text. -/
  | read
  /-- It is not well formed. -/
  | parse
deriving DecidableEq, Repr, Inhabited

/-- The name of a reason. -/
def SkipReason.name : SkipReason → String
  | read => "read"
  | parse => "parse"

/-- A file that contributed nothing. -/
structure SkippedFile where
  /-- Its path. -/
  path : ByteString
  /-- Why it contributed nothing. -/
  reason : SkipReason
  /-- What went wrong. -/
  message : String
deriving DecidableEq, Repr, Inhabited

/-- The outcome of a scan. -/
structure ScanReport where
  /-- The icons of the sources and those that the project always keeps. -/
  icons : IconSet := .empty
  /-- How many files were scanned. -/
  filesScanned : Nat := 0
  /-- The files that contributed nothing. -/
  skipped : List SkippedFile := []
deriving DecidableEq, Inhabited

/-- A report with what came of one more file. -/
def ScanReport.addFile (r : ScanReport) : Except SkippedFile IconSet → ScanReport
  | .ok icons => { r with icons := r.icons.union icons, filesScanned := r.filesScanned + 1 }
  | .error skipped => { r with skipped := r.skipped ++ [skipped] }

namespace Settings

/-- What the project looks for in its source files. -/
def extractor (s : Settings) : Extractor := ⟨s.variant, s.iconProps⟩

/-- The icons of one source file, or its entry in the list of skipped files. -/
def scanFile (s : Settings) (file : SourceFile) : Except SkippedFile IconSet :=
  match s.extractor.process file .empty with
  | (.ok _, icons) => .ok icons
  | (.error fault, _) => .error ⟨file.path, .parse, fault.message⟩

/-- Scans source files whose text is at hand. -/
def scanSources (s : Settings) (sources : List SourceFile) : ScanReport :=
  (sources.map s.scanFile).foldl .addFile { icons := .ofList s.safelist }

/-- The address of the stylesheet for some icons. -/
def stylesheetAddress (s : Settings) (icons : IconSet) : String :=
  Stylesheet.address s.variant s.axes icons.toList

end Settings

end IconSubset
