import IconSubset.Proofs.IconSet.Membership
import IconSubset.Scan.Collection

/-!
# Sets for each file and one set for all

A scan fills a set for each source file and unites them afterwards. A set can also be handed from
file to file (`processAll`), and `scanSources_eq_processAll` shows that this gives the same report:
the same icons, the same count, and the same list of skipped files. In either way a file counts for
itself, so the order of the files decides only the order in which the skipped ones are listed.

Both ways are described by what each file has on its own. `processAll_fst` and `mem_processAll_snd`
do so for the set that is handed on, by induction over the files, where one step is `process_ok` or
`process_error`; `mem_icons_foldl`, `filesScanned_foldl` and `skipped_foldl` do so for the report.
-/

namespace IconSubset

open Syntax (Fault)

namespace Extractor

variable {e : Extractor} {file : SourceFile}

/-- Processes files one after another into one set: what came of each of them, and the set after
all. -/
def processAll (e : Extractor) : List SourceFile → IconSet → List (Except Fault Nat) × IconSet
  | [], icons => ([], icons)
  | file :: rest, icons =>
    let (outcome, icons) := e.process file icons
    let (outcomes, icons) := processAll e rest icons
    (outcome :: outcomes, icons)

/-- A well-formed file adds its own icons, and their number is told. -/
theorem process_ok {found : IconSet} (h : e.extract file.text = .ok found) (icons : IconSet) :
    e.process file icons = (.ok found.size, icons.union found) := by
  unfold process
  rw [h]

/-- Any other file adds nothing, and its fault is told. -/
theorem process_error {fault : Fault} (h : e.extract file.text = .error fault) (icons : IconSet) :
    e.process file icons = (.error fault, icons) := by
  unfold process
  rw [h]

/-- What came of a file depends on the file alone. -/
theorem process_fst (e : Extractor) (file : SourceFile) (icons : IconSet) :
    (e.process file icons).1 = (e.extract file.text).map IconSet.size := by
  cases h : e.extract file.text with
  | ok found => rw [process_ok h]; rfl
  | error fault => rw [process_error h]; rfl

/-- A file leaves in the set what was there and its own icons. -/
theorem mem_process_snd {icons : IconSet} {name : String} : name ∈ (e.process file icons).2 ↔
    name ∈ icons ∨ ∃ found, e.extract file.text = .ok found ∧ name ∈ found := by
  cases h : e.extract file.text with
  | ok found => rw [process_ok h]; simp
  | error fault => rw [process_error h]; simp

/-- What came of each file when files are processed one after another. -/
theorem processAll_fst (e : Extractor) (files : List SourceFile) (icons : IconSet) :
    (e.processAll files icons).1 =
      files.map fun file => (e.extract file.text).map IconSet.size := by
  induction files generalizing icons with
  | nil => rfl
  | cons file rest ih =>
    unfold processAll
    dsimp only
    rw [ih, process_fst, List.map_cons]

/-- Files that are processed one after another leave in the set what was there and the icons of
each of them. -/
theorem mem_processAll_snd {files : List SourceFile} {icons : IconSet} {name : String} :
    name ∈ (e.processAll files icons).2 ↔
      name ∈ icons ∨ ∃ file ∈ files, ∃ found, e.extract file.text = .ok found ∧ name ∈ found := by
  induction files generalizing icons with
  | nil => simp [processAll]
  | cons file rest ih =>
    unfold processAll
    dsimp only
    rw [ih, mem_process_snd, or_assoc, List.exists_mem_cons_iff]

end Extractor

/-! ## Reports -/

namespace ScanReport

variable {r : ScanReport} {results : List (Except SkippedFile IconSet)}

/-- A report has the icons that it started with and those of each result. -/
theorem mem_icons_foldl {name : String} : name ∈ (results.foldl addFile r).icons ↔
    name ∈ r.icons ∨ ∃ icons, .ok icons ∈ results ∧ name ∈ icons := by
  induction results generalizing r with
  | nil => simp
  | cons result rest ih =>
    rw [List.foldl_cons, ih]
    cases result with
    | ok icons => simp [addFile, or_and_right, exists_or, or_assoc]
    | error skipped => simp [addFile]

/-- A report counts the results that are there. -/
theorem filesScanned_foldl :
    (results.foldl addFile r).filesScanned = r.filesScanned + (succeeded results).length := by
  induction results generalizing r with
  | nil => rfl
  | cons result rest ih =>
    rw [List.foldl_cons, ih]
    cases result with
    | ok icons => simp [addFile, succeeded]; omega
    | error skipped => simp [addFile, succeeded]

/-- A report lists the others in their order. -/
theorem skipped_foldl : (results.foldl addFile r).skipped = r.skipped ++ failed results := by
  induction results generalizing r with
  | nil => simp [failed]
  | cons result rest ih =>
    rw [List.foldl_cons, ih]
    cases result with
    | ok icons => simp [addFile, failed]
    | error skipped => simp [addFile, failed]

end ScanReport

/-- Every result is there or is an error. -/
theorem length_succeeded_add_length_failed {ε α : Type} (results : List (Except ε α)) :
    (succeeded results).length + (failed results).length = results.length := by
  induction results with
  | nil => rfl
  | cons result rest ih =>
    cases result with
    | ok a => simp [succeeded, failed] at ih ⊢; omega
    | error e => simp [succeeded, failed] at ih ⊢; omega

namespace Settings

variable {s : Settings}

/-- The entry of a file in the list of skipped files, given what came of it. -/
def skippedFile? (file : SourceFile) : Except Fault Nat → Option SkippedFile
  | .ok _ => none
  | .error fault => some ⟨file.path, .parse, fault.message⟩

/-- The entry of a file that is processed on its own. -/
def ownSkippedFile? (s : Settings) (file : SourceFile) : Option SkippedFile :=
  skippedFile? file (s.extractor.process file .empty).1

/-- A well-formed file comes to its icons. -/
theorem scanFile_ok {file : SourceFile} {found : IconSet}
    (h : s.extractor.extract file.text = .ok found) : s.scanFile file = .ok found := by
  unfold scanFile
  rw [Extractor.process_ok h]
  -- The file starts with an empty set, which adds nothing.
  exact congrArg Except.ok (IconSet.empty_union found)

/-- Any other file comes to its entry in the list of skipped files. -/
theorem scanFile_error {file : SourceFile} {fault : Fault}
    (h : s.extractor.extract file.text = .error fault) :
    s.scanFile file = .error ⟨file.path, .parse, fault.message⟩ := by
  unfold scanFile
  rw [Extractor.process_error h]

/-- A file comes to a set exactly when that is what it has. -/
theorem scanFile_eq_ok_iff {file : SourceFile} {found : IconSet} :
    s.scanFile file = .ok found ↔ s.extractor.extract file.text = .ok found := by
  cases h : s.extractor.extract file.text with
  | ok icons => rw [scanFile_ok h, Except.ok.injEq, Except.ok.injEq]
  | error fault =>
    rw [scanFile_error h]
    constructor
    · intro h
      cases h
    · intro h
      cases h

/-- The icons of a scan are those that the project keeps and those of each file. -/
theorem mem_icons_scanSources {sources : List SourceFile} {name : String} :
    name ∈ (s.scanSources sources).icons ↔ name ∈ IconSet.ofList s.safelist ∨
      ∃ file ∈ sources, ∃ found, s.extractor.extract file.text = .ok found ∧ name ∈ found := by
  unfold scanSources
  rw [ScanReport.mem_icons_foldl]
  refine or_congr_right ?_
  constructor
  · rintro ⟨icons, hicons, hname⟩
    obtain ⟨file, hfile, h⟩ := List.mem_map.1 hicons
    exact ⟨file, hfile, icons, scanFile_eq_ok_iff.1 h, hname⟩
  · rintro ⟨file, hfile, found, h, hname⟩
    exact ⟨found, List.mem_map.2 ⟨file, hfile, scanFile_ok h⟩, hname⟩

/-- The results of files that are there are as many as the well-formed files. -/
theorem length_succeeded_scanFile (sources : List SourceFile) (icons : IconSet) :
    (succeeded (sources.map s.scanFile)).length =
      (succeeded (s.extractor.processAll sources icons).1).length := by
  rw [Extractor.processAll_fst]
  induction sources with
  | nil => rfl
  | cons file rest ih =>
    cases h : s.extractor.extract file.text with
    | ok found => simp [succeeded, scanFile_ok h, h, Except.map] at ih ⊢; exact ih
    | error fault => simp [succeeded, scanFile_error h, h, Except.map] at ih ⊢; exact ih

/-- The skipped files of a scan are those that are skipped when files are processed one after
another. -/
theorem failed_scanFile (sources : List SourceFile) (icons : IconSet) :
    failed (sources.map s.scanFile) =
      (sources.zip (s.extractor.processAll sources icons).1).filterMap
        fun (file, outcome) => skippedFile? file outcome := by
  rw [Extractor.processAll_fst]
  induction sources with
  | nil => rfl
  | cons file rest ih =>
    cases h : s.extractor.extract file.text with
    | ok found => simp [failed, scanFile_ok h, h, Except.map, skippedFile?] at ih ⊢; exact ih
    | error fault => simp [failed, scanFile_error h, h, Except.map, skippedFile?] at ih ⊢; exact ih

/-- The skipped files of a scan are those that are skipped on their own, in the order of the
files. -/
theorem skipped_scanSources (sources : List SourceFile) :
    (s.scanSources sources).skipped = sources.filterMap s.ownSkippedFile? := by
  unfold scanSources
  rw [ScanReport.skipped_foldl, List.nil_append]
  induction sources with
  | nil => rfl
  | cons file rest ih =>
    unfold failed at ih ⊢
    rw [List.map_cons, List.filterMap_cons, List.filterMap_cons, ih]
    unfold ownSkippedFile?
    rw [Extractor.process_fst]
    cases h : s.extractor.extract file.text with
    | ok found => rw [scanFile_ok h]; rfl
    | error fault => rw [scanFile_error h]; rfl

/-- The order of the files decides neither the icons of a scan nor the number of files scanned. -/
theorem scanSources_perm {sources reordered : List SourceFile} (h : sources.Perm reordered) :
    (s.scanSources reordered).icons = (s.scanSources sources).icons ∧
      (s.scanSources reordered).filesScanned = (s.scanSources sources).filesScanned := by
  constructor
  · refine IconSet.ext_mem fun name => ?_
    rw [mem_icons_scanSources, mem_icons_scanSources]
    refine or_congr_right (exists_congr fun file => ?_)
    rw [h.mem_iff]
  · unfold scanSources
    rw [ScanReport.filesScanned_foldl, ScanReport.filesScanned_foldl]
    exact congrArg _ (((h.map s.scanFile).filterMap _).length_eq).symm

/-- Scanning source files each into a set of its own, and uniting the sets, gives the report of
processing them one after another into one set that starts with the icons the project keeps: the
icons of that set, the number of well-formed files, and the entries of the others in their order. A
file with a fault leaves the set as it was, and any other is told the number of different names that
it has on its own, which it adds to whatever was in the set. Files in another order give the same
icons and the same number, and the same entries in that order; and every file is either counted or
listed. -/
theorem scanSources_eq_processAll (s : Settings) (sources : List SourceFile) :
    let run := s.extractor.processAll sources (.ofList s.safelist)
    let report := s.scanSources sources
    report.icons = run.2 ∧
    report.filesScanned = (succeeded run.1).length ∧
    report.skipped = ((sources.zip run.1).filterMap fun (file, outcome) =>
      skippedFile? file outcome) ∧
    (∀ file,
      (∃ fault, s.extractor.extract file.text = .error fault ∧
        ∀ icons, s.extractor.process file icons = (.error fault, icons)) ∨
      (∃ found, s.extractor.extract file.text = .ok found ∧ found.names.Nodup ∧
        ∀ icons, s.extractor.process file icons =
          (.ok found.names.length, icons.union found))) ∧
    (∀ reordered, sources.Perm reordered →
      (s.scanSources reordered).icons = report.icons ∧
      (s.scanSources reordered).filesScanned = report.filesScanned ∧
      report.skipped = sources.filterMap s.ownSkippedFile? ∧
      (s.scanSources reordered).skipped = reordered.filterMap s.ownSkippedFile?) ∧
    report.filesScanned + report.skipped.length = sources.length := by
  dsimp only
  have hscanned : (s.scanSources sources).filesScanned =
      (succeeded (sources.map s.scanFile)).length := by
    unfold scanSources
    rw [ScanReport.filesScanned_foldl, Nat.zero_add]
  have hskipped : (s.scanSources sources).skipped = failed (sources.map s.scanFile) := by
    unfold scanSources
    rw [ScanReport.skipped_foldl, List.nil_append]
  refine ⟨?_, ?_, ?_, ?_, ?_, ?_⟩
  -- The two ways agree.
  · refine IconSet.ext_mem fun name => ?_
    rw [mem_icons_scanSources, Extractor.mem_processAll_snd]
  · rw [hscanned, length_succeeded_scanFile]
  · rw [hskipped, failed_scanFile]
  -- A file on its own.
  · intro file
    cases hextract : s.extractor.extract file.text with
    | ok found => exact .inr ⟨found, rfl, found.nodup_names, Extractor.process_ok hextract⟩
    | error fault => exact .inl ⟨fault, rfl, Extractor.process_error hextract⟩
  -- Files in another order.
  · intro reordered hperm
    obtain ⟨hicons, hcount⟩ := scanSources_perm (s := s) hperm
    exact ⟨hicons, hcount, skipped_scanSources sources, skipped_scanSources reordered⟩
  · rw [hscanned, hskipped, length_succeeded_add_length_failed, List.length_map]

end Settings

end IconSubset
