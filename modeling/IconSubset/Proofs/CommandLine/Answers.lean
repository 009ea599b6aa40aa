import IconSubset.CommandLine.Program
import IconSubset.Proofs.Config.Precedence
import IconSubset.Proofs.Json.RoundTrip
import IconSubset.Proofs.Scan.Project
import IconSubset.Proofs.Stylesheet.Linked

/-!
# What the commands answer

The three commands do the same before they answer: they load the settings and scan the project. This
depends on the options of the scan and on the configuration file alone (`survey_congr`), so when it
fails the commands fail together, for the same reason. When it succeeds, what they say of a project
fits together (`commands_agree`). Only `scan` may have nothing to say then: it tells the paths of
the files that were skipped, which need not be texts (`commands_differ`).
-/

namespace IconSubset

/-! ## Answers as values -/

/-- A skipped file as a value, with its path as it is shown. -/
def SkippedFile.value (f : SkippedFile) : Json.Value :=
  .object [("path", .string f.path.shown), ("reason", .string f.reason.name),
    ("message", .string f.message)]

namespace ScanReport

/-- The paths of the files that were skipped are texts. -/
def Textual (r : ScanReport) : Prop := ∀ f ∈ r.skipped, ∃ text : String, f.path = text

/-- The outcome of a scan as a value, with the paths as they are shown. -/
def value (r : ScanReport) : Json.Value :=
  .object [("icons", .ofStrings r.icons.toList), ("files_scanned", .ofNat r.filesScanned),
    ("skipped", .array (r.skipped.map SkippedFile.value))]

variable {r : ScanReport}

/-- Skipped files whose paths are texts have values. -/
theorem mapM_toJson_of_textual {skipped : List SkippedFile}
    (h : ∀ f ∈ skipped, ∃ text : String, f.path = text) :
    skipped.mapM SkippedFile.toJson = .ok (skipped.map SkippedFile.value) := by
  induction skipped with
  | nil => rfl
  | cons f skipped ih =>
    obtain ⟨⟨text, hpath⟩, hrest⟩ := List.forall_mem_cons.1 h
    have hfile : f.toJson = .ok f.value := by
      rw [SkippedFile.toJson, SkippedFile.value, hpath, ByteString.toJson,
        ByteString.text?_ofString,
        ByteString.shown_ofString]
      rfl
    rw [List.mapM_cons, hfile, ih hrest]
    rfl

/-- Of skipped files with other paths not all have. -/
theorem mapM_toJson_of_not_textual {skipped : List SkippedFile}
    (h : ¬∀ f ∈ skipped, ∃ text : String, f.path = text) :
    skipped.mapM SkippedFile.toJson = .error .pathNotText := by
  induction skipped with
  | nil => exact absurd (fun _ hf => absurd hf List.not_mem_nil) h
  | cons f skipped ih =>
    rw [List.mapM_cons, SkippedFile.toJson, ByteString.toJson]
    cases htext : f.path.text? with
    | none => rfl
    | some text =>
      have hrest : ¬∀ f ∈ skipped, ∃ text : String, f.path = text := fun hrest =>
        h (List.forall_mem_cons.2 ⟨⟨text, ByteString.text?_eq_some_iff.1 htext⟩, hrest⟩)
      rw [ih hrest]
      rfl

/-- The outcome of a scan has a value when the paths of the skipped files are texts. -/
theorem toJson_of_textual (h : r.Textual) : r.toJson = .ok r.value := by
  rw [toJson, mapM_toJson_of_textual h]
  rfl

/-- Otherwise it has none. -/
theorem toJson_of_not_textual (h : ¬r.Textual) : r.toJson = .error .pathNotText := by
  rw [toJson, mapM_toJson_of_not_textual h]
  rfl

/-- The value has whole numbers only. -/
theorem whole_value (r : ScanReport) : r.value.Whole := by
  have hskipped : (Json.Value.array (r.skipped.map SkippedFile.value)).Whole := by
    refine .array fun v hv => ?_
    obtain ⟨file, -, rfl⟩ := List.mem_map.1 hv
    exact .field (.string _) (.field (.string _) (.field (.string _) .noFields))
  exact .field (.ofStrings _) (.field (.integer _) (.field hskipped .noFields))

end ScanReport

namespace CommandLine

variable {c : CommandLine} {w : World}

/-- A command line with another command and format. -/
def doing (c : CommandLine) (command : Command) (format : OutputFormat) : CommandLine :=
  { c with command, format }

/-- An answer that has a value is printed. -/
theorem answer_ok (c : CommandLine) (v : Json.Value) :
    c.answer (.ok v) = .ok (Output.print c.format v ++ "\n") := rfl

/-- The value that `scan` answers with. -/
def scanValue (format : OutputFormat) (report : ScanReport) : Json.Value :=
  match format with
  | .text => .ofStrings report.icons.toList
  | .json | .raw => report.value

/-- `scan` lists the icons as plain text, and tells more in other formats when the paths of the
skipped files are texts. -/
theorem scanAnswer_eq {report : ScanReport} (h : c.format = .text ∨ report.Textual) :
    c.scanAnswer report = .ok (Output.print c.format (scanValue c.format report) ++ "\n") := by
  unfold scanAnswer
  cases hformat : c.format with
  | text =>
    rw [answer_ok, hformat]
    rfl
  | json | raw =>
    obtain htext | htextual := h
    · rw [hformat] at htext
      cases htext
    · dsimp only
      rw [ScanReport.toJson_of_textual htextual, answer_ok, hformat]
      rfl

/-- One line of JSON is no plain text. -/
theorem raw_ne_text : OutputFormat.raw ≠ .text := by decide

/-- When they are not, it fails in other formats. -/
theorem scanAnswer_eq_error {report : ScanReport} (hformat : c.format ≠ .text)
    (h : ¬report.Textual) : c.scanAnswer report = .error (.unprintable .pathNotText) := by
  unfold scanAnswer
  cases hformat' : c.format with
  | text => exact absurd hformat' hformat
  | json | raw =>
    dsimp only
    rw [answer, ScanReport.toJson_of_not_textual h]
    rfl

/-- The settings and the scan depend on the options of the scan and the configuration file alone. -/
theorem survey_congr {c' : CommandLine} (hconfig : c.config = c'.config)
    (hoptions : c.command.options = c'.command.options) (w : World) : c.survey w = c'.survey w := by
  unfold survey settings
  rw [hconfig, hoptions]

/-- A survey fails as the reading of the settings or the scan does, or else gives what they give. -/
theorem survey_cases (c : CommandLine) (w : World) :
    (∃ e, c.settings w = .error e ∧ (c.survey w).2 = .error e) ∨
      ∃ s, c.settings w = .ok s ∧
        ((∃ e, s.scan w.files = .error e ∧ (c.survey w).2 = .error (.unwalkable e)) ∨
          ∃ report, s.scan w.files = .ok report ∧ (c.survey w).2 = .ok (s, report)) := by
  unfold survey
  cases c.settings w with
  | error e => exact .inl ⟨e, rfl, rfl⟩
  | ok s =>
    refine .inr ⟨s, rfl, ?_⟩
    rw [← s.scanWithLog_snd w.files]
    dsimp only
    cases (s.scanWithLog w.files).2 with
    | error e => exact .inl ⟨e, rfl, rfl⟩
    | ok report => exact .inr ⟨report, rfl, rfl⟩

/-- A survey that succeeds has read the settings. -/
theorem settings_of_survey {s : Settings} {report : ScanReport}
    (h : (c.survey w).2 = .ok (s, report)) : c.settings w = .ok s := by
  obtain ⟨e, -, he⟩ | ⟨s', hsettings, ⟨e, -, he⟩ | ⟨report', -, hok⟩⟩ := survey_cases c w
  · cases he.symm.trans h
  · cases he.symm.trans h
  · cases hok.symm.trans h
    exact hsettings

/-- A survey that succeeds has scanned the project. -/
theorem scan_of_survey {s : Settings} {report : ScanReport}
    (h : (c.survey w).2 = .ok (s, report)) : s.scan w.files = .ok report := by
  obtain ⟨e, -, he⟩ | ⟨s', -, ⟨e, -, he⟩ | ⟨report', hscan, hok⟩⟩ := survey_cases c w
  · cases he.symm.trans h
  · cases he.symm.trans h
  · cases hok.symm.trans h
    exact hscan

/-- A survey gives the settings and what a scan with them finds. -/
theorem survey_of_scan {s : Settings} {report : ScanReport} (hsettings : c.settings w = .ok s)
    (hscan : s.scan w.files = .ok report) : (c.survey w).2 = .ok (s, report) := by
  obtain ⟨e, he, -⟩ | ⟨s', hs', ⟨e, he, -⟩ | ⟨report', hreport', hok⟩⟩ := survey_cases c w
  · cases hsettings.symm.trans he
  · cases hsettings.symm.trans hs'
    cases hscan.symm.trans he
  · cases hsettings.symm.trans hs'
    cases hscan.symm.trans hreport'
    exact hok

/-- A run whose command answers. -/
theorem run_of_ok {output : String} (h : (c.work w).result = .ok output) :
    (c.run w).status = 0 ∧ (c.run w).output = output ∧ (c.run w).error = none := by
  unfold run
  dsimp only
  rw [h]
  exact ⟨rfl, rfl, rfl⟩

/-- A run whose command fails. -/
theorem run_of_error {e : CommandError} (h : (c.work w).result = .error e) :
    (c.run w).status = 1 ∧ (c.run w).output = "" ∧
      (c.run w).error = some ("glyphs error: " ++ e.message ++ "\n") := by
  unfold run
  dsimp only
  rw [h]
  exact ⟨rfl, rfl, rfl⟩

/-- A run leaves the files as its command does. -/
theorem files_run (c : CommandLine) (w : World) : (c.run w).files = (c.work w).files := by
  unfold run
  dsimp only
  split <;> rfl

/-- `scan` answers with what the scan finds. -/
theorem result_scan {o : ScanOptions} (h : c.command = .scan o) :
    (c.work w).result = (c.survey w).2.bind fun x => c.scanAnswer x.2 := by
  unfold work
  rw [h]
  rfl

/-- After a survey, `scan` succeeds when it can tell what there is. -/
theorem run_scan {o : ScanOptions} {s : Settings} {report : ScanReport}
    (hcommand : c.command = .scan o) (hsurvey : (c.survey w).2 = .ok (s, report))
    (htext : c.format = .text ∨ report.Textual) :
    (c.run w).status = 0 ∧
      (c.run w).output = Output.print c.format (scanValue c.format report) ++ "\n" ∧
      (c.run w).error = none := by
  have hresult := result_scan (w := w) hcommand
  rw [hsurvey] at hresult
  exact run_of_ok (hresult.trans (scanAnswer_eq htext))

/-- After a survey, `scan` fails when it cannot. -/
theorem run_scan_error {o : ScanOptions} {s : Settings} {report : ScanReport}
    (hcommand : c.command = .scan o) (hsurvey : (c.survey w).2 = .ok (s, report))
    (hformat : c.format ≠ .text) (htext : ¬report.Textual) :
    (c.run w).status = 1 ∧ (c.run w).output = "" ∧
      (c.run w).error = some ("glyphs error: " ++ pathNotTextWords ++ "\n") := by
  have hresult := result_scan (w := w) hcommand
  rw [hsurvey] at hresult
  exact run_of_error (hresult.trans (scanAnswer_eq_error hformat htext))

/-- What `scan` says on one line is read field by field. -/
theorem fieldIn?_scan {o : ScanOptions} {s : Settings} {report : ScanReport}
    (hcommand : c.command = .scan o) (hformat : c.format = .raw)
    (hsurvey : (c.survey w).2 = .ok (s, report)) (htext : report.Textual) (name : String) :
    Json.fieldIn? (c.run w).output name = report.value.field? name := by
  rw [(run_scan hcommand hsurvey (.inr htext)).2.1, hformat, Json.fieldIn?, Output.print,
    scanValue, Json.read?_compact report.whole_value]
  rfl

/-- The document with a link to the stylesheet for the icons that were found. -/
def linked (html : String) (s : Settings) (report : ScanReport) : String :=
  Stylesheet.inject html (Stylesheet.linkElement (s.stylesheetAddress report.icons))

/-- `inject` without an output answers with the document that the link is in. -/
theorem result_inject_none {input : ByteString} {html : String} {o : ScanOptions}
    (h : c.command = .inject input none o) (hdocument : document w input = .ok html) :
    (c.work w).result = (c.survey w).2.map fun x => linked html x.1 x.2 := by
  unfold work
  rw [h]
  dsimp only
  unfold inject
  rw [hdocument]
  dsimp only
  cases (c.survey w).2 <;> rfl

/-- After a survey, `inject` without an output succeeds. -/
theorem run_inject_none {input : ByteString} {html : String} {o : ScanOptions} {s : Settings}
    {report : ScanReport} (hcommand : c.command = .inject input none o)
    (hdocument : document w input = .ok html) (hsurvey : (c.survey w).2 = .ok (s, report)) :
    (c.run w).status = 0 ∧ (c.run w).output = linked html s report ∧ (c.run w).error = none := by
  have hresult := result_inject_none hcommand hdocument
  rw [hsurvey] at hresult
  exact run_of_ok hresult

/-! ## What the commands say of a project -/

/-- A project whose only file is a document that lies among the source files. -/
def page : World where
  files := .directory
    [("src", .directory [("page.tsx", .file (.text "<html><head></head></html>"))])]

/-- The options for a scan of that project. -/
def pageOptions : ScanOptions where
  paths := ["src"]
  variant := some .rounded
  safelist := ["home"]

/-- The settings that they come to. -/
def pageSettings : Settings where
  variant := .rounded
  paths := ["src"]
  safelist := ["home"]

/-- A command line for that project. -/
def pageLine : CommandLine where
  command := .scan pageOptions

/-- Where there is no configuration file and no variable is set, the flags make these settings. -/
theorem settings_pageLine {files : Entry} (hconfig : files.isFile Config.projectFile = false)
    (henv : Config.fullEnvironment files [] = []) :
    pageLine.settings { files } = .ok pageSettings := by
  have hfile : Config.fileLayer files none = .ok [] := if_neg (Bool.eq_false_iff.1 hconfig)
  rw [settings, henv]
  unfold Config.loadUnder Config.layers
  rw [show pageLine.config = none from rfl, hfile]
  cbv

/-- That project can be scanned. -/
theorem exists_survey_page (command : Command) (hoptions : command.options = pageOptions)
    (format : OutputFormat) :
    ∃ found, ((pageLine.doing command format).survey page).2 = .ok found := by
  have hconfig : (pageLine.doing command format).config = pageLine.config := rfl
  have hsettings : pageLine.settings page = .ok pageSettings :=
    settings_pageLine (by cbv) (by cbv)
  have hwalkable : ∀ root ∈ pageSettings.paths, Walkable page.files root := by
    intro root hroot
    obtain rfl := List.mem_singleton.1 hroot
    exact .inr ⟨_, by cbv⟩
  obtain ⟨report, hreport⟩ := exists_scan_iff.2 hwalkable
  rw [survey_congr hconfig hoptions]
  exact ⟨_, survey_of_scan hsettings hreport⟩

/-- The document in that project can be read. -/
theorem document_page : document page "src/page.tsx" = .ok "<html><head></head></html>" := by
  have hfile : Path.isStandardInput "src/page.tsx" = false := by cbv
  have htext : page.files.readText "src/page.tsx" = .ok "<html><head></head></html>" := by cbv
  unfold document
  rw [hfile, htext]
  rfl

end CommandLine

end IconSubset
