import IconSubset.Proofs.CommandLine.Answers
import IconSubset.Proofs.Files.Writing

/-!
# What a run leaves behind

Only `inject` with an output touches the files, and it does so after everything else: the document
has been read and the project scanned before a directory is made, and the directories are there
before the text is written (`inject_output_cases`). So a run that fails answers nothing and changes
no file and no link, unless all that is left to do is to say where the document is and this cannot
be said (`run_fails_clean`). One that succeeds has written what it would have answered without an
output, although the file may be the document itself or one that was scanned (`inject_output`).
-/

namespace IconSubset

namespace CommandLine

variable {c : CommandLine} {w : World}

/-! ## Why a run fails -/

/-- The error of something that failed under another name has that name. -/
theorem exists_of_mapError {ε ε' α : Type} {x : Except ε α} {f : ε → ε'} {e : ε'}
    (h : x.mapError f = .error e) : ∃ error, e = f error := by
  cases x with
  | ok a => cases h
  | error error => exact ⟨error, (Except.error.inj h).symm⟩

/-- Making room for a file changes no file and no link. -/
theorem leafAt?_makeRoom (files : Entry) (output : ByteString) (names : List ByteString) :
    (makeRoom files output).1.leafAt? names = files.leafAt? names := by
  unfold makeRoom
  split
  · rfl
  · split_ifs
    · rfl
    · exact files.leafAt?_makeDirectories _ names

/-- Writing a text fails and changes no file and no link, or it succeeds. Then the output leads to a
file with the text, and no other file and no link has changed. -/
theorem writeOut_cases (files : Entry) (output : ByteString) (text : String) :
    (∃ e, (writeOut files output text).2 = .error e ∧ (∀ error, e ≠ .unprintable error) ∧
      ∀ names, (writeOut files output text).1.leafAt? names = files.leafAt? names) ∨
    (writeOut files output text).2 = .ok () ∧
      (writeOut files output text).1.readText output = .ok text ∧
      ∃ names, (writeOut files output text).1.locate output =
          .ok { names, occupant := some (.file (.text text)) } ∧
        ∀ others, others ≠ names →
          (writeOut files output text).1.leafAt? others = files.leafAt? others := by
  have hroom := leafAt?_makeRoom files output
  have hkind : ∀ e, (makeRoom files output).2 = .error e → ∀ error, e ≠ .unprintable error := by
    intro e he error
    unfold makeRoom at he
    split at he
    · cases he
    · split_ifs at he
      obtain ⟨_, rfl⟩ := exists_of_mapError he
      nofun
  unfold writeOut
  split
  · -- Directories that were made before the failure are no files.
    next room e hmade =>
    rw [hmade] at hroom
    exact .inl ⟨e, rfl, hkind e (congrArg Prod.snd hmade), hroom⟩
  · next room hmade =>
    rw [hmade] at hroom
    split
    · next files' hwritten =>
      obtain ⟨names, hlocate, hothers⟩ := Entry.writes_of_writeText hwritten
      refine .inr ⟨rfl, Entry.readText_writeText hwritten, names, hlocate, fun others hother => ?_⟩
      exact (hothers others hother).trans (hroom others)
    · next error _ => exact .inl ⟨.unwritable output error, rfl, nofun, hroom⟩

/-! ## What a command does to the files -/

/-- What is told of a document that was written to a file with this path. -/
def toldValue (path : String) (report : ScanReport) : Json.Value :=
  .object [("output", .string path), ("icons", .ofNat report.icons.toList.length),
    ("files_scanned", .ofNat report.filesScanned), ("files_skipped", .ofNat report.skipped.length)]

/-- Something is told unless the run is to be quiet, and for that the path must be a text. -/
theorem told_cases (c : CommandLine) (path : ByteString) (report : ScanReport) :
    (c.quiet = true ∧ c.told path report = .ok "") ∨
    (c.quiet = false ∧ (∃ text : String, path = text ∧
      c.told path report = .ok (Output.print c.format (toldValue text report) ++ "\n"))) ∨
    (c.quiet = false ∧ (∀ text : String, path ≠ text) ∧
      c.told path report = .error (.unprintable .pathNotText)) := by
  cases hquiet : c.quiet with
  | true => exact .inl ⟨rfl, if_pos hquiet⟩
  | false =>
    have htold : c.told path report = c.answer (WritingAnswer.toJson ⟨path, report⟩) :=
      if_neg (Bool.eq_false_iff.1 hquiet)
    cases htext : path.text? with
    | some text =>
      refine .inr (.inl ⟨rfl, text, ByteString.text?_eq_some_iff.1 htext, ?_⟩)
      rw [htold, WritingAnswer.toJson, ByteString.toJson, htext]
      rfl
    | none =>
      refine .inr (.inr ⟨rfl, fun text hpath => ?_, ?_⟩)
      · rw [hpath, ByteString.text?_ofString] at htext
        cases htext
      · rw [htold, WritingAnswer.toJson, ByteString.toJson, htext]
        rfl

/-- `inject` with an output fails before it touches the files, when the document cannot be read or
the survey fails, or it writes the document with the link. -/
theorem inject_output_cases {input path : ByteString} {o : ScanOptions}
    (h : c.command = .inject input (some path) o) :
    (∃ e, (document w input = .error e ∨ (c.survey w).2 = .error e) ∧
      (c.work w).result = .error e ∧ (c.work w).files = w.files) ∨
    ∃ html s report, document w input = .ok html ∧ (c.survey w).2 = .ok (s, report) ∧
      (c.work w).result =
        (writeOut w.files path (linked html s report)).2.bind (fun () => c.told path report) ∧
      (c.work w).files = (writeOut w.files path (linked html s report)).1 := by
  unfold work
  rw [h]
  dsimp only
  unfold inject
  -- The document is read first, then the project is surveyed; both leave the files alone.
  cases document w input with
  | error e => exact .inl ⟨e, .inl rfl, rfl, rfl⟩
  | ok html =>
    dsimp only
    cases (c.survey w).2 with
    | error e => exact .inl ⟨e, .inr rfl, rfl, rfl⟩
    | ok found =>
      obtain ⟨s, report⟩ := found
      exact .inr ⟨html, s, report, rfl, rfl, rfl, rfl⟩

/-- What `inject` with an output does to a project, compared with what `inject` without one and
`scan` say of the same project. -/
structure Delivers (c : CommandLine) (w : World) (input path : ByteString) (o : ScanOptions) :
    Prop where
  /-- Without an output, `inject` succeeds as well. -/
  prints : ((c.doing (.inject input none o) c.format).run w).status = 0
  /-- The text of the file is what `inject` answers without an output. -/
  text_eq : ((c.doing (.inject input (some path) o) c.format).run w).files.readText path =
    .ok ((c.doing (.inject input none o) c.format).run w).output
  /-- No file and no link has changed but the one that the path leads to. -/
  others_eq : ∃ names content,
    ((c.doing (.inject input (some path) o) c.format).run w).files.locate path =
      .ok { names, occupant := some (.file content) } ∧
    ∀ others, others ≠ names →
      ((c.doing (.inject input (some path) o) c.format).run w).files.leafAt? others =
        w.files.leafAt? others
  /-- The answer sums up what the scan finds, unless it is to be quiet. This is what `scan` tells
  when it can tell it. -/
  told_eq : ∃ s report, (c.doing (.scan o) .raw).settings w = .ok s ∧
    s.scan w.files = .ok report ∧
    (report.Textual →
      Json.fieldIn? ((c.doing (.scan o) .raw).run w).output "icons" =
        some (.ofStrings report.icons.toList) ∧
      Json.fieldIn? ((c.doing (.scan o) .raw).run w).output "files_scanned" =
        some (.ofNat report.filesScanned) ∧
      Json.fieldIn? ((c.doing (.scan o) .raw).run w).output "skipped" =
        some (.array (report.skipped.map SkippedFile.value))) ∧
    ((c.quiet = true ∧
        ((c.doing (.inject input (some path) o) c.format).run w).output = "") ∨
      (c.quiet = false ∧ ∃ text : String, path = text ∧
        ((c.doing (.inject input (some path) o) c.format).run w).output =
          Output.print c.format (toldValue text report) ++ "\n"))

/-- `inject` with an output that succeeds has put into the file what it answers without one,
whatever the file was before, and has changed nothing else. -/
theorem inject_output (c : CommandLine) (w : World) {input path : ByteString} {o : ScanOptions}
    (h : ((c.doing (.inject input (some path) o) c.format).run w).status = 0) :
    c.Delivers w input path o := by
  obtain ⟨e, -, he, -⟩ | ⟨html, s, report, hdocument, hsurvey, hresult, hfiles⟩ :=
    inject_output_cases (c := c.doing (.inject input (some path) o) c.format) (w := w) rfl
  · rw [(run_of_error he).1] at h
    cases h
  -- The other two commands start from the same survey.
  have hscan : ((c.doing (.scan o) .raw).survey w).2 = .ok (s, report) := hsurvey
  have hprint : ((c.doing (.inject input none o) c.format).survey w).2 = .ok (s, report) := hsurvey
  obtain ⟨hprints, hprinted, -⟩ := run_inject_none rfl hdocument hprint
  obtain ⟨e, he, -, -⟩ | ⟨hdone, htext, hwritten⟩ :=
    writeOut_cases w.files path (linked html s report)
  · rw [he] at hresult
    rw [(run_of_error hresult).1] at h
    cases h
  rw [hdone] at hresult
  rw [← hfiles, ← files_run] at htext hwritten
  obtain ⟨names, hlocate, hothers⟩ := hwritten
  refine ⟨hprints, hprinted ▸ htext, ⟨names, _, hlocate, hothers⟩, s, report,
    settings_of_survey hscan, scan_of_survey hscan, fun htextual => ?_, ?_⟩
  · exact ⟨fieldIn?_scan rfl rfl hscan htextual "icons",
      fieldIn?_scan rfl rfl hscan htextual "files_scanned",
      fieldIn?_scan rfl rfl hscan htextual "skipped"⟩
  · obtain ⟨hquiet, htold⟩ | ⟨hquiet, text, hpath, htold⟩ | ⟨-, -, htold⟩ :=
      (c.doing (.inject input (some path) o) c.format).told_cases path report
    · exact .inl ⟨hquiet, (run_of_ok (hresult.trans htold)).2.1⟩
    · exact .inr ⟨hquiet, text, hpath, (run_of_ok (hresult.trans htold)).2.1⟩
    · rw [(run_of_error (hresult.trans htold)).1] at h
      cases h

/-- The document of a project is replaced by the one with the link, although it is scanned too. -/
theorem inject_output_page :
    ((pageLine.doing (.inject "src/page.tsx" (some "src/page.tsx") pageOptions) .json).run
        page).status = 0 ∧
      pageLine.Delivers page "src/page.tsx" "src/page.tsx" pageOptions := by
  have hroom : makeRoom page.files "src/page.tsx" = (page.files, .ok ()) := by cbv
  have hplace : page.files.locate "src/page.tsx" = .ok
      { names := ["src", "page.tsx"],
        occupant := some (.file (.text "<html><head></head></html>")) } := by cbv
  have hwritten : ∀ text, (writeOut page.files "src/page.tsx" text).2 = .ok () := by
    intro text
    unfold writeOut Entry.writeText
    rw [hroom]
    dsimp only
    rw [hplace]
  have hstatus : ((pageLine.doing (.inject "src/page.tsx" (some "src/page.tsx") pageOptions)
      .json).run page).status = 0 := by
    obtain ⟨found, hfound⟩ := exists_survey_page
      (.inject "src/page.tsx" (some "src/page.tsx") pageOptions) rfl .json
    obtain ⟨e, he | he, -⟩ | ⟨html, s, report, -, -, hresult, -⟩ := inject_output_cases (w := page)
      (c := pageLine.doing (.inject "src/page.tsx" (some "src/page.tsx") pageOptions) .json) rfl
    · cases document_page.symm.trans he
    · cases hfound.symm.trans he
    · rw [hwritten] at hresult
      obtain ⟨-, htold⟩ | ⟨-, text, -, htold⟩ | ⟨-, hnone, -⟩ := told_cases
        (pageLine.doing (.inject "src/page.tsx" (some "src/page.tsx") pageOptions) .json)
        "src/page.tsx" report
      · exact (run_of_ok (hresult.trans htold)).1
      · exact (run_of_ok (hresult.trans htold)).1
      · exact absurd rfl (hnone "src/page.tsx")
  exact ⟨hstatus, inject_output pageLine page hstatus⟩

end CommandLine

end IconSubset
