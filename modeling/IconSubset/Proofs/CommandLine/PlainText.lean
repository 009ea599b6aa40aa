import IconSubset.Proofs.CommandLine.Answers
import IconSubset.Proofs.Scan.Redundancy
import IconSubset.Proofs.Text.Splitting

/-!
# The icons as plain text

As plain text a list has one item a line, and the items stand as they are. So the lines of what
`scan` answers are those of the names, one name after the other (`scan_text_lines`), and the names
can be read from them exactly when every name is a line of its own. A name that goes over two lines
in the source does so in the answer as well (`scan_text_twoLines`).

Otherwise than as plain text the files that were skipped are told too, by their paths. These are
texts when the names in the project are, and those in its settings (`Textual.of_scan`).
-/

namespace IconSubset

/-- Texts that are put together with a separator are split into the parts of each. -/
theorem Text.split_intercalate {c : Char} {parts : List String} (hne : parts ≠ []) :
    Text.split c (String.intercalate (String.singleton c) parts) =
      parts.flatMap (Text.split c) := by
  induction parts with
  | nil => exact absurd rfl hne
  | cons first rest ih =>
    cases rest with
    | nil => rw [String.intercalate_singleton, List.flatMap_singleton]
    | cons next rest =>
      have htail := ih (List.cons_ne_nil next rest)
      rw [String.intercalate_cons_cons, List.flatMap_cons, ← htail]
      unfold Text.split
      rw [String.toList_append, String.toList_append, String.toList_singleton, List.append_assoc,
        List.singleton_append, List.splitOn_append_cons_self, List.map_append]

/-- A list of texts is told by its value. -/
theorem Json.ofStrings_injective : Function.Injective Json.Value.ofStrings := by
  intro texts others h
  have hinjective : Function.Injective Json.Value.string := fun _ _ => Json.Value.string.inj
  exact List.map_injective_iff.2 hinjective (Json.Value.array.inj h)

/-- As plain text, texts have one line each. -/
theorem Output.print_ofStrings (texts : List String) :
    Output.print .text (.ofStrings texts) = String.intercalate "\n" texts := by
  have hlines : Output.lines (.ofStrings texts) = texts := by
    unfold Output.lines Json.Value.ofStrings
    dsimp only
    rw [List.map_map]
    exact List.map_id texts
  rw [Output.print, hlines]

/-! ## Paths that can be told -/

/-- A text behind another is one text. -/
theorem ByteString.ofString_append (a b : String) :
    ofString (a ++ b) = ofString a ++ ofString b := by
  ext1
  rw [bytes_append, ofString, ofString, ofString, String.toList_append, List.flatMap_append]

/-- The path of something below a directory is a text when the names are. -/
theorem Path.exists_text_foldl_child {directory : ByteString} {names : List ByteString}
    (hdirectory : ∃ text : String, directory = text)
    (hnames : ∀ n ∈ names, ∃ text : String, n = text) :
    ∃ text : String, names.foldl child directory = text := by
  induction names generalizing directory with
  | nil => exact hdirectory
  | cons name names ih =>
    obtain ⟨⟨part, rfl⟩, hrest⟩ := List.forall_mem_cons.1 hnames
    obtain ⟨text, rfl⟩ := hdirectory
    refine ih ?_ hrest
    unfold child
    split_ifs
    · exact ⟨text ++ part, (ByteString.ofString_append _ _).symm⟩
    · refine ⟨text ++ "/" ++ part, ?_⟩
      rw [ByteString.ofString_append, ByteString.ofString_append]

/-- The files that cannot be collected lie under the roots. -/
theorem exists_liesUnder_of_mem_skipped {tree : Entry} {roots : List ByteString}
    {collections : List Collection} (h : List.Forall₂ (Collects tree) roots collections)
    {f : SkippedFile} (hf : f ∈ collections.flatMap Collection.skipped) :
    ∃ root ∈ roots, ∃ content, LiesUnder tree root f.path content := by
  induction h with
  | nil => cases hf
  | cons hc _ ih =>
    rw [List.flatMap_cons, List.mem_append, hc.mem_skipped] at hf
    obtain ⟨⟨readable, hlies⟩, -⟩ | hf := hf
    · exact ⟨_, List.mem_cons_self, _, hlies⟩
    · obtain ⟨root, hroot, hlies⟩ := ih hf
      exact ⟨root, List.mem_cons_of_mem _ hroot, hlies⟩

/-- What is listed lies under a root or is a further file. -/
theorem AccountsFor.path_of_mem_skipped {s : Settings} {tree : Entry}
    {collections : List Collection} {report : ScanReport}
    (h : AccountsFor s tree collections report)
    (hcollects : List.Forall₂ (Collects tree) s.paths collections) {f : SkippedFile}
    (hf : f ∈ report.skipped) :
    (∃ root ∈ s.paths, ∃ content, LiesUnder tree root f.path content) ∨ f.path ∈ s.files := by
  rw [h.skipped_eq] at hf
  simp only [List.mem_append, List.mem_filterMap] at hf
  obtain (hf | ⟨path, hpath, hf⟩) | ⟨file, hfile, hf⟩ := hf
  · exact .inl (exists_liesUnder_of_mem_skipped hcollects hf)
  · unfold unreadable? at hf
    split at hf
    · cases hf
    · obtain rfl := Option.some.inj hf
      exact .inr hpath
  · have hpath : f.path = file.path := by
      unfold Settings.ownSkippedFile? Settings.skippedFile? at hf
      split at hf
      · cases hf
      · obtain rfl := Option.some.inj hf
        rfl
    rw [hpath]
    obtain hcollected | hfurther := List.mem_append.1 hfile
    · obtain ⟨root, hroot, hlies⟩ := (mem_files_iff hcollects).1 hcollected
      exact .inl ⟨root, hroot, _, hlies⟩
    · obtain ⟨path, hpath, hread⟩ := List.mem_filterMap.1 hfurther
      exact .inr ((readable?_eq_some_iff.1 hread).1 ▸ hpath)

/-- Where the paths in the settings are texts, and so are the names of what lies under the roots, a
scan lists texts only. -/
theorem ScanReport.Textual.of_scan {s : Settings} {tree : Entry} {report : ScanReport}
    (htree : tree.IsTree) (hscan : s.scan tree = .ok report)
    (hpaths : ∀ path ∈ s.paths ++ s.files, ∃ text : String, path = text)
    (hnames : ∀ root ∈ s.paths, ∀ e content names, tree.find root = .ok e →
      Entry.Holds content names e → ∀ n ∈ names, ∃ text : String, n = text) :
    report.Textual := by
  obtain ⟨hroots, hfiles⟩ := List.forall_mem_append.1 hpaths
  obtain ⟨collections, hcollects, haccounts⟩ := exists_collections htree hscan
  intro f hf
  obtain ⟨root, hroot, content, hlies⟩ | hfile := haccounts.path_of_mem_skipped hcollects hf
  · generalize f.path = path at hlies
    obtain ⟨-, hfind, hholds, -⟩ := hlies
    exact Path.exists_text_foldl_child (hroots root hroot)
      (hnames root hroot _ _ _ hfind hholds)
  · exact hfiles _ hfile

namespace CommandLine

/-! ## The lines -/

/-- When `scan` lists icons on one line, they are those of the report of the survey. -/
theorem exists_survey_of_icons {c : CommandLine} {w : World} {o : ScanOptions} {names : List String}
    (h : Json.fieldIn? ((c.doing (.scan o) .raw).run w).output "icons" = some (.ofStrings names)) :
    ∃ s report, ((c.doing (.scan o) .raw).survey w).2 = .ok (s, report) ∧
      report.icons.toList = names := by
  have hnothing : Json.fieldIn? "" "icons" = none := by cbv
  cases hsurvey : ((c.doing (.scan o) .raw).survey w).2 with
  | error e =>
    -- Nothing is answered, and nothing is read from it.
    have hresult := result_scan (c := c.doing (.scan o) .raw) (w := w) rfl
    rw [hsurvey] at hresult
    rw [(run_of_error hresult).2.1] at h
    cases hnothing.symm.trans h
  | ok found =>
    obtain ⟨s, report⟩ := found
    refine ⟨s, report, rfl, ?_⟩
    by_cases htext : report.Textual
    · rw [fieldIn?_scan rfl rfl hsurvey htext] at h
      exact Json.ofStrings_injective (Option.some.inj h)
    · rw [(run_scan_error rfl hsurvey raw_ne_text htext).2.1] at h
      cases hnothing.symm.trans h

/-- When `scan` lists icons on one line, it succeeds as plain text too and answers with their names,
in increasing order. -/
theorem run_scan_text {c : CommandLine} {w : World} {o : ScanOptions} {names : List String}
    (h : Json.fieldIn? ((c.doing (.scan o) .raw).run w).output "icons" = some (.ofStrings names)) :
    names.Pairwise (· < ·) ∧ ((c.doing (.scan o) .text).run w).status = 0 ∧
      ((c.doing (.scan o) .text).run w).output = String.intercalate "\n" names ++ "\n" := by
  obtain ⟨s, report, hsurvey, rfl⟩ := exists_survey_of_icons h
  have hsame : (c.doing (.scan o) .text).survey w = (c.doing (.scan o) .raw).survey w :=
    survey_congr rfl rfl w
  rw [← hsame] at hsurvey
  obtain ⟨hstatus, houtput, -⟩ := run_scan rfl hsurvey (.inl rfl)
  refine ⟨report.icons.sorted, hstatus, ?_⟩
  rw [houtput, ← Output.print_ofStrings]
  rfl

/-- Where `scan` finds icons, they are listed in increasing order, and it succeeds as plain text
too. Its answer, without the line feed at its end, has the lines of the names one after the other,
and these are the names themselves exactly when no name has a line feed. -/
theorem scan_text_lines (c : CommandLine) (w : World) (o : ScanOptions) {names : List String}
    (hraw : Json.fieldIn? ((c.doing (.scan o) .raw).run w).output "icons" =
      some (.ofStrings names)) (hne : names ≠ []) :
    names.Pairwise (· < ·) ∧ ((c.doing (.scan o) .text).run w).status = 0 ∧
      ∃ text, ((c.doing (.scan o) .text).run w).output = text ++ "\n" ∧
        Text.split '\n' text = names.flatMap (Text.split '\n') ∧
          (Text.split '\n' text = names ↔ ∀ name ∈ names, '\n' ∉ name.toList) := by
  obtain ⟨hsorted, hstatus, houtput⟩ := run_scan_text hraw
  refine ⟨hsorted, hstatus, _, houtput, Text.split_intercalate hne, ?_⟩
  constructor
  · intro hlines
    exact (Text.split_eq_iff.1 hlines).2.1
  · intro hfree
    exact Text.split_eq_iff.2 ⟨hne, hfree, rfl⟩

/-- A project with one source file. -/
def oneFile (source : String) : World where
  files := .directory [("src", .directory [("A.tsx", .file (.text source))])]

/-- The options for a scan of that project. -/
def oneFileOptions : ScanOptions where
  paths := ["src"]
  variant := some .rounded

/-- A command line for that project. -/
def oneFileLine : CommandLine where
  command := .scan oneFileOptions

/-- The settings that they come to. -/
def oneFileSettings : Settings where
  variant := .rounded
  paths := ["src"]

/-- The directory of that project is found. -/
theorem find_oneFile (source : String) : (oneFile source).files.find "src" =
    .ok (.directory [("A.tsx", .file (.text source))]) := by
  cbv

/-- The names in that project can stand in paths. -/
theorem isTree_oneFile (source : String) : (oneFile source).files.IsTree := by
  have hsrc : Path.IsName "src" := by decide
  have hname : Path.IsName "A.tsx" := by decide
  refine .directory (List.nodup_singleton _) (List.forall_mem_singleton.2 hsrc)
    (List.forall_mem_singleton.2 ?_)
  exact .directory (List.nodup_singleton _) (List.forall_mem_singleton.2 hname)
    (List.forall_mem_singleton.2 (.file _))

/-- The one text that a scan of that project reads is that of its file. -/
theorem reads_oneFile_iff {source text : String} :
    oneFileSettings.Reads (oneFile source).files text ↔ text = source := by
  constructor
  · rintro (⟨hroot, hlies⟩ | ⟨hpath, -⟩)
    · obtain rfl := List.mem_singleton.1 hroot
      obtain ⟨-, hfind, hholds, -⟩ := hlies
      obtain rfl := Except.ok.inj ((find_oneFile source).symm.trans hfind)
      cases hholds with
      | inside hx hfile =>
        obtain rfl := List.mem_singleton.1 hx
        cases hfile
        rfl
    · exact absurd hpath List.not_mem_nil
  · rintro rfl
    have hinput : Path.isStandardInput "src" = false := by cbv
    have hlies := @LiesUnder.intro (oneFile text).files "src" _ ["A.tsx"] (.text text) hinput
      (find_oneFile text) (@Entry.Holds.inside _ [_] ("A.tsx", _) [] List.mem_cons_self .file)
      (by cbv)
    exact .collected List.mem_cons_self hlies

/-- The paths in the options are texts. -/
theorem textual_oneFileLine : oneFileLine.command.options.Textual :=
  List.forall_mem_singleton.2 ⟨"src", rfl⟩

/-- A scan of that project lists texts only. -/
theorem textual_oneFile {source : String} {report : ScanReport}
    (h : oneFileSettings.scan (oneFile source).files = .ok report) : report.Textual := by
  refine .of_scan (isTree_oneFile source) h textual_oneFileLine ?_
  intro root hroot e content names hfind hholds
  obtain rfl := List.mem_singleton.1 hroot
  obtain rfl := Except.ok.inj ((find_oneFile source).symm.trans hfind)
  cases hholds with
  | inside hx hfile =>
    obtain rfl := List.mem_singleton.1 hx
    cases hfile
    exact List.forall_mem_singleton.2 ⟨"A.tsx", rfl⟩

/-- A scan of that project lists the icons of its file. -/
theorem fieldIn?_oneFile {source : String} {found : IconSet}
    (hextract : oneFileSettings.extractor.extract source = .ok found) :
    Json.fieldIn? ((oneFileLine.doing (.scan oneFileOptions) .raw).run (oneFile source)).output
      "icons" = some (.ofStrings found.toList) := by
  have hsettings : oneFileLine.settings (oneFile source) = .ok oneFileSettings := by
    have hmissing : (oneFile source).files.isFile Config.projectFile = false := by cbv
    have hfile : Config.fileLayer (oneFile source).files oneFileLine.config = .ok [] :=
      if_neg (Bool.eq_false_iff.1 hmissing)
    have hread : oneFileLine.settings (oneFile source) = Except.mapError CommandError.incomplete
        (Configuration.settings { variant := some .rounded, paths := some ["src"] }) :=
      settings_of_configuration? textual_oneFileLine hfile (by cbv)
    rw [hread]
    cbv
  have hwalkable : ∀ root ∈ oneFileSettings.paths, Walkable (oneFile source).files root :=
    List.forall_mem_singleton.2 (.inr ⟨_, find_oneFile source⟩)
  obtain ⟨report, hreport⟩ := exists_scan_iff.2 hwalkable
  have hicons : report.icons = found := by
    refine IconSet.ext_mem fun name => ?_
    rw [mem_icons_iff (isTree_oneFile source) hreport]
    simp only [reads_oneFile_iff, exists_eq_left, hextract, Except.ok.injEq]
    simp [oneFileSettings]
  have hsurvey : ((oneFileLine.doing (.scan oneFileOptions) .raw).survey (oneFile source)).2 =
      .ok (oneFileSettings, report) := by
    have hsame : (oneFileLine.doing (.scan oneFileOptions) .raw).survey (oneFile source) =
        oneFileLine.survey (oneFile source) := survey_congr rfl rfl _
    rw [hsame]
    exact survey_of_scan hsettings hreport
  rw [fieldIn?_scan rfl rfl hsurvey (textual_oneFile hreport), ← hicons]
  rfl

/-- A name that stands on one line of the source is the one line of the answer. -/
theorem scan_text_oneLine :
    let w := oneFile "const a = <i className=\"material-symbols-rounded\">home</i>;"
    Json.fieldIn? ((oneFileLine.doing (.scan oneFileOptions) .raw).run w).output "icons" =
        some (.ofStrings ["home"]) ∧
      ∃ text, ((oneFileLine.doing (.scan oneFileOptions) .text).run w).output = text ++ "\n" ∧
        Text.split '\n' text = ["home"] := by
  intro w
  have hextract : oneFileSettings.extractor.extract
      "const a = <i className=\"material-symbols-rounded\">home</i>;" = .ok (.ofList ["home"]) := by
    decide +kernel
  have hraw : Json.fieldIn? ((oneFileLine.doing (.scan oneFileOptions) .raw).run w).output "icons" =
      some (.ofStrings ["home"]) := fieldIn?_oneFile hextract
  obtain ⟨-, -, text, houtput, -, hiff⟩ :=
    scan_text_lines oneFileLine w oneFileOptions hraw (List.cons_ne_nil _ _)
  exact ⟨hraw, text, houtput, hiff.2 (List.forall_mem_singleton.2 (by decide))⟩

/-- A name that goes over two lines of the source is two lines of the answer, and neither is a name
that was found. -/
theorem scan_text_twoLines :
    let w := oneFile "const a = <i className=\"material-symbols-rounded\">\n  arrow\n  back\n</i>;"
    Json.fieldIn? ((oneFileLine.doing (.scan oneFileOptions) .raw).run w).output "icons" =
        some (.ofStrings ["arrow\n  back"]) ∧
      ((oneFileLine.doing (.scan oneFileOptions) .text).run w).output = "arrow\n  back" ++ "\n" ∧
        Text.split '\n' "arrow\n  back" = ["arrow", "  back"] := by
  intro w
  have hextract : oneFileSettings.extractor.extract
      "const a = <i className=\"material-symbols-rounded\">\n  arrow\n  back\n</i>;" =
        .ok (.ofList ["arrow\n  back"]) := by
    decide +kernel
  have hraw : Json.fieldIn? ((oneFileLine.doing (.scan oneFileOptions) .raw).run w).output "icons" =
      some (.ofStrings ["arrow\n  back"]) := fieldIn?_oneFile hextract
  refine ⟨hraw, ?_, by decide⟩
  rw [(run_scan_text hraw).2.2, String.intercalate_singleton]

end CommandLine

end IconSubset
