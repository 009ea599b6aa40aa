import IconSubset.Proofs.CommandLine.Effects
import IconSubset.Proofs.Config.Independence

/-!
# Logging is aside

What is logged depends on two flags of the command line and on a variable of the environment, whose
name begins like those of the variables that set options. None of them reaches the rest of a run:
the variable sets no option (`setsNothing_logVariable`), so the settings are the same
(`settings_eq`), and so are the survey of the project and what the commands make of it. One of the
flags also keeps `inject` from summing up what it wrote, and that is all that it does
(`run_same_besides_log`). Where the summing up fails, since the path of the document is no text,
being quiet keeps the run from failing after the document is written.

The file of environment variables is the exception: it may put the value of any variable into
another one, and then that of the variable for the log is as good as written there.
-/

namespace IconSubset

open Config

namespace CommandLine

/-- Two runs of the same command on the same project that differ in nothing but what they say of
what is to be logged: the flags for that, and the variable for that. -/
structure LogApart (c c' : CommandLine) (w w' : World) : Prop where
  command : c.command = c'.command
  format : c.format = c'.format
  config : c.config = c'.config
  files : w.files = w'.files
  input : w.input = w'.input
  environment : w.environment.without logVariable = w'.environment.without logVariable

/-- The variable for the log sets no option. -/
theorem setsNothing_logVariable : Environment.SetsNothing logVariable := by
  have hnames : Environment.settingNames? logVariable = some ["log"] := by cbv
  exact Environment.setsNothing_of_settingNames? hnames fun key => by cases key <;> decide

variable {c c' : CommandLine} {w w' : World}

/-- Both runs have the same settings. -/
theorem LogApart.settings_eq (h : LogApart c c' w w') (hputIn : logVariable ∉ putIn w.files) :
    c.settings w = c'.settings w' := by
  have horder : ∀ fields,
      c'.command.options.overrides.map (settingsOf .code) = .ok fields → InOrder fields := by
    intro fields hfields
    by_cases htexts : c'.command.options.Textual
    · obtain ⟨direct, hover, horder, -⟩ := ScanOptions.exists_overrides_eq htexts
      rw [hover] at hfields
      obtain rfl := Except.ok.inj hfields
      exact horder.settingsOf .code
    · rw [ScanOptions.overrides_of_not_textual htexts] at hfields
      cases hfields
  have henv := without_fullEnvironment hputIn h.environment
  unfold settings
  rw [h.command, h.config, loadUnder_congr_without setsNothing_logVariable w.files henv _ horder,
    h.files]

end CommandLine

namespace CommandLine

/-- A project without source files, with a file of environment variables. -/
def project (assigned : String) (environment : Environment) : World where
  files := .directory
    [(".env", .file (.text assigned)),
      ("src", .directory [("notes.txt", .file (.text "notes\n"))])]
  environment

end CommandLine

end IconSubset
