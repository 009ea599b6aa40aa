import IconSubset.CommandLine.Parser
import IconSubset.Config.Loading
import IconSubset.Log.Filter
import IconSubset.Output.Report
import IconSubset.Scan.Project
import IconSubset.Stylesheet.Injection

/-!
# Running the program

A run reads the command line, loads the configuration, scans the project and answers. What it
answers and writes depends on the arguments, the files, the environment and the standard input
alone. A run that fails answers nothing and changes no text, but directories that it has made by
then stay. Only a run that has written a document may fail after that, when it cannot say where.
-/

namespace IconSubset

/-- What a run can see. -/
structure World where
  /-- The working directory. -/
  files : Entry := .empty
  /-- The environment variables. -/
  environment : Config.Environment := []
  /-- The standard input. -/
  input : FileContent := .text ""
deriving Inhabited

/-- What a run comes to. -/
structure Outcome where
  /-- The exit status. -/
  status : Nat
  /-- What it answers. -/
  output : String := ""
  /-- What it says went wrong. -/
  error : Option String := none
  /-- The reports that are shown. -/
  log : List String := []
  /-- The working directory afterwards. -/
  files : Entry
deriving Inhabited

/-- Why a command fails. -/
inductive CommandError where
  /-- The document cannot be read; without a path it is the standard input. -/
  | unreadable (path? : Option ByteString) (error : FileError)
  /-- The configuration cannot be loaded. -/
  | unloadable (errors : Config.LoadErrors)
  /-- The configuration leaves something open. -/
  | incomplete (gap : ConfigurationGap)
  /-- A directory cannot be walked. -/
  | unwalkable (error : WalkError)
  /-- A directory cannot be made. -/
  | uncreatable (path : ByteString) (error : FileError)
  /-- A file cannot be written. -/
  | unwritable (path : ByteString) (error : FileError)
  /-- What there is to answer cannot be printed. -/
  | unprintable (error : AnswerError)
deriving Inhabited

/-- What the user is told: what was tried, and the causes one after another. -/
def CommandError.message : CommandError → String
  | unreadable none error => "failed to read html from stdin: " ++ error.message
  | unreadable (some path) error => "failed to read " ++ path.shown ++ ": " ++ error.message
  | unloadable errors =>
    "failed to load glyphset configuration: " ++ Config.loadMessage errors ++ ": "
      ++ Config.loadWords errors
  | incomplete gap =>
    "invalid glyphset configuration (set it in glyphset.toml or pass it as a flag): " ++ gap.message
  | unwalkable error => error.message ++ ": " ++ error.cause
  | uncreatable path error => "failed to create " ++ path.shown ++ ": " ++ error.message
  | unwritable path error => "failed to write " ++ path.shown ++ ": " ++ error.message
  | unprintable error => error.message

/-- What a command does. -/
structure Work where
  /-- What it logs. -/
  log : List LogEvent := []
  /-- What it answers, or why it fails. -/
  result : Except CommandError String
  /-- How it leaves the files. -/
  files : Entry

namespace ScanOptions

/-- A setting that counts only when it is given. -/
def given (name : String) (value : Option Config.Value) : List (String × Config.Value) :=
  (value.map fun v => (name, v)).toList

/-- A list of texts that counts only when it has items. -/
def listed (xs : List String) : Option Config.Value :=
  if xs.isEmpty then none else some (.list (xs.map .string))

/-- The texts that paths are. -/
def textsOf (paths : List ByteString) : Except Config.LayerError (List String) :=
  match paths.mapM ByteString.text? with
  | some texts => .ok texts
  | none => .error .pathNotText

/-- The settings that the options of a scan make. -/
def overrides (o : ScanOptions) : Except Config.LayerError (List (String × Config.Value)) := do
  let paths ← textsOf o.paths
  let files ← textsOf o.files
  return Config.fieldsOf
    (given "variant" (o.variant.map fun v => .string v.name) ++
      given "paths" (listed paths) ++
      given "files" (listed files) ++
      given "safelist" (listed o.safelist) ++
      given "icon_props" (listed o.iconProps) ++
      given "opsz" (o.opsz.map .string) ++
      given "wght" (o.wght.map .string) ++
      given "fill" (o.fill.map .string) ++
      given "grad" (o.grad.map .string))

end ScanOptions

namespace CommandLine

/-- The settings for a command. -/
def settings (c : CommandLine) (w : World) : Except CommandError Settings :=
  match Config.loadUnder w.files (Config.fullEnvironment w.files w.environment) c.config
      (c.command.options.overrides.map (Config.settingsOf .code)) with
  | .error errors => .error (.unloadable errors)
  | .ok configuration => configuration.settings.mapError .incomplete

/-- A rendered answer with its line end. -/
def answer (c : CommandLine) (v : Except AnswerError Json.Value) : Except CommandError String :=
  ((Output.render c.format v).map (· ++ "\n")).mapError .unprintable

/-- What `scan` answers. -/
def scanAnswer (c : CommandLine) (report : ScanReport) : Except CommandError String :=
  match c.format with
  | .text => c.answer (.ok (.ofStrings report.icons.toList))
  | .json | .raw => c.answer report.toJson

/-- What `url` answers. -/
def urlAnswer (c : CommandLine) (s : Settings) (report : ScanReport) :
    Except CommandError String :=
  let url := s.stylesheetAddress report.icons
  match c.format with
  | .text => c.answer (.ok (.string url))
  | .json | .raw =>
    c.answer (.ok (AddressAnswer.toJson { variant := s.variant, icons := report.icons.size, url }))

/-- Loads the settings and scans the project. -/
def survey (c : CommandLine) (w : World) :
    List LogEvent × Except CommandError (Settings × ScanReport) :=
  match c.settings w with
  | .error e => ([], .error e)
  | .ok s =>
    let (log, result) := s.scanWithLog w.files
    (log, (result.mapError .unwalkable).map fun report => (s, report))

/-- Lists the icons or gives the address: answers, and leaves the files alone. -/
def report (c : CommandLine) (w : World)
    (answer : Settings → ScanReport → Except CommandError String) : Work :=
  let (log, result) := c.survey w
  { log, result := result.bind fun (s, report) => answer s report, files := w.files }

/-- The document that a link goes into. -/
def document (w : World) (input : ByteString) : Except CommandError String :=
  if Path.isStandardInput input then w.input.decode.mapError (.unreadable none)
  else (w.files.readText input).mapError (.unreadable (some input))

/-- Makes the directory that a file is to be written to: the files afterwards, and whether the
directory is there. -/
def makeRoom (files : Entry) (output : ByteString) : Entry × Except CommandError Unit :=
  match Path.parent? output with
  | none => (files, .ok ())
  | some above =>
    if above.bytes = [] then (files, .ok ())
    else
      let (files, made) := files.makeDirectories above
      (files, made.mapError (.uncreatable above))

/-- Writes a text to a file: the files afterwards, and whether it is written. -/
def writeOut (files : Entry) (output : ByteString) (text : String) :
    Entry × Except CommandError Unit :=
  match makeRoom files output with
  | (files, .error e) => (files, .error e)
  | (files, .ok ()) =>
    match files.writeText output text with
    | .ok files => (files, .ok ())
    | .error error => (files, .error (.unwritable output error))

/-- What is told of a document that was written to a file. -/
def told (c : CommandLine) (path : ByteString) (report : ScanReport) :
    Except CommandError String :=
  if c.quiet then .ok "" else c.answer (WritingAnswer.toJson ⟨path, report⟩)

/-- Puts a link into a document, which goes to a file or is the answer. -/
def inject (c : CommandLine) (w : World) (input : ByteString) (output : Option ByteString) : Work :=
  match document w input with
  | .error e => { result := .error e, files := w.files }
  | .ok html =>
    let (log, result) := c.survey w
    match result with
    | .error e => { log, result := .error e, files := w.files }
    | .ok (s, report) =>
      let link := Stylesheet.linkElement (s.stylesheetAddress report.icons)
      let linked := Stylesheet.inject html link
      let log := log ++ Stylesheet.injectionEvents html
      match output with
      | none => { log, result := .ok linked, files := w.files }
      | some path =>
        let (files, written) := writeOut w.files path linked
        { log, result := written.bind fun () => c.told path report, files }

/-- What the command does. -/
def work (c : CommandLine) (w : World) : Work :=
  match c.command with
  | .scan _ => c.report w fun _ report => c.scanAnswer report
  | .url _ => c.report w c.urlAnswer
  | .inject input output _ => c.inject w input output

/-- The level up to which reports are shown when the environment does not say. -/
def logLevel (c : CommandLine) : LogLevel :=
  if c.quiet then .error else if c.verbose then .debug else .warn

/-- The environment variable that says which reports are shown. -/
def logVariable : String := "GLYPHSET_LOG"

/-- Which reports are shown. -/
def logFilter (c : CommandLine) (environment : Config.Environment) : LogFilter :=
  ((environment.get? logVariable).bind LogFilter.read?).getD [.target "" c.logLevel.rank]

/-- Runs the program with a command line. -/
def run (c : CommandLine) (w : World) : Outcome :=
  let work := c.work w
  let log := (work.log.filter (c.logFilter w.environment).shows).map LogEvent.line
  match work.result with
  | .ok output => { status := 0, output, log, files := work.files }
  | .error e =>
    { status := 1, error := some ("glyphs error: " ++ e.message ++ "\n"), log, files := work.files }

end CommandLine

namespace Program

/-- The name and the version of the program. -/
def version : String := "glyphs 0.1.0\n"

/-- Runs the program with arguments. What it says when it is asked for help on them is given. -/
def run (help : List ByteString → String) (args : List ByteString) (w : World) : Outcome :=
  match CommandLine.parse args with
  | .ok c => c.run w
  | .error e =>
    let output := match e with
      | .version => version
      | .help => help args
      | _ => ""
    { status := e.status, output, files := w.files }

end Program

end IconSubset
