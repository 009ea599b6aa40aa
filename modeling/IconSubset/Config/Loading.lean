import IconSubset.Config.EnvironmentFile
import IconSubset.Config.Message
import IconSubset.Files.Tree
import IconSubset.Toml.Document

/-!
# Loading a configuration

The layers of a configuration are, from the lowest to the highest: the defaults; the configuration
file, which is the one that is named or else the one of the project, if there is one; the
environment; and what the program is told directly.
-/

namespace IconSubset.Config

/-- The configuration file of a project. -/
def projectFile : String := "glyphset.toml"

/-- The file of environment variables of a project. -/
def environmentFile : String := ".env"

/-- Why a layer cannot be used. -/
inductive LayerError where
  /-- The configuration file cannot be read. -/
  | unreadable (path : ByteString) (error : FileError)
  /-- The configuration file is not well formed. -/
  | malformed (path : ByteString)
  /-- What the program is told is no table. -/
  | notTable (found : Value)
  /-- What the program is told has a path in it that is no text. -/
  | pathNotText
  /-- A setting does not fit. -/
  | unfit (error : ReadError)
deriving Repr, Inhabited

/-- The words for an error. -/
def LayerError.words : LayerError → String
  | unreadable path error => error.message ++ "\n in " ++ (Origin.file path.shown).words
  | malformed path => "TOML parse error\n in " ++ (Origin.file path.shown).words
  | notTable found => (Cause.mismatch found .table).words ++ " in " ++ Origin.code.words
  | pathNotText => pathNotTextWords ++ " in " ++ Origin.code.words
  | unfit error => error.words

/-- Why a configuration cannot be loaded: at least one error, the latest first. -/
abbrev LoadErrors := List LayerError

/-- The words for all errors. -/
def loadWords (errors : LoadErrors) : String :=
  String.intercalate "\n" (errors.map LayerError.words)

/-- What the user is told. -/
def loadMessage (errors : LoadErrors) : String := "Configuration error: " ++ loadWords errors

/-- The settings in a configuration file. -/
def fileSettings (tree : Entry) (path : ByteString) : Except LayerError (List (String × Setting)) :=
  match tree.readText path with
  | .error error => .error (.unreadable path error)
  | .ok text =>
    match Toml.read? text with
    | none => .error (.malformed path)
    | some fields => .ok (settingsOf (.file path.shown) fields)

/-- The settings in the configuration file that is named, or else in that of the project. -/
def fileLayer (tree : Entry) (configFile : Option ByteString) :
    Except LayerError (List (String × Setting)) :=
  match configFile with
  | some path => fileSettings tree path
  | none => if tree.isFile projectFile then fileSettings tree projectFile else .ok []

/-- The settings that the program is told. -/
def directLayer : Option Value → Except LayerError (List (String × Setting))
  | none => .ok []
  | some (.table fields) => .ok (settingsOf .code fields)
  | some v => .error (.notTable v)

/-- The environment with what the file of environment variables adds to it. -/
def fullEnvironment (tree : Entry) (environment : Environment) : Environment :=
  match tree.read environmentFile with
  | .ok (.text text) => EnvironmentFile.load environment text
  | .ok (.binary readable) => EnvironmentFile.load environment readable
  | .error _ => environment

/-- The settings of all layers, of which the highest is given. -/
def layers (tree : Entry) (environment : Environment) (configFile : Option ByteString)
    (direct : Except LayerError (List (String × Setting))) :
    Except LoadErrors (List (String × Setting)) :=
  match fileLayer tree configFile, direct with
  | .ok file, .ok direct => .ok (overlay (overlay file environment.settings) direct)
  | .error error, .ok _ => .error [error]
  | .ok _, .error error => .error [error]
  | .error first, .error second => .error [second, first]

/-- The configuration that the layers give, of which the highest is given. -/
def loadUnder (tree : Entry) (environment : Environment) (configFile : Option ByteString)
    (direct : Except LayerError (List (String × Setting))) : Except LoadErrors Configuration :=
  (layers tree environment configFile direct).bind fun fields =>
    (readConfiguration readVariant fields).mapError fun error => [.unfit error]

/-- The configuration that the layers give, with what the program is told. -/
def load (tree : Entry) (environment : Environment) (configFile : Option ByteString)
    (direct : Option Value) : Except LoadErrors Configuration :=
  loadUnder tree environment configFile (directLayer direct)

/-- The ranges of the font that the layers give. -/
def loadAxes (tree : Entry) (environment : Environment) (configFile : Option ByteString) :
    Except LoadErrors FontAxes :=
  (layers tree environment configFile (.ok [])).bind fun fields =>
    (readAxes fields).mapError fun error => [.unfit error]

end IconSubset.Config
