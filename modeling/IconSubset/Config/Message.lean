import IconSubset.Config.Environment
import IconSubset.Config.Reading
import IconSubset.Text.Quoted

/-!
# What the user is told about a configuration

The words for values and shapes, and for the place of a setting.
-/

namespace IconSubset.Config

/-- The names of all styles, in a list for the user. -/
def variantNames : String :=
  String.intercalate ", " (Variant.all.map fun v => "`" ++ v.name ++ "`")

/-- The words for a value that was found. -/
def Value.words : Value → String
  | null => "unit"
  | bool b => "bool " ++ (if b then "true" else "false")
  | signed n => "signed int `" ++ toString n ++ "`"
  | unsigned n => "unsigned int `" ++ toString n ++ "`"
  | float x => "float `" ++ x.plain ++ "`"
  | character c => "char " ++ Text.quotedCharacter c
  | string s => "string " ++ Text.quoted s
  | list _ => "sequence"
  | table _ => "map"

/-- The words for what is expected. -/
def Shape.words : Shape → String
  | variant => "enum Variant"
  | choice => "enum"
  | nothing => "unit"
  | list => "a sequence"
  | path => "path string"
  | text => "a string"
  | scalar => "a string or a number"
  | scalars => "a list of strings or numbers"
  | table => "map"
  | axes => "struct FontAxes"
  | configuration => "struct GlyphConfig"

/-- The words for a cause. -/
def Cause.words : Cause → String
  | mismatch found expected =>
    "invalid type: found " ++ found.words ++ ", expected " ++ expected.words
  | unknownVariant name =>
    "unknown variant: found `" ++ name ++ "`, expected `one of " ++ variantNames ++ "`"
  | notSingle => "invalid value: found map, expected map with a single key"
  | tooMany count => "invalid length " ++ toString count ++ ", expected fewer elements"

/-- The words for where a setting was written. -/
def Origin.words : Origin → String
  | file path => path ++ " TOML file"
  | environment => "`" ++ Environment.marker ++ "` environment variable(s)"
  | code => "<code>"

/-- The name of a setting, as its origin writes it. -/
def Place.key (p : Place) : String :=
  match p.origin with
  | .environment => String.intercalate "." (p.names.map Text.upperAscii)
  | _ => String.intercalate "." ("default" :: p.names)

/-- The words for a place. -/
def Place.words (p : Place) : String :=
  " for key " ++ Text.quoted p.key ++ " in " ++ p.origin.words

/-- The words for an error. -/
def ReadError.words (e : ReadError) : String :=
  match e.place? with
  | some p => e.cause.words ++ p.words
  | none => e.cause.words

end IconSubset.Config
