import IconSubset.Json.Printer
import IconSubset.Text.ByteString

/-!
# Formats of the output

The answer of a command is a JSON value, and it is printed as such, on several lines or on one, or
else as plain text. In plain text a list has one item a line, an object one field a line in the
order of the names, and texts stand as they are. There is no such value for an answer with a path in
it that is no text, so that answer cannot be printed in any format.
-/

namespace IconSubset

/-- A format of the output. -/
inductive OutputFormat where
  /-- JSON on several lines. -/
  | json
  /-- JSON on one line. -/
  | raw
  /-- Plain text. -/
  | text
deriving DecidableEq, Repr, Inhabited

namespace OutputFormat

/-- The name by which a format is chosen. -/
def name : OutputFormat → String
  | json => "json"
  | raw => "raw"
  | text => "text"

/-- All formats. -/
def all : List OutputFormat := [.json, .raw, .text]

/-- The format of that name. -/
def ofName? (text : String) : Option OutputFormat := all.find? fun f => f.name == text

end OutputFormat

/-- Why an answer has no value. -/
inductive AnswerError where
  /-- A path in it is no text. -/
  | pathNotText
deriving DecidableEq, Repr, Inhabited

/-- What the user is told. -/
def AnswerError.message : AnswerError → String
  | pathNotText => pathNotTextWords

/-- A path as a value. -/
def ByteString.toJson (path : ByteString) : Except AnswerError Json.Value :=
  match path.text? with
  | some text => .ok (.string text)
  | none => .error .pathNotText

namespace Output

/-- An item of plain text. -/
def line : Json.Value → String
  | .null => ""
  | .string s => s
  | v => v.compact

/-- The fields of an object in the order of their names. -/
def sortFields (fields : List (String × Json.Value)) : List (String × Json.Value) :=
  fields.mergeSort fun a b => decide (a.1 ≤ b.1)

/-- The lines of a value in plain text. -/
def lines : Json.Value → List String
  | .array items => items.map line
  | .object fields => (sortFields fields).map fun (name, value) => name ++ ": " ++ line value
  | v => [line v]

/-- A value in a format. -/
def print (format : OutputFormat) (v : Json.Value) : String :=
  match format with
  | .json => v.pretty
  | .raw => v.compact
  | .text => String.intercalate "\n" (lines v)

/-- An answer in a format, when it has a value. -/
def render (format : OutputFormat) (answer : Except AnswerError Json.Value) :
    Except AnswerError String :=
  answer.map (print format)

end Output

end IconSubset
