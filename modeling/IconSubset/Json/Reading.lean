import IconSubset.Config.Message
import IconSubset.IconSet
import IconSubset.Json.Printer

/-!
# Reading from JSON

Styles, ranges of the font, configurations and sets of icons as JSON values. They are read as
settings are, with these differences: a table that stands for a style must have exactly one name,
the ranges of the font may also be given in a list, and errors are worded in the terms of JSON.
-/

namespace IconSubset.Json

open Config (Cause ReadError Setting Shape misfit)

/-- The words for a value that was found. -/
def foundWords : Config.Value → String
  | .null => "null"
  | .bool b => "boolean `" ++ (if b then "true" else "false") ++ "`"
  | .signed n => "integer `" ++ toString n ++ "`"
  | .unsigned n => "integer `" ++ toString n ++ "`"
  | .float x => "floating point `" ++ x.json ++ "`"
  | .character c => "character `" ++ c.toString ++ "`"
  | .string s => "string " ++ Text.quoted s
  | .list _ => "sequence"
  | .table _ => "map"

/-- The words for what is expected. -/
def expectedWords : Shape → String
  | .variant | .choice => "string or map"
  | s => s.words

/-- The words for a cause. -/
def causeWords : Cause → String
  | .mismatch found expected =>
    "invalid type: " ++ foundWords found ++ ", expected " ++ expectedWords expected
  | .unknownVariant name =>
    "unknown variant `" ++ name ++ "`, expected one of " ++ Config.variantNames
  | .notSingle => "invalid value: map, expected map with a single key"
  | .tooMany count => "invalid length " ++ toString count ++ ", expected fewer elements in array"

/-- The words for an error. -/
def errorWords (e : ReadError) : String := causeWords e.cause

/-- A JSON value as a setting. -/
def settingOf (v : Value) : Setting := .of .code (.ofJson v)

/-- Reads the name of a style; a table must have only one name. -/
def readVariant (names : List String) (s : Setting) : Except ReadError Variant :=
  match s with
  | .table _ [_] => Config.readVariant names s
  | .table origin _ => misfit names origin .notSingle
  | s => Config.readVariant names s

/-- Reads a style. -/
def toVariant (v : Value) : Except ReadError Variant := readVariant [] (settingOf v)

/-- Reads the ranges of the font from a list: the first items count as options in their order. -/
def readAxesList (items : List Config.Value) : Except ReadError FontAxes := do
  let d : FontAxes := {}
  let item (index : Nat) (default : String) : Except ReadError String :=
    match items[index]? with
    | some v => Config.readScalar [toString index] (.of .code v)
    | none => .ok default
  let opsz ← item 0 d.opsz
  let wght ← item 1 d.wght
  let fill ← item 2 d.fill
  let grad ← item 3 d.grad
  if items.length ≤ 4 then return { opsz, wght, fill, grad }
  else misfit [] .code (.tooMany items.length)

/-- Reads the ranges of the font. -/
def toAxes (v : Value) : Except ReadError FontAxes :=
  match settingOf v with
  | .table _ fields => Config.readAxes fields
  | .value _ (.list items) => readAxesList items
  | .value origin v => misfit [] origin (.mismatch v .axes)

/-- Reads a configuration. -/
def toConfiguration (v : Value) : Except ReadError Configuration :=
  match settingOf v with
  | .table _ fields => Config.readConfiguration readVariant fields
  | .value origin v => misfit [] origin (.mismatch v .configuration)

/-- Reads a set of icons; the names are kept as they are written. -/
def toIconSet (v : Value) : Except ReadError IconSet :=
  (Config.readTexts [] (settingOf v)).map IconSet.ofVerbatim

/-- A set of icons as a JSON value. -/
def ofIconSet (icons : IconSet) : Value := .ofStrings icons.toList

end IconSubset.Json
