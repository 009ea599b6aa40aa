import IconSubset.Config.Configuration
import IconSubset.Config.Setting

/-!
# Reading a configuration from its settings

Each option of a configuration is read from the setting of its name, in the order of the names; what
has no setting keeps its default, and other settings do not count. What does not fit is an error at
its place. The ranges of the font come last, and errors in them tell no place.

Where texts are asked for, numbers and truth values will often do: they stand for the way they are
written.
-/

namespace IconSubset.Config

/-- What a setting is expected to be. -/
inductive Shape where
  /-- The name of a style. -/
  | variant
  /-- A choice, which a table makes by its only name. -/
  | choice
  /-- Nothing more to say. -/
  | nothing
  | list
  | path
  | text
  /-- A text or a number. -/
  | scalar
  /-- A list of texts and numbers. -/
  | scalars
  | table
  | axes
  | configuration
deriving DecidableEq, Repr, Inhabited

/-- Why a setting does not fit. -/
inductive Cause where
  | mismatch (found : Value) (expected : Shape)
  | unknownVariant (name : String)
  /-- A table that should have one name has none or several. -/
  | notSingle
  /-- A list has more items than there are options. -/
  | tooMany (count : Nat)
deriving Repr, Inhabited

/-- Where a setting stands: the names and indices that lead to it, and where it was written. -/
structure Place where
  /-- The names and indices. -/
  names : List String
  /-- Where the setting was written. -/
  origin : Origin
deriving DecidableEq, Repr, Inhabited

/-- Why a configuration cannot be read. -/
structure ReadError where
  /-- Why a setting does not fit. -/
  cause : Cause
  /-- Where that setting stands, if that is told. -/
  place? : Option Place
deriving Repr, Inhabited

/-- An error at a place. -/
def misfit {α : Type} (names : List String) (origin : Origin) (cause : Cause) :
    Except ReadError α :=
  .error ⟨cause, some ⟨names, origin⟩⟩

/-- The text that a value stands for, if it stands for one. -/
def Value.scalarText? : Value → Option String
  | string s => some s
  | character c => some c.toString
  | bool b => some (if b then "true" else "false")
  | signed n =>
    some (String.ofList ((if n < 0 then ['-'] else []) ++ Decimal.natDigits n.natAbs))
  | unsigned n => some (String.ofList (Decimal.natDigits n))
  | float x => some x.plain
  | null | list _ | table _ => none

/-- The text that a value is. -/
def Value.text? : Value → Option String
  | string s => some s
  | character c => some c.toString
  | _ => none

/-- Reads the items of a list; `index` is that of the first. -/
def readItems (names : List String) (origin : Origin) (shape : Shape)
    (textOf : Value → Option String) : (index : Nat) → List Value → Except ReadError (List String)
  | _, [] => .ok []
  | index, v :: rest =>
    match textOf v with
    | none => misfit (names ++ [toString index]) origin (.mismatch v shape)
    | some text => (readItems names origin shape textOf (index + 1) rest).map (text :: ·)

/-- Reads a list. -/
def readList (listShape itemShape : Shape) (textOf : Value → Option String) (names : List String)
    (s : Setting) : Except ReadError (List String) :=
  match s with
  | .value origin (.list items) => readItems names origin itemShape textOf 0 items
  | s => misfit names s.origin (.mismatch s.outline listShape)

/-- Reads a list of paths. -/
def readPaths (names : List String) (s : Setting) : Except ReadError (List ByteString) :=
  (readList .list .path Value.text? names s).map (List.map ByteString.ofString)

/-- Reads a list of texts. -/
def readTexts : List String → Setting → Except ReadError (List String) :=
  readList .list .text Value.text?

/-- Reads a list of texts and numbers. -/
def readScalars : List String → Setting → Except ReadError (List String) :=
  readList .scalars .scalar Value.scalarText?

/-- Reads a text or a number. -/
def readScalar (names : List String) (s : Setting) : Except ReadError String :=
  match s.outline.scalarText? with
  | some text => .ok text
  | none => misfit names s.origin (.mismatch s.outline .scalar)

/-- Reads an option that may be left open. -/
def readOptional {α : Type} (read : List String → Setting → Except ReadError α)
    (names : List String) (s : Setting) : Except ReadError (Option α) :=
  match s with
  | .value _ .null => .ok none
  | s => (read names s).map some

/-- Reads the name of a style. A table stands for its first name when nothing more is said there. -/
def readVariant (names : List String) (s : Setting) : Except ReadError Variant :=
  match s with
  | .value origin (.string name) =>
    match Variant.ofName? name with
    | some v => .ok v
    | none => misfit names origin (.unknownVariant name)
  | .value origin v => misfit names origin (.mismatch v .variant)
  | .table origin [] => misfit names origin (.mismatch (.table []) .choice)
  | .table _ ((name, inner) :: _) =>
    match Variant.ofName? name with
    | none => misfit (names ++ [name]) inner.origin (.unknownVariant name)
    | some v =>
      match inner with
      | .value _ .null => .ok v
      | inner => misfit (names ++ [name]) inner.origin (.mismatch inner.outline .nothing)

/-- Reads the setting of a name, or keeps a default. -/
def readField {α : Type} (read : List String → Setting → Except ReadError α) (name : String)
    (default : α) (fields : List (String × Setting)) : Except ReadError α :=
  match lookup name fields with
  | none => .ok default
  | some s => read [name] s

/-- Reads the ranges of the font. -/
def readAxes (fields : List (String × Setting)) : Except ReadError FontAxes := do
  let d : FontAxes := {}
  let fill ← readField readScalar "fill" d.fill fields
  let grad ← readField readScalar "grad" d.grad fields
  let opsz ← readField readScalar "opsz" d.opsz fields
  let wght ← readField readScalar "wght" d.wght fields
  return { opsz, wght, fill, grad }

/-- An error that does not tell its place. -/
def ReadError.withoutPlace (e : ReadError) : ReadError := { e with place? := none }

/-- Reads a configuration, given how the name of a style is read. -/
def readConfiguration (variantOf : List String → Setting → Except ReadError Variant)
    (fields : List (String × Setting)) : Except ReadError Configuration := do
  let files ← readField readPaths "files" [] fields
  let iconProps ← readField readTexts "icon_props" [] fields
  let paths ← readField (readOptional readPaths) "paths" none fields
  let safelist ← readField readScalars "safelist" [] fields
  let variant ← readField (readOptional variantOf) "variant" none fields
  let axes ← (readAxes fields).mapError ReadError.withoutPlace
  return { variant, paths, files, safelist, iconProps, axes }

end IconSubset.Config
