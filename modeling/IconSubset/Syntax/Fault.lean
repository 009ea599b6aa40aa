import IconSubset.Syntax.Node

/-!
# What is wrong with a source file

A source file is well formed when its tree has neither an error nor a missing token. Otherwise the
first of these, a parent before its children and the children from left to right, is reported with
the line and the column at which it starts. Lines end at line feeds, which the parser counts as
rows, and columns count characters.
-/

namespace IconSubset.Syntax

/-- Where a fault starts, counted from one. -/
structure Location where
  /-- The line. -/
  line : Nat
  /-- The character within the line. -/
  column : Nat
deriving DecidableEq, Repr, Inhabited

/-- The reason why a source file is not well formed. -/
inductive Fault where
  /-- A stretch that does not fit the grammar; `snippet` is its beginning. -/
  | unexpected (location : Location) (snippet : String)
  /-- A token that the source lacks. -/
  | missing (location : Location) (expected : String)
deriving DecidableEq, Repr, Inhabited

namespace Fault

/-- The location of a fault. -/
def location : Fault → Location
  | unexpected l _ => l
  | missing l _ => l

/-- The fault in words. -/
def message : Fault → String
  | unexpected l snippet =>
    "syntax error at line " ++ toString l.line ++ ", column " ++ toString l.column
      ++ ": unexpected `" ++ snippet ++ "`"
  | missing l expected =>
    "syntax error at line " ++ toString l.line ++ ", column " ++ toString l.column
      ++ ": missing `" ++ expected ++ "`"

end Fault

/-- The characters before a byte of a text. -/
def charsBefore : (bytes : Nat) → List Char → List Char
  | 0, _ => []
  | _, [] => []
  | bytes + 1, c :: cs => c :: charsBefore (bytes + 1 - c.utf8Size) cs

/-- How many characters stand behind the last line feed. -/
def lastLineLength (cs : List Char) : Nat := (cs.reverse.takeWhile (· ≠ '\n')).length

/-- The location of a place of a source: the line is told by the row, and the column is counted from
the last line feed before the byte. -/
def Location.ofPosition (source : List Char) (p : Position) : Location :=
  ⟨p.row + 1, lastLineLength (charsBefore p.byte source) + 1⟩

/-- How much of an unexpected stretch is quoted, in characters. -/
def snippetLimit : Nat := 40

/-- The first line of a text without its end; a carriage return before the line feed belongs to the
end. -/
def firstLine (text : List Char) : List Char :=
  let line := text.takeWhile (· ≠ '\n')
  if line.length < text.length ∧ line.getLast? = some '\r' then line.dropLast else line

/-- The part of an unexpected stretch that is quoted. -/
def snippet (text : String) : String := String.ofList ((firstLine text.toList).take snippetLimit)

mutual

/-- The first fault of a tree. -/
def firstFault (source : List Char) : Node → Option Fault
  | .mk kind _ start text missing children =>
    if missing then some (.missing (Location.ofPosition source start) kind.name)
    else if kind = .error then some (.unexpected (Location.ofPosition source start) (snippet text))
    else firstFaultOfAll source children

/-- The first fault of a list of trees. -/
def firstFaultOfAll (source : List Char) : List Node → Option Fault
  | [] => none
  | n :: rest =>
    match firstFault source n with
    | some fault => some fault
    | none => firstFaultOfAll source rest

end

end IconSubset.Syntax
