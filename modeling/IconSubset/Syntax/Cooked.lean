import IconSubset.Html.Reference
import IconSubset.Syntax.Node

/-!
# What string literals stand for

A quoted string stands for the text of its parts: a plain stretch stands for itself, a backslash
escape and a character reference for what they denote. A template stands for one such text between
each two of its substitutions.
-/

namespace IconSubset.Syntax

/-- The characters without the given one at the end. -/
def dropTrailing (c : Char) (cs : List Char) : List Char := (cs.reverse.dropWhile (· = c)).reverse

/-- The character that hexadecimal digits number. -/
def hexCharacter? (digits : List Char) : Option Char :=
  (Text.number? Text.hexDigit? 16 digits).bind Text.character?

/-- The character that an escape by number denotes, given what follows the backslash: `x` or `u` and
digits, with or without braces. -/
def numericEscape? : List Char → Option Char
  | 'u' :: rest => hexCharacter? (dropTrailing '}' (rest.dropWhile (· = '{')))
  | 'x' :: rest => hexCharacter? rest
  | _ => none

/-- What an escape denotes, given what follows the backslash. A line end denotes nothing. An escape
that has no other meaning denotes what follows the backslash. -/
def escapedText (body : List Char) : List Char :=
  match body with
  | ['n'] => ['\n']
  | ['t'] => ['\t']
  | ['r'] => ['\r']
  | ['0'] => ['\x00']
  | ['\n'] => []
  | ['\r', '\n'] => []
  | _ =>
    match numericEscape? body with
    | some c => [c]
    | none => body

/-- The characters after a backslash at the start. -/
def afterBackslash : List Char → List Char
  | '\\' :: body => body
  | cs => cs

/-- What a part of a string stands for: nothing, for the quotes. -/
def partText (n : Node) : List Char :=
  match n.kind with
  | .stringFragment => n.text.toList
  | .characterReference => (Html.decode n.text).toList
  | .escapeSequence => escapedText (afterBackslash n.text.toList)
  | _ => []

/-- What a part of a template stands for. -/
def templatePartText (n : Node) : List Char :=
  match n.kind with
  | .stringFragment => n.text.toList
  | .escapeSequence => escapedText (afterBackslash n.text.toList)
  | _ => []

/-- What a string with these parts stands for. -/
def stringText (parts : List Node) : String := String.ofList (parts.flatMap partText)

/-- What these parts of a template stand for between each two substitutions; the list is never
empty. -/
def segments : List Node → List (List Char)
  | [] => [[]]
  | n :: rest =>
    if n.kind = .templateSubstitution then [] :: segments rest
    else
      match segments rest with
      | [] => [templatePartText n]
      | s :: more => (templatePartText n ++ s) :: more

/-- The texts of a template with these parts. -/
def templateSegments (parts : List Node) : List String := (segments parts).map String.ofList

end IconSubset.Syntax
