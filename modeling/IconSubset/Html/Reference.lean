import IconSubset.Html.NamedCharacters
import IconSubset.Text.Digits
import Std.Data.HashMap

/-!
# Character references

A character can be written as a reference: by its number, in decimal or hexadecimal, or by a name.
Decoding replaces the references of a text by what they stand for, and leaves alone what is no
reference, a name that nobody gave, and a number that is no character or that is a control character
other than tab, line feed, form feed and carriage return.
-/

namespace IconSubset.Html

/-- The references that escaping writes. -/
def escapes : List (String × Char) := [("amp", '&'), ("lt", '<'), ("gt", '>'), ("quot", '"')]

/-- The names that escaping does not write. -/
private def otherNamesByName : Std.HashMap String Char := Std.HashMap.ofList otherNames

/-- The character that a name stands for. -/
def named? (name : List Char) : Option Char :=
  match escapes.find? (·.1.toList == name) with
  | some (_, c) => some c
  | none => otherNamesByName[String.ofList name]?

/-- The character that a reference by number stands for. -/
def character? (n : Nat) : Option Char :=
  if n < 0x20 ∧ n ≠ 9 ∧ n ≠ 10 ∧ n ≠ 12 ∧ n ≠ 13 then none else Text.character? n

/-- What a reference stands for, given what is written between `&` and `;`. -/
def reference? : List Char → Option Char
  | '#' :: 'x' :: digits => (Text.number? Text.hexDigit? 16 digits).bind character?
  | '#' :: 'X' :: digits => (Text.number? Text.hexDigit? 16 digits).bind character?
  | '#' :: digits => (Text.number? Text.decimalDigit? 10 digits).bind character?
  | name => named? name

/-- Whether a character may stand between `&` and `;`. -/
def isReferencePart (c : Char) : Bool := c.isAlphanum || c == '#'

/-- The reference at the start of the characters after `&`: what it stands for and what follows. -/
def readReference? (cs : List Char) : Option (Char × List Char) :=
  match cs.dropWhile isReferencePart with
  | ';' :: rest => (reference? (cs.takeWhile isReferencePart)).map fun r => (r, rest)
  | _ => none

/-- Replaces the references of a text. `fuel` bounds its length. -/
def decodeWithin : (fuel : Nat) → List Char → List Char
  | 0, cs => cs
  | _, [] => []
  | fuel + 1, c :: cs =>
    if c = '&' then
      match readReference? cs with
      | some (r, rest) => r :: decodeWithin fuel rest
      | none => c :: decodeWithin fuel cs
    else c :: decodeWithin fuel cs

/-- Replaces the references of a text. -/
def decode (s : String) : String := String.ofList (decodeWithin s.length s.toList)

/-- Writes a character so that it stands for itself inside a double-quoted attribute. -/
def escape (c : Char) : List Char :=
  match escapes.find? (·.2 == c) with
  | some (name, _) => '&' :: name.toList ++ [';']
  | none => [c]

/-- Writes a text so that it stands for itself inside a double-quoted attribute. -/
def encode (s : String) : String := String.ofList (s.toList.flatMap escape)

end IconSubset.Html
