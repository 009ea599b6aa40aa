import IconSubset.Config.Value
import IconSubset.Decimal.Reading
import IconSubset.Text.Blank

/-!
# What an environment variable holds

An environment variable is a text, and a short notation in it gives values of other kinds: truth
values, numbers, quoted strings, single characters, lists in brackets and tables in braces. A text
that is not wholly in this notation stands for itself.
-/

namespace IconSubset.Config.Variable

/-- The white space that surrounds values. -/
def isSpace (c : Char) : Bool :=
  c == ' ' || c == '\t' || c == '\n' || c == '\x0c' || c == '\r'

/-- The characters after white space. -/
def skipSpace (cs : List Char) : List Char := cs.dropWhile isSpace

/-- Characters that end a plain value. -/
def isSeparator (c : Char) : Bool := c == ',' || c == '{' || c == '}' || c == '[' || c == ']'

/-- Characters of names that stand without quotes. -/
def isNameChar (c : Char) : Bool := c.isAlphanum || c == '_' || c == '-'

/-- Splits after the quote that ends a string. A backslash takes the next character with it. -/
def splitQuoted : List Char → Option (List Char × List Char)
  | [] => none
  | '"' :: rest => some ([], rest)
  | '\\' :: c :: rest => (splitQuoted rest).map fun (body, after) => ('\\' :: c :: body, after)
  | c :: rest => (splitQuoted rest).map fun (body, after) => (c :: body, after)

/-- The text of a quoted string. `fuel` bounds its length. -/
def unescape : (fuel : Nat) → List Char → Option (List Char)
  | 0, _ => none
  | _, [] => some []
  | fuel + 1, '\\' :: c :: rest =>
    match c with
    | '"' => (unescape fuel rest).map ('"' :: ·)
    | '\\' => (unescape fuel rest).map ('\\' :: ·)
    | 'b' => (unescape fuel rest).map ('\x08' :: ·)
    | 'f' => (unescape fuel rest).map ('\x0c' :: ·)
    | 'n' => (unescape fuel rest).map ('\n' :: ·)
    | 'r' => (unescape fuel rest).map ('\r' :: ·)
    | 't' => (unescape fuel rest).map ('\t' :: ·)
    | 'u' => (Text.hexEscape? 4 rest).bind fun (c, rest) => (unescape fuel rest).map (c :: ·)
    | 'U' => (Text.hexEscape? 8 rest).bind fun (c, rest) => (unescape fuel rest).map (c :: ·)
    | _ => none
  | _, ['\\'] => none
  | fuel + 1, c :: rest =>
    if c = '\t' ∨ (' ' ≤ c ∧ c ≠ '\x7f') then (unescape fuel rest).map (c :: ·) else none

/-- A quoted string after its first quote, and what follows it. -/
def quoted (cs : List Char) : Option (String × List Char) :=
  (splitQuoted cs).bind fun (body, rest) =>
    (unescape (body.length + 1) body).map fun text => (String.ofList text, rest)

/-- The greatest whole number without a sign. -/
def greatestUnsigned : Nat := UInt64.size - 1

/-- Whether a whole number can be kept with a sign. -/
def inSignedRange (n : Int) : Bool :=
  Int64.minValue.toInt ≤ n && n ≤ Int64.maxValue.toInt

/-- A whole number in range, without a sign or with one. -/
def integer? (cs : List Char) : Option Value :=
  match Decimal.readNatural? cs with
  | some n => if n ≤ greatestUnsigned then some (.unsigned n) else none
  | none =>
    match Decimal.readInteger? cs with
    | some n => if inSignedRange n then some (.signed n) else none
    | none => none

/-- The value of a text without separators. -/
def plain (cs : List Char) : Value :=
  let cs := Text.trimChars cs
  match (if cs.contains '.' then Decimal.readDecimal? cs else none) with
  | some x => .float x
  | none => (integer? cs).getD (.string (String.ofList cs))

/-- A name and what follows it. -/
def name (cs : List Char) : Option (String × List Char) :=
  match cs with
  | '"' :: rest => quoted rest
  | _ =>
    let word := cs.takeWhile isNameChar
    if word = [] then none else some (String.ofList word, cs.dropWhile isNameChar)

mutual

/-- A value with the white space around it, and what follows. `fuel` bounds the number of steps. -/
def value : (fuel : Nat) → List Char → Option (Value × List Char)
  | 0, _ => none
  | fuel + 1, cs =>
    let cs := skipSpace cs
    let result : Option (Value × List Char) := match cs with
      | 't' :: 'r' :: 'u' :: 'e' :: rest => some (.bool true, rest)
      | 'f' :: 'a' :: 'l' :: 's' :: 'e' :: rest => some (.bool false, rest)
      | '{' :: rest => (fields fuel rest).map fun (fs, rest) => (.table (fieldsOf fs), rest)
      | '[' :: rest => (items fuel rest).map fun (vs, rest) => (.list vs, rest)
      | '"' :: rest => (quoted rest).map fun (text, rest) => (.string text, rest)
      | '\'' :: c :: '\'' :: rest => some (.character c, rest)
      | '\'' :: _ => none
      | _ => some (plain (cs.takeWhile fun c => !isSeparator c),
          cs.dropWhile fun c => !isSeparator c)
    result.map fun (v, rest) => (v, skipSpace rest)

/-- The items of a list up to its bracket. A comma may stand before the bracket. -/
def items : (fuel : Nat) → List Char → Option (List Value × List Char)
  | 0, _ => none
  | _, ']' :: rest => some ([], rest)
  | fuel + 1, cs =>
    match value fuel cs with
    | some (v, ',' :: rest) => (items fuel rest).map fun (vs, rest) => (v :: vs, rest)
    | some (v, ']' :: rest) => some ([v], rest)
    | _ => none

/-- The fields of a table up to its brace. A comma may stand before the brace. -/
def fields : (fuel : Nat) → List Char → Option (List (String × Value) × List Char)
  | 0, _ => none
  | _, '}' :: rest => some ([], rest)
  | fuel + 1, cs =>
    match name (skipSpace cs) with
    | none => none
    | some (n, rest) =>
      match skipSpace rest with
      | '=' :: rest =>
        match value fuel rest with
        | some (v, ',' :: rest) => (fields fuel rest).map fun (fs, rest) => ((n, v) :: fs, rest)
        | some (v, '}' :: rest) => some ([(n, v)], rest)
        | _ => none
      | _ => none

end

/-- What a variable holds. -/
def read (text : String) : Value :=
  let cs := text.toList
  match value (2 * cs.length + 2) cs with
  | some (v, []) => v
  | _ => .string text

end IconSubset.Config.Variable
