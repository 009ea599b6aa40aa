import IconSubset.Json.Value

/-!
# Writing JSON

JSON is written without any blanks, or with one item or field a line, each level indented by two
blanks. In strings, quotes, backslashes and control characters are escaped.
-/

namespace IconSubset.Json

/-- A hexadecimal digit in lower case. -/
def hexDigit (n : Nat) : Char := Char.ofNat (if n < 10 then '0'.toNat + n else 'a'.toNat + n - 10)

/-- A character as it is written in a string. -/
def escapeChar (c : Char) : List Char :=
  match c with
  | '"' => ['\\', '"']
  | '\\' => ['\\', '\\']
  | '\x08' => ['\\', 'b']
  | '\x0c' => ['\\', 'f']
  | '\n' => ['\\', 'n']
  | '\r' => ['\\', 'r']
  | '\t' => ['\\', 't']
  | _ =>
    if c.toNat < 0x20 then ['\\', 'u', '0', '0', hexDigit (c.toNat / 16), hexDigit (c.toNat % 16)]
    else [c]

/-- A string with its quotes. -/
def quote (s : String) : List Char := '"' :: s.toList.flatMap escapeChar ++ ['"']

/-- A whole number. -/
def integerText (n : Int) : List Char :=
  (if n < 0 then ['-'] else []) ++ Decimal.natDigits n.natAbs

mutual

/-- A value without blanks. -/
def compactChars : Value → List Char
  | .null => "null".toList
  | .bool true => "true".toList
  | .bool false => "false".toList
  | .integer n => integerText n
  | .float x => x.json.toList
  | .string s => quote s
  | .array items => '[' :: compactItems items ++ [']']
  | .object fields => '{' :: compactFields fields ++ ['}']

/-- Items with commas between them. -/
def compactItems : List Value → List Char
  | [] => []
  | [v] => compactChars v
  | v :: rest => compactChars v ++ ',' :: compactItems rest

/-- Fields with commas between them. -/
def compactFields : List (String × Value) → List Char
  | [] => []
  | [(k, v)] => quote k ++ ':' :: compactChars v
  | (k, v) :: rest => quote k ++ ':' :: compactChars v ++ ',' :: compactFields rest

end

/-- A line end and the blanks of a level. -/
def newline (level : Nat) : List Char := '\n' :: List.replicate (2 * level) ' '

mutual

/-- A value on several lines; `level` is that of the value. -/
def prettyChars (level : Nat) : Value → List Char
  | .array [] => ['[', ']']
  | .array (v :: rest) => '[' :: prettyItems level (v :: rest) ++ newline level ++ [']']
  | .object [] => ['{', '}']
  | .object (f :: rest) => '{' :: prettyFields level (f :: rest) ++ newline level ++ ['}']
  | .null => compactChars .null
  | .bool b => compactChars (.bool b)
  | .integer n => compactChars (.integer n)
  | .float x => compactChars (.float x)
  | .string s => compactChars (.string s)

/-- Items, each on a line of its own. -/
def prettyItems (level : Nat) : List Value → List Char
  | [] => []
  | [v] => newline (level + 1) ++ prettyChars (level + 1) v
  | v :: rest => newline (level + 1) ++ prettyChars (level + 1) v ++ ',' :: prettyItems level rest

/-- Fields, each on a line of its own. -/
def prettyFields (level : Nat) : List (String × Value) → List Char
  | [] => []
  | [(k, v)] => newline (level + 1) ++ quote k ++ ':' :: ' ' :: prettyChars (level + 1) v
  | (k, v) :: rest =>
    newline (level + 1) ++ quote k ++ ':' :: ' ' :: prettyChars (level + 1) v ++
      ',' :: prettyFields level rest

end

/-- A value without blanks. -/
def Value.compact (v : Value) : String := String.ofList (compactChars v)

/-- A value on several lines. -/
def Value.pretty (v : Value) : String := String.ofList (prettyChars 0 v)

end IconSubset.Json
