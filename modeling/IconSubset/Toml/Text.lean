import IconSubset.Text.Digits

/-!
# Texts in TOML

What may stand between values, and the four kinds of strings: in double quotes with escapes or in
single quotes without, on one line or, with three quotes, on several. Each reader takes what it
reads from the front and gives the rest, or nothing when what stands there is not well formed.
-/

namespace IconSubset.Toml

/-- Blanks within a line. -/
def isSpace (c : Char) : Bool := c == ' ' || c == '\t'

/-- The characters after blanks. -/
def skipSpace (cs : List Char) : List Char := cs.dropWhile isSpace

/-- Whether a character may stand in comments, and in strings apart from quotes and backslashes. -/
def isTextChar (c : Char) : Bool := c == '\t' || (' ' ≤ c && c ≠ '\x7f')

/-- What follows a line end. -/
def afterNewline : List Char → Option (List Char)
  | '\n' :: cs => some cs
  | '\r' :: '\n' :: cs => some cs
  | _ => none

/-- What follows blanks and a comment, which a line may end in. -/
def skipComment (cs : List Char) : List Char :=
  match skipSpace cs with
  | '#' :: rest => rest.dropWhile isTextChar
  | rest => rest

/-- What follows blanks, comments and line ends. `fuel` bounds the number of lines. -/
def skipLines : (fuel : Nat) → List Char → List Char
  | 0, cs => cs
  | fuel + 1, cs =>
    let rest := skipComment cs
    match afterNewline rest with
    | some rest => skipLines fuel rest
    | none => rest

/-- What follows blanks and line ends. `fuel` bounds the number of lines. -/
def skipBlankLines : (fuel : Nat) → List Char → List Char
  | 0, cs => cs
  | fuel + 1, cs =>
    let rest := skipSpace cs
    match afterNewline rest with
    | some rest => skipBlankLines fuel rest
    | none => rest

/-- What an escape stands for, given what follows its backslash. -/
def escape? : List Char → Option (Char × List Char)
  | 'b' :: cs => some ('\x08', cs)
  | 't' :: cs => some ('\t', cs)
  | 'n' :: cs => some ('\n', cs)
  | 'f' :: cs => some ('\x0c', cs)
  | 'r' :: cs => some ('\r', cs)
  | '"' :: cs => some ('"', cs)
  | '\\' :: cs => some ('\\', cs)
  | 'u' :: cs => Text.hexEscape? 4 cs
  | 'U' :: cs => Text.hexEscape? 8 cs
  | _ => none

/-- Puts a character before a text that is read. -/
def prepend (c : Char) (r : List Char × List Char) : List Char × List Char := (c :: r.1, r.2)

/-- A string in double quotes after the first of them. `fuel` bounds its length. -/
def basic : (fuel : Nat) → List Char → Option (List Char × List Char)
  | 0, _ => none
  | _, [] => none
  | fuel + 1, c :: cs =>
    if c = '"' then some ([], cs)
    else if c = '\\' then (escape? cs).bind fun (c, cs) => (basic fuel cs).map (prepend c)
    else if isTextChar c then (basic fuel cs).map (prepend c)
    else none

/-- A string in single quotes after the first of them. -/
def literal : List Char → Option (List Char × List Char)
  | [] => none
  | c :: cs =>
    if c = '\'' then some ([], cs)
    else if isTextChar c then (literal cs).map (prepend c)
    else none

/-- The end of a string in three quotes: up to two more quotes before the last three belong to the
string. -/
def closing (quote : Char) (cs : List Char) : Option (List Char × List Char) :=
  let quotes := (cs.takeWhile (· == quote)).length
  if quotes < 3 then none
  else
    let more := min (quotes - 3) 2
    some (List.replicate more quote, cs.drop (more + 3))

/-- A string in three double quotes after those. A backslash at the end of a line joins it with what
comes next. `fuel` bounds its length. -/
def multilineBasic : (fuel : Nat) → List Char → Option (List Char × List Char)
  | 0, _ => none
  | _, [] => none
  | fuel + 1, c :: cs =>
    match closing '"' (c :: cs) with
    | some r => some r
    | none =>
      match afterNewline (c :: cs) with
      | some cs => (multilineBasic fuel cs).map (prepend '\n')
      | none =>
        if c = '\\' then
          match afterNewline (skipSpace cs) with
          | some cs => multilineBasic fuel (skipBlankLines cs.length cs)
          | none => (escape? cs).bind fun (c, cs) => (multilineBasic fuel cs).map (prepend c)
        else if isTextChar c then (multilineBasic fuel cs).map (prepend c)
        else none

/-- A string in three single quotes after those. `fuel` bounds its length. -/
def multilineLiteral : (fuel : Nat) → List Char → Option (List Char × List Char)
  | 0, _ => none
  | _, [] => none
  | fuel + 1, c :: cs =>
    match closing '\'' (c :: cs) with
    | some r => some r
    | none =>
      match afterNewline (c :: cs) with
      | some cs => (multilineLiteral fuel cs).map (prepend '\n')
      | none => if isTextChar c then (multilineLiteral fuel cs).map (prepend c) else none

/-- The characters after a line end, if they begin with one. -/
def dropNewline (cs : List Char) : List Char := (afterNewline cs).getD cs

/-- A string on one line. -/
def lineString? : List Char → Option (List Char × List Char)
  | '"' :: cs => basic (cs.length + 1) cs
  | '\'' :: cs => literal cs
  | _ => none

/-- A string. -/
def string? (cs : List Char) : Option (String × List Char) :=
  let read := match cs with
    | '"' :: '"' :: '"' :: rest => multilineBasic (rest.length + 1) (dropNewline rest)
    | '\'' :: '\'' :: '\'' :: rest => multilineLiteral (rest.length + 1) (dropNewline rest)
    | _ => lineString? cs
  read.map fun (text, rest) => (String.ofList text, rest)

/-- Whether a character may stand in a name without quotes. -/
def isNameChar (c : Char) : Bool := c.isAlphanum || c == '_' || c == '-'

/-- One name. -/
def name? (cs : List Char) : Option (String × List Char) :=
  match cs with
  | '"' :: _ | '\'' :: _ => (lineString? cs).map fun (text, rest) => (String.ofList text, rest)
  | _ =>
    let word := cs.takeWhile isNameChar
    if word = [] then none else some (String.ofList word, cs.dropWhile isNameChar)

/-- A name, or several with dots between them that lead into tables. `fuel` bounds their number. -/
def names? : (fuel : Nat) → List Char → Option (List String × List Char)
  | 0, _ => none
  | fuel + 1, cs =>
    (name? (skipSpace cs)).bind fun (name, rest) =>
      match skipSpace rest with
      | '.' :: rest => (names? fuel rest).map fun (names, rest) => (name :: names, rest)
      | rest => some ([name], rest)

end IconSubset.Toml
