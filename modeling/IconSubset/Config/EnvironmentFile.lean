import IconSubset.Config.Environment
import IconSubset.Text.Alphanumeric

/-!
# Files of environment variables

A file may assign environment variables, one a line. It never changes a variable that is set
already. The first line that is no assignment ends the reading; what came before it stays.

Values may be quoted. Double quotes and no quotes at all let a dollar sign put in the value of a
variable, and a backslash take the next character as it is; single quotes keep everything. A quoted
value may go on over several lines.
-/

namespace IconSubset.Config.EnvironmentFile

/-- Where the end of a line may be. -/
inductive Framing where
  | bare
  | afterSpace
  | afterBackslash
  | inDouble
  | inDoubleAfterBackslash
  | inSingle
  | inSingleAfterBackslash
deriving DecidableEq, Repr, Inhabited

/-- A character outside of quotes. -/
def Framing.outside (c : Char) : Framing :=
  if c = '\\' then .afterBackslash
  else if c = '"' then .inDouble
  else if c = '\'' then .inSingle
  else .bare

/-- One more character of a line. -/
def Framing.step (c : Char) : Framing → Framing
  | bare => if Text.isBlank c && c != '\n' && c != '\r' then .afterSpace else .outside c
  | afterSpace => .outside c
  | afterBackslash => .bare
  | inDouble => if c = '\\' then .inDoubleAfterBackslash else if c = '"' then .bare else .inDouble
  | inDoubleAfterBackslash => .inDouble
  | inSingle => if c = '\\' then .inSingleAfterBackslash else if c = '\'' then .bare else .inSingle
  | inSingleAfterBackslash => .inSingle

/-- The characters after the line that begins here. -/
def afterLine (cs : List Char) : List Char := (cs.dropWhile (· ≠ '\n')).drop 1

/-- A line and what follows it; nothing when a quote is left open. A comment after white space is
left out. -/
def line (framing : Framing) : List Char → Option (List Char × List Char)
  | [] => if framing = .bare then some ([], []) else none
  | c :: cs =>
    if framing = .afterSpace ∧ c = '#' then some ([], afterLine cs)
    else if c = '\n' ∧ framing.step c = .bare then some ([], cs)
    else (line (framing.step c) cs).map fun (text, rest) => (c :: text, rest)

/-- Whether the line that begins here is a comment. -/
def isComment (cs : List Char) : Bool :=
  (cs.takeWhile (· ≠ '\n')).dropWhile Text.isBlank |>.head? |> (· == some '#')

/-- The lines of a file up to one whose quote is left open. `fuel` bounds their number. -/
def lines : (fuel : Nat) → List Char → List (List Char)
  | 0, _ => []
  | _, [] => []
  | fuel + 1, cs =>
    if isComment cs then lines fuel (afterLine cs)
    else
      match line .bare cs with
      | some (text, rest) => text :: lines fuel rest
      | none => []

/-- How a character of a value is read. -/
inductive Reading where
  | plain
  | afterBackslash
  | single
  /-- In the name of a variable after a dollar sign. -/
  | named (name : List Char)
  /-- In the name of a variable in braces. -/
  | braced (name : List Char)
  /-- After the value. -/
  | ended
deriving DecidableEq, Repr, Inhabited

/-- The value of a variable; nothing when there is none. -/
def substitute (known : Environment) (name : List Char) : List Char :=
  ((known.get? (String.ofList name)).getD "").toList

/-- The value of an assignment. `double` says whether a double quote is open. -/
def value (known : Environment) (double : Bool) : Reading → List Char → Option (List Char)
  | .plain, [] | .afterBackslash, [] => if double then none else some []
  | .ended, [] => some []
  | .named name, [] => if double then none else some (substitute known name)
  | .single, [] | .braced _, [] => none
  | .ended, c :: cs =>
    if c = ' ' ∨ c = '\t' then value known double .ended cs
    else if c = '#' then some []
    else none
  | .afterBackslash, c :: cs =>
    if c = 'n' then (value known double .plain cs).map ('\n' :: ·)
    else if c ∈ ['\\', '\'', '"', '$', ' '] then (value known double .plain cs).map (c :: ·)
    else none
  | .single, c :: cs =>
    if c = '\'' then value known double .plain cs else (value known double .single cs).map (c :: ·)
  | .named name, c :: cs =>
    if Text.isAlphanumeric c then value known double (.named (name ++ [c])) cs
    else if c = '{' ∧ name = [] then value known double (.braced []) cs
    else if c = '$' then
      (value known double (.named []) cs).map (substitute known name ++ ·)
    else (value known double .plain cs).map (substitute known name ++ c :: ·)
  | .braced name, c :: cs =>
    if c = '}' then (value known double .plain cs).map (substitute known name ++ ·)
    else value known double (.braced (name ++ [c])) cs
  | .plain, c :: cs =>
    if c = '$' then value known double (.named []) cs
    else if c = '\\' then value known double .afterBackslash cs
    else if c = '"' then value known (!double) .plain cs
    else if double then (value known double .plain cs).map (c :: ·)
    else if c = '\'' then value known double .single cs
    else if c = ' ' ∨ c = '\t' then value known double .ended cs
    else (value known double .plain cs).map (c :: ·)

/-- The name that an assignment begins with, and what follows it. -/
def name (cs : List Char) : Option (List Char × List Char) :=
  match cs with
  | c :: _ =>
    if c.isAlpha || c == '_' then
      let inName (c : Char) : Bool := c.isAlphanum || c == '_' || c == '.'
      some (cs.takeWhile inName, (cs.dropWhile inName).dropWhile Text.isBlank)
    else none
  | [] => none

/-- What follows an equals sign and white space. -/
def afterEquals : List Char → Option (List Char)
  | '=' :: cs => some (cs.dropWhile Text.isBlank)
  | _ => none

/-- The name that a line assigns, and what follows the equals sign. The word `export` may stand
before it. -/
def target (cs : List Char) : Option (List Char × List Char) :=
  (name cs).bind fun (first, rest) =>
    match afterEquals rest with
    | some rest => some (first, rest)
    | none =>
      if first = "export".toList then
        (name rest).bind fun (second, rest) => (afterEquals rest).map fun rest => (second, rest)
      else none

/-- What the lines assign, added to the variables that are known. -/
def assign (known : Environment) : List (List Char) → Environment
  | [] => known
  | text :: rest =>
    let cs := Text.trimChars text
    if cs = [] ∨ cs.head? = some '#' then assign known rest
    else
      match target cs with
      | none => known
      | some (key, cs) =>
        let read := if cs = [] ∨ cs.head? = some '#' then some [] else value known false .plain cs
        match read with
        | none => known
        | some v =>
          let key := String.ofList key
          if (known.get? key).isSome then assign known rest
          else assign (known ++ [(key, String.ofList v)]) rest

/-- The variables that are known once a file has been read. -/
def load (known : Environment) (text : String) : Environment :=
  let cs := match text.toList with
    | '\ufeff' :: cs => cs
    | cs => cs
  assign known (lines (cs.length + 1) cs)

end IconSubset.Config.EnvironmentFile
