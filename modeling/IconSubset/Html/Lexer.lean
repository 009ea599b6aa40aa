import IconSubset.Html.Grammar
import IconSubset.Html.Scanner
import IconSubset.Text.Digits

/-!
# The tokens of HTML documents

What an ordinary token looks like depends on where it stands: between tags, within a tag, as a
value, within quotation marks, or behind the keyword of a doctype. The lexer looks for all tokens of
a place at once, also for those that the parser could not take. White space is passed over, except
where it may belong to the token. No token has NUL in it.
-/

namespace IconSubset.Html

open Grammar (TerminalSet)
open Parse (Source Lexeme Reading Lexer)

/-- Characters of an attribute value without quotation marks. -/
def isValuePart (c : Char) : Bool :=
  !isSpace c && c != '<' && c != '>' && c != '"' && c != '\'' && c != '=' && c != '\x00'

/-- Characters of the name of an attribute. -/
def isAttributePart (c : Char) : Bool := isValuePart c && c != '/'

/-- Characters of text. -/
def isTextPart (c : Char) : Bool := c != '<' && c != '>' && c != '&' && c != '\x00'

namespace Lexer

/-- The place after one or more characters that satisfy the predicate. -/
def some1 (s : Source) (p : Char → Bool) (i : Nat) : Option Nat :=
  let stop := s.skipWhile p i
  if stop > i then some stop else none

/-- The place after a punctuation mark or a keyword, whatever the case of its letters. -/
def spelled (s : Source) (i : Nat) : List Char → Option Nat
  | [] => some i
  | c :: cs => if (s.peek i).toLower == c then spelled s (i + 1) cs else none

/-- The place after at most `n` characters that satisfy the predicate. -/
def upTo (s : Source) (p : Char → Bool) : (n : Nat) → (i : Nat) → Nat
  | 0, i => i
  | n + 1, i => if p (s.peek i) then upTo s p n (i + 1) else i

/-- A character reference. A semicolon may be missing at its end. -/
def entity (s : Source) (i : Nat) : Option Nat :=
  if s.peek i != '&' then none
  else
    let body (j most : Nat) (p : Char → Bool) : Option Nat :=
      let stop := upTo s p most j
      if stop == j then none else some (if s.peek stop == ';' then stop + 1 else stop)
    if s.peek (i + 1) == '#' then
      if (s.peek (i + 2)).toLower == 'x' then body (i + 3) 6 fun c => (Text.hexDigit? c).isSome
      else body (i + 2) 5 Char.isDigit
    else body (i + 1) 30 Char.isAlpha

/-- Text: it begins and ends with a character that is no white space. -/
def text (s : Source) (i : Nat) : Option Nat :=
  let rec trimmed : (stop : Nat) → Nat
    | 0 => 0
    | stop + 1 => if isSpace (s.peek stop) then trimmed stop else stop + 1
  if isSpace (s.peek i) then none
  else (some1 s isTextPart i).map trimmed

/-- A kind of token: its terminal, and where such a token that starts at a place ends. -/
structure Look where
  /-- The terminal. -/
  terminal : Nat
  /-- Where such a token that starts at a place ends. -/
  find : Source → Nat → Option Nat

/-- The tokens of one kind of place. -/
structure Setting where
  /-- The tokens, of which no two that start alike are equally long. -/
  looks : List Look
  /-- Whether white space is passed over. -/
  spaced : Bool
  /-- Whether the document may end there. -/
  mayEnd : Bool

/-- The longer of two tokens that start at a place: the best one so far, and the one that is looked
for next. -/
def longer (s : Source) (i : Nat) (best : Option (Nat × Nat)) (l : Look) : Option (Nat × Nat) :=
  match l.find s i, best with
  | some stop, some (_, most) => if stop > most then some (l.terminal, stop) else best
  | some stop, none => some (l.terminal, stop)
  | none, _ => best

/-- The longest of the tokens that start at a place. -/
def longest (looks : List Look) (s : Source) (i : Nat) : Option (Nat × Nat) :=
  looks.foldl (longer s i) none

/-- How far the lexer looks where no token starts. -/
def deadEnd (s : Source) (i : Nat) : Nat :=
  if s.peek i == '/' then i + 1
  else if s.peek i == '&' then
    if s.peek (i + 1) == '#' then if (s.peek (i + 2)).toLower == 'x' then i + 3 else i + 2
    else i + 1
  else
    let rec keyword (j : Nat) : List Char → Nat
      | [] => j
      | c :: cs => if (s.peek j).toLower == c then keyword (j + 1) cs else j
    keyword i "doctype".toList

/-- Reads a token of a kind of place. -/
def Setting.read (k : Setting) (s : Source) (place : Nat) : Reading :=
  let i := if k.spaced then s.skipWhile isSpace place else place
  match longest k.looks s i with
  | some (terminal, stop) => .found ⟨terminal, i, stop, none⟩
  | none => if k.mayEnd && s.atEnd i then .found ⟨0, i, i, none⟩ else .failed i (deadEnd s i)

end Lexer

namespace Lexer

/-- A punctuation mark. -/
def mark (g : Grammar.Grammar) (text : String) : Look :=
  ⟨g.literal text, fun s i => spelled s i text.toList⟩

/-- A token that a rule names. -/
def token (g : Grammar.Grammar) (name : String) (find : Source → Nat → Option Nat) : Look :=
  ⟨g.named name, find⟩

/-- A token of one or more characters that satisfy the predicate. -/
def row (g : Grammar.Grammar) (name : String) (p : Char → Bool) : Look :=
  token g name fun s i => some1 s p i

/-- The tokens within quotation marks. -/
def within (g : Grammar.Grammar) (quotes name : String) (quote : Char) : Setting :=
  ⟨[mark g quotes, row g name fun c => c != quote && c != '\x00'], false, false⟩

/-- The kinds of places, each with a terminal that tells it from the others. -/
def settings (g : Grammar.Grammar) : List (Nat × Setting) :=
  [ (g.named "text",
      ⟨[mark g "<!", mark g "<", mark g "</", token g "entity" entity, token g "text" text], true,
        true⟩),
    (g.named "attribute_name",
      ⟨[mark g ">", mark g "/>", mark g "=", row g "attribute_name" isAttributePart], true,
        false⟩),
    (g.named "attribute_value",
      ⟨[row g "attribute_value" isValuePart, mark g "'", mark g "\""], true, false⟩),
    (g.named "_single_quoted_text", within g "'" "_single_quoted_text" '\''),
    (g.named "_double_quoted_text", within g "\"" "_double_quoted_text" '"'),
    (g.named "_doctype_text",
      ⟨[row g "_doctype_text" fun c => c != '>' && c != '\x00'], false, false⟩) ]

/-- The tokens of all other places. -/
def elsewhere (g : Grammar.Grammar) : Setting :=
  ⟨[mark g "<!", mark g ">", token g "_doctype" fun s i => spelled s i "doctype".toList, mark g "<",
    mark g "/>", mark g "</", mark g "=", token g "entity" entity, mark g "'", mark g "\""], true,
    true⟩

/-- The kind of a place, given the terminals that may come. -/
def setting (g : Grammar.Grammar) (expected : TerminalSet) : Setting :=
  ((settings g).find? (expected.contains ·.1)).elim (elsewhere g) (·.2)

end Lexer

/-- The terminals of the tokens that the scanner reads. -/
def Scanner.terminals (g : Grammar.Grammar) : Scanner.Terminals :=
  { startTagName := g.named "_start_tag_name"
    scriptStartTagName := g.named "_script_start_tag_name"
    styleStartTagName := g.named "_style_start_tag_name"
    endTagName := g.named "_end_tag_name"
    erroneousEndTagName := g.named "erroneous_end_tag_name"
    selfClosing := g.literal "/>"
    implicitEndTag := g.named "_implicit_end_tag"
    rawText := g.named "raw_text"
    comment := g.named "comment" }

/-- The lexical part of the grammar of HTML documents. -/
def lexer (g : Grammar.Grammar) : Parse.Lexer :=
  { scan := Scanner.scan (Scanner.terminals g)
    read := fun s expected place => (Lexer.setting g expected).read s place
    keyword := fun _ => none }

/-- The terminals at which a parser that is lost may find its way back: all but those that are told
from others by where they stand. -/
def landmarks (g : Grammar.Grammar) : TerminalSet :=
  let names := ["text", "attribute_name", "attribute_value", "_single_quoted_text",
    "_double_quoted_text", "_doctype_text"]
  (TerminalSet.ofList (List.range g.terminals)).diff (TerminalSet.ofList (names.map g.named))

end IconSubset.Html
