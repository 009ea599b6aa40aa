import IconSubset.Html.Element
import IconSubset.Parse.Machine

/-!
# Tokens of HTML that depend on their surroundings

The scanner knows which elements are open. It reads names of tags, comments and raw text, and it
finds the places at which an element ends without an end tag: an element that never has content ends
before the next tag, any element ends before one that it cannot contain, and whatever is open inside
an element ends before the end tag of that element. Tokens are written down with what the scanner
knows behind them, for which there are 1024 bytes; where elements are nested so deep that this does
not suffice, the scanner forgets the names of the innermost ones.
-/

namespace IconSubset.Html

open Grammar (TerminalSet)
open Parse (Source Lexeme Memory)

/-- White space of HTML. -/
def isSpace (c : Char) : Bool :=
  c == ' ' || c == '\t' || c == '\n' || c == '\x0b' || c == '\x0c' || c == '\r'

/-- Characters of the name of a tag. -/
def isNamePart (c : Char) : Bool := c.isAlphanum || c == '-' || c == ':'

/-- The name between two places, in lower case; only ASCII letters have one. -/
def lowerName (s : Source) (start stop : Nat) : String :=
  String.ofList ((s.slice start stop).toList.map Char.toLower)

namespace Scanner

/-- The number of bytes in which a scanner may write down what it knows. -/
def capacity : Nat := 1024

/-- The number of bytes of a name that are written down. -/
def maxName : Nat := 255

/-- The number of elements that are written down. -/
def maxElements : Nat := 65535

/-- Elements as they are written down behind a number of bytes, outermost first. An element of HTML
takes one byte; another takes one, one for the length of its name, and its name. -/
def writeDown : (size : Nat) → List String → List String
  | _, [] => []
  | size, name :: inner =>
    let kept := String.ofList (name.toList.take maxName)
    let size := size + if isCustom name then 2 + kept.length else 1
    if size < capacity then kept :: writeDown size inner
    else (name :: inner).map fun _ => forgotten

/-- What a scanner that knows these open elements, innermost first, knows behind a token. Two
numbers of elements of two bytes each come first. -/
def remember (names : List String) : Memory :=
  some (writeDown 4 (names.reverse.take maxElements)).reverse

/-- The open elements that a scanner knows of, innermost first. -/
def opened (memory : Memory) : List String := memory.getD []

/-- Elements that end with the document. -/
def mayStayOpen : List String := ["html", "head", "body"]

/-- The elements that are still open when the innermost one ends without an end tag; none when it
does not end. `i` is the place behind the `<` of the next tag, or the end of the document. -/
def endImplied (s : Source) (names : List String) (i : Nat) : Option (List String) :=
  let closing := s.peek i == '/'
  if !closing && names.head?.any (· ∈ voidNames) then some names.tail
  else
    let start := if closing then i + 1 else i
    let stop := s.skipWhile isNamePart start
    if stop == start && !s.atEnd stop then none
    else
      let next := lowerName s start stop
      match names with
      | [] => none
      | parent :: outer =>
        if closing then
          if parent == next then none
          else if names.any (sameSort next) then some outer
          else none
        else if !canContain parent next || (parent ∈ mayStayOpen && s.atEnd stop) then some outer
        else none

/-- Where a comment ends, given the place behind its `<!`. -/
def commentEnd (s : Source) (i : Nat) : Option Nat :=
  let rec go : (fuel : Nat) → Nat → (dashes : Nat) → Option Nat
    | 0, _, _ => none
    | fuel + 1, i, dashes =>
      let c := s.peek i
      if c == '\x00' then none
      else if c == '-' then go fuel (i + 1) (dashes + 1)
      else if c == '>' && dashes ≥ 2 then some (i + 1)
      else go fuel (i + 1) 0
  if s.peek i == '-' && s.peek (i + 1) == '-' then go (s.chars.size + 1 - i) (i + 2) 0 else none

/-- Where raw text ends. `ahead` is what is left of the beginning of the end tag, as far as it has
been met from `stop` on. A character that does not go on with it belongs to the text; the end tag
does not begin with that character either. -/
def rawTextEnd (s : Source) (tag : List Char) :
    (fuel : Nat) → (i : Nat) → (ahead : List Char) → (stop : Nat) → Nat
  | 0, _, _, stop => stop
  | _, _, [], stop => stop
  | fuel + 1, i, d :: ahead, stop =>
    let c := s.peek i
    if c == '\x00' then stop
    else if c.toLower == d then rawTextEnd s tag fuel (i + 1) ahead stop
    else rawTextEnd s tag fuel (i + 1) tag (i + 1)

/-- Elements whose text is raw. -/
def rawTextNames : List String := ["script", "style"]

/-- The beginning of the end tag of raw text. -/
def rawTextTag (name : String) : List Char :=
  if name == "script" then "</script".toList else "</style".toList

/-- The terminals of the tokens that the scanner reads. -/
structure Terminals where
  startTagName : Nat
  scriptStartTagName : Nat
  styleStartTagName : Nat
  endTagName : Nat
  erroneousEndTagName : Nat
  selfClosing : Nat
  implicitEndTag : Nat
  rawText : Nat
  comment : Nat
deriving DecidableEq

/-- The terminal of the name of a start tag. -/
def Terminals.ofStartTag (t : Terminals) (name : String) : Nat :=
  if name == "script" then t.scriptStartTagName
  else if name == "style" then t.styleStartTagName
  else t.startTagName

/-- Reads the name of a tag. -/
def tagName (t : Terminals) (s : Source) (names : List String) (opening : Bool) (i : Nat) :
    Option Lexeme :=
  let stop := s.skipWhile isNamePart i
  if stop == i then none
  else
    let name := lowerName s i stop
    some <|
      if opening then ⟨t.ofStartTag name, i, stop, remember (name :: names)⟩
      else if names.head? == some name then ⟨t.endTagName, i, stop, remember names.tail⟩
      else ⟨t.erroneousEndTagName, i, stop, remember names⟩

/-- Reads a token. A `/>` where no element is open counts as the name of a start tag. -/
def scan (t : Terminals) (s : Source) (memory : Memory) (expected : TerminalSet) (place : Nat) :
    Option Lexeme :=
  let names := opened memory
  let named := expected.contains t.startTagName || expected.contains t.endTagName
  if expected.contains t.rawText && !named then
    names.head?.map fun name =>
      let tag := rawTextTag name
      let stop := rawTextEnd s tag (s.chars.size + 1 - place) place tag place
      ⟨t.rawText, place, stop, remember names⟩
  else
    let i := s.skipWhile isSpace place
    let implied (j : Nat) : Option Lexeme :=
      if expected.contains t.implicitEndTag then
        (endImplied s names j).map fun names => ⟨t.implicitEndTag, i, i, remember names⟩
      else none
    match s.peek i with
    | '<' =>
      if s.peek (i + 1) == '!' then
        (commentEnd s (i + 2)).map fun stop => ⟨t.comment, i, stop, remember names⟩
      else implied (i + 1)
    | '\x00' => implied i
    | '/' =>
      if expected.contains t.selfClosing && s.peek (i + 1) == '>' then
        match names with
        | [] => some ⟨t.startTagName, i, i + 2, remember []⟩
        | _ :: outer => some ⟨t.selfClosing, i, i + 2, remember outer⟩
      else none
    | _ =>
      if named && !expected.contains t.rawText then
        tagName t s names (expected.contains t.startTagName) i
      else none

end Scanner

end IconSubset.Html
