import IconSubset.Tsx.Grammar
import IconSubset.Parse.Machine
import IconSubset.Text.Digits

/-!
# The tokens of TSX modules

Ordinary tokens are read by what they look like: of the tokens that may come, the one of highest
rank and then the longest. Some tokens depend on their surroundings: the semicolon that a line end
stands for, the text of templates and of JSX elements, the question mark of a conditional, and HTML
comments. A place at which the source holds NUL counts as its end for these.
-/

namespace IconSubset.Tsx

open Grammar (TerminalSet)
open Parse (Source Lexeme Reading Lexer)

/-- Blanks of one byte, which separate words and lines. -/
def isAsciiBlank (c : Char) : Bool :=
  c == ' ' || c == '\t' || c == '\n' || c == '\x0b' || c == '\x0c' || c == '\r'

/-- Characters that may stand between tokens. -/
def isSeparator (c : Char) : Bool :=
  isAsciiBlank c || c == '\u00a0' || c == '\u1680' || ('\u2000' ≤ c && c ≤ '\u200b') ||
    c == '\u2028' || c == '\u2029' || c == '\u202f' || c == '\u205f' || c == '\u2060' ||
    c == '\u3000' || c == '\ufeff'

/-- Characters that end a line of source. -/
def isLineEnd (c : Char) : Bool := c == '\n' || c == '\u2028' || c == '\u2029'

/-- Characters that a word may contain. -/
def isWordPart (c : Char) : Bool :=
  c ≥ ' ' && !isSeparator c && !":;`\"'@#.,|^&<=>+-*/\\%?!~()[]\x7b\x7d".toList.contains c

/-- Hexadecimal digits. -/
def isHexDigit (c : Char) : Bool := (Text.hexDigit? c).isSome

/-- Octal digits. -/
def isOctalDigit (c : Char) : Bool := (Text.octalDigit? c).isSome

namespace Lexer

/-- The place after `n` characters that all satisfy the predicate. -/
private def exactly (s : Source) (p : Char → Bool) : (n : Nat) → (i : Nat) → Option Nat
  | 0, i => some i
  | n + 1, i => if !s.atEnd i && p (s.peek i) then exactly s p n (i + 1) else none

/-- The place after one or more characters that satisfy the predicate. -/
private def some1 (s : Source) (p : Char → Bool) (i : Nat) : Option Nat :=
  let stop := s.skipWhile p i
  if stop > i then some stop else none

/-- The greater of two places. -/
private def furthest (a b : Option Nat) : Option Nat :=
  match a, b with
  | some x, some y => some (max x y)
  | some x, none => some x
  | none, b => b

/-- A `\u` escape, with four digits or with digits in braces. -/
private def unicodeEscape (s : Source) (i : Nat) : Option Nat :=
  if s.peek i != '\\' || s.peek (i + 1) != 'u' then none
  else if s.peek (i + 2) == '{' then do
    let stop ← some1 s isHexDigit (i + 3)
    if s.peek stop == '}' then some (stop + 1) else none
  else exactly s isHexDigit 4 (i + 2)

/-- The place after the word characters from a place on. `fuel` bounds their number. -/
private def wordEnd (s : Source) : (fuel : Nat) → Nat → Nat
  | 0, i => i
  | fuel + 1, i =>
    if !s.atEnd i && isWordPart (s.peek i) then wordEnd s fuel (i + 1)
    else
      match unicodeEscape s i with
      | some j => wordEnd s fuel j
      | none => i

/-- An identifier or a keyword. -/
private def word (s : Source) (i : Nat) : Option Nat :=
  if (s.peek i).isDigit then none
  else
    let stop := wordEnd s (s.chars.size - i) i
    if stop > i then some stop else none

/-- A private name. -/
private def privateName (s : Source) (i : Nat) : Option Nat :=
  if s.peek i == '#' then word s (i + 1) else none

/-- The name of an element or attribute with a hyphen in it. -/
private def hyphenated (s : Source) (i : Nat) : Option Nat :=
  let start (c : Char) : Bool := c.isAlpha || c == '_' || c == '$'
  let part (c : Char) : Bool := start c || c.isDigit
  if !start (s.peek i) then none
  else
    let j := s.skipWhile part (i + 1)
    if s.peek j == '-' then some (s.skipWhile (fun c => part c || c == '-') (j + 1)) else none

/-- Digits with single underscores between them. `fuel` bounds their number. -/
private def digitsEnd (s : Source) (p : Char → Bool) : (fuel : Nat) → Nat → Nat
  | 0, i => i
  | fuel + 1, i =>
    if !s.atEnd i && p (s.peek i) then digitsEnd s p fuel (i + 1)
    else if s.peek i == '_' && !s.atEnd (i + 1) && p (s.peek (i + 1)) then
      digitsEnd s p fuel (i + 2)
    else i

private def digits (s : Source) (p : Char → Bool) (i : Nat) : Option Nat :=
  if !s.atEnd i && p (s.peek i) then some (digitsEnd s p (s.chars.size - i) (i + 1)) else none

/-- The digits of a number with a radix mark. -/
private def radix (s : Source) (mark : Char) (p : Char → Bool) (i : Nat) : Option Nat :=
  if s.peek i == '0' && (s.peek (i + 1)).toLower == mark then digits s p (i + 2) else none

/-- An exponent. -/
private def exponent (s : Source) (i : Nat) : Option Nat :=
  if s.peek i == 'e' || s.peek i == 'E' then
    let j := if s.peek (i + 1) == '-' || s.peek (i + 1) == '+' then i + 2 else i + 1
    digits s Char.isDigit j
  else none

/-- The whole part of a number: a zero, or digits of which at most the first is a zero. -/
private def wholePart (s : Source) (i : Nat) : List Nat :=
  let nonZero (j : Nat) : List Nat :=
    if (s.peek j).isDigit && s.peek j != '0' then
      (j + 1) ::
        (let k := if s.peek (j + 1) == '_' then j + 2 else j + 1
         match digits s Char.isDigit k with
         | some stop => [stop]
         | none => [])
    else []
  nonZero i ++ (if s.peek i == '0' then (i + 1) :: nonZero (i + 1) else [])

/-- A number. -/
private def number (s : Source) (i : Nat) : Option Nat :=
  let hex := radix s 'x' isHexDigit i
  let bin := radix s 'b' (fun c => c == '0' || c == '1') i
  let oct := radix s 'o' isOctalDigit i
  let dec := digits s Char.isDigit i
  let big := [hex, bin, oct, dec].filterMap fun stop => stop.bind fun j =>
    if s.peek j == 'n' then some (j + 1) else none
  let fraction (j : Nat) : Option Nat :=
    let k := (digits s Char.isDigit j).getD j
    some ((exponent s k).getD k)
  let whole := (wholePart s i).map fun j =>
    if s.peek j == '.' then fraction (j + 1) else exponent s j
  let bare := if s.peek i == '.' && (s.peek (i + 1)).isDigit then fraction (i + 1) else none
  ([hex, bin, oct, dec, bare] ++ big.map some ++ whole).foldl furthest none

/-- The end of a block comment whose content starts at `i`. -/
private def blockEnd (s : Source) (i : Nat) : Option Nat :=
  let j := s.skipWhile (fun c => c != '*' && c != '\x00') i
  if s.peek j == '*' then
    if s.peek (j + 1) == '/' then some (j + 2)
    else if h : j < s.chars.size ∧ i ≤ j then blockEnd s (j + 1) else none
  else none
termination_by s.chars.size - i
decreasing_by omega

/-- A comment. -/
private def comment (s : Source) (i : Nat) : Option Nat :=
  if s.startsWith i ['/', '/'] then
    some (s.skipWhile (fun c => !isLineEnd c && c != '\r' && c != '\x00') (i + 2))
  else if s.startsWith i ['/', '*'] then blockEnd s (i + 2)
  else none

/-- The first line of a script that names its interpreter. -/
private def interpreterLine (s : Source) (i : Nat) : Option Nat :=
  if s.startsWith i ['#', '!'] then some (s.skipWhile (fun c => c != '\n' && c != '\x00') (i + 2))
  else none

/-- The stretch of a string without escapes. -/
private def stringFragment (quote : Char) (s : Source) (i : Nat) : Option Nat :=
  some1 s (fun c => c != quote && c != '\\' && c != '\r' && c != '\n' && c != '\x00') i

/-- The stretch of an attribute string without character references. `fuel` bounds its length. -/
private def attributeFragment (quote : Char) (s : Source) (i : Nat) : Option Nat :=
  let rec go : (fuel : Nat) → Nat → Nat
    | 0, i => i
    | fuel + 1, i =>
      let c := s.peek i
      if s.atEnd i || c == '\x00' || c == quote then i
      else if c == '&' then
        let d := s.peek (i + 1)
        if s.atEnd (i + 1) || d == '\x00' || d == '#' || d.isAlpha then i else go fuel (i + 2)
      else go fuel (i + 1)
  let stop := go (s.chars.size - i) i
  if stop > i then some stop else none

/-- An escape in a string or template. -/
private def escape (s : Source) (i : Nat) : Option Nat :=
  if s.peek i != '\\' || s.atEnd (i + 1) then none
  else
    let c := s.peek (i + 1)
    if c == 'x' then exactly s isHexDigit 2 (i + 2)
    else if c == 'u' then unicodeEscape s i
    else if isOctalDigit c then
      furthest (some (i + 2)) (furthest (exactly s isOctalDigit 2 (i + 1))
        (exactly s isOctalDigit 3 (i + 1)))
    else if c == '\x00' then none
    else if (c == '\r' || c == '?') && isLineEnd (s.peek (i + 2)) then some (i + 3)
    else some (i + 2)

/-- The pattern of a regular expression. `fuel` bounds its length. -/
private def regexPattern (s : Source) (i : Nat) : Option Nat :=
  let plain (c : Char) : Bool := c != '\n' && c != '\x00'
  let rec inClass : (fuel : Nat) → Nat → Option Nat
    | 0, _ => none
    | fuel + 1, i =>
      let c := s.peek i
      if s.atEnd i || !plain c then none
      else if c == ']' then some (i + 1)
      else if c == '\\' then
        if s.atEnd (i + 1) || !plain (s.peek (i + 1)) then none else inClass fuel (i + 2)
      else inClass fuel (i + 1)
  let rec go : (fuel : Nat) → Nat → Nat
    | 0, i => i
    | fuel + 1, i =>
      let c := s.peek i
      if s.atEnd i || !plain c || c == '/' then i
      else if c == '[' then
        match inClass fuel (i + 1) with
        | some j => go fuel j
        | none => i
      else if c == '\\' then
        if s.atEnd (i + 1) || !plain (s.peek (i + 1)) then i else go fuel (i + 2)
      else go fuel (i + 1)
  let stop := go (s.chars.size - i) i
  if stop > i then some stop else none

/-- A character reference. -/
private def characterReference (s : Source) (i : Nat) : Option Nat :=
  if s.peek i != '&' then none
  else
    let body (j most : Nat) (p : Char → Bool) : Option Nat :=
      let stop := s.skipWhile p j
      if stop > j && stop - j ≤ most && s.peek stop == ';' then some (stop + 1) else none
    if s.peek (i + 1) == '#' then
      if s.peek (i + 2) == 'x' || s.peek (i + 2) == 'X' then body (i + 3) 6 isHexDigit
      else body (i + 2) 5 Char.isDigit
    else body (i + 1) 30 Char.isAlpha

/-- A kind of token with its looks. -/
private structure Look where
  /-- The terminal. -/
  terminal : Nat
  /-- Whether nothing may separate it from the token before. -/
  immediate : Bool
  /-- Its rank among tokens that start alike. -/
  rank : Int
  /-- Its rank among equally long tokens. -/
  tieRank : Nat
  /-- Where such a token that starts at a place ends. -/
  find : Source → Nat → Option Nat

/-- The token to take when two start at the same place. -/
private def better (a b : Look × Nat) : Bool :=
  a.1.rank > b.1.rank || (a.1.rank == b.1.rank &&
    (a.2 > b.2 || (a.2 == b.2 &&
      (a.1.tieRank > b.1.tieRank ||
        (a.1.tieRank == b.1.tieRank && a.1.terminal < b.1.terminal)))))

private def best (found : List (Look × Nat)) : Option (Look × Nat) :=
  match found with
  | [] => none
  | f :: rest => some (rest.foldl (fun a b => if better b a then b else a) f)

/-- How far the lexer looks where no token starts. -/
private def deadEnd (s : Source) (i : Nat) : Nat :=
  if s.peek i == '#' then i + 1
  else if s.peek i == '\\' then
    if s.peek (i + 1) == 'u' then
      if s.peek (i + 2) == '{' then s.skipWhile isHexDigit (i + 3)
      else
        let stop := s.skipWhile isHexDigit (i + 2)
        min stop (i + 6)
    else if s.peek (i + 1) == 'x' then min (s.skipWhile isHexDigit (i + 2)) (i + 4)
    else i + 1
  else i

/-- Reads an ordinary token. Where a keyword may come the lexer looks for a word. -/
private def read (looks : List Look) (word : Nat) (keywords : TerminalSet) (s : Source)
    (expected : TerminalSet) (place : Nat) : Reading :=
  let expected := if expected.meets keywords then expected.insert word else expected
  let pick (ls : List Look) (i : Nat) : Option (Look × Nat) :=
    best (ls.filterMap fun l =>
      if expected.contains l.terminal then (l.find s i).map (l, ·) else none)
  let start := s.skipWhile isSeparator place
  let here := if start == place then pick looks place else pick (looks.filter (·.immediate)) place
  match here with
  | some (l, stop) => .found ⟨l.terminal, place, stop, none⟩
  | none =>
    let there := if start == place then none else pick (looks.filter (!·.immediate)) start
    match there with
    | some (l, stop) => .found ⟨l.terminal, start, stop, none⟩
    | none =>
      if s.atEnd start && expected.contains 0 then .found ⟨0, start, start, none⟩
      else .failed start (deadEnd s start)

/-- The terminals of the tokens that depend on their surroundings. -/
private structure Contextual where
  semicolon : Nat
  signatureSemicolon : Nat
  templateChars : Nat
  questionMark : Nat
  htmlComment : Nat
  logicalOr : Nat
  escape : Nat
  regexPattern : Nat
  jsxText : Nat

/-- The text of a template up to an escape, a substitution or its end. -/
private def templateChars (s : Source) (place : Nat) : Option Nat :=
  let rec go : (fuel : Nat) → Nat → Option Nat
    | 0, _ => none
    | fuel + 1, i =>
      match s.peek i with
      | '`' | '\\' => some i
      | '\x00' => none
      | '$' => if s.peek (i + 1) == '{' then some i else go fuel (i + 1)
      | _ => go fuel (i + 1)
  (go (s.chars.size + 1 - place) place).filter (· > place)

/-- The text of a JSX element. Text that starts at a line end and is blank is none. Answers where
the text ends and whether there is any. -/
private def jsxText (s : Source) (place : Nat) : Nat × Bool :=
  let rec go : (fuel : Nat) → Nat → (seen atLineEnd : Bool) → Nat × Bool
    | 0, i, seen, _ => (i, seen)
    | fuel + 1, i, seen, atLineEnd =>
      let c := s.peek i
      if c == '\x00' || c == '<' || c == '>' || c == '{' || c == '}' || c == '&' then (i, seen)
      else if c == '\n' then go fuel (i + 1) seen true
      else
        let atLineEnd := atLineEnd && isAsciiBlank c
        go fuel (i + 1) (seen || !atLineEnd) atLineEnd
  go (s.chars.size + 1 - place) place false false

/-- Goes over blanks and comments; none when a slash starts no comment. The flag tells whether a
line comment was met. `fuel` bounds the number of comments. -/
private def overComments (s : Source) : (fuel : Nat) → Nat → (seen : Bool) → Option Nat × Bool × Nat
  | 0, i, seen => (none, seen, i)
  | fuel + 1, i, seen =>
    let i := s.skipWhile isAsciiBlank i
    if s.peek i != '/' then (some i, seen, i)
    else if s.peek (i + 1) == '/' then
      overComments s fuel (s.skipWhile (fun c => c != '\n' && c != '\x00') (i + 2)) true
    else if s.peek (i + 1) == '*' then
      let rec close : (fuel : Nat) → Nat → Nat
        | 0, i => i
        | fuel + 1, i =>
          if s.peek i == '\x00' then i
          else if s.peek i == '*' then
            if s.peek (i + 1) == '/' then i + 2 else close fuel (i + 1)
          else close fuel (i + 1)
      overComments s fuel (close (s.chars.size + 1 - i) (i + 2)) seen
    else (none, seen, i + 1)

/-- Whether the rest of a word is `stanceof` or less, so that the word is an operator. The word has
begun with `in`, and `i` is the place after that. -/
private def operatorWord (s : Source) (i : Nat) : Bool :=
  if !(s.peek i).isAlpha then true
  else if s.startsWith i "stanceof".toList then !(s.peek (i + 8)).isAlpha
  else false

/-- What a line end stands for. -/
private inductive LineEnd where
  | semicolon
  /-- No semicolon; the search stopped at that place, and met a line comment or not. -/
  | nothing (stopped : Nat) (commented : Bool)

/-- Whether a semicolon may be left out before the next token. `inExpression` tells whether a binary
operator may come, and `beforeBlock` whether a block may. -/
private def lineEnd (s : Source) (inExpression beforeBlock : Bool) (place : Nat) : LineEnd :=
  let i := s.skipWhile (fun c => isAsciiBlank c && c != '\n') place
  match s.peek i with
  | '\x00' => .semicolon
  | '}' =>
    let j := s.skipWhile isAsciiBlank (i + 1)
    if s.peek j == ':' then if inExpression then .semicolon else .nothing j false
    else .semicolon
  | '\n' =>
    match overComments s (s.chars.size + 1) (i + 1) false with
    | (none, commented, j) => .nothing j commented
    | (some j, commented, _) =>
      let next := s.peek (j + 1)
      let no : LineEnd := .nothing j commented
      match s.peek j with
      | '`' | ',' | '.' | ';' | '*' | '%' | '>' | '<' | '=' | '?' | '^' | '|' | '&' | '/' | ':' =>
        no
      | '{' => if beforeBlock then no else .semicolon
      | '(' | '[' => if inExpression then no else .semicolon
      | '+' => if next == '+' then .semicolon else .nothing (j + 1) commented
      | '-' => if next == '-' then .semicolon else .nothing (j + 1) commented
      | '!' => if next != '=' then .semicolon else .nothing (j + 1) commented
      | 'i' =>
        if next == 'n' && operatorWord s (j + 2) then .nothing (j + 2) commented else .semicolon
      | _ => .semicolon
  | _ => .nothing i false

/-- The question mark of a conditional; one before a colon, a comma or a closing parenthesis marks
an optional parameter. -/
private def questionMark (s : Source) (place : Nat) : Option (Nat × Nat) :=
  let i := s.skipWhile isAsciiBlank place
  if s.peek i != '?' then none
  else
    let c := s.peek (i + 1)
    if c == '?' || c == '.' then none
    else
      let j := s.skipWhile isAsciiBlank (i + 1)
      let d := s.peek j
      if d == ':' || d == ')' || d == ',' then none
      else if d == '.' then
        if (s.peek (j + 1)).isDigit then some (i, i + 1) else none
      else some (i, i + 1)

/-- A comment in the manner of HTML, which ends with its line. Answers where it starts and ends. -/
private def htmlComment (s : Source) (place : Nat) : Option (Nat × Nat) :=
  let i := s.skipWhile (fun c => isAsciiBlank c || isLineEnd c) place
  let opened :=
    if s.startsWith i "<!--".toList then some (i + 4)
    else if s.startsWith i "-->".toList then some (i + 3)
    else none
  opened.map fun j => (i, s.skipWhile (fun c => !isLineEnd c && c != '\x00') j)

/-- Reads a token that depends on its surroundings. -/
private def scan (t : Contextual) (s : Source) (expected : TerminalSet) (place : Nat) :
    Option Lexeme :=
  if expected.contains t.templateChars then
    if expected.contains t.semicolon then none
    else (templateChars s place).map fun stop => ⟨t.templateChars, place, stop, none⟩
  else
    let text :=
      if expected.contains t.jsxText then jsxText s place else (place, false)
    if text.2 then some ⟨t.jsxText, place, text.1, none⟩
    else if expected.contains t.semicolon || expected.contains t.signatureSemicolon then
      match lineEnd s (expected.contains t.logicalOr) (expected.contains t.signatureSemicolon)
          place with
      | .semicolon => some ⟨t.semicolon, place, place, none⟩
      | .nothing stopped commented =>
        if !commented && expected.contains t.questionMark && s.peek stopped == '?' then
          (questionMark s stopped).map fun (start, stop) => ⟨t.questionMark, start, stop, none⟩
        else none
    else if expected.contains t.questionMark then
      (questionMark s place).map fun (start, stop) => ⟨t.questionMark, start, stop, none⟩
    else if expected.contains t.htmlComment && !expected.contains t.logicalOr
        && !expected.contains t.escape && !expected.contains t.regexPattern then
      (htmlComment s text.1).map fun (start, stop) =>
        ⟨t.htmlComment, if text.1 > place then place else start, stop, none⟩
    else none

end Lexer

open Lexer in
/-- The lexical part of the grammar of TSX modules. -/
def lexer (g : Grammar.Grammar) : Parse.Lexer :=
  let look (name : String) (immediate : Bool) (rank : Int) (find : Source → Nat → Option Nat) :
      Look := ⟨g.named name, immediate, rank, if immediate then 1 else 0, find⟩
  let patterns : List Look :=
    [ look "identifier" false 0 word,
      look "hash_bang_line" false 0 interpreterLine,
      look "html_character_reference" false 0 characterReference,
      look "jsx_identifier" false 0 hyphenated,
      look "unescaped_double_jsx_string_fragment" true 1 (attributeFragment '"'),
      look "unescaped_single_jsx_string_fragment" true 1 (attributeFragment '\''),
      look "unescaped_double_string_fragment" true 1 (stringFragment '"'),
      look "unescaped_single_string_fragment" true 1 (stringFragment '\''),
      look "escape_sequence" true 0 escape,
      look "comment" false 0 comment,
      look "regex_pattern" true (-1) regexPattern,
      look "regex_close" true 1 fun s i => if s.peek i == '/' then some (i + 1) else none,
      look "regex_flags" true 0 fun s i => some1 s (fun c => 'a' ≤ c && c ≤ 'z') i,
      look "number" false 0 number,
      look "private_property_identifier" false 0 privateName ]
  let isWord (text : String) : Bool := text.toList.all fun c => c.isAlpha || c == '_'
  let marks : List Look := g.byLiteral.foldl
    (fun ls text terminal =>
      if isWord text then ls
      else
        let chars := text.toList
        ⟨terminal, false, 0, 2,
          fun s i => if s.startsWith i chars then some (i + chars.length) else none⟩ :: ls) []
  let keywords := g.byLiteral.foldl
    (fun set text terminal => if isWord text then set.insert terminal else set) TerminalSet.empty
  let t : Contextual :=
    { semicolon := g.named "_automatic_semicolon"
      signatureSemicolon := g.named "_function_signature_automatic_semicolon"
      templateChars := g.named "_template_chars"
      questionMark := g.named "_ternary_qmark"
      htmlComment := g.named "html_comment"
      logicalOr := g.literal "||"
      escape := g.named "escape_sequence"
      regexPattern := g.named "regex_pattern"
      jsxText := g.named "jsx_text" }
  { scan := fun s _ => scan t s
    read := read (patterns ++ marks) (g.named "identifier") keywords
    keyword := fun text => if isWord text then g.byLiteral[text]? else none }

/-- The terminals at which a parser that is lost may find its way back: all but those that are only
told from others by what stands around them. -/
def landmarks (g : Grammar.Grammar) : TerminalSet :=
  let all := TerminalSet.ofList (List.range g.terminals)
  let names := ["unescaped_double_jsx_string_fragment", "unescaped_single_jsx_string_fragment",
    "unescaped_double_string_fragment", "unescaped_single_string_fragment", "regex_pattern",
    "regex_flags", "jsx_identifier", "html_character_reference"]
  let marks := ["/>", "$\x7b", "?:"]
  all.diff (TerminalSet.ofList (names.map g.named ++ marks.map g.literal))

end IconSubset.Tsx
