import IconSubset.Text.Blank
import IconSubset.Tsx.Lexer
import IconSubset.Tsx.Shape

/-!
# Modules that declare one constant

The tree of a module such as `const icon = <Icon name="home" />;` needs no tables: every expression
in it is enclosed by marks that tell how it goes on. Such a module is read by descent. The
expressions are identifiers, strings, templates without substitutions, calls of identifiers,
elements, and, in parentheses, conditionals and logical operations. Comments and everything else are
left to the grammar, and what is read here has the tree that the grammar gives it. So it is where a
module has one fault, a word alone in braces between tags that begins an expression and does not end
it.
-/

namespace IconSubset.Tsx

open Syntax (Node Kind Role)

namespace Constant

/-- Reads from the start of characters, and leaves those that follow. -/
abbrev Reader := StateT (List Char) Option

/-- Reads the characters of a token. -/
def exactly (text : List Char) : Reader Unit := fun cs =>
  if text.isPrefixOf cs then some ((), cs.drop text.length) else none

/-- Reads a keyword or a punctuation mark. -/
def mark (text : String) : Reader Shape := do
  exactly text.toList
  return .token (.token text) none text.toList

/-- Reads the longest run of characters that satisfy a predicate. -/
def run (p : Char → Bool) : Reader (List Char) := fun cs => some (cs.takeWhile p, cs.dropWhile p)

/-- Reads blanks, if there are any. -/
def blanks : Reader (List Shape) := do
  match ← run isAsciiBlank with
  | [] => return []
  | text => return [.blanks text]

/-- Reads blanks, of which there must be some. -/
def someBlanks : Reader (List Shape) := do
  match ← run isAsciiBlank with
  | [] => failure
  | text => return [.blanks text]

/-- Whether the characters that follow start with some text. -/
def startsWith (text : String) : Reader Bool := fun cs => some (text.toList.isPrefixOf cs, cs)

/-- The first of the texts with which the characters that follow start. -/
def firstOf? (texts : List String) : Reader (Option String) := fun cs =>
  some (texts.find? fun text => text.toList.isPrefixOf cs, cs)

/-- Reads one thing after another until a predicate on what follows holds. `limit` bounds how many
there are. -/
def many {α : Type} (atEnd : List Char → Bool) (one : Reader (List α)) :
    (limit : Nat) → Reader (List α)
  | 0 => failure
  | limit + 1 => fun cs =>
    if atEnd cs then some ([], cs)
    else
      (one cs).bind fun (found, cs) =>
        (many atEnd one limit cs).map fun (more, cs) => (found ++ more, cs)

/-- Reads one thing after another, as many as what follows may hold. -/
def repeated {α : Type} (atEnd : List Char → Bool) (one : Reader (List α)) : Reader (List α) :=
  fun cs => many atEnd one (cs.length + 1) cs

/-! ## Escapes -/

/-- Reads what follows the `u` of an escape: four digits, or digits in braces. -/
def unicodeBody : Reader (List Char) := fun cs =>
  match cs with
  | '{' :: rest =>
    let digits := rest.takeWhile isHexDigit
    match digits, rest.dropWhile isHexDigit with
    | _ :: _, '}' :: rest => some ('{' :: digits ++ ['}'], rest)
    | _, _ => none
  | a :: b :: c :: d :: rest =>
    if [a, b, c, d].all isHexDigit then some ([a, b, c, d], rest) else none
  | _ => none

/-- Reads what follows the backslash of an escape. -/
def escapeBody : Reader (List Char) := fun cs =>
  match cs with
  | 'u' :: rest => (unicodeBody rest).map fun (body, rest) => ('u' :: body, rest)
  | 'x' :: a :: b :: rest => if [a, b].all isHexDigit then some (['x', a, b], rest) else none
  | 'x' :: _ => none
  | c :: rest =>
    if isOctalDigit c then
      let digits := (c :: rest.takeWhile isOctalDigit).take 3
      some (digits, cs.drop digits.length)
    else if c = '\x00' then none
    else
      match rest with
      | d :: more =>
        if (c = '\r' ∨ c = '?') ∧ isLineEnd d then some ([c, d], more) else some ([c], rest)
      | [] => some ([c], rest)
  | [] => none

/-! ## Words -/

/-- Characters that a name starts with. -/
def isNameStart (c : Char) : Bool := c.isAlpha || c == '_' || c == '$'

/-- Characters that a name goes on with. -/
def isNamePart (c : Char) : Bool := isNameStart c || c.isDigit

/-- The words that the language reserves. -/
def reservedWords : List String :=
  [ "await", "break", "case", "catch", "class", "const", "continue", "debugger", "default",
    "delete", "do", "else", "enum", "export", "extends", "false", "finally", "for", "function",
    "if", "implements", "import", "in", "instanceof", "interface", "let", "new", "null", "package",
    "private", "protected", "public", "return", "static", "super", "switch", "this", "throw",
    "true", "try", "typeof", "var", "void", "while", "with", "yield" ]

/-- The words that stand for no value: the reserved ones, and `using`, which the grammar takes for
the start of an assignment. -/
def takenWords : List String := "using" :: reservedWords

/-- The words that begin a part of a type parameter between angle brackets. -/
def typeParameterWords : List String := ["const", "extends"]

/-- The words that are types, or that types begin with. -/
def typeWords : List String :=
  [ "abstract", "any", "boolean", "const", "false", "import", "infer", "keyof", "never", "new",
    "null", "number", "object", "readonly", "string", "symbol", "this", "true", "typeof",
    "undefined", "unique", "unknown", "void" ]

/-- The words that begin an expression which they do not end. -/
def openWords : List String :=
  ["await", "class", "delete", "function", "import", "typeof", "using", "void"]

/-- Reads a word of characters that satisfy a predicate and that is none of the given ones. -/
def word (part : Char → Bool) (except : List String) : Reader (List Char) := fun cs =>
  match cs with
  | c :: rest =>
    let text := c :: rest.takeWhile part
    if isNameStart c && !except.contains (String.ofList text) then some (text, rest.dropWhile part)
    else none
  | [] => none

/-- Reads the name of a constant. -/
def constantName : Reader Shape := do
  let text ← word isNamePart takenWords
  return .token (.other "identifier") none text

/-- Reads a letter of an identifier: a character of any script that a word may contain, or its `\u`
escape. -/
def letter : Reader (List Char) := fun cs =>
  match cs with
  | '\\' :: 'u' :: rest =>
    (unicodeBody rest).map fun (body, rest) => ('\\' :: 'u' :: body, rest)
  | c :: rest => if isWordPart c then some ([c], rest) else none
  | [] => none

/-- Reads the longest run of letters, which starts with no digit and is none of the words that stand
for no value. -/
def letters : Reader (List Char) := fun cs =>
  if cs.head?.any Char.isDigit then none
  else
    (repeated (fun cs => (letter cs).isNone) letter cs).filter fun (text, _) =>
      !text.isEmpty && !takenWords.contains (String.ofList text)

/-- Reads an identifier that stands for a value. -/
def identifier : Reader Shape := do
  let text ← letters
  let kind := if text = "undefined".toList then "undefined" else "identifier"
  return .token (.other kind) none text

/-- Reads a letter or a hyphen of the name of an element or attribute. -/
def letterOrHyphen : Reader (List Char) := fun cs =>
  match cs with
  | '-' :: rest => some (['-'], rest)
  | cs => letter cs

/-- Whether characters are a name: a word, or ASCII characters and hyphens. -/
def isName (text : List Char) : Bool :=
  if text.contains '-' then
    text.head?.any isNameStart && text.all fun c => isNamePart c || c == '-'
  else !text.isEmpty && !text.head?.any Char.isDigit

/-- Reads a name, which may have hyphens. -/
def simpleName : Reader (List Char) := fun cs =>
  (repeated (fun cs => (letterOrHyphen cs).isNone) letterOrHyphen cs).filter fun (text, _) =>
    isName text

/-- Reads a name, which may stand after that of a namespace; `kind` is the kind of one that does
not. -/
def qualifiedName (kind : Kind) : Reader Shape := do
  let text ← simpleName
  if ← startsWith ":" then
    let colon ← mark ":"
    let localText ← simpleName
    let space := Shape.token (.other "identifier") none text
    return .branch (.other "jsx_namespace_name") none
      [space, colon, .token (.other "identifier") none localText]
  return .token kind none text

/-- Reads a dot and the name of a member. -/
def memberName : Reader (List (List Char)) := do
  let _ ← mark "."
  let text ← simpleName
  if text.contains '-' then failure
  return [text]

/-- The member of an object. -/
def memberOf (object : Shape) (text : List Char) : Shape :=
  .branch (.other "member_expression") none
    [object, .token (.token ".") none ['.'], .token (.other "property_identifier") none text]

/-- Where an element stands. -/
inductive Place where
  /-- Where a value begins. What follows `<` there may as well be type parameters. -/
  | value
  /-- Between the tags of another element. -/
  | child
deriving DecidableEq, Repr, Inhabited

/-- The word that a name begins with. -/
def leadingWord : Shape → String
  | .token _ _ text => String.ofList text
  | .branch _ _ (.token _ _ text :: _) => String.ofList text
  | _ => ""

/-- The name in a namespace. -/
def localName? : Shape → Option String
  | .branch _ _ [_, _, .token _ _ text] => some (String.ofList text)
  | _ => none

/-- Whether what has that name after `<` is an element. Where a value begins, a word of a type
parameter makes it a list of these, and so does a colon with a type after it. -/
def Place.admitsTag : Place → Shape → Bool
  | child, _ => true
  | value, name =>
    !typeParameterWords.contains (leadingWord name) && !(localName? name).any typeWords.contains

/-- Whether what has that name in a tag is an attribute. Where a value begins, `extends` makes the
tag a type parameter. -/
def Place.admitsAttribute : Place → Shape → Bool
  | child, _ => true
  | value, name => leadingWord name != "extends"

/-- Reads the name of an element, which may be that of a member. -/
def tagName (place : Place) : Reader Shape := do
  let name ← qualifiedName (.other "identifier")
  if !place.admitsTag name then failure
  if ← startsWith "." then
    if name.chars.any fun c => c == '-' || c == ':' then failure
    let members ← repeated (fun cs => cs.head? != some '.') memberName
    return members.foldl memberOf name
  if typeParameterWords.contains (String.ofList name.chars) then failure
  return name

/-! ## Strings -/

/-- A piece of a string or of text. -/
inductive Piece where
  /-- A character that stands for itself. -/
  | plain (c : Char)
  /-- A backslash escape, without the backslash. -/
  | escape (body : List Char)
  /-- A character reference, without the ampersand. -/
  | reference (body : List Char)
deriving DecidableEq, Repr, Inhabited

/-- The shapes of pieces. Plain characters that follow each other are one token, of the given
kind. -/
def Piece.shapes (kind : Kind) : List Piece → List Shape
  | [] => []
  | .plain c :: rest =>
    match Piece.shapes kind rest with
    | .token k role text :: more =>
      if k = kind then .token k role (c :: text) :: more
      else .token kind none [c] :: .token k role text :: more
    | more => .token kind none [c] :: more
  | .escape body :: rest => .token .escapeSequence none ('\\' :: body) :: Piece.shapes kind rest
  | .reference body :: rest =>
    .token .characterReference none ('&' :: body) :: Piece.shapes kind rest

/-- Reads what follows the ampersand of a character reference. -/
def referenceBody : Reader (List Char) := fun cs =>
  let upTo (most : Nat) (p : Char → Bool) (lead cs : List Char) : Option (List Char × List Char) :=
    let name := cs.takeWhile p
    match cs.dropWhile p with
    | ';' :: rest =>
      if name ≠ [] ∧ name.length ≤ most then some (lead ++ name ++ [';'], rest) else none
    | _ => none
  match cs with
  | '#' :: 'x' :: rest => upTo 6 isHexDigit ['#', 'x'] rest
  | '#' :: 'X' :: rest => upTo 6 isHexDigit ['#', 'X'] rest
  | '#' :: rest => upTo 5 Char.isDigit ['#'] rest
  | _ => upTo 30 Char.isAlpha [] cs

/-- Reads a piece of a quoted string. -/
def stringPiece : Reader (List Piece) := fun cs =>
  match cs with
  | '\\' :: rest => (escapeBody rest).map fun (body, rest) => ([.escape body], rest)
  | c :: rest => if c = '\n' ∨ c = '\r' ∨ c = '\x00' then none else some ([.plain c], rest)
  | [] => none

/-- Reads a piece of a template. -/
def templatePiece : Reader (List Piece) := fun cs =>
  match cs with
  | '\\' :: rest => (escapeBody rest).map fun (body, rest) => ([.escape body], rest)
  | '$' :: '{' :: _ => none
  | c :: rest => if c = '\x00' then none else some ([.plain c], rest)
  | [] => none

/-- Reads a piece of the string that is the value of an attribute. What looks like a comment in the
manner of HTML is left to the grammar. -/
def attributePiece : Reader (List Piece) := fun cs =>
  match cs with
  | '&' :: rest => (referenceBody rest).map fun (body, rest) => ([.reference body], rest)
  | '<' :: '!' :: '-' :: '-' :: _ => none
  | '-' :: '-' :: '>' :: _ => none
  | c :: rest => if c = '\x00' then none else some ([.plain c], rest)
  | [] => none

/-- Reads a piece of the text between tags. -/
def textPiece : Reader (List Piece) := fun cs =>
  match cs with
  | '&' :: rest => (referenceBody rest).map fun (body, rest) => ([.reference body], rest)
  | c :: rest =>
    if c = '\x00' ∨ c = '>' ∨ c = '}' then none else some ([.plain c], rest)
  | [] => none

/-- Whether one of some characters comes next. -/
def comesNext (marks : List Char) (cs : List Char) : Bool := cs.head?.any marks.contains

/-- Reads a string between quotes of one kind. -/
def between (kind : Kind) (quote : Char) (piece : Reader (List Piece)) : Reader Shape := do
  let opening ← mark (String.singleton quote)
  let pieces ← repeated (comesNext [quote]) piece
  let closing ← mark (String.singleton quote)
  return .branch kind none (opening :: Piece.shapes .stringFragment pieces ++ [closing])

/-! ## Expressions -/

/-- The operators of which both operands may be the value. -/
def logicalOperators : List String := ["&&", "||", "??"]

/-- Whether a shape is a call of `override`. After a parenthesis the grammar takes that word for the
modifier of a parameter. -/
def isOverrideCall : Shape → Bool
  | .branch .call _ (.token _ _ name :: _) => name == "override".toList
  | _ => false

/-- Reads an operation in parentheses, or an expression in parentheses. -/
def parenthesized (expression : Reader Shape) : Reader Shape := do
  let opening ← mark "("
  let before ← blanks
  let first ← expression
  if isOverrideCall first then failure
  let gap ← blanks
  let close (inner : List Shape) : Reader Shape := do
    let closing ← mark ")"
    return .branch .parenthesized none (opening :: before ++ inner ++ [closing])
  match ← firstOf? (logicalOperators ++ ["?"]) with
  | none => close (first :: gap)
  | some "?" =>
    let question ← mark "?"
    let gap₁ ← blanks
    let consequence ← expression
    let gap₂ ← blanks
    let colon ← mark ":"
    let gap₃ ← blanks
    let alternative ← expression
    let parts := first.withRole .condition :: gap ++ question :: gap₁ ++
      consequence.withRole .consequence :: gap₂ ++ colon :: gap₃ ++
      [alternative.withRole .alternative]
    close (.branch .ternary none parts :: (← blanks))
  | some text =>
    let operator ← mark text
    let gap₁ ← blanks
    let second ← expression
    let parts := first.withRole .left :: gap ++ operator.withRole .operator :: gap₁ ++
      [second.withRole .right]
    close (.branch .binary none parts :: (← blanks))

/-- Reads an argument with the blanks around it; a comma goes before every argument but the
first. -/
def argument (expression : Reader Shape) : Reader (List Shape) := do
  let comma ← mark ","
  let before ← blanks
  let value ← expression
  return comma :: before ++ value :: (← blanks)

/-- Reads an argument list. -/
def argumentList (expression : Reader Shape) : Reader Shape := do
  let opening ← mark "("
  let before ← blanks
  let values ←
    if ← startsWith ")" then pure []
    else
      let first ← expression
      let gap ← blanks
      pure (first :: gap ++ (← repeated (comesNext [')']) (argument expression)))
  let closing ← mark ")"
  return .branch .arguments none (opening :: before ++ values ++ [closing])

/-- Reads an identifier, or a call of it. -/
def identifierOrCall (expression : Reader Shape) : Reader Shape := do
  let name ← identifier
  if ← startsWith "(" then
    return .branch .call none [name, (← argumentList expression).withRole .arguments]
  return name

/-- Reads an expression in braces. -/
def container (expression : Reader Shape) : Reader Shape := do
  let opening ← mark "\x7b"
  let before ← blanks
  let value ← expression
  let gap ← blanks
  let closing ← mark "\x7d"
  return .branch .jsxExpression none (opening :: before ++ value :: gap ++ [closing])

/-! ## Elements -/

/-- Reads the value of an attribute. -/
def attributeValue (expression : Reader Shape) : Reader Shape := do
  match ← firstOf? ["\"", "'"] with
  | some "\"" => between .string '"' attributePiece
  | some _ => between .string '\'' attributePiece
  | none => container expression

/-- Reads blanks and then an attribute, if there is one. -/
def property (place : Place) (expression : Reader Shape) : Reader (List Shape) := do
  let before ← someBlanks
  if (← firstOf? ["/>", ">"]).isSome then return before
  let name ← qualifiedName (.other "property_identifier")
  if !place.admitsAttribute name then failure
  if ← startsWith "=" then
    let equals ← mark "="
    let value ← attributeValue expression
    return before ++ [.branch .jsxAttribute none [name, equals, value]]
  if typeParameterWords.contains (String.ofList name.chars) then failure
  return before ++ [.branch .jsxAttribute none [name]]

/-- The runs of text between tags. A run that starts at a line end and is blank is no text. -/
def settleText : Shape → Shape
  | .token .jsxText role text =>
    if text.head? = some '\n' ∧ text.all isAsciiBlank then .blanks text
    else .token .jsxText role text
  | s => s

/-- Reads text, an expression in braces, or an element between tags. -/
def child (inner : Place → Reader Shape) : Reader (List Shape) := do
  match ← firstOf? ["<", "\x7b"] with
  | some "<" => return [← inner .child]
  | some _ => return [← container (inner .value)]
  | none =>
    let pieces ← repeated (comesNext ['<', '{']) textPiece
    return (Piece.shapes .jsxText pieces).map settleText

/-- Reads a closing tag. It need not have the name of the opening tag. -/
def closingTag (named : Bool) : Reader Shape := do
  let opening ← mark "</"
  let name ← if named then (do return [← tagName .child]) else pure []
  let closing ← mark ">"
  return .branch (.other "jsx_closing_element") none (opening :: name ++ [closing])

/-- Reads what follows an opening tag, up to the closing tag. -/
def content (part : Reader (List Shape)) (openingTag : List Shape) (named : Bool) :
    Reader Shape := do
  let inside ← repeated (['<', '/'].isPrefixOf ·) part
  let closing ← closingTag named
  let tag := Shape.branch (.other "jsx_opening_element") (some .openTag) openingTag
  return .branch .jsxElement none (tag :: inside ++ [closing])

/-- Reads an element, given how to read the expressions in its attributes and each part between its
tags. -/
def element (place : Place) (expression : Reader Shape) (part : Reader (List Shape)) :
    Reader Shape := do
  let opening ← mark "<"
  if ← startsWith ">" then
    content part [opening, ← mark ">"] false
  else
    let name ← tagName place
    let attributes ← repeated (comesNext ['/', '>']) (property place expression)
    let tag := opening :: name :: attributes
    if ← startsWith ">" then content part (tag ++ [← mark ">"]) true
    else return .branch .jsxSelfClosing none (tag ++ [← mark "/>"])

/-- Reads an expression, given how to read those inside it. -/
def expressionStep (inner : Place → Reader Shape) (place : Place) : Reader Shape := do
  match ← firstOf? ["\"", "'", "`", "(", "<"] with
  | some "\"" => between .string '"' stringPiece
  | some "'" => between .string '\'' stringPiece
  | some "`" => between .templateString '`' templatePiece
  | some "(" => parenthesized (inner .value)
  | some _ => element place (inner .value) (child inner)
  | none => identifierOrCall (inner .value)

/-- Reads an expression. `depth` bounds how deep expressions nest. -/
def expression : (depth : Nat) → Place → Reader Shape
  | 0, _ => failure
  | depth + 1, place => expressionStep (expression depth) place

/-! ## Words out of place -/

/-- Reads a word in braces that begins an expression and does not end it. The word is out of place,
and the braces stand. -/
def strayContainer : Reader Shape := do
  let opening ← mark "\x7b"
  let before ← blanks
  let text ← run isNamePart
  if !openWords.contains (String.ofList text) then failure
  let gap ← blanks
  let closing ← mark "\x7d"
  let word := Shape.token (.token (String.ofList text)) none text
  return .branch .jsxExpression none
    (opening :: before ++ .branch .error none [word] :: gap ++ [closing])

/-- Reads an element in which words may be out of place between tags. `depth` bounds how deep
elements nest. -/
def strayElement : (depth : Nat) → Place → Reader Shape
  | 0, _ => failure
  | depth + 1, place =>
    element place (expression depth .value)
      (child (expression depth) <|> (return [← strayContainer]) <|>
        return [← strayElement depth .child])

/-- Reads an element in which one word is out of place. After such a word the grammar looks for
comments also where there can be none, so what begins like one is left to it. -/
def oneStray (depth : Nat) : Reader Shape := do
  let s ← strayElement depth .value
  if s.faults != 1 || ["//", "/*"].any (Text.occursIn s.chars ·.toList) then failure
  return s

/-! ## Modules -/

/-- Reads a module that declares one constant. `depth` bounds how deep its value nests. -/
def declaration (depth : Nat) : Reader Shape := do
  let keyword ← mark "const"
  let gap₁ ← someBlanks
  let name ← constantName
  let gap₂ ← blanks
  let equals ← mark "="
  let gap₃ ← blanks
  let value ← expression depth .value <|> oneStray depth
  let gap₄ ← blanks
  let semicolon ← mark ";"
  let declarator := name :: gap₂ ++ equals :: gap₃ ++ [value.withRole .value]
  let parts := keyword :: gap₁ ++ Shape.branch .variableDeclarator none declarator :: gap₄ ++
    [semicolon]
  let after ← blanks
  return .branch .program none (.branch (.other "lexical_declaration") none parts :: after)

/-- The shape of a module that declares one constant; none for other modules. -/
def shape? (source : List Char) : Option Shape :=
  match declaration source.length source with
  | some (shape, []) => some shape
  | _ => none

/-- The syntax tree of a module that declares one constant; none for other modules. -/
def tree? (source : List Char) : Option Node := (shape? source).bind fun s => (s.nodes 0).head?

end Constant

end IconSubset.Tsx
