/-!
# Syntax trees

The concrete tree of a source file: every token is a node, comments and punctuation included. A node
knows its kind, the part that it plays in its parent, the byte and the row of the source at which it
starts, its text, and its children. Only the kinds and parts that the extraction of icon names
distinguishes have a name here; the others keep the name that the grammar gives them.
-/

namespace IconSubset.Syntax

/-- The kind of a node. -/
inductive Kind where
  /-- A stretch that does not fit the grammar. -/
  | error
  /-- A whole source file. -/
  | program
  /-- A variable with its initial value. -/
  | variableDeclarator
  /-- A quoted string, also as the value of an attribute. -/
  | string
  /-- A stretch of a string or template that stands for itself. -/
  | stringFragment
  /-- A backslash escape. -/
  | escapeSequence
  /-- A character reference such as `&amp;`. -/
  | characterReference
  /-- A template in backticks. -/
  | templateString
  /-- An expression inside a template. -/
  | templateSubstitution
  /-- A conditional expression. -/
  | ternary
  /-- An expression with a binary operator. -/
  | binary
  /-- A call. -/
  | call
  /-- The arguments of a call. -/
  | arguments
  /-- An expression in parentheses. -/
  | parenthesized
  /-- An expression in braces inside an element or as the value of an attribute. -/
  | jsxExpression
  /-- An element with an opening and a closing tag. -/
  | jsxElement
  /-- An element that is one tag. -/
  | jsxSelfClosing
  /-- An attribute of an element. -/
  | jsxAttribute
  /-- Text between the tags of an element. -/
  | jsxText
  /-- A comment between slashes and stars or up to the end of its line. -/
  | comment
  /-- A keyword or a punctuation mark, of that text. -/
  | token (text : String)
  /-- Any other kind, of that name. -/
  | other (name : String)
deriving DecidableEq, Repr, Inhabited

/-- The part that a node plays in its parent. -/
inductive Role where
  /-- The initial value of a variable. -/
  | value
  /-- The condition of a conditional. -/
  | condition
  /-- What a conditional gives when its condition holds. -/
  | consequence
  /-- What a conditional gives when its condition does not hold. -/
  | alternative
  /-- The left operand. -/
  | left
  /-- The right operand. -/
  | right
  /-- The operator. -/
  | operator
  /-- The arguments of a call. -/
  | arguments
  /-- The opening tag of an element. -/
  | openTag
deriving DecidableEq, Repr, Inhabited

/-- A place in a source. -/
structure Position where
  /-- The bytes before it. -/
  byte : Nat
  /-- The line feeds before it. -/
  row : Nat
deriving DecidableEq, Repr, Inhabited

/-- A number is that byte of the first row. -/
instance (byte : Nat) : OfNat Position byte := ⟨byte, 0⟩

/-- The place behind some characters. -/
def Position.after (p : Position) (cs : List Char) : Position :=
  ⟨p.byte + (String.ofList cs).utf8ByteSize, p.row + cs.count '\n'⟩

/-- The place behind characters one after the other. -/
theorem Position.after_append (p : Position) (xs ys : List Char) :
    p.after (xs ++ ys) = (p.after xs).after ys := by
  simp [Position.after, String.ofList_append, String.utf8ByteSize_append, Nat.add_assoc]

/-- A node of a syntax tree. -/
inductive Node where
  /-- `missing` marks a token that the source lacks. -/
  | mk (kind : Kind) (role : Option Role) (start : Position) (text : String) (missing : Bool)
      (children : List Node)
deriving Repr, Inhabited

/-- The kinds that have a name of their own, with the names that the grammar gives them. -/
def Kind.table : List (String × Kind) :=
  [ ("ERROR", .error), ("program", .program), ("variable_declarator", .variableDeclarator),
    ("string", .string), ("string_fragment", .stringFragment),
    ("escape_sequence", .escapeSequence), ("html_character_reference", .characterReference),
    ("template_string", .templateString), ("template_substitution", .templateSubstitution),
    ("ternary_expression", .ternary), ("binary_expression", .binary), ("call_expression", .call),
    ("arguments", .arguments), ("parenthesized_expression", .parenthesized),
    ("jsx_expression", .jsxExpression), ("jsx_element", .jsxElement),
    ("jsx_self_closing_element", .jsxSelfClosing), ("jsx_attribute", .jsxAttribute),
    ("jsx_text", .jsxText), ("comment", .comment) ]

/-- The kind that the grammar gives that name. -/
def Kind.ofName (name : String) : Kind := (Kind.table.lookup name).getD (.other name)

/-- The name of a kind; the text, for a keyword or a punctuation mark. -/
def Kind.name : Kind → String
  | .error => "ERROR"
  | .program => "program"
  | .variableDeclarator => "variable_declarator"
  | .string => "string"
  | .stringFragment => "string_fragment"
  | .escapeSequence => "escape_sequence"
  | .characterReference => "html_character_reference"
  | .templateString => "template_string"
  | .templateSubstitution => "template_substitution"
  | .ternary => "ternary_expression"
  | .binary => "binary_expression"
  | .call => "call_expression"
  | .arguments => "arguments"
  | .parenthesized => "parenthesized_expression"
  | .jsxExpression => "jsx_expression"
  | .jsxElement => "jsx_element"
  | .jsxSelfClosing => "jsx_self_closing_element"
  | .jsxAttribute => "jsx_attribute"
  | .jsxText => "jsx_text"
  | .comment => "comment"
  | .token text => text
  | .other name => name

/-- The part that the grammar gives that name. -/
def Role.ofName? : String → Option Role
  | "value" => some .value
  | "condition" => some .condition
  | "consequence" => some .consequence
  | "alternative" => some .alternative
  | "left" => some .left
  | "right" => some .right
  | "operator" => some .operator
  | "arguments" => some .arguments
  | "open_tag" => some .openTag
  | _ => none

namespace Node

/-- The kind of a node. -/
def kind : Node → Kind
  | mk k _ _ _ _ _ => k

/-- The part that a node plays in its parent. -/
def role : Node → Option Role
  | mk _ r _ _ _ _ => r

/-- The place of the source at which a node starts. -/
def start : Node → Position
  | mk _ _ s _ _ _ => s

/-- The text of a node. -/
def text : Node → String
  | mk _ _ _ t _ _ => t

/-- Whether a node is a token that the source lacks. -/
def missing : Node → Bool
  | mk _ _ _ _ m _ => m

/-- The children of a node. -/
def children : Node → List Node
  | mk _ _ _ _ _ cs => cs

/-- The first child that plays a part. -/
def child? (n : Node) (r : Role) : Option Node := n.children.find? (·.role == some r)

mutual

/-- Trees can be compared. -/
def decideEq : (a b : Node) → Decidable (a = b)
  | .mk kind role start text missing children, .mk kind' role' start' text' missing' children' =>
    match decEq (kind, role, start, text, missing) (kind', role', start', text', missing'),
        decideEqAll children children' with
    | isTrue hself, isTrue hbelow => isTrue (by cases hself; cases hbelow; rfl)
    | isFalse hself, _ => isFalse fun h => hself (by cases h; rfl)
    | _, isFalse hbelow => isFalse fun h => hbelow (by cases h; rfl)

/-- Lists of trees can be compared. -/
def decideEqAll : (as bs : List Node) → Decidable (as = bs)
  | [], [] => isTrue rfl
  | [], _ :: _ => isFalse nofun
  | _ :: _, [] => isFalse nofun
  | a :: as, b :: bs =>
    match decideEq a b, decideEqAll as bs with
    | isTrue hhead, isTrue hrest => isTrue (by rw [hhead, hrest])
    | isFalse hhead, _ => isFalse fun h => hhead (List.cons.inj h).1
    | _, isFalse hrest => isFalse fun h => hrest (List.cons.inj h).2

end

instance : DecidableEq Node := decideEq

/-- A child of a node is smaller than the node. -/
theorem sizeOf_lt_of_mem {n c : Node} (h : c ∈ n.children) : sizeOf c < sizeOf n := by
  cases n with
  | mk k r s t m cs =>
    have := List.sizeOf_lt_of_mem h
    simp only [children] at this
    simp only [mk.sizeOf_spec]
    omega

end Node

end IconSubset.Syntax
