/-!
# Grammars as data

A grammar is a list of named rules over literals, named tokens and other rules. This module holds
the rules themselves and the remarks that decide between readings: static precedence with
associativity, which is settled when the parse table is built, and dynamic precedence, which ranks
whole trees. `Production` turns the rules into productions, and `Automaton` reads those.
-/

namespace IconSubset.Grammar

/-- The rank of a place in a rule when two actions compete for one lookahead. -/
inductive Precedence where
  /-- No rank was given. -/
  | none
  /-- A number, comparable with other numbers and with no rank, which counts as zero. -/
  | level (n : Int)
  /-- A name, comparable through the grammar's orderings only. -/
  | named (name : String)
deriving BEq, Hashable, DecidableEq, Ord, Repr, Inhabited

/-- Which side wins when two actions of equal precedence compete. -/
inductive Associativity where
  | left
  | right
deriving BEq, Hashable, DecidableEq, Ord, Repr, Inhabited

/-- The name that a child bears in its parent in place of the name of its symbol. -/
structure Alias where
  /-- The name borne. -/
  name : String
  /-- Whether the name is that of a kind of node, and not the text of a token. -/
  named : Bool
deriving BEq, Hashable, DecidableEq, Ord, Repr, Inhabited

/-- The right-hand side of a rule. -/
inductive Rule where
  /-- Nothing at all. -/
  | blank
  /-- The rule or token of that name. -/
  | symbol (name : String)
  /-- A token that is spelled exactly so. -/
  | literal (text : String)
  /-- The symbol that this rule defines is itself a token, which the lexer recognises. -/
  | token
  /-- One after the other. -/
  | seq (members : List Rule)
  /-- Any one of them. -/
  | choice (members : List Rule)
  /-- Once or more. -/
  | repeat1 (body : Rule)
  /-- The children that come from the body play the named part in their parent. -/
  | field (name : String) (body : Rule)
  /-- The children that come from the body bear another name. -/
  | aliased (as : Alias) (body : Rule)
  /-- Static precedence and associativity. -/
  | prec (level : Precedence) (side : Option Associativity) (body : Rule)
  /-- Dynamic precedence. -/
  | dynamic (level : Int) (body : Rule)
deriving Repr, Inhabited

mutual

/-- Whether two rules are written in the same way. -/
def Rule.same : Rule → Rule → Bool
  | .blank, .blank | .token, .token => true
  | .symbol a, .symbol b | .literal a, .literal b => a == b
  | .seq as, .seq bs | .choice as, .choice bs => Rule.sameAll as bs
  | .repeat1 a, .repeat1 b => Rule.same a b
  | .field n a, .field m b => n == m && Rule.same a b
  | .aliased n a, .aliased m b => n == m && Rule.same a b
  | .prec l s a, .prec k t b => l == k && s == t && Rule.same a b
  | .dynamic l a, .dynamic k b => l == k && Rule.same a b
  | _, _ => false

/-- Whether rules in a row are written in the same way, one by one. -/
def Rule.sameAll : List Rule → List Rule → Bool
  | [], [] => true
  | a :: as, b :: bs => Rule.same a b && Rule.sameAll as bs
  | _, _ => false

end

instance : BEq Rule := ⟨Rule.same⟩


/-- One entry of an ordering of precedences: a name, or all items of a rule. -/
inductive Rank where
  | name (name : String)
  | rule (name : String)
deriving BEq, Repr, Inhabited

/-- A language as it is written down. -/
structure Definition where
  /-- The rules, the start rule first. A rule that is a `Rule.token` declares a token. -/
  rules : List (String × Rule)
  /-- The token that keywords are spelled like: the lexer reads one of these and then looks whether
  it is a keyword that may stand here. -/
  word : Option String
  /-- Tokens that only the context-dependent scanner recognises. -/
  externals : List String
  /-- Tokens that may stand between any two others. -/
  extras : List String
  /-- Rules that are replaced by their right-hand sides wherever they stand. -/
  inline : List String
  /-- Rules that leave no node of their own in the tree, beside those named with an underscore. -/
  supertypes : List String
  /-- Orderings of precedences, each from the highest to the lowest. -/
  orderings : List (List Rank)
deriving Inhabited

namespace Rule

/-- The body or nothing. -/
def optional (body : Rule) : Rule := .choice [body, .blank]

/-- The body any number of times. -/
def many (body : Rule) : Rule := .choice [.repeat1 body, .blank]

/-- One or more bodies with the separator between them. -/
def sepBy1 (separator body : Rule) : Rule := .seq [body, many (.seq [separator, body])]

/-- One or more bodies with commas between them. -/
def commaSep1 (body : Rule) : Rule := sepBy1 (.literal ",") body

/-- Any number of bodies with commas between them. -/
def commaSep (body : Rule) : Rule := optional (commaSep1 body)

/-- The rule under another node name. -/
def renamed (name : String) (body : Rule) : Rule := .aliased ⟨name, true⟩ body

/-- The rule under the text of a token. -/
def spelled (text : String) (body : Rule) : Rule := .aliased ⟨text, false⟩ body

/-- The rule with a named precedence. -/
def ranked (name : String) (body : Rule) : Rule := .prec (.named name) none body

/-- The rule with a named precedence, grouping to the left. -/
def rankedLeft (name : String) (body : Rule) : Rule := .prec (.named name) (some .left) body

/-- The rule with a named precedence, grouping to the right. -/
def rankedRight (name : String) (body : Rule) : Rule := .prec (.named name) (some .right) body

/-- The rule grouping to the left. -/
def leftward (body : Rule) : Rule := .prec (.level 0) (some .left) body

/-- The rule grouping to the right. -/
def rightward (body : Rule) : Rule := .prec (.level 0) (some .right) body

mutual

/-- The literals of a rule, from left to right, with repetitions. -/
def literals : Rule → List String
  | .literal text => [text]
  | .seq members => literalsOfAll members
  | .choice members => literalsOfAll members
  | .repeat1 body => literals body
  | .field _ body => literals body
  | .aliased _ body => literals body
  | .prec _ _ body => literals body
  | .dynamic _ body => literals body
  | .blank | .symbol _ | .token => []

/-- The literals of a list of rules. -/
def literalsOfAll : List Rule → List String
  | [] => []
  | r :: rest => literals r ++ literalsOfAll rest

end

end Rule

end IconSubset.Grammar
