import IconSubset.Grammar.Production
import IconSubset.Parse.Source

/-!
# Trees under construction

The trees that the parser keeps on its stack. Every node carries a summary of what is below it: its
extent, how much of it is in error, its dynamic precedence and its number of visible descendants.
The costs of errors decide between ways to recover: a recovery costs 500, a missing token another
110, and skipped text 100 for each node, 30 for each line and 1 for each byte.
-/

namespace IconSubset.Parse

open Grammar (Grammar)

/-- What a node stands for. -/
inductive Label where
  /-- A symbol of the grammar. -/
  | symbol (id : Nat)
  /-- A stretch of source that does not fit the grammar. -/
  | error
  /-- Tokens skipped so far while the parser is lost. -/
  | skipped
deriving BEq, DecidableEq, Repr, Inhabited

/-- The order of labels: symbols by number, then skipped tokens, then errors. -/
def Label.rank : Label → Nat
  | .symbol id => id
  | .skipped => 65534
  | .error => 65535

/-- What the scanner of context-dependent tokens knows behind a token that it has read: names, the
latest first. There is none before the first such token, and none ever in a language whose scanner
keeps nothing. -/
abbrev Memory := Option (List String)

/-- What a tree is about as a whole. -/
structure Summary where
  /-- What it stands for. -/
  label : Label
  /-- The production that made it, when one did. -/
  production : Option Nat
  /-- What lies between the node before and this one. -/
  padding : Extent
  /-- The stretch that it covers. -/
  size : Extent
  /-- Whether it may stand anywhere, and is not part of its parent's production. -/
  extra : Bool
  /-- Whether it is a token that the source lacks. -/
  missing : Bool
  /-- Whether it is a keyword that is also spelled like the word token. -/
  keyword : Bool
  /-- The cost of the errors in it. -/
  cost : Nat
  /-- The sum of the dynamic precedences in it. -/
  dynamic : Int
  /-- The number of visible nodes below it. -/
  descendants : Nat
  /-- The number of visible nodes below it that no other visible node separates from it. -/
  visibleChildren : Nat
  /-- The number of its children. -/
  arity : Nat
  /-- What the scanner knows behind it, when it is a token that the scanner has read. -/
  memory : Memory
deriving Inhabited

/-- A tree under construction. -/
inductive Subtree where
  | node (summary : Summary) (children : List Subtree)
deriving Inhabited

/-- The cost of every recovery. -/
def costOfRecovery : Nat := 500

/-- The cost of a missing token. -/
def costOfMissing : Nat := 110

/-- The cost of a skipped node. -/
def costOfSkippedTree : Nat := 100

/-- The cost of a skipped byte. -/
def costOfSkippedByte : Nat := 1

/-- The cost of a skipped line. -/
def costOfSkippedRow : Nat := 30

namespace Subtree

/-- The summary of a tree. -/
def summary : Subtree → Summary
  | node s _ => s

/-- The children of a tree. -/
def children : Subtree → List Subtree
  | node _ cs => cs

/-- The cost of the errors in a tree. -/
def cost (t : Subtree) : Nat :=
  if t.summary.missing then costOfMissing + costOfRecovery else t.summary.cost

/-- The stretch that a tree covers, with the padding before it. -/
def total (t : Subtree) : Extent := t.summary.padding.add t.summary.size

/-- Whether a label has nodes of its own in the finished tree. -/
def visibleLabel (g : Grammar) : Label → Bool
  | .symbol id => (g.symbols[id]?).elim false (·.visible)
  | .error => true
  | .skipped => false

/-- Whether a tree is a node of its own in the finished tree. -/
def visible (g : Grammar) (t : Subtree) : Bool := visibleLabel g t.summary.label

/-- Whether a tree is an error. -/
def isError (t : Subtree) : Bool := t.summary.label == .error

/-- The tree of a token. The end of the source is no part of any production. -/
def leaf (label : Label) (padding size : Extent) (keyword : Bool) (memory : Memory) : Subtree :=
  .node ⟨label, none, padding, size, label == .symbol 0, false, keyword, 0, 0, 0, 0, 0, memory⟩ []

/-- The tree of a token that the source lacks. -/
def missingLeaf (symbol : Nat) : Subtree :=
  .node ⟨.symbol symbol, none, .zero, .zero, false, true, false, 0, 0, 0, 0, 0, none⟩ []

/-- The tree marked as one that may stand anywhere. -/
def asExtra (t : Subtree) : Subtree := .node { t.summary with extra := true } t.children

/-- The tree of a token under another label. -/
def relabel (t : Subtree) (label : Label) : Subtree :=
  .node { t.summary with label := label } t.children

/-- The tree with more dynamic precedence. -/
def addDynamic (t : Subtree) (d : Int) : Subtree :=
  .node { t.summary with dynamic := t.summary.dynamic + d } t.children

/-- What a summary learns from one child. `steps` are the steps of the production from that child
on. -/
def absorb (g : Grammar) (s : Summary) (steps : List Grammar.Step) (child : Subtree) :
    Summary :=
  let c := child.summary
  let (padding, size) :=
    if s.arity == 0 then (c.padding, c.size) else (s.padding, s.size.add child.total)
  let inError := s.label == .error || s.label == .skipped
  let below := if c.label == .skipped then 0 else child.cost
  let skippedTrees :=
    if inError && !c.extra && !(c.label == .error && c.arity == 0) then
      if child.visible g then 1
      else if c.arity > 0 then c.visibleChildren
      else 0
    else 0
  let aliased := !c.extra && (steps.head?.bind (·.byname)).isSome && c.label != .symbol 0
  let (descendants, visibleChildren) :=
    if aliased || child.visible g then (1, 1)
    else if c.arity > 0 then (0, c.visibleChildren)
    else (0, 0)
  { s with
    padding
    size
    cost := s.cost + below + costOfSkippedTree * skippedTrees
    dynamic := s.dynamic + c.dynamic
    descendants := s.descendants + c.descendants + descendants
    visibleChildren := s.visibleChildren + visibleChildren
    arity := s.arity + 1 }

/-- What a summary learns from children that follow each other. -/
def absorbAll (g : Grammar) : Summary → List Grammar.Step → List Subtree → Summary
  | s, _, [] => s
  | s, steps, child :: rest =>
    absorbAll g (absorb g s steps child) (if child.summary.extra then steps else steps.drop 1) rest

/-- The tree with the given children. -/
def make (g : Grammar) (label : Label) (production : Option Nat) (children : List Subtree) :
    Subtree :=
  let s := absorbAll g
    ⟨label, production, .zero, .zero, false, false, false, 0, 0, 0, 0, 0, none⟩
    (g.stepsOf production) children
  let s :=
    if label == .error || label == .skipped then
      { s with
        cost := s.cost + costOfRecovery + costOfSkippedByte * s.size.bytes
          + costOfSkippedRow * s.size.rows }
    else s
  .node s children

/-- The tree of a stretch that does not fit the grammar. -/
def makeError (g : Grammar) (children : List Subtree) (extra : Bool) : Subtree :=
  let t := make g .error none children
  if extra then t.asExtra else t

mutual

/-- Compares two trees by their labels, then by the number of their children, then child by
child. -/
def compare : Subtree → Subtree → Ordering
  | .node s cs, .node t ds =>
    match Ord.compare s.label.rank t.label.rank with
    | .eq =>
      match Ord.compare s.arity t.arity with
      | .eq => compareAll cs ds
      | o => o
    | o => o

/-- Compares two lists of trees. -/
def compareAll : List Subtree → List Subtree → Ordering
  | c :: cs, d :: ds =>
    match compare c d with
    | .eq => compareAll cs ds
    | o => o
  | _, _ => .eq

end

/-- The trees without those at the end that may stand anywhere, and these. -/
def splitTrailingExtras (ts : List Subtree) : List Subtree × List Subtree :=
  let extras := (ts.reverse.takeWhile (·.summary.extra)).reverse
  (ts.take (ts.length - extras.length), extras)

/-- The tree of a whole source: the last tree that is part of a production takes in all others, as
they may stand anywhere. -/
def whole (g : Grammar) (trees : List Subtree) : Option Subtree :=
  match trees.reverse.span (·.summary.extra) with
  | (_, []) => none
  | (after, inner :: before) =>
    let children := before.reverse ++ inner.children ++ after.reverse
    some (make g inner.summary.label inner.summary.production children)

end Subtree

end IconSubset.Parse
