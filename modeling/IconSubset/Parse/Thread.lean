import IconSubset.Parse.Machine

/-!
# Parsing without branches

As long as there is one thing to do at every lookahead, the stack has no branches: it is a list of
trees, each with the state behind it. Such a parse is a `Thread`. It reads tokens that may come,
shifts them and reduces, until the whole source has become one tree. When a token cannot come, or
when there are several things to do, the thread is stuck, and the graph of stacks takes its place
(`Machine.ofThread`).
-/

namespace IconSubset.Parse

open Grammar (Grammar Automaton Action lostState firstState)

/-- A tree on a stack, and the state behind it. -/
structure Frame (σ : Type) where
  /-- The tree. -/
  tree : Subtree
  /-- The state. -/
  state : σ

/-- Takes as many trees off a stack as a production has children, with those between them that may
stand anywhere. The trees are put before those `above`. -/
def popFrames {σ : Type} : (count : Nat) → List (Frame σ) → (above : List Subtree) →
    Option (List Subtree × List (Frame σ))
  | 0, frames, above => some (above, frames)
  | _ + 1, [], _ => none
  | count + 1, f :: frames, above =>
    popFrames (if f.tree.summary.extra then count + 1 else count) frames (f.tree :: above)

/-- Takes the children of a node off a stack. The node takes their place, with the trees behind its
last child that may stand anywhere. -/
def takeNode {σ : Type} (g : Grammar) (head size : Nat) (dynamic : Int) (production : Nat)
    (frames : List (Frame σ)) : Option (List Subtree × List (Frame σ)) :=
  (popFrames size frames []).map fun (trees, below) =>
    let (children, extras) := Subtree.splitTrailingExtras trees
    let node := Subtree.make g (.symbol head) (some production) children
    (node.addDynamic dynamic :: extras, below)

/-- Puts trees on a stack, behind all of which the state is the same. -/
def pushTrees {σ : Type} (trees : List Subtree) (state : σ) (below : List (Frame σ)) :
    List (Frame σ) :=
  trees.foldl (fun frames tree => ⟨tree, state⟩ :: frames) below

/-- A parse that has had no choice so far. -/
structure Thread where
  /-- The automaton, as far as it has been built. -/
  automaton : Automaton
  /-- The stack, the latest tree first. -/
  frames : List (Frame Nat)
  /-- The place in the source. -/
  position : Extent
  /-- What the scanner knows. -/
  memory : Memory
deriving Inhabited

/-- Where a lookahead leads. -/
inductive Progress where
  /-- The lookahead has been taken. -/
  | taken (t : Thread)
  /-- The source is at its end and has become one tree. -/
  | whole (root : Subtree)
  /-- There is nothing to do, or there are several things to do. -/
  | stuck

/-- The only thing to do, if there is just one. -/
def onlyAction (actions : List Action) : Option Action :=
  match actions.filter (!·.leftOut) with
  | [action] => some action
  | _ => none

namespace Thread

/-- The thread at the start of a source. -/
def start (a : Automaton) : Thread := ⟨a, [], .zero, none⟩

/-- The state of a thread. -/
def state (t : Thread) : Nat := t.frames.head?.elim firstState (·.state)

/-- The lookahead of a thread, when a token comes that may come. -/
def lex (source : Source) (lexer : Lexer) (t : Thread) : Option (Subtree × Automaton) :=
  let extras := t.automaton.table.grammar.extras
  let place := t.position.chars
  match lexer.attempt source t.memory (t.automaton.expected t.state) (!extras.contains ·) place with
  | .found l => some (lexer.tree source t.automaton t.state place l)
  | .failed _ _ => none

/-- Takes the lookahead. -/
def shift (t : Thread) (lookahead : Subtree) (state : Nat) : Thread :=
  { t with
    frames := ⟨lookahead, state⟩ :: t.frames
    position := t.position.add lookahead.total
    memory := lookahead.summary.memory.or t.memory }

/-- Makes a node of the last children. -/
def reduce (t : Thread) (head size : Nat) (dynamic : Int) (production : Nat) : Option Thread :=
  match takeNode t.automaton.table.grammar head size dynamic production t.frames with
  | none => none
  | some (trees, below) =>
    let (next, automaton) := t.automaton.after (below.head?.elim firstState (·.state)) head
    next.map fun next => { t with automaton, frames := pushTrees trees next below }

/-- Does what there is to do at a lookahead, reducing until it has been taken. `fuel` bounds the
reductions. -/
def act : (fuel : Nat) → Thread → (lookahead : Subtree) → Progress
  | 0, _, _ => .stuck
  | fuel + 1, t, lookahead =>
    match lookahead.summary.label with
    | .symbol terminal =>
      let (actions, automaton) := t.automaton.actions t.state terminal
      let t := { t with automaton }
      match onlyAction actions with
      | some (.shift next _) => .taken (t.shift lookahead next)
      | some .shiftExtra => .taken (t.shift lookahead.asExtra t.state)
      | some (.reduce head size dynamic production) =>
        match t.reduce head size dynamic production with
        | some t => act fuel t lookahead
        | none => .stuck
      | some .accept =>
        let trees := (lookahead :: t.frames.map (·.tree)).reverse
        if terminal != 0 then .stuck
        else (Subtree.whole t.automaton.table.grammar trees).elim .stuck .whole
      | some .recover | none => .stuck
    | _ => .stuck

/-- Takes a thread forward by one token. -/
def advance (source : Source) (lexer : Lexer) (t : Thread) : Progress :=
  match t.lex source lexer with
  | some (lookahead, automaton) =>
    act (16 * (source.chars.size + 64)) { t with automaton } lookahead
  | none => .stuck

/-- Takes a thread to the end of the source, or as far as it gets. `fuel` bounds the tokens. -/
def run (source : Source) (lexer : Lexer) : (fuel : Nat) → Thread → Except Thread Subtree
  | 0, t => .error t
  | fuel + 1, t =>
    match t.advance source lexer with
    | .taken next => run source lexer fuel next
    | .whole root => .ok root
    | .stuck => .error t

end Thread

/-- The machine whose only version is a thread. -/
def Machine.ofThread (t : Thread) : Machine :=
  let g := t.automaton.table.grammar
  let stack := t.frames.foldr (fun f s => s.push g 0 (some f.tree) f.state)
    (Stack.initial firstState)
  let stack := stack.modifyVersion 0 fun v => { v with memory := t.memory }
  ⟨t.automaton, stack, none, 0⟩

end IconSubset.Parse
