import IconSubset.Grammar.Automaton
import IconSubset.Parse.Stack

/-!
# The parsing machine

The state of a parse and its plain moves: reading a token, shifting it, reducing children to a node,
accepting the whole. `Recovery` adds the moves of a parser that cannot go on, and `Run` drives both.
-/

namespace IconSubset.Parse

open Grammar (Automaton Action TerminalSet lostState firstState)

/-- A token of the source: its terminal and where it starts and stops. -/
structure Lexeme where
  /-- The terminal. -/
  terminal : Nat
  /-- The place of its first character. -/
  start : Nat
  /-- The place after its last character. -/
  stop : Nat
  /-- What the scanner knows behind it, when the scanner has read it. -/
  memory : Memory
deriving Inhabited

/-- The outcome of reading a token. -/
inductive Reading where
  | found (l : Lexeme)
  /-- No token starts at `start`, and the lexer looked no further than `stop`. -/
  | failed (start stop : Nat)

/-- The lexical part of a language. -/
structure Lexer where
  /-- Reads a token that depends on its surroundings; what the scanner knows and the terminals that
  may come are given. -/
  scan : Source → Memory → TerminalSet → Nat → Option Lexeme
  /-- Reads an ordinary token among the terminals that may come. -/
  read : Source → TerminalSet → Nat → Reading
  /-- The keyword that is spelled so. -/
  keyword : String → Option Nat

/-- Tries to read a token among the terminals that may come. One that depends on its surroundings
goes first; without characters it counts only when the scanner learns from it or it is of use as it
is. -/
def Lexer.attempt (lexer : Lexer) (source : Source) (memory : Memory) (expected : TerminalSet)
    (emptyCounts : Nat → Bool) (place : Nat) : Reading :=
  let scanned := (lexer.scan source memory expected place).filter fun l =>
    l.stop > place || l.memory != memory || emptyCounts l.terminal
  match scanned with
  | some l => .found l
  | none => lexer.read source expected place

/-- The tree of a token that is read in a state of the automaton. A word is the keyword that it
spells where that may come. -/
def Lexer.tree (lexer : Lexer) (source : Source) (a : Automaton) (state start : Nat) (l : Lexeme) :
    Subtree × Automaton :=
  let padding := source.extent start l.start
  let size := source.extent l.start l.stop
  let plain := Subtree.leaf (.symbol l.terminal) padding size false l.memory
  if some l.terminal == a.table.grammar.word then
    match lexer.keyword (source.slice l.start l.stop) with
    | some k =>
      let (found, a) := a.actions state k
      (.leaf (.symbol (if found.isEmpty then l.terminal else k)) padding size true none, a)
    | none => (plain, a)
  else (plain, a)

/-- The state of a parse. -/
structure Machine where
  /-- The automaton, as far as it has been built. -/
  automaton : Automaton
  /-- The versions of the stack. -/
  stack : Stack
  /-- The best whole tree so far. -/
  finished : Option Subtree
  /-- How often a whole tree has been found. -/
  accepted : Nat
deriving Inhabited

/-- A computation of a parse. -/
abbrev ParseM := StateM Machine

namespace ParseM

/-- The versions of the stack. -/
def stack : ParseM Stack := return (← get).stack

/-- Changes the versions of the stack. -/
def modifyStack (f : Stack → Stack) : ParseM Unit := modify fun m => { m with stack := f m.stack }

/-- The grammar. -/
def grammar : ParseM Grammar.Grammar := return (← get).automaton.table.grammar

/-- The actions of a state at a terminal. -/
def actions (state terminal : Nat) : ParseM (List Action) :=
  modifyGet fun m =>
    let (found, automaton) := m.automaton.actions state terminal
    (found, { m with automaton })

/-- The state after a terminal that need not be the lookahead. -/
def nextState (state terminal : Nat) : ParseM (Option Nat) :=
  modifyGet fun m =>
    let (found, automaton) := m.automaton.nextState state terminal
    (found, { m with automaton })

/-- The state after a node of a symbol. A parser that is lost stays so. -/
def goto (state symbol : Nat) : ParseM Nat :=
  modifyGet fun m =>
    let (found, automaton) := m.automaton.after state symbol
    (found.getD lostState, { m with automaton })

/-- Puts a tree on a version. -/
def push (version : Nat) (tree : Option Subtree) (state : Nat) : ParseM Unit := do
  let g ← grammar
  modifyStack fun s => s.push g version tree state

/-- The actions of a state at a tree that serves as lookahead. -/
def actionsAt (state : Nat) (t : Subtree) : ParseM (List Action) :=
  match t.summary.label with
  | .symbol terminal => actions state terminal
  | _ => pure (if state == lostState then [.recover] else [])

/-- Merges the second version into the first when both have come to the same place, and says
whether that was so. -/
def merge (v w : Nat) : ParseM Bool := do
  let g ← grammar
  modifyGet fun m =>
    match m.stack.merge g v w lostState with
    | some stack => (true, { m with stack })
    | none => (false, m)

/-- What the lexer is after. -/
private structure Hunt where
  source : Source
  lexer : Lexer
  /-- What the scanner knows. -/
  memory : Memory
  /-- The terminals that may come in the state of the parser. -/
  expected : TerminalSet
  /-- The terminals at which a lost parser may find its way back. -/
  landmarks : TerminalSet
  /-- Whether a token without characters is of use. -/
  emptyCounts : Nat → Bool
  /-- Where the token before ends. -/
  start : Nat

/-- What the lexer found. -/
private inductive Catch where
  | token (l : Lexeme)
  /-- Text that holds no token. -/
  | junk (start stop : Nat)

/-- Reads the next token. What may come is tried first. When nothing fits, any token will do, and
text in which no token starts is passed over. `fuel` bounds the attempts. -/
private def hunt (h : Hunt) : (fuel : Nat) → (lost : Bool) → (place : Nat) →
    (junk : Option (Nat × Nat)) → Catch
  | 0, _, place, junk => .junk (junk.elim place (·.1)) h.source.chars.size
  | fuel + 1, lost, place, junk =>
    let valid := if lost then h.landmarks else h.expected
    match h.lexer.attempt h.source h.memory valid (fun t => !lost && h.emptyCounts t) place with
    | .found l => match junk with
      | some (start, stop) => .junk start stop
      | none => .token l
    | .failed start stop =>
      if !lost then hunt h fuel true h.start junk
      else
        let (from_, upTo) := junk.getD (start, start)
        if stop == upTo then
          if h.source.atEnd stop then .junk from_ upTo
          else hunt h fuel true (stop + 1) (some (from_, stop + 1))
        else hunt h fuel true stop (some (from_, stop))

/-- Reads the lookahead of a version. -/
def lex (source : Source) (lexer : Lexer) (version : Nat) : ParseM Subtree := do
  let m ← get
  let s := m.stack
  let state := s.state version
  let start := (s.position version).chars
  let lost := state == lostState
  let advanced := s.hasAdvanced version
  let h : Hunt :=
    { source, lexer, start
      memory := s.memory version
      expected := if lost then m.automaton.landmarks else m.automaton.expected state
      landmarks := m.automaton.landmarks
      emptyCounts := fun t => advanced && !m.automaton.table.grammar.extras.contains t }
  match hunt h (2 * source.chars.size + 8) lost start none with
  | .junk a b =>
    pure (.leaf .error (source.extent start a) (source.extent a b) false none)
  | .token l =>
    modifyGet fun m =>
      let (t, automaton) := lexer.tree source m.automaton state start l
      (t, { m with automaton })

/-- Whether the second of two trees for the same stretch is to be preferred: the one with fewer
errors, then the one with more dynamic precedence, then, as trees without errors, the one that
comes first in the order of trees. -/
def prefersSecond (a b : Subtree) : Bool :=
  if b.cost < a.cost then true
  else if a.cost < b.cost then false
  else if b.summary.dynamic > a.summary.dynamic then true
  else if a.summary.dynamic > b.summary.dynamic then false
  else if a.cost > 0 then true
  else Subtree.compare a b == .gt

/-- The greatest number of versions after each step. -/
def maxVersions : Nat := 6

/-- How many more versions there may be within a step. -/
def maxOverflow : Nat := 4

/-- Slices with the same remaining version, in a row. -/
private def groupSlices : List Slice → List (Nat × List (List Subtree))
  | [] => []
  | s :: rest =>
    match groupSlices rest with
    | (v, trees) :: groups =>
      if v == s.version then (v, s.trees :: trees) :: groups
      else (s.version, [s.trees]) :: (v, trees) :: groups
    | [] => [(s.version, [s.trees])]

/-- Makes a node of the last children of a version. Each way of taking them off leaves a new
version. Answers the first new version, unless all of them merged with older ones. -/
def reduce (version head size : Nat) (dynamic : Int) (production : Nat) : ParseM (Option Nat) := do
  let g ← grammar
  let before := (← stack).size
  let slices ← modifyGet fun m =>
    let (slices, stack) := m.stack.popCount version size
    (slices, { m with stack })
  let halted := (← stack).haltedCount
  let mut removed := 0
  for (v, ways) in groupSlices slices.toList do
    let v := v - removed
    if v > maxVersions + maxOverflow + halted then
      modifyStack (·.removeVersion v)
      removed := removed + 1
    else
      let candidates := ways.map fun way =>
        let (children, extras) := Subtree.splitTrailingExtras way
        (Subtree.make g (.symbol head) (some production) children, extras)
      match candidates with
      | [] => pure ()
      | first :: others =>
        let (tree, extras) := others.foldl
          (fun best other => if prefersSecond best.1 other.1 then other else best) first
        let state := (← stack).state v
        let next ← goto state head
        push v (some (tree.addDynamic dynamic)) next
        for e in extras do
          push v (some e) next
        for j in [0:v] do
          if j != version then
            if ← merge j v then
              removed := removed + 1
              break
  let after := (← stack).size
  pure (if after > before then some before else none)

/-- A version has taken a tree: the scanner knows what it knew behind that. -/
def remember (version : Nat) (tree : Subtree) : ParseM Unit :=
  modifyStack fun s => s.modifyVersion version fun h =>
    { h with memory := tree.summary.memory.or h.memory }

/-- Shifts a tree. -/
def shift (version state : Nat) (lookahead : Subtree) (extra : Bool) : ParseM Unit := do
  push version (some (if extra then lookahead.asExtra else lookahead)) state
  remember version lookahead

/-- Ends a version: everything on it becomes one tree, which is kept when it is the best so far. -/
def accept (version : Nat) (lookahead : Subtree) : ParseM Unit := do
  let g ← grammar
  push version (some lookahead) firstState
  let slices ← modifyGet fun m =>
    let (slices, stack) := m.stack.popAll version
    (slices, { m with stack })
  for slice in slices do
    match Subtree.whole g slice.trees with
    | none => pure ()
    | some root =>
      modify fun m =>
        { m with
          accepted := m.accepted + 1
          finished := match m.finished with
            | some old => some (if prefersSecond old root then root else old)
            | none => some root }
  if let some slice := slices[0]? then
    modifyStack (·.removeVersion slice.version)
  modifyStack (·.halt version)

end ParseM

end IconSubset.Parse
