import IconSubset.Grammar.Table

/-!
# The parse automaton

The canonical LR(1) automaton of a grammar, built state by state as a parse reaches it. Where a
shift and a reduction, or several reductions, compete for one lookahead, precedence and
associativity choose; what they leave undecided stays in the table as several actions, and the
parser follows them all.

State 0 is the state of a parser that has lost its way, and state 1 is the first one.
-/

namespace IconSubset.Grammar

/-- What a parser may do at a lookahead. -/
inductive Action where
  /-- Takes the lookahead and goes to a state. A `again` shift stays inside a repetition that could
  as well be closed here, and the parser leaves it out. -/
  | shift (state : Nat) (again : Bool)
  /-- Takes the lookahead where it stands between two others. -/
  | shiftExtra
  /-- Makes a node of the last `size` children. -/
  | reduce (head size : Nat) (dynamic : Int) (production : Nat)
  /-- Ends the parse. -/
  | accept
  /-- Looks for a way back into the grammar. -/
  | recover
deriving BEq, Repr, Inhabited

/-- Whether the parser leaves the action out. -/
def Action.leftOut : Action → Bool
  | shift _ again => again
  | _ => false

/-- Items with their lookaheads. -/
abbrev ItemSet := List (Nat × TerminalSet)

/-- A state of the automaton. -/
structure State where
  /-- All its items: those that it was entered with, and those that come with them. -/
  items : ItemSet
  /-- How many of its items it was entered with. -/
  entered : Nat
  /-- The terminals that have an action, those that may stand anywhere aside. -/
  expected : TerminalSet
deriving Inhabited

/-- The states built so far. -/
structure Automaton where
  /-- The tables of the grammar. -/
  table : Table
  /-- The terminals at which a lost parser may find its way back. -/
  landmarks : TerminalSet
  /-- The states. -/
  states : Array State
  /-- The states by the items that they were entered with. -/
  ids : Std.TreeMap ItemSet Nat
  /-- The transitions made so far. -/
  jumps : Std.TreeMap (Nat × Nat) Nat
  /-- The actions looked up so far. -/
  answers : Std.TreeMap (Nat × Nat) (List Action)
deriving Inhabited

/-- The number of the state of a parser that has lost its way. -/
def lostState : Nat := 0

/-- The number of the first state. -/
def firstState : Nat := 1

namespace Automaton

/-- An item set with one more item, in the order of items and each once. -/
def addItem (id : Nat) (ahead : TerminalSet) : ItemSet → ItemSet
  | [] => [(id, ahead)]
  | (other, old) :: rest =>
    if id < other then (id, ahead) :: (other, old) :: rest
    else if other < id then (other, old) :: addItem id ahead rest
    else (other, old.union ahead) :: rest

/-- The symbols that can come at the left end of what the items wait for, with their lookaheads. -/
def awaited (t : Table) (kernel : ItemSet) : Std.TreeMap Nat TerminalSet :=
  kernel.foldl
    (fun found (id, ahead) =>
      let item := t.item id
      match item.next with
      | none => found
      | some s =>
        let ahead := item.follow.getD ahead
        (t.openings.getD s #[]).foldl
          (fun found o =>
            let ahead := if o.whole then o.follow.union ahead else o.follow
            found.insert o.symbol ((found.getD o.symbol .empty).union ahead)) found) {}

/-- The state that is entered with the items. -/
def close (t : Table) (kernel : ItemSet) : State :=
  let others := (awaited t kernel).foldl
    (fun others s ahead =>
      (t.opening.getD s #[]).foldl (fun others id => (id, ahead) :: others) others) []
  let items := kernel ++ others.reverse
  let expected := items.foldl
    (fun expected (id, ahead) =>
      match (t.item id).next with
      | none => expected.union ahead
      | some s => if s < t.grammar.terminals then expected.insert s else expected) .empty
  { items, entered := kernel.length, expected }

/-- An item set with what comes of one item more behind a symbol. -/
def addBehind (t : Table) (symbol : Nat) (found : ItemSet) (entry : Nat × TerminalSet) : ItemSet :=
  let item := t.item entry.1
  if item.next == some symbol then addItem item.successor entry.2 found else found

/-- The items of a state behind a symbol. -/
def behind (t : Table) (s : State) (symbol : Nat) : ItemSet :=
  s.items.foldl (addBehind t symbol) []

/-- The automaton with its first two states. -/
def ofTable (t : Table) (landmarks : TerminalSet) : Automaton :=
  let kernel : ItemSet := [(t.startItem, .singleton 0)]
  { table := t
    landmarks
    states := #[⟨[], 0, landmarks⟩, close t kernel]
    ids := ({} : Std.TreeMap ItemSet Nat).insert kernel firstState
    jumps := {}
    answers := {} }

/-- The state after a symbol; none when the symbol cannot come in this state. -/
def after (a : Automaton) (state symbol : Nat) : Option Nat × Automaton :=
  match a.jumps[(state, symbol)]? with
  | some next => (some next, a)
  | none =>
    match (a.states[state]?).elim [] (behind a.table · symbol) with
    | [] => (none, a)
    | kernel =>
      match a.ids[kernel]? with
      | some next => (some next, { a with jumps := a.jumps.insert (state, symbol) next })
      | none =>
        let next := a.states.size
        (some next,
          { a with
            states := a.states.push (close a.table kernel)
            ids := a.ids.insert kernel next
            jumps := a.jumps.insert (state, symbol) next })

/-- Whether an entry of an ordering is about a precedence or one of the rules that have it. -/
private def Rank.concerns (names : Array String) (prec : Precedence) (heads : List Nat) :
    Rank → Bool
  | .name n => prec == .named n
  | .rule r => heads.any fun h => names.getD h "" == r

/-- What one ordering says about two precedences: it goes from high to low, so the one that is met
first is the greater. An entry that is about both counts for the left one only. -/
private def compareIn (names : Array String) (p : Precedence) (ps : List Nat) (q : Precedence)
    (qs : List Nat) : (sawLeft sawRight : Bool) → List Rank → Option Ordering
  | _, _, [] => none
  | sawLeft, sawRight, entry :: rest =>
    if Rank.concerns names p ps entry then
      if sawRight then some .lt else compareIn names p ps q qs true sawRight rest
    else if Rank.concerns names q qs entry then
      if sawLeft then some .gt else compareIn names p ps q qs sawLeft true rest
    else compareIn names p ps q qs sawLeft sawRight rest

/-- Compares two precedences and the rules that have them. -/
def comparePrec (g : Grammar) (p : Precedence) (ps : List Nat) (q : Precedence)
    (qs : List Nat) : Ordering :=
  let byOrderings :=
    (g.orderings.findSome? (compareIn g.ruleNames p ps q qs false false)).getD .eq
  match p, q with
  | .level l, .level r => if l != 0 || r != 0 then compare l r else byOrderings
  | .level l, .none => if l != 0 then compare l 0 else byOrderings
  | .none, .level r => if r != 0 then compare 0 r else byOrderings
  | _, _ => byOrderings

/-- The reductions that are left at a lookahead, with what is known about them. -/
structure Reductions where
  /-- The reductions. -/
  actions : List Action
  /-- The precedence of the last of them. -/
  prec : Precedence
  /-- The symbols that they make. -/
  heads : List Nat
  /-- Whether one of them is left-associative. -/
  left : Bool
  /-- Whether one of them is right-associative. -/
  right : Bool
  /-- Whether one of them is neither. -/
  neither : Bool

/-- No reductions. -/
def Reductions.empty : Reductions := ⟨[], .none, [], false, false, false⟩

/-- Reductions with that of one more item. -/
def Reductions.add (r : Reductions) (item : Item) (action : Action) : Reductions :=
  { actions := r.actions ++ [action]
    prec := item.prec
    heads := if r.heads.contains item.head then r.heads else r.heads ++ [item.head]
    left := r.left || item.side == some .left
    right := r.right || item.side == some .right
    neither := r.neither || item.side.isNone }

/-- What there is to do when an item is complete. -/
def reduction (t : Table) (item : Item) : Action :=
  if item.head == t.grammar.symbols.size then .accept
  else .reduce item.head item.size
    ((t.grammar.productions[item.production]?).elim 0 (·.dynamic)) item.production

/-- The reductions of highest precedence at a lookahead, when one item more is considered. -/
def Reductions.consider (t : Table) (lookahead : Nat) (r : Reductions)
    (entry : Nat × TerminalSet) : Reductions :=
  let item := t.item entry.1
  if item.next.isSome || !entry.2.contains lookahead then r
  else
    let order :=
      if r.actions.isEmpty then Ordering.eq
      else comparePrec t.grammar item.prec [item.head] r.prec r.heads
    match order with
    | .lt => r
    | .eq => r.add item (reduction t item)
    | .gt => Reductions.empty.add item (reduction t item)

/-- The reductions of highest precedence at a lookahead. -/
def reductions (t : Table) (s : State) (lookahead : Nat) : Reductions :=
  s.items.foldl (Reductions.consider t lookahead) .empty

/-- Settles a shift against reductions, as far as precedence and associativity do. -/
def settle (t : Table) (s : State) (lookahead next : Nat) (r : Reductions) : List Action :=
  let involved := (s.items.take s.entered).filterMap fun (id, ahead) =>
    let item := t.item id
    match item.next with
    | some x => if (t.first.getD x .empty).contains lookahead then some item else none
    | none => if ahead.contains lookahead then some item else none
  let info (h : Nat) : Bool := (t.grammar.symbols[h]?).elim false (·.auxiliary)
  let oneRepetition := match involved[0]? with
    | some i => info i.head && involved.all (·.head == i.head)
    | none => false
  if oneRepetition then r.actions ++ [.shift next true]
  else
    let orders := involved.filterMap fun item =>
      if item.next.isSome && item.size > 0 then
        some (comparePrec t.grammar item.prec [item.head] r.prec r.heads)
      else none
    let more := orders.any (· == .gt)
    let less := orders.any (· == .lt)
    if more && !less then [.shift next false]
    else if less && !more then r.actions
    else if !less && !more && r.left && !r.neither && !r.right then r.actions
    else if !less && !more && r.right && !r.neither && !r.left then [.shift next false]
    else r.actions ++ [.shift next false]

/-- What there is to do in a state at a lookahead, given the number of the state behind it. -/
def choices (t : Table) (s : State) (lookahead : Nat) (next : Option Nat) : List Action :=
  let r := reductions t s lookahead
  match next with
  | some next =>
    if r.actions.isEmpty then [.shift next false] else settle t s lookahead next r
  | none =>
    if r.actions.isEmpty && t.grammar.extras.contains lookahead then [.shiftExtra] else r.actions

/-- The actions at a lookahead. -/
def actions (a : Automaton) (state lookahead : Nat) : List Action × Automaton :=
  match a.answers[(state, lookahead)]? with
  | some found => (found, a)
  | none =>
    let (found, a) : List Action × Automaton :=
      if state == lostState then
        if a.table.grammar.extras.contains lookahead then ([.shiftExtra], a)
        else if a.landmarks.contains lookahead then ([.recover], a)
        else ([], a)
      else
        match a.states[state]? with
        | none => ([], a)
        | some s =>
          let (next, a) := a.after state lookahead
          (choices a.table s lookahead next, a)
    (found, { a with answers := a.answers.insert (state, lookahead) found })

/-- The terminals that the lexer looks for in a state. -/
def expected (a : Automaton) (state : Nat) : TerminalSet :=
  ((a.states[state]?).elim .empty (·.expected)).union a.table.grammar.extras

/-- The state after a terminal that need not be the lookahead. -/
def nextState (a : Automaton) (state terminal : Nat) : Option Nat × Automaton :=
  match a.actions state terminal with
  | (found, a) =>
    match found.getLast? with
    | some (.shift next _) => (some next, a)
    | some .shiftExtra => (some state, a)
    | _ => (none, a)

end Automaton

end IconSubset.Grammar
