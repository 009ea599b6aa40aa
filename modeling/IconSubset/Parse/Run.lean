import IconSubset.Parse.Recovery
import IconSubset.Parse.Thread

/-!
# Running the parsing machine

A parse is a thread as long as it can be. Behind that all versions of the stack are taken forward by
a token in turn; then they are compared, merged and thinned out, and when none of them can go on the
most promising one starts a recovery. The parse ends when a whole tree has been found that costs
less than any version still under way.
-/

namespace IconSubset.Parse

open Grammar (Table Automaton Action TerminalSet lostState firstState)

namespace ParseM

/-- Does what the table says at a lookahead, reducing until the lookahead has been taken or cannot
be. `fuel` bounds the reductions. -/
private def act (v : Nat) : (fuel : Nat) → Subtree → ParseM Unit
  | 0, _ => modifyStack (·.halt v)
  | fuel + 1, lookahead => do
    let g ← grammar
    let state := (← stack).state v
    let mut reduced := false
    let mut last : Option Nat := none
    for action in ← actionsAt state lookahead do
      match action with
      | .shift next again =>
        if !again then
          shift v next lookahead false
          return
      | .shiftExtra =>
        shift v state lookahead true
        return
      | .reduce head size dynamic production =>
        reduced := true
        match ← reduce v head size dynamic production with
        | some r => last := some r
        | none => pure ()
      | .accept =>
        accept v lookahead
        return
      | .recover =>
        recover v lookahead
        return
    if let some r := last then
      modifyStack (·.renumber r v)
      act v fuel lookahead
    else if reduced then
      modifyStack (·.halt v)
    else
      match g.word with
      | some word =>
        if lookahead.summary.keyword && lookahead.summary.label != .symbol word
            && !(← actions state word).isEmpty then
          act v fuel (lookahead.relabel (.symbol word))
        else if state == lostState then recover v lookahead
        else modifyStack (·.pause v lookahead)
      | none =>
        if state == lostState then recover v lookahead
        else modifyStack (·.pause v lookahead)

/-- Takes a version forward by one token. -/
private def advance (source : Source) (lexer : Lexer) (v : Nat) : ParseM Unit := do
  let lookahead ← lex source lexer v
  act v (16 * (source.chars.size + 64)) lookahead

/-- Takes a version forward until it is further than any version before it. Answers the furthest
place. `fuel` bounds the tokens. -/
private def advanceBeyond (source : Source) (lexer : Lexer) (v : Nat) :
    (fuel : Nat) → (furthest : Nat) → ParseM Nat
  | 0, furthest => do
    modifyStack (·.halt v)
    pure furthest
  | fuel + 1, furthest => do
    if !(← stack).isActive v then return furthest
    advance source lexer v
    let position := ((← stack).position v).bytes
    if position > furthest || (v > 0 && position == furthest) then return position
    advanceBeyond source lexer v fuel furthest

/-- Takes all versions forward. `fuel` bounds their number. -/
private def advanceAll (source : Source) (lexer : Lexer) : (fuel : Nat) → (v furthest : Nat) →
    ParseM Nat
  | 0, _, furthest => pure furthest
  | fuel + 1, v, furthest => do
    if v ≥ (← stack).size then return furthest
    let furthest ← advanceBeyond source lexer v (4 * source.chars.size + 64) furthest
    advanceAll source lexer fuel (v + 1) furthest

/-- Compares version `i`, which stands as given, with the versions before it, from `j` on. Answers
the number of the next version to look at. `fuel` bounds the comparisons. -/
private def compareWithEarlier (own : Standing) : (fuel : Nat) → (i j : Nat) → ParseM Nat
  | 0, i, _ => pure (i + 1)
  | fuel + 1, i, j => do
    if j ≥ i then return i + 1
    match compareStandings (← standing j) own with
    | .takeLeft =>
      modifyStack (·.removeVersion i)
      pure i
    | .preferLeft | .neither =>
      if ← merge j i then pure i else compareWithEarlier own fuel i (j + 1)
    | .preferRight =>
      if ← merge j i then pure i
      else
        modifyStack (·.swap i j)
        compareWithEarlier own fuel i (j + 1)
    | .takeRight =>
      modifyStack (·.removeVersion j)
      compareWithEarlier own fuel (i - 1) j

/-- Orders the versions from the most to the least promising and drops those that are clearly worse
than another. Answers the lowest cost of a version that is not lost. -/
private def thinOut : (fuel : Nat) → (i : Nat) → (least : Option Nat) → ParseM (Option Nat)
  | 0, _, least => pure least
  | fuel + 1, i, least => do
    let s ← stack
    if i ≥ s.size then return least
    if s.isHalted i then
      modifyStack (·.removeVersion i)
      thinOut fuel i least
    else
      let own ← standing i
      let least :=
        if own.inError then least else some (least.elim own.cost (min own.cost))
      let i ← compareWithEarlier own (s.size + 1) i 0
      thinOut fuel i least

/-- Starts the recovery of the first version when it is paused, and drops the other paused
versions. -/
private def resume : (fuel : Nat) → (i n : Nat) → (running : Bool) → (least : Option Nat) →
    ParseM (Option Nat)
  | 0, _, _, _, least => pure least
  | fuel + 1, i, n, running, least => do
    if i ≥ n then return least
    let m ← get
    match (m.stack.version i).status with
    | .paused lookahead =>
      if !running && m.accepted < maxVersions then
        let cost := m.stack.costOf i lostState
        modifyStack fun s => s.modifyVersion i fun h => { h with status := .active }
        handleError i lookahead
        resume fuel (i + 1) n true (some cost)
      else
        modifyStack (·.removeVersion i)
        resume fuel i (n - 1) running least
    | _ => resume fuel (i + 1) n true least

/-- Compares, merges and thins out the versions. Answers the lowest cost of those left. -/
private def condense : ParseM (Option Nat) := do
  let count := (← stack).size
  let least ← thinOut (4 * count * count + 16) 0 none
  modifyStack fun s => { s with versions := s.versions.extract 0 maxVersions }
  let count := (← stack).size
  resume (2 * count + 2) 0 count false least

/-- Runs the machine to the end. `fuel` bounds the rounds. -/
private def rounds (source : Source) (lexer : Lexer) : (fuel : Nat) → (furthest : Nat) →
    ParseM Unit
  | 0, _ => pure ()
  | fuel + 1, furthest => do
    if (← stack).size == 0 then return
    let furthest ← advanceAll source lexer 64 0 furthest
    let least ← condense
    let done : Bool := match (← get).finished, least with
      | some t, some cost => t.cost < cost
      | some _, none => true
      | none, _ => false
    if done then return
    rounds source lexer fuel furthest

end ParseM

/-- Takes a source as far as it goes without branches. -/
def thread (automaton : Automaton) (lexer : Lexer) (source : Source) : Except Thread Subtree :=
  (Thread.start automaton).run source lexer (8 * source.chars.size + 64)

/-- Parses a source with a grammar. Whatever the source, the answer is a tree that covers it, with
errors and missing tokens where it does not fit the grammar. -/
def parse (automaton : Automaton) (lexer : Lexer) (source : Source) : Subtree :=
  match thread automaton lexer source with
  | .ok root => root
  | .error t =>
    let rounds := ParseM.rounds source lexer (8 * source.chars.size + 64) t.position.bytes
    let (_, m) := rounds.run (Machine.ofThread t)
    m.finished.getD (.leaf .error .zero (source.extent 0 source.chars.size) false none)

end IconSubset.Parse
