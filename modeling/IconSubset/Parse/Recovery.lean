import IconSubset.Parse.Machine

/-!
# Finding a way back into the grammar

A version that cannot take its lookahead is paused. When no other version does better, it may insert
a token that the source lacks, and it is lost: at every lookahead it then tries to go back to a
state through which it came and in which the lookahead may come, leaving everything since in an
error, and it tries as well to skip the lookahead and to stay lost. The costs of the errors decide
which attempt survives.
-/

namespace IconSubset.Parse.ParseM

open Grammar (Action lostState firstState)

/-- The outcome of comparing two versions: which is better, and whether the other can go. -/
inductive Preference where
  | takeLeft
  | preferLeft
  | neither
  | preferRight
  | takeRight
deriving BEq, Repr

/-- How a version stands. -/
structure Standing where
  /-- The cost of its errors. -/
  cost : Nat
  /-- The number of visible trees since its last error. -/
  count : Nat
  /-- Its dynamic precedence. -/
  dynamic : Int
  /-- Whether it is lost or about to be. -/
  inError : Bool

/-- How great a difference of cost settles a comparison. -/
def maxCostDifference : Nat := 18 * costOfSkippedTree

/-- Compares two versions. A difference in cost weighs more the more the cheaper version has
achieved. -/
def compareStandings (a b : Standing) : Preference :=
  if !a.inError && b.inError then
    if a.cost < b.cost then .takeLeft else .preferLeft
  else if a.inError && !b.inError then
    if b.cost < a.cost then .takeRight else .preferRight
  else if a.cost < b.cost then
    if (b.cost - a.cost) * (1 + a.count) > maxCostDifference then .takeLeft else .preferLeft
  else if b.cost < a.cost then
    if (a.cost - b.cost) * (1 + b.count) > maxCostDifference then .takeRight else .preferRight
  else if a.dynamic > b.dynamic then .preferLeft
  else if b.dynamic > a.dynamic then .preferRight
  else .neither

/-- The number of visible trees that a version has gained since it last lost its way. -/
def countSinceError (v : Nat) : ParseM Nat :=
  modifyGet fun m =>
    let (count, stack) := m.stack.countSinceError v
    (count, { m with stack })

/-- How a version stands. -/
def standing (v : Nat) : ParseM Standing := do
  let s ← stack
  let cost := s.costOf v lostState
  let paused := s.isPaused v
  let count ← countSinceError v
  pure
    { cost := if paused then cost + costOfSkippedTree else cost
      count
      dynamic := (s.top v).dynamic
      inError := paused || s.state v == lostState }

/-- Whether a version with the given cost would be worse than another that is at least as far. -/
def betterExists (v : Nat) (inError : Bool) (cost : Nat) : ParseM Bool := do
  let m ← get
  if m.finished.elim false (·.cost ≤ cost) then return true
  let s := m.stack
  let position := s.position v
  let own : Standing :=
    { cost, inError, dynamic := (s.top v).dynamic, count := ← countSinceError v }
  for i in [0:s.size] do
    if i != v && s.isActive i && (s.position i).bytes ≥ position.bytes then
      match compareStandings own (← standing i) with
      | .takeRight => return true
      | .preferRight => if s.canMerge i v then return true
      | _ => pure ()
  return false

/-- Goes back to a state by putting the trees above it into an error. Says whether the state was
found at that depth. -/
private def returnTo (v depth goal : Nat) : ParseM Bool := do
  let g ← grammar
  let slices ← modifyGet fun m =>
    let (slices, stack) := m.stack.popCount v depth
    (slices, { m with stack })
  let mut previous : Option Nat := none
  for slice in slices do
    if some slice.version == previous then continue
    if (← stack).state slice.version != goal then
      modifyStack (·.halt slice.version)
      continue
    let errors ← modifyGet fun m =>
      let (errors, stack) := m.stack.popError slice.version
      (errors, { m with stack })
    let inner := (errors.head?.map (·.children)).getD []
    let (trees, extras) := Subtree.splitTrailingExtras (inner ++ slice.trees)
    if !trees.isEmpty then
      push slice.version (some (Subtree.makeError g trees true)) goal
    for e in extras do
      push slice.version (some e) goal
    previous := some slice.version
  return previous.isSome

/-- Tries to go back to a state in which the lookahead may come. -/
private def tryReturn (v : Nat) (lookahead : Subtree) (versions count cost : Nat) :
    ParseM Bool := do
  let s ← stack
  let position := s.position v
  let waypoints := (s.version v).waypoints.getD #[]
  if lookahead.isError then return false
  for w in waypoints do
    if w.state == lostState || w.position.bytes == position.bytes then continue
    let depth := if count > 0 then w.depth + 1 else w.depth
    let s ← stack
    let wouldMerge := (List.range versions).any fun j =>
      s.state j == w.state && (s.position j).bytes == position.bytes
    if wouldMerge then continue
    let newCost := cost + w.depth * costOfSkippedTree
      + (position.bytes - w.position.bytes) * costOfSkippedByte
      + (position.rows - w.position.rows) * costOfSkippedRow
    if ← betterExists v false newCost then return false
    if !(← actionsAt w.state lookahead).isEmpty then
      if ← returnTo v depth w.state then return true
  return false

/-- The next step of a lost version. -/
def recover (v : Nat) (lookahead : Subtree) : ParseM Unit := do
  let g ← grammar
  let versions := (← stack).size
  let count ← countSinceError v
  let cost := (← stack).costOf v lostState
  let returned ← tryReturn v lookahead versions count cost
  modifyStack fun s =>
    let kept := (List.range s.size).filter fun i => i < versions || s.isActive i
    { s with versions := (kept.map s.version).toArray }
  if returned && (← stack).size > maxVersions then
    modifyStack (·.halt v)
  else if lookahead.summary.label == .symbol 0 then
    push v (some (Subtree.makeError g [] false)) firstState
    accept v lookahead
  else
    let total := lookahead.total
    let newCost := cost + costOfSkippedTree + total.bytes * costOfSkippedByte
      + total.rows * costOfSkippedRow
    if ← betterExists v false newCost then
      modifyStack (·.halt v)
    else
      let standsAnywhere := (← actionsAt firstState lookahead).getLast? == some .shiftExtra
      let lookahead := if standsAnywhere then lookahead.asExtra else lookahead
      let skipped := Subtree.make g .skipped none [lookahead]
      let skipped ←
        if count > 0 then
          let slices ← modifyGet fun m =>
            let (slices, stack) := m.stack.popCount v 1
            (slices, { m with stack })
          match slices[0]? with
          | some slice =>
            modifyStack fun s =>
              let s := { s with versions := s.versions.extract 0 (slice.version + 1) }
              s.renumber slice.version v
            pure (Subtree.make g .skipped none (slice.trees ++ [skipped]))
          | none => pure skipped
        else pure skipped
      push v (some skipped) lostState
      remember v lookahead

/-- The reductions that a state allows at some lookahead, each once, and whether it can take that
lookahead. -/
private def openReductions (state : Nat) (lookaheads : List Nat) :
    ParseM (List (Nat × Nat × Int × Nat) × Bool) := do
  let mut found : List (Nat × Nat × Int × Nat) := []
  let mut shifts := false
  for t in lookaheads do
    for action in ← actions state t do
      match action with
      | .shift _ again => if !again then shifts := true
      | .recover => shifts := true
      | .reduce head size dynamic production =>
        if size > 0 && !found.any (fun r => r.1 == head && r.2.1 == size) then
          found := found ++ [(head, size, dynamic, production)]
      | .shiftExtra | .accept => pure ()
  pure (found, shifts)

/-- Performs all reductions that are possible at the lookahead, or at any lookahead when none is
given, on a version and on those that come out. Says whether one of them can take the lookahead.
`fuel` bounds the steps. -/
private def reduceAll (start : Nat) (lookahead : Option Nat) : (fuel : Nat) → (v initial i : Nat) →
    Bool → ParseM Bool
  | 0, _, _, _, can => pure can
  | fuel + 1, v, initial, i, can => do
    let count := (← stack).size
    if v ≥ count then return can
    let mut merged := false
    for j in [initial:v] do
      if ← merge j v then
        merged := true
        break
    if merged then return ← reduceAll start lookahead fuel v initial (i + 1) can
    let state := (← stack).state v
    let g ← grammar
    let lookaheads := match lookahead with
      | some t => [t]
      | none => (List.range g.terminals).drop 1
    let (found, shifts) ← openReductions state lookaheads
    let mut last : Option Nat := none
    for (head, size, dynamic, production) in found do
      last ← reduce v head size dynamic production
    let can := can || shifts
    if !shifts then
      if let some r := last then
        if i < maxVersions then
          modifyStack (·.renumber r v)
          return ← reduceAll start lookahead fuel v initial (i + 1) can
      if lookahead.isSome then
        modifyStack (·.removeVersion v)
    let next := if v == start then count else v + 1
    reduceAll start lookahead fuel next initial (i + 1) can

/-- How many steps of reductions a recovery may take. -/
private def reductionSteps : Nat := 4096

/-- Inserts the first token that the source may lack in a version: one after which the lookahead
closes a phrase and can be taken. At the end of the source any token counts for the latter. Says
whether there is one. -/
private def insertMissing (v lookahead : Nat) : ParseM Bool := do
  let g ← grammar
  let state := (← stack).state v
  for missing in [1:g.terminals] do
    match ← nextState state missing with
    | none => pure ()
    | some next =>
      if next == lostState || next == state then continue
      let reduces := (← actions next lookahead).any fun
        | .reduce .. => true
        | _ => false
      if reduces then
        let copy ← modifyGet fun m =>
          let (copy, stack) := m.stack.copy v
          (copy, { m with stack })
        push copy (some (Subtree.missingLeaf missing)) next
        let initial := (← stack).size
        if ← reduceAll copy (if lookahead == 0 then none else some lookahead) reductionSteps copy
          initial 0 false then
          return true
  return false

/-- Starts the recovery of a version that cannot take its lookahead. -/
def handleError (v : Nat) (lookahead : Subtree) : ParseM Unit := do
  let before := (← stack).size
  let _ ← reduceAll v none reductionSteps v before 0 false
  let count := (← stack).size
  let terminal := match lookahead.summary.label with
    | .symbol t => some t
    | _ => none
  let mut inserted := false
  for w in v :: (List.range count).drop before do
    if !inserted then
      if let some t := terminal then
        inserted ← insertMissing w t
    push w none lostState
  for _ in [before:count] do
    let _ ← merge v before
  modifyStack (·.recordWaypoints v 16)
  recover v lookahead

end IconSubset.Parse.ParseM
