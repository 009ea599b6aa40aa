import IconSubset.Grammar.Production

/-!
# What a parse table needs of a grammar

First sets, the items of all productions, and for every symbol the symbols that a phrase of it can
begin with, with the lookaheads that come along. All of it is computed once for a grammar;
`Automaton` builds its states from these tables as a parse reaches them.

Two items are one when they make the same symbol out of equally many children with the same names
and parts, and have the same steps ahead of them: which symbols stand behind the dot does not
matter any more.
-/

namespace IconSubset.Grammar

/-- A production read up to some place. -/
structure Item where
  /-- The symbol that is being made. -/
  head : Nat
  /-- The number of children read. -/
  size : Nat
  /-- The symbol that must come next; none at the end of the production. -/
  next : Option Nat
  /-- What may follow that symbol inside the production; none when it is the last one. -/
  follow : Option TerminalSet
  /-- The item after that symbol. -/
  successor : Nat
  /-- The precedence of the step before the dot. -/
  prec : Precedence
  /-- The associativity of the step before the dot. -/
  side : Option Associativity
  /-- A production of which this is an item. -/
  production : Nat
deriving Inhabited

/-- A symbol that a phrase of another symbol can begin with. -/
structure Opening where
  /-- The symbol. -/
  symbol : Nat
  /-- The lookaheads that come from inside the phrase. -/
  follow : TerminalSet
  /-- Whether the symbol can be the whole phrase, so that the lookaheads of the phrase are its
  own. -/
  whole : Bool
deriving Inhabited

/-- The tables of a grammar. -/
structure Table where
  /-- The grammar. -/
  grammar : Grammar
  /-- For every symbol, the terminals that its phrases begin with. -/
  first : Array TerminalSet
  /-- All items, by their numbers. -/
  items : Std.TreeMap Nat Item
  /-- For every symbol, its items at the left end. -/
  opening : Array (Array Nat)
  /-- For every symbol, the symbols that its phrases can begin with. -/
  openings : Array (Array Opening)
  /-- The item at the left end of the whole input. -/
  startItem : Nat
deriving Inhabited

/-- Pairs in the order of their first parts, and then of their second parts. -/
instance ordPair {α β : Type} [Ord α] [Ord β] : Ord (α × β) := lexOrd

namespace Table

/-- One round of the computation of first sets. -/
private def firstRound (productions : Array Production) (first : Array TerminalSet) :
    Array TerminalSet × Bool :=
  productions.foldl
    (fun (first, changed) p =>
      match p.steps with
      | [] => (first, changed)
      | s :: _ =>
        let old := first.getD p.head .empty
        let new := old.union (first.getD s.symbol .empty)
        if new == old then (first, changed) else (first.setIfInBounds p.head new, true))
    (first, false)

/-- Rounds until nothing changes; `rounds` bounds them. -/
private def firstSets (productions : Array Production) :
    (rounds : Nat) → Array TerminalSet → Array TerminalSet
  | 0, first => first
  | rounds + 1, first =>
    match firstRound productions first with
    | (first, true) => firstSets productions rounds first
    | (first, false) => first

/-- What tells the items of productions apart: the symbols behind the dot are struck out, and of
their precedences only the last remains. -/
private def itemKey (p : Production) (dot : Nat) : Production × Nat :=
  let steps := p.steps.mapIdx fun i s =>
    if i + 1 < dot then { s with symbol := 0, prec := .none, side := none }
    else if i < dot then { s with symbol := 0 }
    else s
  ({ p with steps }, dot)

/-- The items of one production, from its right end to its left end. -/
private def addItems (first : Array TerminalSet) (p : Production) (index : Nat) :
    (dot : Nat) → (after : List Step) → (before : List Step) →
    Std.TreeMap Nat Item × Std.TreeMap (Production × Nat) Nat → Nat →
    (Std.TreeMap Nat Item × Std.TreeMap (Production × Nat) Nat) × Nat
  | dot, after, before, (items, ids), successor =>
    let key := itemKey p dot
    let found := ids[key]?
    let id := found.getD items.size
    let state :=
      match found with
      | some _ => (items, ids)
      | none =>
        let item : Item :=
          { head := p.head
            size := dot
            next := after.head?.map (·.symbol)
            follow := match after with
              | _ :: s :: _ => some (first.getD s.symbol .empty)
              | _ => none
            successor
            prec := (before.head?.map (·.prec)).getD .none
            side := before.head?.bind (·.side)
            production := index }
        (items.insert id item, ids.insert key id)
    match before with
    | [] => (state, id)
    | s :: before => addItems first p index (dot - 1) (s :: after) before state id
  termination_by _ _ before => before.length

/-- A round of the search for the symbols that a phrase can begin with. -/
private def spread (t : Nat) (first : Array TerminalSet) (byHead : Array (List Production)) :
    (fuel : Nat) → (todo : List Nat) → Std.TreeMap Nat (TerminalSet × Bool) →
    Std.TreeMap Nat (TerminalSet × Bool)
  | 0, _, found => found
  | _, [], found => found
  | fuel + 1, symbol :: todo, found =>
    let (follow, whole) := found.getD symbol (.empty, false)
    let (todo, found) := (byHead.getD symbol []).foldl
      (fun (todo, found) p =>
        match p.steps with
        | [] => (todo, found)
        | s :: rest =>
          if s.symbol < t then (todo, found)
          else
            let new : TerminalSet × Bool := match rest with
              | r :: _ => (first.getD r.symbol .empty, false)
              | [] => (follow, whole)
            let old := found[s.symbol]?
            let sum := match old with
              | some o => (o.1.union new.1, o.2 || new.2)
              | none => new
            if old == some sum then (todo, found)
            else
              (if todo.contains s.symbol then todo else s.symbol :: todo,
                found.insert s.symbol sum))
      (todo, found)
    spread t first byHead fuel todo found

/-- The tables of a grammar. -/
def ofGrammar (g : Grammar) : Table :=
  let whole : Production := ⟨g.symbols.size, [⟨g.start, .none, none, none, none⟩], 0⟩
  let productions := g.productions.push whole
  let g := { g with productions }
  let count := g.symbols.size
  let terminals := Array.ofFn fun i : Fin (count + 1) =>
    if i.val < g.terminals then TerminalSet.singleton i.val else TerminalSet.empty
  let first := firstSets productions (count + 2) terminals
  let none : Array (Array Nat) := Array.replicate (count + 1) #[]
  let start : (Std.TreeMap Nat Item × Std.TreeMap (Production × Nat) Nat) × Array (Array Nat) ×
      Nat := (({}, {}), none, 0)
  let ((items, _), opening, startItem) := productions.zipIdx.foldl
    (fun (state, opening, _) (p, index) =>
      let (state, id) := addItems first p index p.steps.length [] p.steps.reverse state 0
      let ids := opening.getD p.head #[]
      (state, opening.setIfInBounds p.head (if ids.contains id then ids else ids.push id), id))
    start
  let byHead := productions.foldl
    (fun (m : Array (List Production)) p => m.modify p.head (p :: ·))
    (Array.replicate (count + 1) [])
  let openings := Array.ofFn fun i : Fin (count + 1) =>
    if i.val < g.terminals then #[]
    else
      let found := spread g.terminals first byHead (count * count) [i.val]
        (({} : Std.TreeMap Nat (TerminalSet × Bool)).insert i.val (.empty, true))
      found.foldl (fun acc symbol (follow, whole) => acc.push ⟨symbol, follow, whole⟩) #[]
  { grammar := g, first, items, opening, openings, startItem }

/-- The information of an item. -/
def item (t : Table) (id : Nat) : Item := t.items.getD id default

end Table

end IconSubset.Grammar
