import IconSubset.Grammar.Rule
import IconSubset.Grammar.TerminalSet
import Std.Data.TreeMap

/-!
# Productions

A grammar definition is spelled out into productions without options, repetitions or nested
choices. A repetition becomes an auxiliary symbol `R` with `R → R R` and one production per body;
an inlined rule disappears into its users. Each step of a production keeps the precedence under
which it was written, the alias and the field of the child that it contributes.
-/

namespace IconSubset.Grammar

/-- How the nodes of a grammar symbol look in a tree. -/
structure SymbolInfo where
  /-- The kind of its nodes. -/
  name : String
  /-- Whether it has nodes of its own; otherwise its children stand in its place. -/
  visible : Bool
  /-- Whether it is a kind of node, and not the text of a token. -/
  named : Bool
  /-- Whether it was made up for a repetition. -/
  auxiliary : Bool
deriving Repr, Inhabited

/-- One symbol on the right-hand side of a production. -/
structure Step where
  /-- The symbol. -/
  symbol : Nat
  /-- The precedence under which it stands. -/
  prec : Precedence
  /-- The associativity under which it stands. -/
  side : Option Associativity
  /-- The name that its node bears here. -/
  byname : Option Alias
  /-- The part that its node plays here. -/
  field : Option String
deriving BEq, Hashable, Ord, Repr, Inhabited

/-- One way to make a symbol out of others. -/
structure Production where
  /-- The symbol that is made. -/
  head : Nat
  /-- What it is made of. -/
  steps : List Step
  /-- The dynamic precedence of the nodes so made. -/
  dynamic : Int
deriving BEq, Hashable, Ord, Repr, Inhabited

/-- A grammar spelled out. Terminal 0 is the end of the input, the other terminals follow, and the
symbols from `terminals` on are made by productions. -/
structure Grammar where
  /-- What each symbol looks like. -/
  symbols : Array SymbolInfo
  /-- The number of terminals. -/
  terminals : Nat
  /-- All productions. -/
  productions : Array Production
  /-- The start symbol. -/
  start : Nat
  /-- The names of the rules, for comparisons of precedence. -/
  ruleNames : Array String
  /-- The orderings of precedences. -/
  orderings : List (List Rank)
  /-- The token that keywords are spelled like. -/
  word : Option Nat
  /-- The tokens that may stand anywhere. -/
  extras : TerminalSet
  /-- The terminals of named tokens and external tokens, and the symbols of rules. -/
  byName : Std.TreeMap String Nat
  /-- The terminals of literals. -/
  byLiteral : Std.TreeMap String Nat
deriving Inhabited

/-- The terminal of a literal; 0 when there is none. -/
def Grammar.literal (g : Grammar) (text : String) : Nat := g.byLiteral.getD text 0

/-- The symbol of a name; 0 when there is none. -/
def Grammar.named (g : Grammar) (name : String) : Nat := g.byName.getD name 0

/-- The steps of the production of a node; none where it was made by no production. -/
def Grammar.stepsOf (g : Grammar) (production : Option Nat) : List Step :=
  (production.bind (g.productions[·]?)).elim [] (·.steps)

namespace Definition

/-- Whether the nodes of a rule or token are left out of trees. -/
private def hides (d : Definition) (name : String) : Bool :=
  name.toList.head? == some '_' || d.supertypes.contains name

/-- A rule that only spells a literal which occurs nowhere else names that token. -/
private def namesLiteral (uses : Std.TreeMap String Nat) : Rule → Option String
  | .literal text => if uses.getD text 0 == 1 then some text else none
  | _ => none

/-- The symbols of a grammar while they are being numbered. -/
private structure Numbering where
  infos : Array SymbolInfo
  byName : Std.TreeMap String Nat
  byLiteral : Std.TreeMap String Nat

private def Numbering.addToken (n : Numbering) (d : Definition) (name : String) : Numbering :=
  if n.byName.contains name then n
  else
    { n with
      infos := n.infos.push ⟨name, !d.hides name, true, false⟩
      byName := n.byName.insert name n.infos.size }

private def Numbering.addLiteral (n : Numbering) (text : String) : Numbering :=
  if n.byLiteral.contains text then n
  else
    { n with
      infos := n.infos.push ⟨text, true, false, false⟩
      byLiteral := n.byLiteral.insert text n.infos.size }

/-- The terminals in the order in which the rules first mention them, the word token in front and
the external tokens at the end. -/
private def numberTerminals (d : Definition) (uses : Std.TreeMap String Nat) : Numbering :=
  let atStart : Numbering := ⟨#[⟨"end", false, true, false⟩], {}, {}⟩
  let withWord := match d.word with
    | some w => atStart.addToken d w
    | none => atStart
  let withTokens := d.rules.foldl
    (fun n (name, rule) =>
      match rule, namesLiteral uses rule with
      | .token, _ => n.addToken d name
      | _, some text =>
        { n with
          infos := n.infos.push ⟨name, !d.hides name, true, false⟩
          byName := n.byName.insert name n.infos.size
          byLiteral := n.byLiteral.insert text n.infos.size }
      | _, none => rule.literals.foldl Numbering.addLiteral n)
    withWord
  d.externals.foldl
    (fun n name => if n.byLiteral.contains name then n else n.addToken d name) withTokens

/-- A sequence of steps with the dynamic precedence written inside it. -/
private structure Sequence where
  steps : List Step
  dynamic : Int

/-- The stronger of two dynamic precedences, the first when they are equally strong. -/
private def stronger (a b : Int) : Int := if b.natAbs > a.natAbs then b else a

/-- The remarks around a place in a rule. -/
private structure Context where
  prec : Precedence
  side : Option Associativity
  byname : Option Alias
  field : Option String
  /-- Whether the place is the last one of its rule. -/
  atEnd : Bool

/-- The grammar while its rules are being spelled out. -/
private structure Builder where
  numbering : Numbering
  productions : Array Production
  /-- The repetitions met so far, with their auxiliary symbols. -/
  repeats : List (Rule × Nat)
  /-- The rule that is being spelled out. -/
  owner : String

/-- Gives the last step of a sequence the remarks of the surrounding place. -/
private def restoreLast (level : Precedence) (side : Option Associativity) (ctx : Context)
    (s : Sequence) : Sequence :=
  match s.steps.reverse with
  | [] => s
  | last :: front =>
    let last := if level == .none then last else { last with prec := ctx.prec }
    let last := if side.isNone then last else { last with side := ctx.side }
    { s with steps := (last :: front).reverse }

mutual

/-- The sequences that a rule stands for. -/
private def spellOut (ctx : Context) : Rule → StateM Builder (List Sequence)
  | .blank | .token => pure [⟨[], 0⟩]
  | .symbol name => do
    let b ← get
    pure [⟨[⟨b.numbering.byName.getD name 0, ctx.prec, ctx.side, ctx.byname, ctx.field⟩], 0⟩]
  | .literal text => do
    let b ← get
    pure [⟨[⟨b.numbering.byLiteral.getD text 0, ctx.prec, ctx.side, ctx.byname, ctx.field⟩], 0⟩]
  | .seq members => spellOutSeq ctx members
  | .choice members => spellOutChoice ctx members
  | .field name body => spellOut { ctx with field := some name } body
  | .aliased as body => spellOut { ctx with byname := some as } body
  | .prec level side body => do
    let inner := { ctx with
      prec := if level == .none then ctx.prec else level
      side := side.or ctx.side }
    let found ← spellOut inner body
    pure (if ctx.atEnd then found else found.map (restoreLast level side ctx))
  | .dynamic level body => do
    let found ← spellOut ctx body
    pure (found.map fun s => { s with dynamic := stronger level s.dynamic })
  | .repeat1 body => do
    let b ← get
    match b.repeats.find? (·.1 == body) with
    | some (_, symbol) => pure [⟨[⟨symbol, ctx.prec, ctx.side, ctx.byname, ctx.field⟩], 0⟩]
    | none =>
      let inside ← spellOut ⟨.none, none, none, none, true⟩ body
      let b ← get
      let symbol := b.numbering.infos.size
      let again : Step := ⟨symbol, .none, none, none, none⟩
      let productions := inside.foldl (fun ps s => ps.push ⟨symbol, s.steps, s.dynamic⟩)
        (b.productions.push ⟨symbol, [again, again], 0⟩)
      set { b with
        numbering := { b.numbering with
          infos := b.numbering.infos.push ⟨b.owner, false, false, true⟩ }
        productions
        repeats := (body, symbol) :: b.repeats }
      pure [⟨[⟨symbol, ctx.prec, ctx.side, ctx.byname, ctx.field⟩], 0⟩]

/-- The sequences of rules that follow each other. -/
private def spellOutSeq (ctx : Context) : List Rule → StateM Builder (List Sequence)
  | [] => pure [⟨[], 0⟩]
  | member :: rest => do
    let heads ← spellOut { ctx with atEnd := ctx.atEnd && rest.isEmpty } member
    let tails ← spellOutSeq ctx rest
    pure (heads.flatMap fun h =>
      tails.map fun t => ⟨h.steps ++ t.steps, stronger h.dynamic t.dynamic⟩)

/-- The sequences of rules that exclude each other. -/
private def spellOutChoice (ctx : Context) : List Rule → StateM Builder (List Sequence)
  | [] => pure []
  | member :: rest => do
    let here ← spellOut ctx member
    let others ← spellOutChoice ctx rest
    pure (here ++ others)

end

/-- A symbol that never stands without an alias bears its most frequent alias everywhere, also
where no production gave it one. -/
private def defaultAliases (inlined extras : Std.TreeMap Nat Unit)
    (productions : Array Production) : Std.TreeMap Nat Alias :=
  let seen : Std.TreeMap Nat (Option (List (Alias × Nat))) := productions.foldl
    (fun m p => p.steps.foldl
      (fun m s =>
        if inlined.contains s.symbol then m
        else
          match s.byname, m.getD s.symbol (some []) with
          | some a, some counts =>
            let counts :=
              if counts.any (·.1 == a) then
                counts.map fun (a', n) => if a' == a then (a', n + 1) else (a', n)
              else counts ++ [(a, 1)]
            m.insert s.symbol (some counts)
          | _, _ => m.insert s.symbol none) m) {}
  seen.foldl
    (fun m symbol counts =>
      match counts with
      | some (first :: others) =>
        if extras.contains symbol then m
        else
          let best := others.foldl (fun best c => if c.2 > best.2 then c else best) first
          m.insert symbol best.1
      | _ => m) {}

/-- Puts the productions of inlined symbols in their place, one symbol at a time. A rule that is
inlined must not contain itself; `depth` bounds the replacements in one production. -/
private def inlineAll (byHead : Std.TreeMap Nat (List Production))
    (inlined : Std.TreeMap Nat Unit) :
    (depth : Nat) → Production → List Production
  | 0, p => [p]
  | depth + 1, p =>
    match p.steps.span (fun s => !inlined.contains s.symbol) with
    | (_, []) => [p]
    | (before, removed :: after) =>
      (byHead.getD removed.symbol []).flatMap fun q =>
        let inserted := q.steps.map fun s =>
          { s with
            byname := removed.byname.or s.byname
            field := removed.field.or s.field }
        let inserted := match inserted.reverse with
          | [] => []
          | last :: front =>
            let last := if last.prec == .none then { last with prec := removed.prec } else last
            let last := if last.side.isNone then { last with side := removed.side } else last
            (last :: front).reverse
        inlineAll byHead inlined depth
          ⟨p.head, before ++ inserted ++ after, stronger p.dynamic q.dynamic⟩

/-- The grammar of a definition. -/
def compile (d : Definition) : Grammar :=
  let uses : Std.TreeMap String Nat := d.rules.foldl
    (fun m (_, rule) => rule.literals.foldl (fun m l => m.insert l (m.getD l 0 + 1)) m) {}
  let tokens := d.numberTerminals uses
  let terminals := tokens.infos.size
  let makes := d.rules.filter fun (name, _) => !tokens.byName.contains name
  let numbering := makes.foldl
    (fun n (name, _) =>
      { n with
        infos := n.infos.push ⟨name, !d.hides name, true, false⟩
        byName := n.byName.insert name n.infos.size }) tokens
  let built := makes.foldl
    (fun (b : Builder) (name, rule) =>
      let (found, b) := (spellOut ⟨.none, none, none, none, true⟩ rule).run { b with owner := name }
      let head := b.numbering.byName.getD name 0
      { b with
        productions := found.foldl (fun ps s => ps.push ⟨head, s.steps, s.dynamic⟩) b.productions })
    ⟨numbering, #[], [], ""⟩
  let inlined : Std.TreeMap Nat Unit :=
    d.inline.foldl (fun m name => m.insert (numbering.byName.getD name 0) ()) {}
  let extras := d.extras.map fun name => numbering.byName.getD name 0
  let extraSet : Std.TreeMap Nat Unit := extras.foldl (fun m t => m.insert t ()) {}
  let aliases := defaultAliases inlined extraSet built.productions
  let byHead : Std.TreeMap Nat (List Production) := built.productions.foldl
    (fun m p => m.insert p.head (m.getD p.head [] ++ [p])) {}
  let spelled := built.productions.foldl
    (fun (acc : Array Production × Std.TreeMap Production Unit) p =>
      if inlined.contains p.head then acc
      else (inlineAll byHead inlined 24 p).foldl
        (fun (ps, seen) q =>
          if seen.contains q then (ps, seen) else (ps.push q, seen.insert q ())) acc)
    (#[], {})
  let symbols := built.numbering.infos.mapIdx fun i info =>
    match aliases[i]? with
    | some a => ⟨a.name, true, a.named, info.auxiliary⟩
    | none => info
  { symbols
    terminals
    productions := spelled.1
    start := match d.rules with
      | (name, _) :: _ => numbering.byName.getD name 0
      | [] => 0
    ruleNames := built.numbering.infos.mapIdx fun i info => if i < terminals then "" else info.name
    orderings := d.orderings
    word := d.word.map fun w => tokens.byName.getD w 0
    extras := TerminalSet.ofList extras
    byName := numbering.byName
    byLiteral := numbering.byLiteral }

end Definition

end IconSubset.Grammar
