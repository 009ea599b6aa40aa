import IconSubset.Proofs.Parse.Course

/-!
# The tokens that a course reads

What a course does at a lookahead is a row of reductions with a shift or the end of the parse behind
it (`Acts`), and a whole parse is a row of tokens (`Reads`). The trees on the stack have all tokens
read so far as their leaves, in order, so that the leaves of the whole tree are the tokens of the
source (`Reads.leaves_root`).
-/

namespace IconSubset.Parse

open Grammar (Grammar Table State)
open Grammar.Automaton (next)

/-! ## The leaves of a tree -/

/-- A token in a tree. -/
structure Leaf where
  /-- What it stands for. -/
  label : Label
  /-- What lies between the token before and this one. -/
  padding : Extent
  /-- The stretch that it covers. -/
  size : Extent
deriving DecidableEq

/-- The token that a summary is about. -/
def leafOf (s : Summary) : Leaf := ⟨s.label, s.padding, s.size⟩

mutual

/-- The tokens of a tree, in order. A tree that no production has made is one token. -/
def leaves : Subtree → List Leaf
  | .node s cs => if s.production.isNone then [leafOf s] else leavesAll cs

/-- The tokens of trees that follow each other. -/
def leavesAll : List Subtree → List Leaf
  | [] => []
  | t :: ts => leaves t ++ leavesAll ts

end

/-- The tokens of two rows of trees are those of the first row and those of the second. -/
@[simp] theorem leavesAll_append (ts us : List Subtree) :
    leavesAll (ts ++ us) = leavesAll ts ++ leavesAll us := by
  induction ts with
  | nil => simp [leavesAll]
  | cons t ts ih => simp [leavesAll, ih]

/-- A tree may stand anywhere or not, it has the same tokens. -/
@[simp] theorem leaves_asExtra (t : Subtree) : leaves t.asExtra = leaves t := by
  cases t
  simp [Subtree.asExtra, Subtree.summary, Subtree.children, leaves, leafOf]

/-- The tokens of a tree whose dynamic precedence has changed are the same. -/
@[simp] theorem leaves_addDynamic (t : Subtree) (d : Int) : leaves (t.addDynamic d) = leaves t := by
  cases t
  simp [Subtree.addDynamic, Subtree.summary, Subtree.children, leaves, leafOf]

/-! ## Nodes and their children -/

/-- Extents are added in any grouping. -/
theorem Extent.add_assoc (a b c : Extent) : (a.add b).add c = a.add (b.add c) := by
  simp [Extent.add, Nat.add_assoc]

@[simp] theorem Extent.zero_add (a : Extent) : Extent.zero.add a = a := by simp [Extent.add, zero]

@[simp] theorem Extent.add_zero (a : Extent) : a.add Extent.zero = a := by simp [Extent.add, zero]

/-- The stretch that trees cover one after the other. -/
def totals : List Subtree → Extent
  | [] => .zero
  | t :: ts => t.total.add (totals ts)

/-- Two rows of trees cover the one stretch and then the other. -/
@[simp] theorem totals_append (ts us : List Subtree) :
    totals (ts ++ us) = (totals ts).add (totals us) := by
  induction ts with
  | nil => simp [totals]
  | cons t ts ih => simp [totals, ih, Extent.add_assoc]

/-- What a summary learns from its children does not change what it is about, and it covers them
all. -/
theorem absorbAll_spec (g : Grammar) (s : Summary) (steps : List Grammar.Step)
    (cs : List Subtree) (hzero : s.arity = 0 → s.padding.add s.size = .zero) :
    (Subtree.absorbAll g s steps cs).label = s.label ∧
    (Subtree.absorbAll g s steps cs).production = s.production ∧
    (Subtree.absorbAll g s steps cs).extra = s.extra ∧
    (Subtree.absorbAll g s steps cs).padding.add (Subtree.absorbAll g s steps cs).size =
      (s.padding.add s.size).add (totals cs) := by
  induction cs generalizing s steps with
  | nil => simp [Subtree.absorbAll, totals]
  | cons c cs ih =>
    have htotal : (Subtree.absorb g s steps c).padding.add (Subtree.absorb g s steps c).size =
        (s.padding.add s.size).add c.total := by
      unfold Subtree.absorb
      split
      next hempty => rw [hzero (by simpa using hempty), Extent.zero_add]; rfl
      next => exact (Extent.add_assoc _ _ _).symm
    obtain ⟨hlabel, hproduction, hextra, hall⟩ := ih (Subtree.absorb g s steps c)
      (if c.summary.extra then steps else steps.drop 1) fun h => absurd h (Nat.succ_ne_zero _)
    refine ⟨hlabel, hproduction, hextra, ?_⟩
    rw [Subtree.absorbAll, hall, htotal, Extent.add_assoc]
    rfl

/-- A node is about the label and the production that it was made with. It is no node that may stand
anywhere, it covers its children, and has them. -/
theorem make_spec (g : Grammar) (head : Nat) (production : Option Nat) (cs : List Subtree) :
    ∃ s, Subtree.make g (.symbol head) production cs = .node s cs ∧ s.label = .symbol head ∧
      s.production = production ∧ s.extra = false ∧ s.padding.add s.size = totals cs := by
  obtain ⟨hlabel, hproduction, hextra, htotal⟩ := absorbAll_spec g
    ⟨.symbol head, production, .zero, .zero, false, false, false, 0, 0, 0, 0, 0, none⟩
    (g.stepsOf production) cs fun _ => rfl
  rw [Extent.zero_add, Extent.zero_add] at htotal
  exact ⟨_, rfl, hlabel, hproduction, hextra, htotal⟩

/-- Trees that may stand anywhere are split off from the end. -/
theorem splitTrailingExtras_append (ts : List Subtree) :
    (Subtree.splitTrailingExtras ts).1 ++ (Subtree.splitTrailingExtras ts).2 = ts ∧
      ∀ e ∈ (Subtree.splitTrailingExtras ts).2, e.summary.extra = true := by
  have hsplit : ts = (ts.reverse.dropWhile (·.summary.extra)).reverse ++
      (ts.reverse.takeWhile (·.summary.extra)).reverse := by
    rw [← List.reverse_append, List.takeWhile_append_dropWhile, List.reverse_reverse]
  unfold Subtree.splitTrailingExtras
  dsimp only
  refine ⟨?_, fun e he => List.mem_takeWhile_imp (p := fun t : Subtree => t.summary.extra)
    (List.mem_reverse.1 he)⟩
  generalize (ts.reverse.takeWhile (·.summary.extra)).reverse = extras at hsplit ⊢
  conv_lhs => rw [hsplit]
  conv_rhs => rw [hsplit]
  simp

/-- The last tree of what is left is not one that may stand anywhere. -/
theorem getLast?_splitTrailingExtras (ts : List Subtree) :
    ∀ c ∈ (Subtree.splitTrailingExtras ts).1.getLast?, c.summary.extra = false := by
  have hhead := List.head?_dropWhile_not (fun t : Subtree => t.summary.extra) ts.reverse
  have hleft : (Subtree.splitTrailingExtras ts).1 =
      (ts.reverse.dropWhile (·.summary.extra)).reverse := by
    have hsplit := congrArg List.reverse (List.takeWhile_append_dropWhile
      (p := fun t : Subtree => t.summary.extra) (l := ts.reverse))
    rw [List.reverse_append, List.reverse_reverse] at hsplit
    refine List.append_cancel_right ((splitTrailingExtras_append ts).1.trans hsplit.symm)
  intro c hc
  rw [hleft, List.getLast?_reverse] at hc
  rw [Option.mem_def.1 hc] at hhead
  simpa using hhead

/-- The tokens of the trees that take the place of the children of a node are those of the
children. -/
theorem leavesAll_nodeTrees (g : Grammar) (head : Nat) (dynamic : Int) (production : Nat)
    (ts : List Subtree) : leavesAll (nodeTrees g head dynamic production ts) = leavesAll ts := by
  obtain ⟨s, hmake, -, hproduction, -⟩ :=
    make_spec g head (some production) (Subtree.splitTrailingExtras ts).1
  conv_rhs => rw [← (splitTrailingExtras_append ts).1]
  unfold nodeTrees
  simp only [leavesAll, leaves_addDynamic, leavesAll_append, hmake, leaves, hproduction,
    Option.isNone_some, Bool.false_eq_true, if_false]

/-- The trees of a stack, in the order of the source. -/
def trees {σ : Type} (frames : List (Frame σ)) : List Subtree := (frames.map (·.tree)).reverse

/-- Trees that are put on a stack come last. -/
theorem trees_pushTrees {σ : Type} (ts : List Subtree) (state : σ) (frames : List (Frame σ)) :
    trees (pushTrees ts state frames) = trees frames ++ ts := by
  induction ts generalizing frames with
  | nil => simp [pushTrees]
  | cons t ts ih =>
    refine (ih (⟨t, state⟩ :: frames)).trans ?_
    simp [trees]

/-- A stack is made of its first frames and the others. -/
theorem trees_take_drop {σ : Type} (k : Nat) (frames : List (Frame σ)) :
    trees (frames.drop k) ++ ((frames.take k).map (·.tree)).reverse = trees frames := by
  rw [trees, trees, ← List.reverse_append, ← List.map_append, List.take_append_drop]

namespace Course

variable {t : Table} {source : Source} {lexer : Lexer} {l : Subtree} {n : Nat} {c c' : Course}

/-- A course comes somewhere with a lookahead, in no more than so many steps. -/
inductive Acts (t : Table) (l : Subtree) : Nat → Course → Progress → Prop
  /-- The lookahead is shifted. -/
  | shift {n x m : Nat} {c : Course} {again : Bool} {s : State}
    (hlabel : l.summary.label = .symbol x)
    (haction : actionAt t (stateOf t c.frames) x = some (.shift m again))
    (hnext : next t (stateOf t c.frames) x = some s) :
    Acts t l (n + 1) c (.taken (c.shift l s))
  /-- The lookahead is shifted as one that may stand anywhere. -/
  | shiftExtra {n x : Nat} {c : Course} (hlabel : l.summary.label = .symbol x)
    (haction : actionAt t (stateOf t c.frames) x = some .shiftExtra) :
    Acts t l (n + 1) c (.taken (c.shift l.asExtra (stateOf t c.frames)))
  /-- A node is made, and the course goes on from there. -/
  | reduce {n x head size production : Nat} {dynamic : Int} {c c' : Course} {p : Progress}
    (hlabel : l.summary.label = .symbol x)
    (haction : actionAt t (stateOf t c.frames) x =
      some (.reduce head size dynamic production))
    (hreduce : c.reduce t head size dynamic production = some c') (hrest : Acts t l n c' p) :
    Acts t l (n + 1) c p
  /-- The parse ends. -/
  | accept {n : Nat} {c : Course} {root : Subtree} (hlabel : l.summary.label = .symbol 0)
    (haction : actionAt t (stateOf t c.frames) 0 = some .accept)
    (hwhole : Subtree.whole t.grammar (l :: c.frames.map (·.tree)).reverse = some root) :
    Acts t l (n + 1) c (.whole root)

/-- What a course does is such a row of steps, unless it is stuck. -/
theorem acts_of_act (h : c.act t n l ≠ .stuck) : Acts t l n c (c.act t n l) := by
  induction n generalizing c with
  | zero => exact absurd rfl h
  | succ n ih =>
    unfold act at h ⊢
    cases hlabel : l.summary.label with
    | error | skipped => rw [hlabel] at h; exact absurd rfl h
    | symbol x =>
      rw [hlabel] at h
      dsimp only at h ⊢
      cases haction : actionAt t (stateOf t c.frames) x with
      | none => rw [haction] at h; exact absurd rfl h
      | some action =>
        rw [haction] at h
        cases action with
        | shift m again =>
          obtain ⟨s, hs⟩ := next_of_actionAt_shift haction
          rw [hs]
          exact .shift hlabel haction hs
        | shiftExtra => exact .shiftExtra hlabel haction
        | reduce head size dynamic production =>
          dsimp only at h ⊢
          cases hreduce : c.reduce t head size dynamic production with
          | none => rw [hreduce] at h; exact absurd rfl h
          | some c' =>
            rw [hreduce] at h
            exact .reduce hlabel haction hreduce (ih h)
        | accept =>
          dsimp only at h ⊢
          split at h
          next => exact absurd rfl h
          next hend =>
            obtain rfl : x = 0 := by simpa using hend
            rw [if_neg hend]
            cases hwhole : Subtree.whole t.grammar (l :: c.frames.map (·.tree)).reverse with
            | none => rw [hwhole] at h; exact absurd rfl h
            | some root => exact .accept hlabel haction hwhole
        | recover => exact absurd rfl h

/-- Where such a row of steps leads is what the course does. -/
theorem Acts.act_eq {p : Progress} (h : Acts t l n c p) : c.act t n l = p := by
  induction h with
  | shift hlabel haction hnext => unfold act; simp only [hlabel, haction, hnext, Option.elim]
  | shiftExtra hlabel haction => unfold act; simp only [hlabel, haction]
  | reduce hlabel haction hreduce _ ih => unfold act; simp only [hlabel, haction, hreduce, ih]
  | accept hlabel haction hwhole =>
    unfold act
    simp only [hlabel, haction, hwhole, Option.elim]
    rfl

/-- More steps do no harm. -/
theorem Acts.mono {p : Progress} (h : Acts t l n c p) {m : Nat} (hle : n ≤ m) : Acts t l m c p := by
  induction h generalizing m with
  | shift hlabel haction hnext =>
    obtain ⟨m, rfl⟩ := Nat.exists_eq_succ_of_ne_zero (Nat.ne_zero_of_lt hle)
    exact .shift hlabel haction hnext
  | shiftExtra hlabel haction =>
    obtain ⟨m, rfl⟩ := Nat.exists_eq_succ_of_ne_zero (Nat.ne_zero_of_lt hle)
    exact .shiftExtra hlabel haction
  | reduce hlabel haction hreduce _ ih =>
    obtain ⟨m, rfl⟩ := Nat.exists_eq_succ_of_ne_zero (Nat.ne_zero_of_lt hle)
    exact .reduce hlabel haction hreduce (ih (Nat.le_of_succ_le_succ hle))
  | accept hlabel haction hwhole =>
    obtain ⟨m, rfl⟩ := Nat.exists_eq_succ_of_ne_zero (Nat.ne_zero_of_lt hle)
    exact .accept hlabel haction hwhole

/-- A reduction reads nothing. -/
theorem place_of_reduce {head size production : Nat} {dynamic : Int}
    (h : c.reduce t head size dynamic production = some c') :
    c'.position = c.position ∧ c'.memory = c.memory := by
  unfold reduce at h
  split at h
  · cases h
  · obtain ⟨s, -, rfl⟩ := Option.map_eq_some_iff.1 h
    exact ⟨rfl, rfl⟩

/-- Behind a token the course stands at its end and knows what the scanner knows there. -/
theorem Acts.place (h : Acts t l n c (.taken c')) :
    c'.position = c.position.add l.total ∧ c'.memory = l.summary.memory.or c.memory := by
  generalize hp : Progress.taken c' = p at h
  induction h with
  | shift => cases hp; exact ⟨rfl, rfl⟩
  | shiftExtra => cases hp; exact ⟨rfl, rfl⟩
  | reduce _ _ hreduce _ ih =>
    obtain ⟨hposition, hmemory⟩ := place_of_reduce hreduce
    rw [← hposition, ← hmemory]
    exact ih hp
  | accept => cases hp

/-- A reduction leaves the tokens on the stack. -/
theorem leaves_of_reduce {head size production : Nat} {dynamic : Int}
    (h : c.reduce t head size dynamic production = some c') :
    leavesAll (trees c'.frames) = leavesAll (trees c.frames) := by
  unfold reduce at h
  rw [takeNode_eq] at h
  cases hreach : reach size (extraFlags c.frames) with
  | none => rw [hreach] at h; cases h
  | some k =>
    rw [hreach] at h
    obtain ⟨s, -, rfl⟩ := Option.map_eq_some_iff.1 h
    rw [trees_pushTrees, leavesAll_append, leavesAll_nodeTrees, ← leavesAll_append,
      trees_take_drop]

/-- A token that is taken comes behind those on the stack. -/
theorem Acts.leaves_eq (h : Acts t l n c (.taken c')) :
    leavesAll (trees c'.frames) = leavesAll (trees c.frames) ++ leaves l := by
  generalize hp : Progress.taken c' = p at h
  induction h with
  | shift => cases hp; simp [Course.shift, trees, leavesAll]
  | shiftExtra => cases hp; simp [Course.shift, trees, leavesAll]
  | reduce _ _ hreduce _ ih => rw [← leaves_of_reduce hreduce]; exact ih hp
  | accept => cases hp

/-- A course reads tokens up to the end of the source, where it comes to a tree. -/
inductive Reads (t : Table) (source : Source) (lexer : Lexer) (n : Nat) :
    Course → List Subtree → Subtree → Prop
  /-- The last token is the end of the source. -/
  | last {c : Course} {l root : Subtree} (hlex : c.lex t source lexer = some l)
    (hacts : Acts t l n c (.whole root)) : Reads t source lexer n c [l] root
  /-- A token has been taken, and the course goes on. -/
  | more {c c' : Course} {l root : Subtree} {ls : List Subtree}
    (hlex : c.lex t source lexer = some l) (hacts : Acts t l n c (.taken c'))
    (hrest : Reads t source lexer n c' ls root) : Reads t source lexer n c (l :: ls) root

/-- The number of steps that a course may take at a token of a source. -/
def steps (source : Source) : Nat := 16 * (source.chars.size + 64)

/-- A course comes to a tree exactly when it reads the tokens to the end. -/
theorem run_eq_some_iff {fuel : Nat} {root : Subtree} : c.run t source lexer fuel = some root ↔
    ∃ ls, ls.length ≤ fuel ∧ Reads t source lexer (steps source) c ls root := by
  induction fuel generalizing c with
  | zero =>
    refine ⟨fun h => (by cases h), ?_⟩
    rintro ⟨ls, hlength, h⟩
    cases h <;> cases hlength
  | succ fuel ih =>
    unfold run advance
    cases hlex : c.lex t source lexer with
    | none =>
      refine ⟨fun h => (by cases h), ?_⟩
      rintro ⟨ls, -, h⟩
      cases h with
      | last hlex' _ | more hlex' _ _ => cases hlex.symm.trans hlex'
    | some l =>
      dsimp only
      constructor
      · intro h
        have hacts := acts_of_act (t := t) (n := steps source) (l := l) (c := c)
        unfold steps at hacts ⊢
        generalize hp : c.act t (16 * (source.chars.size + 64)) l = p at h hacts
        cases p with
        | stuck => cases h
        | whole root' =>
          obtain rfl := Option.some.inj h
          exact ⟨[l], Nat.le_add_left _ _, .last hlex (hacts fun hstuck => by cases hstuck)⟩
        | taken c' =>
          obtain ⟨ls, hlength, hreads⟩ := ih.1 h
          exact ⟨l :: ls, Nat.succ_le_succ hlength,
            .more hlex (hacts fun hstuck => by cases hstuck) hreads⟩
      · rintro ⟨ls, hlength, h⟩
        cases h with
        | last hlex' hacts =>
          obtain rfl := Option.some.inj (hlex.symm.trans hlex')
          rw [show 16 * (source.chars.size + 64) = steps source from rfl, hacts.act_eq]
        | more hlex' hacts hrest =>
          obtain rfl := Option.some.inj (hlex.symm.trans hlex')
          rw [show 16 * (source.chars.size + 64) = steps source from rfl, hacts.act_eq]
          exact ih.2 ⟨_, Nat.le_of_succ_le_succ hlength, hrest⟩

end Course

end IconSubset.Parse
