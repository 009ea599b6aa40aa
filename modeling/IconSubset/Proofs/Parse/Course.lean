import IconSubset.Parse.Run
import IconSubset.Proofs.Grammar.Automaton

/-!
# Threads without an automaton

A thread looks states up in an automaton that is built on the way. A course is such a thread whose
stack holds the states themselves, so that what it does is a matter of the tables alone. A thread
and a course that begin together stay together (`Follows`), and so they come to the same tree
(`thread_eq_ok_iff`).
-/

namespace IconSubset.Parse

open Grammar (Grammar Automaton Action Table State lostState firstState)
open Grammar.Automaton (choices next close settle reductions reduction mem_reductions)

/-- A parse that has had no choice so far, on a stack of states. -/
structure Course where
  /-- The stack, the latest tree first. -/
  frames : List (Frame State)
  /-- The place in the source. -/
  position : Extent
  /-- What the scanner knows. -/
  memory : Memory

/-- Where a lookahead leads a course. -/
inductive Course.Progress where
  /-- The lookahead has been taken. -/
  | taken (c : Course)
  /-- The source is at its end and has become one tree. -/
  | whole (root : Subtree)
  /-- There is nothing to do, or there are several things to do. -/
  | stuck

/-- The first state. -/
def firstOf (t : Table) : State := close t [(t.startItem, .singleton 0)]

/-- The state behind a stack. -/
def stateOf (t : Table) (frames : List (Frame State)) : State :=
  frames.head?.elim (firstOf t) (·.state)

/-- The only thing to do in a state at a lookahead. The number of the state behind it is left
open. -/
def actionAt (t : Table) (s : State) (terminal : Nat) : Option Action :=
  onlyAction (choices t s terminal ((next t s terminal).map fun _ => 0))

namespace Course

variable (t : Table)

/-- The course at the start of a source. -/
def start : Course := ⟨[], .zero, none⟩

/-- The lookahead of a course, when a token comes that may come. -/
def lex (source : Source) (lexer : Lexer) (c : Course) : Option Subtree :=
  let extras := t.grammar.extras
  let place := c.position.chars
  let expected := (stateOf t c.frames).expected.union extras
  match lexer.attempt source c.memory expected (!extras.contains ·) place with
  | .found l => some (.leaf (.symbol l.terminal) (source.extent place l.start)
      (source.extent l.start l.stop) false l.memory)
  | .failed _ _ => none

/-- Takes the lookahead. -/
def shift (c : Course) (lookahead : Subtree) (state : State) : Course :=
  { frames := ⟨lookahead, state⟩ :: c.frames
    position := c.position.add lookahead.total
    memory := lookahead.summary.memory.or c.memory }

/-- Makes a node of the last children. -/
def reduce (c : Course) (head size : Nat) (dynamic : Int) (production : Nat) : Option Course :=
  match takeNode t.grammar head size dynamic production c.frames with
  | none => none
  | some (trees, below) =>
    (next t (stateOf t below) head).map fun s => { c with frames := pushTrees trees s below }

/-- Does what there is to do at a lookahead, reducing until it has been taken. -/
def act : (fuel : Nat) → Course → (lookahead : Subtree) → Progress
  | 0, _, _ => .stuck
  | fuel + 1, c, lookahead =>
    match lookahead.summary.label with
    | .symbol terminal =>
      let s := stateOf t c.frames
      match actionAt t s terminal with
      | some (.shift _ _) =>
        (next t s terminal).elim .stuck fun s' => .taken (c.shift lookahead s')
      | some .shiftExtra => .taken (c.shift lookahead.asExtra s)
      | some (.reduce head size dynamic production) =>
        match c.reduce t head size dynamic production with
        | some c => act fuel c lookahead
        | none => .stuck
      | some .accept =>
        let trees := (lookahead :: c.frames.map (·.tree)).reverse
        if terminal != 0 then .stuck
        else (Subtree.whole t.grammar trees).elim .stuck .whole
      | some .recover | none => .stuck
    | _ => .stuck

/-- Takes a course forward by one token. -/
def advance (source : Source) (lexer : Lexer) (c : Course) : Progress :=
  match c.lex t source lexer with
  | some lookahead => act t (16 * (source.chars.size + 64)) c lookahead
  | none => .stuck

/-- Takes a course to the end of the source. -/
def run (source : Source) (lexer : Lexer) : (fuel : Nat) → Course → Option Subtree
  | 0, _ => none
  | fuel + 1, c =>
    match c.advance t source lexer with
    | .taken next => run source lexer fuel next
    | .whole root => some root
    | .stuck => none

end Course

/-! ## The number of a state does not matter -/

/-- An action with another number for the state behind a shift. -/
def renumber (n : Nat) : Action → Action
  | .shift _ again => .shift n again
  | action => action

/-- An action of a complete item has no number of a state in it. -/
theorem renumber_reduction (n : Nat) (t : Table) (item : Grammar.Item) :
    renumber n (reduction t item) = reduction t item := by
  unfold reduction
  split_ifs <;> rfl

/-- The actions of complete items have no numbers of states in them. -/
theorem map_renumber_reductions (n : Nat) (t : Table) (s : State) (x : Nat) :
    (reductions t s x).actions.map (renumber n) = (reductions t s x).actions := by
  conv_rhs => rw [← List.map_id (reductions t s x).actions]
  refine List.map_congr_left fun action haction => ?_
  obtain ⟨entry, -, -, -, rfl⟩ := mem_reductions haction
  exact renumber_reduction n t _

/-- The choices differ in the number of the state only. -/
theorem choices_renumber (t : Table) (s : State) (x n m : Nat) :
    choices t s x (some n) = (choices t s x (some m)).map (renumber n) := by
  have hreductions := map_renumber_reductions n t s x
  unfold choices settle
  simp only [apply_ite (List.map (renumber n)), List.map_append, hreductions, List.map_cons,
    List.map_nil, renumber]

/-- The only thing to do is the same but for the number of the state. -/
theorem onlyAction_map (n : Nat) (actions : List Action) :
    onlyAction (actions.map (renumber n)) = (onlyAction actions).map (renumber n) := by
  have hleftOut : ∀ action, (renumber n action).leftOut = action.leftOut := by
    intro action
    cases action <;> rfl
  have hfilter : (actions.map (renumber n)).filter (!·.leftOut) =
      (actions.filter (!·.leftOut)).map (renumber n) := by
    rw [List.filter_map]
    simp only [Function.comp_def, hleftOut]
  unfold onlyAction
  rw [hfilter]
  cases actions.filter (!·.leftOut) with
  | nil => rfl
  | cons _ rest => cases rest <;> rfl

/-- The only thing to do, given a number for the state behind it. -/
theorem onlyAction_choices {a : Automaton} {t : Table} {s : State} {x : Nat} {n : Option Nat}
    (h : a.ShowsAny n (next t s x)) :
    onlyAction (choices t s x n) = (actionAt t s x).map (n.elim id renumber) := by
  unfold actionAt
  match n, hnext : next t s x with
  | none, none => simp
  | some n, some _ =>
    rw [choices_renumber t s x n 0, onlyAction_map]
    rfl
  | none, some _ | some _, none => rw [hnext] at h; cases h

/-- What is done is one of the actions. -/
theorem mem_of_onlyAction {actions : List Action} {action : Action}
    (h : onlyAction actions = some action) : action ∈ actions := by
  unfold onlyAction at h
  split at h
  next other hfilter =>
    obtain rfl := Option.some.inj h
    exact List.mem_of_mem_filter (hfilter ▸ List.mem_singleton_self other)
  next => cases h

/-- Nothing is shifted when there is no state behind. -/
theorem next_of_actionAt_shift {t : Table} {s : State} {x n : Nat} {again : Bool}
    (h : actionAt t s x = some (.shift n again)) : ∃ s', next t s x = some s' := by
  cases hnext : next t s x with
  | some s' => exact ⟨s', rfl⟩
  | none =>
    have hmem := mem_of_onlyAction h
    rw [hnext, Option.map_none, choices] at hmem
    split at hmem
    · cases List.mem_singleton.1 hmem
    · obtain ⟨entry, -, -, -, hreduction⟩ := mem_reductions hmem
      unfold reduction at hreduction
      split at hreduction <;> cases hreduction

/-! ## Taking trees off a stack -/

/-- How many trees a node takes off a stack, given which of them may stand anywhere. -/
def reach : (size : Nat) → (extra : List Bool) → Option Nat
  | 0, _ => some 0
  | _ + 1, [] => none
  | size + 1, e :: rest => (reach (if e then size + 1 else size) rest).map (· + 1)

/-- Which trees of a stack may stand anywhere. -/
def extraFlags {σ : Type} (frames : List (Frame σ)) : List Bool :=
  frames.map (·.tree.summary.extra)

/-- The trees that are taken off are the first ones. -/
theorem popFrames_eq {σ : Type} (size : Nat) (frames : List (Frame σ)) (above : List Subtree) :
    popFrames size frames above = (reach size (extraFlags frames)).map fun k =>
      (((frames.take k).map (·.tree)).reverse ++ above, frames.drop k) := by
  induction frames generalizing size above with
  | nil => cases size <;> rfl
  | cons f rest ih =>
    cases size with
    | zero => rfl
    | succ size =>
      rw [popFrames, ih, extraFlags, extraFlags, List.map_cons, reach, Option.map_map]
      congr 1
      funext k
      simp

/-- The trees that take the place of the children of a node. -/
def nodeTrees (g : Grammar) (head : Nat) (dynamic : Int) (production : Nat)
    (trees : List Subtree) : List Subtree :=
  let (children, extras) := Subtree.splitTrailingExtras trees
  (Subtree.make g (.symbol head) (some production) children).addDynamic dynamic :: extras

/-- A node takes the first trees off a stack. -/
theorem takeNode_eq {σ : Type} (g : Grammar) (head size : Nat) (dynamic : Int) (production : Nat)
    (frames : List (Frame σ)) :
    takeNode g head size dynamic production frames =
      (reach size (extraFlags frames)).map fun k =>
        (nodeTrees g head dynamic production ((frames.take k).map (·.tree)).reverse,
          frames.drop k) := by
  rw [takeNode, popFrames_eq, Option.map_map]
  congr 1
  funext k
  simp [nodeTrees]

/-! ## Threads and courses -/

variable {table : Table}

/-- A frame of a thread and one of a course hold the same tree, and the number of the state stands
for the state. -/
def SameFrame (a : Automaton) (f : Frame Nat) (f' : Frame State) : Prop :=
  f.tree = f'.tree ∧ a.Shows f.state f'.state

/-- A course is what a thread is about. -/
structure Follows (table : Table) (t : Thread) (c : Course) : Prop where
  sound : t.automaton.Sound
  table_eq : t.automaton.table = table
  first : t.automaton.Shows firstState (firstOf table)
  frames : List.Forall₂ (SameFrame t.automaton) t.frames c.frames
  position : t.position = c.position
  memory : t.memory = c.memory

/-- A thread and a course have been led to the same place. -/
inductive Together (table : Table) : Progress → Course.Progress → Prop
  | taken {t : Thread} {c : Course} (h : Follows table t c) : Together table (.taken t) (.taken c)
  | whole (root : Subtree) : Together table (.whole root) (.whole root)
  | stuck : Together table .stuck .stuck

variable {t : Thread} {c : Course} {a : Automaton}

/-- Frames stay the same when more of the automaton is built. -/
theorem sameFrames_grow {frames : List (Frame Nat)} {frames' : List (Frame State)}
    (h : List.Forall₂ (SameFrame a) frames frames') {b : Automaton} (hgrows : a.Grows b) :
    List.Forall₂ (SameFrame b) frames frames' :=
  h.imp fun _ _ hf => ⟨hf.1, hgrows.shows hf.2⟩

/-- The states behind the stacks belong together. -/
theorem shows_stateOf {frames : List (Frame Nat)} {frames' : List (Frame State)}
    (h : List.Forall₂ (SameFrame a) frames frames') (hfirst : a.Shows firstState (firstOf table)) :
    a.Shows (frames.head?.elim firstState (·.state)) (stateOf table frames') := by
  cases h with
  | nil => exact hfirst
  | cons hf _ => exact hf.2

/-- The trees are the same. -/
theorem map_tree_eq {frames : List (Frame Nat)} {frames' : List (Frame State)}
    (h : List.Forall₂ (SameFrame a) frames frames') :
    frames.map (·.tree) = frames'.map (·.tree) := by
  induction h with
  | nil => rfl
  | cons hf _ ih => rw [List.map_cons, List.map_cons, hf.1, ih]

/-- Trees are put on both stacks. -/
theorem sameFrames_push {n : Nat} {s : State} (hs : a.Shows n s) (trees : List Subtree)
    {frames : List (Frame Nat)} {frames' : List (Frame State)}
    (h : List.Forall₂ (SameFrame a) frames frames') :
    List.Forall₂ (SameFrame a) (pushTrees trees n frames) (pushTrees trees s frames') := by
  induction trees generalizing frames frames' with
  | nil => exact h
  | cons tree rest ih => exact ih (.cons ⟨rfl, hs⟩ h)

/-- The thread goes on with an automaton of which more has been built. -/
theorem Follows.grow (h : Follows table t c) (hsound : a.Sound) (hgrows : t.automaton.Grows a) :
    Follows table { t with automaton := a } c where
  sound := hsound
  table_eq := hgrows.table.trans h.table_eq
  first := hgrows.shows h.first
  frames := sameFrames_grow h.frames hgrows
  position := h.position
  memory := h.memory

/-- The states of a thread and its course belong together. -/
theorem Follows.shows (h : Follows table t c) :
    t.automaton.Shows t.state (stateOf table c.frames) :=
  shows_stateOf h.frames h.first

/-- Both take the lookahead. -/
theorem Follows.shift (h : Follows table t c) (lookahead : Subtree) {n : Nat} {s : State}
    (hs : t.automaton.Shows n s) : Follows table (t.shift lookahead n) (c.shift lookahead s) where
  sound := h.sound
  table_eq := h.table_eq
  first := h.first
  frames := .cons ⟨rfl, hs⟩ h.frames
  position := congrArg (Extent.add · lookahead.total) h.position
  memory := congrArg (lookahead.summary.memory.or ·) h.memory

/-- Both make the node. -/
theorem Follows.reduce (h : Follows table t c) (head size : Nat) (dynamic : Int)
    (production : Nat) :
    (t.reduce head size dynamic production = none ∧
      c.reduce table head size dynamic production = none) ∨
    ∃ t' c', t.reduce head size dynamic production = some t' ∧
      c.reduce table head size dynamic production = some c' ∧ Follows table t' c' := by
  have hflags : extraFlags t.frames = extraFlags c.frames := by
    have htrees := congrArg (List.map (·.summary.extra)) (map_tree_eq h.frames)
    rwa [List.map_map, List.map_map] at htrees
  unfold Thread.reduce Course.reduce
  rw [takeNode_eq, takeNode_eq, hflags, h.table_eq]
  cases reach size (extraFlags c.frames) with
  | none => exact .inl ⟨rfl, rfl⟩
  | some k =>
    have hbelow := List.forall₂_drop k h.frames
    have htrees := map_tree_eq (List.forall₂_take k h.frames)
    have hstate := shows_stateOf hbelow h.first
    obtain ⟨hsound, hgrows, hnext⟩ := Grammar.Automaton.after_spec h.sound hstate head
    simp only [Option.map_some, htrees]
    generalize t.automaton.after _ head = found at hsound hgrows hnext
    obtain ⟨n, b⟩ := found
    rw [h.table_eq] at hnext
    match n, hs : next table (stateOf table (c.frames.drop k)) head with
    | none, none => exact .inl ⟨rfl, rfl⟩
    | some n, some s =>
      rw [hs] at hnext
      refine .inr ⟨_, _, rfl, rfl, { (h.grow hsound hgrows) with frames := ?_ }⟩
      exact sameFrames_push hnext _ (sameFrames_grow hbelow hgrows)
    | none, some _ | some _, none => rw [hs] at hnext; cases hnext

/-- Both do the same at a lookahead. -/
theorem Follows.act (h : Follows table t c) (fuel : Nat) (lookahead : Subtree) :
    Together table (t.act fuel lookahead) (c.act table fuel lookahead) := by
  induction fuel generalizing t c with
  | zero => exact .stuck
  | succ fuel ih =>
    unfold Thread.act Course.act
    cases lookahead.summary.label with
    | error | skipped => exact .stuck
    | symbol terminal =>
      obtain ⟨hsound, hgrows, n, hactions, hnext⟩ :=
        Grammar.Automaton.actions_spec h.sound h.shows terminal
      have hgrown := h.grow hsound hgrows
      rw [h.table_eq] at hactions hnext
      dsimp only
      rw [hactions, onlyAction_choices hnext]
      cases haction : actionAt table (stateOf table c.frames) terminal with
      | none => exact .stuck
      | some action =>
        cases action with
        | shift m again =>
          obtain ⟨s, hs⟩ := next_of_actionAt_shift haction
          rw [hs] at hnext ⊢
          cases n with
          | none => cases hnext
          | some n => exact .taken (hgrown.shift lookahead hnext)
        | shiftExtra =>
          cases n <;> exact .taken (hgrown.shift lookahead.asExtra hgrown.shows)
        | reduce head size dynamic production =>
          have hreduce := hgrown.reduce head size dynamic production
          cases n <;>
          · dsimp only [Option.map_some, Option.elim, id, renumber]
            obtain ⟨hnone, hnone'⟩ | ⟨t', c', ht', hc', hfollows⟩ := hreduce
            · rw [hnone, hnone']
              exact .stuck
            · rw [ht', hc']
              exact ih hfollows
        | accept =>
          cases n <;>
          · dsimp only [Option.map_some, Option.elim, id, renumber]
            rw [map_tree_eq hgrown.frames, hgrown.table_eq]
            split
            · exact .stuck
            · cases Subtree.whole table.grammar
                  (lookahead :: c.frames.map (·.tree)).reverse with
              | none => exact .stuck
              | some root => exact .whole root
        | recover => cases n <;> exact .stuck

/-- In a grammar without keywords that are also words, both have the same lookahead. -/
theorem Follows.lex (h : Follows table t c) (hword : table.grammar.word = none) (source : Source)
    (lexer : Lexer) :
    t.lex source lexer =
      (c.lex table source lexer).map fun lookahead => (lookahead, t.automaton) := by
  unfold Thread.lex Course.lex
  have hexpected : t.automaton.expected t.state =
      (stateOf table c.frames).expected.union table.grammar.extras := by
    unfold Automaton.expected
    rw [h.shows.2, h.table_eq]
    rfl
  rw [hexpected, h.table_eq, h.memory, h.position]
  dsimp only
  cases lexer.attempt source c.memory
      ((stateOf table c.frames).expected.union table.grammar.extras)
      (!table.grammar.extras.contains ·) c.position.chars with
  | found l =>
    have htree : lexer.tree source t.automaton t.state c.position.chars l =
        (.leaf (.symbol l.terminal) (source.extent c.position.chars l.start)
          (source.extent l.start l.stop) false l.memory, t.automaton) := by
      unfold Lexer.tree
      rw [h.table_eq, hword]
      rfl
    exact congrArg some htree
  | failed _ _ => rfl

/-- Both go forward by the same token. -/
theorem Follows.advance (h : Follows table t c) (hword : table.grammar.word = none)
    (source : Source) (lexer : Lexer) :
    Together table (t.advance source lexer) (c.advance table source lexer) := by
  unfold Thread.advance Course.advance
  rw [h.lex hword]
  cases c.lex table source lexer with
  | none => exact .stuck
  | some lookahead => exact h.act _ lookahead

/-- Both come to the same tree, or neither comes to one. -/
theorem Follows.run (h : Follows table t c) (hword : table.grammar.word = none) (source : Source)
    (lexer : Lexer) (fuel : Nat) (root : Subtree) :
    t.run source lexer fuel = .ok root ↔ c.run table source lexer fuel = some root := by
  induction fuel generalizing t c with
  | zero => simp [Thread.run, Course.run]
  | succ fuel ih =>
    have hadvance := h.advance hword source lexer
    unfold Thread.run Course.run
    revert hadvance
    generalize t.advance source lexer = p, c.advance table source lexer = p'
    rintro (h | root | _)
    · exact ih h
    · simp
    · simp

/-- A thread comes to a tree exactly when the course does. -/
theorem thread_eq_ok_iff (hword : table.grammar.word = none) (landmarks : Grammar.TerminalSet)
    (lexer : Lexer) (source : Source) (root : Subtree) :
    thread (.ofTable table landmarks) lexer source = .ok root ↔
      Course.start.run table source lexer (8 * source.chars.size + 64) = some root :=
  Follows.run
    { sound := Grammar.Automaton.sound_ofTable table landmarks
      table_eq := rfl
      first := Grammar.Automaton.shows_first table landmarks
      frames := .nil
      position := rfl
      memory := rfl } hword source lexer _ root

end IconSubset.Parse
