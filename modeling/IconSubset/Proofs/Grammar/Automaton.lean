import IconSubset.Grammar.Automaton
import Mathlib

/-!
# The automaton that is built as it is needed

An automaton keeps the states, transitions and actions that have been asked for. What it answers
does not depend on what was asked before: a number stands for the state that it was given to
(`Shows`), and the state behind a symbol and the actions at a lookahead are those that the tables of
the grammar give for the states themselves (`after_spec`, `actions_spec`), as long as all that is
kept is right (`Sound`).
-/

namespace IconSubset.Grammar

instance : Std.TransOrd TerminalSet := inferInstanceAs (Std.TransCmp (compareOn TerminalSet.bits))

instance : Std.LawfulEqOrd TerminalSet where
  eq_of_compare {a b} h := by
    have hbits : a.bits = b.bits := Std.LawfulEqOrd.eq_of_compare (α := Nat) h
    cases a
    cases b
    exact congrArg _ hbits

/-- A key of a map is asked for, or another key is. -/
theorem getElem?_insert_eq_some {α β : Type} [Ord α] [Std.TransOrd α] [Std.LawfulEqOrd α]
    {m : Std.TreeMap α β} {k k' : α} {v v' : β} (h : (m.insert k v)[k']? = some v') :
    (k = k' ∧ v = v') ∨ m[k']? = some v' := by
  rw [Std.TreeMap.getElem?_insert] at h
  split at h
  · next hkey => exact .inl ⟨Std.LawfulEqOrd.eq_of_compare hkey, Option.some.inj h⟩
  · exact .inr h

namespace Automaton

/-- The state behind a symbol, as the tables give it. -/
def next (t : Table) (s : State) (symbol : Nat) : Option State :=
  match behind t s symbol with
  | [] => none
  | kernel => some (close t kernel)

variable {a b c : Automaton} {q n x : Nat} {s : State}

/-- A number stands for a state. The parser that has lost its way is no state. -/
def Shows (a : Automaton) (n : Nat) (s : State) : Prop := n ≠ lostState ∧ a.states[n]? = some s

/-- A number stands for a state when there is one. -/
def ShowsAny (a : Automaton) : Option Nat → Option State → Prop
  | some n, some s => a.Shows n s
  | none, none => True
  | _, _ => False

/-- An automaton that has been built further has the same tables, and its numbers stand for what
they stood for. -/
structure Grows (a b : Automaton) : Prop where
  table : b.table = a.table
  shows {n : Nat} {s : State} : a.Shows n s → b.Shows n s

/-- Nothing has been built. -/
theorem Grows.refl (a : Automaton) : a.Grows a := ⟨rfl, id⟩

/-- More and more has been built. -/
theorem Grows.trans (hab : a.Grows b) (hbc : b.Grows c) : a.Grows c :=
  ⟨hbc.table.trans hab.table, fun h => hbc.shows (hab.shows h)⟩

/-- What stood for a state still does. -/
theorem Grows.showsAny (h : a.Grows b) {n : Option Nat} {s : Option State} (hs : a.ShowsAny n s) :
    b.ShowsAny n s := by
  match n, s with
  | some _, some _ => exact h.shows hs
  | none, none => exact trivial

/-- A number stands for one state. -/
theorem Shows.unique {s' : State} (h : a.Shows n s) (h' : a.Shows n s') : s = s' :=
  Option.some.inj (h.2.symm.trans h'.2)

/-- Whatever the automaton keeps is what the tables give. -/
structure Sound (a : Automaton) : Prop where
  /-- The numbers of states. -/
  ids {kernel : ItemSet} {n : Nat} : a.ids[kernel]? = some n → a.Shows n (close a.table kernel)
  /-- The transitions. -/
  jumps {q x n : Nat} : a.jumps[(q, x)]? = some n →
    ∃ s, a.Shows q s ∧ a.ShowsAny (some n) (next a.table s x)
  /-- The actions. -/
  answers {q x : Nat} {actions : List Action} : a.answers[(q, x)]? = some actions →
    ∃ s, a.Shows q s ∧
      ∃ n, actions = choices a.table s x n ∧ a.ShowsAny n (next a.table s x)

/-- At the start the automaton keeps the first state only. -/
theorem sound_ofTable (t : Table) (landmarks : TerminalSet) : (ofTable t landmarks).Sound where
  ids h := by
    obtain ⟨rfl, rfl⟩ | hnone := getElem?_insert_eq_some h
    · exact ⟨Nat.one_ne_zero, rfl⟩
    · cases Std.TreeMap.getElem?_emptyc.symm.trans hnone
  jumps h := by cases Std.TreeMap.getElem?_emptyc.symm.trans h
  answers h := by cases Std.TreeMap.getElem?_emptyc.symm.trans h

/-- The first state. -/
theorem shows_first (t : Table) (landmarks : TerminalSet) :
    (ofTable t landmarks).Shows firstState (close t [(t.startItem, .singleton 0)]) :=
  ⟨Nat.one_ne_zero, rfl⟩

/-- What is kept stays right when more is built. -/
theorem Grows.jumps (h : a.Grows b) {q x n : Nat}
    (hjump : ∃ s, a.Shows q s ∧ a.ShowsAny (some n) (next a.table s x)) :
    ∃ s, b.Shows q s ∧ b.ShowsAny (some n) (next b.table s x) := by
  obtain ⟨s, hs, hn⟩ := hjump
  exact ⟨s, h.shows hs, by rw [h.table]; exact h.showsAny hn⟩

/-- One more transition is kept. -/
theorem Sound.keepJump (h : a.Sound) (hs : a.Shows q s)
    (hn : a.ShowsAny (some n) (next a.table s x)) :
    Sound { a with jumps := a.jumps.insert (q, x) n } where
  ids := h.ids
  jumps hjump := by
    obtain ⟨heq, rfl⟩ | hold := getElem?_insert_eq_some hjump
    · obtain ⟨rfl, rfl⟩ := Prod.mk.inj heq
      exact ⟨s, hs, hn⟩
    · exact h.jumps hold
  answers := h.answers

/-- The actions at one more lookahead are kept. -/
theorem Sound.keepAnswer (h : a.Sound) (hs : a.Shows q s) {n : Option Nat}
    (hn : a.ShowsAny n (next a.table s x)) :
    Sound { a with answers := a.answers.insert (q, x) (choices a.table s x n) } where
  ids := h.ids
  jumps := h.jumps
  answers hanswer := by
    obtain ⟨heq, rfl⟩ | hold := getElem?_insert_eq_some hanswer
    · obtain ⟨rfl, rfl⟩ := Prod.mk.inj heq
      exact ⟨s, hs, n, rfl, hn⟩
    · exact h.answers hold

/-- One more state is kept, with its number. -/
def withState (a : Automaton) (kernel : ItemSet) : Automaton :=
  { a with states := a.states.push (close a.table kernel)
           ids := a.ids.insert kernel a.states.size }

/-- The other numbers stand for what they stood for. -/
theorem grows_withState (a : Automaton) (kernel : ItemSet) : a.Grows (a.withState kernel) where
  table := rfl
  shows {n s} hs := by
    have hlt : n < a.states.size := (Array.getElem?_eq_some_iff.1 hs.2).1
    refine ⟨hs.1, ?_⟩
    show (a.states.push _)[n]? = some s
    rw [Array.getElem?_push_lt hlt, ← hs.2, Array.getElem?_eq_getElem hlt]

/-- The new number stands for the new state. -/
theorem shows_withState (hpos : 0 < a.states.size) (kernel : ItemSet) :
    (a.withState kernel).Shows a.states.size (close a.table kernel) :=
  ⟨hpos.ne', Array.getElem?_push_size⟩

/-- All that is kept is right with one more state. -/
theorem Sound.withState (h : a.Sound) (hpos : 0 < a.states.size) (kernel : ItemSet) :
    (a.withState kernel).Sound where
  ids {kernel' n} hid := by
    obtain ⟨rfl, rfl⟩ | hold := getElem?_insert_eq_some hid
    · exact shows_withState hpos kernel
    · exact (grows_withState a kernel).shows (h.ids hold)
  jumps hjump := (grows_withState a kernel).jumps (h.jumps hjump)
  answers hanswer := by
    obtain ⟨s, hs, n, hactions, hn⟩ := h.answers hanswer
    exact ⟨s, (grows_withState a kernel).shows hs, n, hactions,
      (grows_withState a kernel).showsAny hn⟩

/-- The state behind a symbol is the one that the tables give, and nothing that has been built is
lost. -/
theorem after_spec (h : a.Sound) (hs : a.Shows q s) (x : Nat) :
    (a.after q x).2.Sound ∧ a.Grows (a.after q x).2 ∧
      (a.after q x).2.ShowsAny (a.after q x).1 (next a.table s x) := by
  unfold after
  split
  next n hjump =>
    obtain ⟨s', hs', hn⟩ := h.jumps hjump
    exact ⟨h, .refl a, hs'.unique hs ▸ hn⟩
  next hnone =>
    have hbehind : (a.states[q]?).elim [] (behind a.table · x) = behind a.table s x := by
      rw [hs.2]
      rfl
    rw [hbehind]
    split
    next hnil => exact ⟨h, .refl a, by rw [next, hnil]; trivial⟩
    next kernel hne =>
      have hnext : next a.table s x = some (close a.table (behind a.table s x)) := by
        unfold next
        split
        next hnil => exact absurd hnil hne
        next => rfl
      split
      next n hid =>
        have hn : a.ShowsAny (some n) (next a.table s x) := hnext ▸ h.ids hid
        exact ⟨h.keepJump hs hn, ⟨rfl, id⟩, hn⟩
      next =>
        have hpos : 0 < a.states.size :=
          Nat.zero_lt_of_lt (Array.getElem?_eq_some_iff.1 hs.2).1
        have hgrows := grows_withState a (behind a.table s x)
        have hn : (a.withState (behind a.table s x)).ShowsAny (some a.states.size)
            (next a.table s x) := hnext ▸ shows_withState hpos _
        exact ⟨(h.withState hpos _).keepJump (hgrows.shows hs) hn,
          ⟨rfl, fun h => hgrows.shows h⟩, hn⟩

/-- The actions at a lookahead are those that the tables give. -/
theorem actions_spec (h : a.Sound) (hs : a.Shows q s) (x : Nat) :
    (a.actions q x).2.Sound ∧ a.Grows (a.actions q x).2 ∧
      ∃ n, (a.actions q x).1 = choices a.table s x n ∧
        (a.actions q x).2.ShowsAny n (next a.table s x) := by
  unfold actions
  split
  next found hanswer =>
    obtain ⟨s', hs', n, hactions, hn⟩ := h.answers hanswer
    obtain rfl := hs'.unique hs
    exact ⟨h, .refl a, n, hactions, hn⟩
  next =>
    obtain ⟨hsound, hgrows, hn⟩ := after_spec h hs x
    rw [if_neg (by simpa using hs.1), hs.2]
    dsimp only
    have hkept := hsound.keepAnswer (hgrows.shows hs) (hgrows.table.symm ▸ hn)
    exact ⟨hkept, ⟨hgrows.table, hgrows.shows⟩, _, by rw [hgrows.table], hn⟩

/-- A reduction is that of an item which is complete and has the lookahead. -/
theorem mem_reductions {t : Table} {action : Action}
    (h : action ∈ (reductions t s x).actions) :
    ∃ entry ∈ s.items, (t.item entry.1).next = none ∧ entry.2.contains x = true ∧
      action = reduction t (t.item entry.1) := by
  suffices hfold : ∀ (items : ItemSet) (r : Reductions),
      action ∈ (items.foldl (Reductions.consider t x) r).actions →
      action ∈ r.actions ∨ ∃ entry ∈ items, (t.item entry.1).next = none ∧
        entry.2.contains x = true ∧ action = reduction t (t.item entry.1) by
    obtain hnone | hitem := hfold _ _ h
    · cases hnone
    · exact hitem
  intro items
  induction items with
  | nil => exact fun r h => .inl h
  | cons entry rest ih =>
    intro r h
    rw [List.foldl_cons] at h
    obtain hstep | ⟨other, hother, hcomplete⟩ := ih _ h
    · unfold Reductions.consider at hstep
      dsimp only at hstep
      split at hstep
      next => exact .inl hstep
      next hcomplete =>
        rw [Bool.or_eq_true, not_or, Bool.not_eq_true, Bool.not_eq_true, Option.isSome_eq_false_iff,
          Option.isNone_iff_eq_none, Bool.not_eq_false'] at hcomplete
        have hnew : ∀ r' : Reductions,
            action ∈ (r'.add (t.item entry.1) (reduction t (t.item entry.1))).actions →
            action ∈ r'.actions ∨ ∃ entry' ∈ entry :: rest, (t.item entry'.1).next = none ∧
              entry'.2.contains x = true ∧ action = reduction t (t.item entry'.1) := by
          intro r' hr'
          obtain hold | hlast := List.mem_append.1 hr'
          · exact .inl hold
          · exact .inr ⟨entry, List.mem_cons_self, hcomplete.1, hcomplete.2,
              List.mem_singleton.1 hlast⟩
        split at hstep
        · exact .inl hstep
        · exact hnew r hstep
        · exact .inr ((hnew _ hstep).resolve_left List.not_mem_nil)
    · exact .inr ⟨other, List.mem_cons_of_mem entry hother, hcomplete⟩

end Automaton

end IconSubset.Grammar
