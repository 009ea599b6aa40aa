import IconSubset.Proofs.Parse.Reading

/-!
# What a parse depends on

How long the tokens are and what they say makes no difference to a course: where two stacks have
trees of the same symbols on the same states, and the tokens that come are of the same symbols too,
the same is done with both (`Acts.alike`).
-/

namespace IconSubset.Parse

open Grammar (Grammar Table State)
open Grammar.Automaton (next)

/-- Two trees are of the same symbol, and both may stand anywhere or neither. -/
def Alike (u v : Subtree) : Prop :=
  u.summary.label = v.summary.label ∧ u.summary.extra = v.summary.extra

/-- Two frames hold trees of the same symbol on the same state. -/
def AlikeFrame (f f' : Frame State) : Prop := Alike f.tree f'.tree ∧ f.state = f'.state

/-- Two stacks hold trees of the same symbols on the same states. -/
abbrev AlikeFrames (fs fs' : List (Frame State)) : Prop := List.Forall₂ AlikeFrame fs fs'

variable {t : Table} {fs fs' : List (Frame State)}

/-- The same states are behind both stacks. -/
theorem AlikeFrames.stateOf_eq (h : AlikeFrames fs fs') : stateOf t fs = stateOf t fs' := by
  cases h with
  | nil => rfl
  | cons hf _ => exact hf.2

/-- The same trees may stand anywhere. -/
theorem AlikeFrames.extraFlags_eq (h : AlikeFrames fs fs') : extraFlags fs = extraFlags fs' := by
  induction h with
  | nil => rfl
  | cons hf _ ih => exact List.cons_eq_cons.2 ⟨hf.1.2, ih⟩

/-- The trees on both stacks are of the same symbols. -/
theorem AlikeFrames.map_tree (h : AlikeFrames fs fs') :
    List.Forall₂ Alike (fs.map (·.tree)) (fs'.map (·.tree)) :=
  List.forall₂_map_left_iff.2 (List.forall₂_map_right_iff.2 (h.imp fun _ _ hf => hf.1))

/-- What may stand anywhere at the end of two rows of trees is alike. -/
theorem alike_takeWhile {us vs : List Subtree} (h : List.Forall₂ Alike us vs) :
    List.Forall₂ Alike (us.takeWhile (·.summary.extra)) (vs.takeWhile (·.summary.extra)) := by
  induction h with
  | nil => exact .nil
  | cons huv _ ih =>
    rw [List.takeWhile_cons, List.takeWhile_cons, huv.2]
    split
    · exact .cons huv ih
    · exact .nil

/-- Nodes that are made for the same reduction are alike, and so is what comes behind them. -/
theorem alike_nodeTrees {us vs : List Subtree} (h : List.Forall₂ Alike us vs) (g : Grammar)
    (head : Nat) (dynamic : Int) (production : Nat) :
    List.Forall₂ Alike (nodeTrees g head dynamic production us)
      (nodeTrees g head dynamic production vs) := by
  obtain ⟨s, hs, hlabel, -, hextra, -⟩ :=
    make_spec g head (some production) (Subtree.splitTrailingExtras us).1
  obtain ⟨s', hs', hlabel', -, hextra', -⟩ :=
    make_spec g head (some production) (Subtree.splitTrailingExtras vs).1
  refine .cons ?_ (List.rel_reverse (alike_takeWhile (List.rel_reverse h)))
  show Alike ((Subtree.make g _ _ (Subtree.splitTrailingExtras us).1).addDynamic dynamic)
    ((Subtree.make g _ _ (Subtree.splitTrailingExtras vs).1).addDynamic dynamic)
  rw [hs, hs']
  exact ⟨hlabel.trans hlabel'.symm, hextra.trans hextra'.symm⟩

/-- Alike trees are put on alike stacks. -/
theorem AlikeFrames.push {us vs : List Subtree} (huv : List.Forall₂ Alike us vs) (s : State)
    (h : AlikeFrames fs fs') : AlikeFrames (pushTrees us s fs) (pushTrees vs s fs') := by
  induction huv generalizing fs fs' with
  | nil => exact h
  | cons hfirst _ ih => exact ih (.cons ⟨hfirst, rfl⟩ h)

/-- A row of trees becomes one tree when one of them is part of a production. -/
theorem alike_whole {us vs : List Subtree} (h : List.Forall₂ Alike us vs) {g : Grammar}
    {root : Subtree} (hroot : Subtree.whole g us = some root) :
    ∃ root', Subtree.whole g vs = some root' := by
  unfold Subtree.whole at hroot ⊢
  rw [List.span_eq_takeWhile_dropWhile] at hroot ⊢
  have hdrop : ∀ {us vs : List Subtree}, List.Forall₂ Alike us vs → List.Forall₂ Alike
      (us.dropWhile (·.summary.extra)) (vs.dropWhile (·.summary.extra)) := by
    intro us vs h
    induction h with
    | nil => exact .nil
    | cons huv hrest ih =>
      rw [List.dropWhile_cons, List.dropWhile_cons, huv.2]
      split
      · exact ih
      · exact .cons huv hrest
  have hreversed := hdrop (List.rel_reverse h)
  revert hroot hreversed
  cases us.reverse.dropWhile (·.summary.extra) with
  | nil => exact fun hroot => by cases hroot
  | cons inner before =>
    rintro -
    cases vs.reverse.dropWhile (·.summary.extra) with
    | nil => exact fun hreversed => by cases hreversed
    | cons inner' before' => exact fun _ => ⟨_, rfl⟩

namespace Course

variable {l l' : Subtree} {n : Nat} {c₁ c₂ : Course}

/-- Two courses have been led to the same place but for what the tokens say. -/
inductive AlikeProgress : Progress → Progress → Prop
  | taken {c₁ c₂ : Course} (h : AlikeFrames c₁.frames c₂.frames) :
    AlikeProgress (.taken c₁) (.taken c₂)
  | whole (root₁ root₂ : Subtree) : AlikeProgress (.whole root₁) (.whole root₂)

/-- The same is done with alike stacks at alike tokens. -/
theorem Acts.alike (hl : Alike l l') {p : Progress} (h : Acts t l n c₁ p)
    (hframes : AlikeFrames c₁.frames c₂.frames) : ∃ p', Acts t l' n c₂ p' ∧ AlikeProgress p p' := by
  induction h generalizing c₂ with
  | shift hlabel haction hnext =>
    rw [hframes.stateOf_eq] at haction hnext
    exact ⟨_, .shift (hl.1.symm.trans hlabel) haction hnext, .taken (.cons ⟨hl, rfl⟩ hframes)⟩
  | shiftExtra hlabel haction =>
    have hstate := hframes.stateOf_eq (t := t)
    rw [hstate] at haction
    exact ⟨_, .shiftExtra (hl.1.symm.trans hlabel) haction,
      .taken (.cons ⟨⟨hl.1, rfl⟩, hstate⟩ hframes)⟩
  | @reduce n x head size production dynamic c c' p hlabel haction hreduce _ ih =>
    rw [hframes.stateOf_eq] at haction
    unfold Course.reduce at hreduce
    rw [takeNode_eq, hframes.extraFlags_eq] at hreduce
    cases hreach : reach size (extraFlags c₂.frames) with
    | none => rw [hreach] at hreduce; cases hreduce
    | some k =>
      rw [hreach] at hreduce
      obtain ⟨s, hs, rfl⟩ := Option.map_eq_some_iff.1 hreduce
      have hbelow := List.forall₂_drop k hframes
      have htaken := AlikeFrames.map_tree (List.forall₂_take k hframes)
      rw [AlikeFrames.stateOf_eq hbelow] at hs
      obtain ⟨p', hacts, hp⟩ := @ih
        { c₂ with frames := pushTrees (nodeTrees t.grammar head dynamic production
          ((c₂.frames.take k).map (·.tree)).reverse) s (c₂.frames.drop k) }
        (.push (alike_nodeTrees (List.rel_reverse htaken) _ _ _ _) s hbelow)
      refine ⟨p', .reduce (hl.1.symm.trans hlabel) haction ?_ hacts, hp⟩
      unfold Course.reduce
      rw [takeNode_eq, hreach]
      simp only [Option.map_some, hs]
  | accept hlabel haction hwhole =>
    rw [hframes.stateOf_eq] at haction
    obtain ⟨root', hroot'⟩ := alike_whole (List.rel_reverse (.cons hl hframes.map_tree)) hwhole
    exact ⟨_, .accept (hl.1.symm.trans hlabel) haction hroot', .whole _ _⟩

end Course

end IconSubset.Parse
