import IconSubset.Proofs.Parse.Alike

/-!
# The beginning of a parse

A course that has read some tokens has passed from where it began to where it stands (`Passes`), and
there is no other way to read the source (`Passes.rest`). What it stands on and what may come next
is told by the symbols of those tokens (`Behind`), so that it can be computed from them.
-/

namespace IconSubset.Parse

open Grammar (Table TerminalSet)

variable {t : Table}

/-- Trees are alike in both directions. -/
theorem Alike.symm {u v : Subtree} (h : Alike u v) : Alike v u := ⟨h.1.symm, h.2.symm⟩

/-- A tree alike to one of two alike trees is alike to the other. -/
theorem Alike.trans {u v w : Subtree} (h : Alike u v) (h' : Alike v w) : Alike u w :=
  ⟨h.1.trans h'.1, h.2.trans h'.2⟩

/-- Stacks are alike in both directions. -/
theorem AlikeFrames.symm {fs fs' : List (Frame Grammar.State)} (h : AlikeFrames fs fs') :
    AlikeFrames fs' fs := by
  induction h with
  | nil => exact .nil
  | cons hf _ ih => exact .cons ⟨hf.1.symm, hf.2.symm⟩ ih

/-- A stack alike to one of two alike stacks is alike to the other. -/
theorem AlikeFrames.trans {fs fs' fs'' : List (Frame Grammar.State)} (h : AlikeFrames fs fs')
    (h' : AlikeFrames fs' fs'') : AlikeFrames fs fs'' := by
  induction h generalizing fs'' with
  | nil => exact h'
  | cons hf _ ih =>
    cases h' with
    | cons hf' hrest => exact .cons ⟨hf.1.trans hf'.1, hf.2.trans hf'.2⟩ (ih hrest)

namespace Course

variable {source : Source} {lexer : Lexer} {n : Nat} {c c' c'' : Course} {ls ms : List Subtree}

/-- A course reads tokens, and has not come to the end. -/
inductive Passes (t : Table) (source : Source) (lexer : Lexer) (n : Nat) :
    Course → List Subtree → Course → Prop
  /-- Nothing has been read. -/
  | refl (c : Course) : Passes t source lexer n c [] c
  /-- A token has been taken, and then others. -/
  | step {c c' c'' : Course} {l : Subtree} {ls : List Subtree}
    (hlex : c.lex t source lexer = some l) (hacts : Acts t l n c (.taken c'))
    (hrest : Passes t source lexer n c' ls c'') :
    Passes t source lexer n c (l :: ls) c''

/-- Another token is read behind the others. -/
theorem Passes.snoc {l : Subtree} (h : Passes t source lexer n c ls c')
    (hlex : c'.lex t source lexer = some l) (hacts : Acts t l n c' (.taken c'')) :
    Passes t source lexer n c (ls ++ [l]) c'' := by
  induction h with
  | refl c => exact .step hlex hacts (.refl _)
  | step hlex' hacts' _ ih => exact .step hlex' hacts' (ih hlex hacts)

/-- The source is read to the end behind some tokens. -/
theorem Passes.reads {root : Subtree} (h : Passes t source lexer n c ls c')
    (hreads : Reads t source lexer n c' ms root) : Reads t source lexer n c (ls ++ ms) root := by
  induction h with
  | refl c => exact hreads
  | step hlex hacts _ ih => exact .more hlex hacts (ih hreads)

/-- Whoever reads the source to the end passes that way. -/
theorem Passes.rest {root : Subtree} (h : Passes t source lexer n c ls c')
    (hreads : Reads t source lexer n c ms root) :
    ∃ ms', ms = ls ++ ms' ∧ Reads t source lexer n c' ms' root := by
  induction h generalizing ms with
  | refl c => exact ⟨ms, rfl, hreads⟩
  | step hlex hacts _ ih =>
    cases hreads with
    | last hlex' hacts' =>
      obtain rfl := Option.some.inj (hlex.symm.trans hlex')
      cases hacts.act_eq.symm.trans hacts'.act_eq
    | more hlex' hacts' hrest =>
      obtain rfl := Option.some.inj (hlex.symm.trans hlex')
      obtain rfl := Progress.taken.inj (hacts.act_eq.symm.trans hacts'.act_eq)
      obtain ⟨ms', rfl, hreads'⟩ := ih hrest
      exact ⟨ms', rfl, hreads'⟩

/-- The tokens that have been read come behind those on the stack. -/
theorem Passes.leaves_eq (h : Passes t source lexer n c ls c') :
    leavesAll (trees c'.frames) = leavesAll (trees c.frames) ++ leavesAll ls := by
  induction h with
  | refl c => simp [leavesAll]
  | step _ hacts _ ih => rw [ih, hacts.leaves_eq, leavesAll, List.append_assoc]

/-! ## What is behind symbols -/

/-- A token of no characters. -/
def bare (x : Nat) : Subtree := .leaf (.symbol x) .zero .zero false none

/-- The course behind tokens of these symbols. -/
def follow (t : Table) : Course → List Nat → Option Course
  | c, [] => some c
  | c, x :: xs =>
    match c.act t 16 (bare x) with
    | .taken c' => follow t c' xs
    | _ => none

/-- The terminals that may come behind tokens of these symbols. -/
def expectedBehind (t : Table) (xs : List Nat) : Option TerminalSet :=
  (follow t start xs).map fun c => (stateOf t c.frames).expected.union t.grammar.extras

/-- A course has tokens of these symbols behind it. -/
def Behind (t : Table) (xs : List Nat) (c : Course) : Prop :=
  ∃ c₀, follow t start xs = some c₀ ∧ AlikeFrames c₀.frames c.frames

/-- At the start there is nothing behind. -/
theorem behind_start : Behind t [] start := ⟨start, rfl, .nil⟩

/-- Tokens follow each other. -/
theorem follow_append (c : Course) (xs ys : List Nat) :
    follow t c (xs ++ ys) = (follow t c xs).bind fun c' => follow t c' ys := by
  induction xs generalizing c with
  | nil => rfl
  | cons x xs ih =>
    rw [List.cons_append, follow, follow]
    split
    · exact ih _
    · rfl

/-- What may come is told by the symbols. -/
theorem Behind.expected_eq {xs : List Nat} {expected : TerminalSet} (h : Behind t xs c)
    (hexpected : expectedBehind t xs = some expected) :
    (stateOf t c.frames).expected.union t.grammar.extras = expected := by
  obtain ⟨c₀, hfollow, hframes⟩ := h
  rw [expectedBehind, hfollow, Option.map_some, hframes.stateOf_eq] at hexpected
  exact Option.some.inj hexpected

/-- Two courses with the same symbols behind them have alike stacks. -/
theorem Behind.alike {xs : List Nat} (h : Behind t xs c) (h' : Behind t xs c') :
    AlikeFrames c.frames c'.frames := by
  obtain ⟨c₀, hfollow, hframes⟩ := h
  obtain ⟨c₁, hfollow', hframes'⟩ := h'
  obtain rfl := Option.some.inj (hfollow.symm.trans hfollow')
  exact hframes.symm.trans hframes'

/-- A token that may come is taken. -/
theorem Behind.step {xs : List Nat} {x : Nat} {l : Subtree} (h : Behind t xs c)
    (hl : Alike (bare x) l) (hnext : (expectedBehind t (xs ++ [x])).isSome) (hn : 16 ≤ n) :
    ∃ c', Acts t l n c (.taken c') ∧ Behind t (xs ++ [x]) c' := by
  obtain ⟨c₀, hfollow, hframes⟩ := h
  have hstep : follow t start (xs ++ [x]) = follow t c₀ [x] := by
    rw [follow_append, hfollow, Option.bind_some]
  unfold expectedBehind at hnext
  rw [Option.isSome_map, hstep, follow] at hnext
  cases hact : c₀.act t 16 (bare x) with
  | stuck | whole _ => rw [hact] at hnext; cases hnext
  | taken c₁ =>
    have hacts := acts_of_act (t := t) (n := 16) (l := bare x) (c := c₀)
    rw [hact] at hacts
    obtain ⟨p, hacts', hp⟩ := (hacts Progress.noConfusion).alike hl hframes
    cases hp with
    | @taken _ c' hframes' =>
      refine ⟨c', hacts'.mono hn, c₁, ?_, hframes'⟩
      rw [hstep, follow, hact]
      rfl

end Course

end IconSubset.Parse
