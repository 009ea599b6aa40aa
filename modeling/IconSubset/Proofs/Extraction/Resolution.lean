import IconSubset.Proofs.Extraction.Marking

/-!
# What an expression resolves to

The literals of an expression are the texts that it resolves to, and the search for them adds the
trims of these texts to a set, whatever is in it (`mem_insertMany_literals`). `Resolves` is the
least relation that follows the branches of a conditional, the operands of a logical operation, the
arguments of a call and the expression inside parentheses down to strings and to templates without
substitutions; whatever it has no rule for resolves to nothing.

One direction is an induction on the rules (`mem_literals_of_resolves`). The other goes along the
search, one step at a time (`resolves_of_mem_literals`): a text is that of the expression itself, or
the search goes on with an expression inside it that resolves to the text.
-/

namespace IconSubset.Extraction

open Syntax

/-- An expression resolves to a text. -/
inductive Resolves : Node → String → Prop
  /-- A quoted string resolves to what it stands for. -/
  | string {n : Node} (hkind : n.kind = .string) : Resolves n (stringText n.children)
  /-- A template without substitutions resolves to what its parts stand for. -/
  | template {n : Node} (hkind : n.kind = .templateString)
      (hfree : ∀ c ∈ n.children, c.kind ≠ .templateSubstitution) :
      Resolves n (String.ofList (n.children.flatMap templatePartText))
  /-- A conditional resolves to what its first branch resolves to. -/
  | consequence {n branch : Node} {text : String} (hkind : n.kind = .ternary)
      (hbranch : n.child? .consequence = some branch) (h : Resolves branch text) : Resolves n text
  /-- A conditional resolves to what its second branch resolves to. -/
  | alternative {n branch : Node} {text : String} (hkind : n.kind = .ternary)
      (hbranch : n.child? .alternative = some branch) (h : Resolves branch text) : Resolves n text
  /-- A logical operation resolves to what its left operand resolves to. -/
  | left {n operand : Node} {op : LogicalOperator} {text : String} (hop : IsOperation op n)
      (hleft : n.child? .left = some operand) (h : Resolves operand text) : Resolves n text
  /-- A logical operation resolves to what its right operand resolves to. -/
  | right {n operand : Node} {op : LogicalOperator} {text : String} (hop : IsOperation op n)
      (hright : n.child? .right = some operand) (h : Resolves operand text) : Resolves n text
  /-- A call resolves to what an argument in its argument list resolves to. -/
  | argument {n list a : Node} {text : String} (hkind : n.kind = .call)
      (hlist : n.child? .arguments = some list) (harguments : list.kind = .arguments)
      (ha : a ∈ list.children) (hexpression : isTrivia a = false) (h : Resolves a text) :
      Resolves n text
  /-- Parentheses resolve to what the first part inside them resolves to that is no trivia. -/
  | parenthesized {n expression : Node} {text : String} (hkind : n.kind = .parenthesized)
      (hinner : inner? n = some expression) (h : Resolves expression text) : Resolves n text

/-! ## Parts of a node -/

/-- An operation with a logical operator has one of the three. -/
theorem exists_isOperation {n : Node} (hkind : n.kind = .binary)
    (hlogical : isLogical n.children = true) : ∃ op, IsOperation op n := by
  unfold isLogical at hlogical
  split at hlogical
  · next mark hmark =>
    have htext : mark.text = "&&" ∨ mark.text = "||" ∨ mark.text = "??" := by
      simpa using hlogical
    rcases htext with htext | htext | htext
    · exact ⟨.and, hkind, mark, hmark, htext⟩
    · exact ⟨.or, hkind, mark, hmark, htext⟩
    · exact ⟨.coalesce, hkind, mark, hmark, htext⟩
  · cases hlogical

/-- The arguments of a call are the expressions in its argument list. -/
theorem mem_argumentsOf {n a : Node} : a ∈ argumentsOf n ↔ ∃ list, n.child? .arguments = some list ∧
    list.kind = .arguments ∧ a ∈ list.children ∧ isTrivia a = false := by
  unfold argumentsOf
  cases n.child? .arguments with
  | none => simp
  | some list =>
    dsimp only
    split_ifs with hkind
    · simp [hkind]
    · simp [hkind]

/-! ## The two directions -/

/-- What an expression resolves to is among its literals. -/
theorem mem_literals_of_resolves {n : Node} {text : String} (h : Resolves n text) :
    text ∈ literals n := by
  induction h with
  | string hkind =>
    rw [literals_string hkind]
    exact List.mem_singleton_self _
  | template hkind hfree =>
    have hsegments := segments_eq_singleton_iff.2 ⟨hfree, rfl⟩
    rw [literals_template hkind (by rw [templateSegments, hsegments, List.map_singleton])]
    exact List.mem_singleton_self _
  | consequence hkind hbranch _ ih =>
    rw [literals_ternary hkind, hbranch]
    exact List.mem_append_left _ ih
  | alternative hkind hbranch _ ih =>
    rw [literals_ternary hkind, hbranch]
    exact List.mem_append_right _ ih
  | left hop hleft _ ih =>
    rw [literals_logical hop.1 hop.isLogical, hleft]
    exact List.mem_append_left _ ih
  | right hop hright _ ih =>
    rw [literals_logical hop.1 hop.isLogical, hright]
    exact List.mem_append_right _ ih
  | argument hkind hlist harguments ha hexpression _ ih =>
    rw [literals_call hkind]
    exact List.mem_flatMap.2 ⟨_, mem_argumentsOf.2 ⟨_, hlist, harguments, ha, hexpression⟩, ih⟩
  | parenthesized hkind hinner _ ih =>
    rw [literals_parenthesized hkind, hinner]
    exact ih

/-- When an expression has exactly one text of its own, it resolves to the text. -/
theorem Resolves.of_ownTexts {n : Node} {text : String} (h : ownTexts n = [text]) :
    Resolves n text := by
  unfold ownTexts at h
  split at h
  · next hkind =>
    obtain rfl := List.singleton_inj.1 h
    exact .string hkind
  · next hkind =>
    rw [templateSegments, List.map_eq_singleton_iff] at h
    obtain ⟨cs, hsegments, rfl⟩ := h
    obtain ⟨hfree, rfl⟩ := segments_eq_singleton_iff.1 hsegments
    exact .template hkind hfree
  · cases h

/-- An expression resolves to what those expressions resolve to that the search goes on with. -/
theorem Resolves.of_mem_branches {n m : Node} {text : String} (hm : m ∈ branches n)
    (h : Resolves m text) : Resolves n text := by
  unfold branches at hm
  split at hm
  · next hkind =>
    rcases List.mem_append.1 hm with hm | hm
    · exact .consequence hkind (Option.mem_toList.1 hm) h
    · exact .alternative hkind (Option.mem_toList.1 hm) h
  · next hkind =>
    split_ifs at hm with hlogical
    · obtain ⟨op, hop⟩ := exists_isOperation hkind hlogical
      rcases List.mem_append.1 hm with hm | hm
      · exact .left hop (Option.mem_toList.1 hm) h
      · exact .right hop (Option.mem_toList.1 hm) h
    · exact absurd hm List.not_mem_nil
  · next hkind =>
    obtain ⟨list, hlist, harguments, ha, hexpression⟩ := mem_argumentsOf.1 hm
    exact .argument hkind hlist harguments ha hexpression h
  · next hkind => exact .parenthesized hkind (Option.mem_toList.1 hm) h
  · exact absurd hm List.not_mem_nil

/-- An expression resolves to its literals. -/
theorem resolves_of_mem_literals {text : String} (n : Node) (h : text ∈ literals n) :
    Resolves n text := by
  rcases mem_literals_iff_step.1 h with hown | ⟨m, hm, h⟩
  · exact .of_ownTexts hown
  · exact .of_mem_branches hm (resolves_of_mem_literals m h)
  termination_by sizeOf n
  decreasing_by exact sizeOf_lt_of_mem_branches hm

/-- The literals of an expression are the texts that it resolves to. -/
theorem mem_literals_iff_resolves {n : Node} {text : String} :
    text ∈ literals n ↔ Resolves n text :=
  ⟨resolves_of_mem_literals n, mem_literals_of_resolves⟩

/-- The search for literals leaves in a set what was in it and puts in the trims of the texts that
the expression resolves to, unless they are blank, and nothing else. So what it puts in is the same
for every set. -/
theorem mem_insertMany_literals (n : Node) (seed : IconSet) :
    (∀ name, name ∈ seed.insertMany (literals n) ↔
      name ∈ seed ∨ ∃ text, Resolves n text ∧ name = Text.trim text ∧ name ≠ "") ∧
    seed.insertMany (literals n) = seed.union (.ofList (literals n)) := by
  constructor
  · intro name
    rw [IconSet.mem_insertMany]
    refine or_congr_right ?_
    simp only [mem_literals_iff_resolves, ← exists_and_right, and_assoc]
  · refine IconSet.ext_mem fun name => ?_
    rw [IconSet.mem_insertMany, IconSet.mem_union, IconSet.mem_ofList]

end IconSubset.Extraction
