import IconSubset.Tsx.Grammar
import IconSubset.Tsx.Tree

/-!
# The children that a grammar gives to a node

A rule of a grammar says of which kinds the children of its nodes are, and in which order
(`Definition.Gives`). A symbol gives one child, a hidden one the children of its own rule, and under
another name one child of that name. Comments, and stretches that do not fit the grammar, may stand
anywhere besides (`Definition.Makes`).
-/

namespace IconSubset.Grammar

open Syntax (Kind Node)
open Parse (kindOf)

namespace Definition

/-- Whether the nodes of a rule or token leave their places to their children. -/
def isHidden (d : Definition) (name : String) : Bool :=
  name.startsWith "_" || d.supertypes.contains name

/-- A rule gives children of these kinds, in this order, where they bear the given name when there
is one. -/
inductive Gives (d : Definition) : Option Alias → Rule → List Kind → Prop
  | blank {byname : Option Alias} : Gives d byname .blank []
  | token {byname : Option Alias} : Gives d byname .token []
  | literal {text : String} : Gives d none (.literal text) [.token text]
  | literalAs {text : String} {a : Alias} : Gives d (some a) (.literal text) [kindOf a.name a.named]
  | symbol {name : String} (hvisible : d.isHidden name = false) :
      Gives d none (.symbol name) [Kind.ofName name]
  | symbolAs {name : String} {a : Alias} : Gives d (some a) (.symbol name) [kindOf a.name a.named]
  | hidden {name : String} {rule : Rule} {kinds : List Kind} (hhidden : d.isHidden name = true)
      (hrule : d.rules.lookup name = some rule) (h : Gives d none rule kinds) :
      Gives d none (.symbol name) kinds
  | seqNil {byname : Option Alias} : Gives d byname (.seq []) []
  | seqCons {byname : Option Alias} {r : Rule} {rs : List Rule} {first rest : List Kind}
      (hfirst : Gives d byname r first) (hrest : Gives d byname (.seq rs) rest) :
      Gives d byname (.seq (r :: rs)) (first ++ rest)
  | choice {byname : Option Alias} {r : Rule} {rs : List Rule} {kinds : List Kind} (hr : r ∈ rs)
      (h : Gives d byname r kinds) : Gives d byname (.choice rs) kinds
  | once {byname : Option Alias} {r : Rule} {kinds : List Kind} (h : Gives d byname r kinds) :
      Gives d byname (.repeat1 r) kinds
  | again {byname : Option Alias} {r : Rule} {first rest : List Kind}
      (hfirst : Gives d byname r first) (hrest : Gives d byname (.repeat1 r) rest) :
      Gives d byname (.repeat1 r) (first ++ rest)
  | field {byname : Option Alias} {name : String} {r : Rule} {kinds : List Kind}
      (h : Gives d byname r kinds) : Gives d byname (.field name r) kinds
  | aliased {byname : Option Alias} {a : Alias} {r : Rule} {kinds : List Kind}
      (h : Gives d (some a) r kinds) : Gives d byname (.aliased a r) kinds
  | prec {byname : Option Alias} {level : Precedence} {side : Option Associativity} {r : Rule}
      {kinds : List Kind} (h : Gives d byname r kinds) : Gives d byname (.prec level side r) kinds
  | dynamic {byname : Option Alias} {level : Int} {r : Rule} {kinds : List Kind}
      (h : Gives d byname r kinds) : Gives d byname (.dynamic level r) kinds

/-- The kinds that may stand anywhere: the extras, and what does not fit the grammar. -/
def anywhere (d : Definition) : List Kind := .error :: d.extras.map Kind.ofName

/-- A node is as the rule of a name makes them, apart from what may stand anywhere. -/
structure Makes (d : Definition) (name : String) (n : Node) : Prop where
  /-- It bears the name of the rule. -/
  kind_eq : n.kind = Kind.ofName name
  /-- The rule gives its children. -/
  gives : ∃ rule, d.rules.lookup name = some rule ∧
    d.Gives none rule ((n.children.map Node.kind).filter (· ∉ d.anywhere))

section Inversion

variable {d : Definition} {byname : Option Alias} {kinds : List Kind} {k : Kind}

/-- A child that rules one after the other give is given by one of them. -/
theorem Gives.exists_of_seq {rules : List Rule} (h : d.Gives byname (.seq rules) kinds)
    (hk : k ∈ kinds) : ∃ r ∈ rules, ∃ given, d.Gives byname r given ∧ k ∈ given := by
  induction rules generalizing kinds with
  | nil =>
    cases h
    exact absurd hk List.not_mem_nil
  | cons r rules ih =>
    cases h with
    | seqCons hfirst hrest =>
      rcases List.mem_append.1 hk with hk | hk
      · exact ⟨r, List.mem_cons_self, _, hfirst, hk⟩
      · obtain ⟨r', hr', h⟩ := ih hrest hk
        exact ⟨r', List.mem_cons_of_mem r hr', h⟩

/-- What a choice gives one of its members gives. -/
theorem Gives.exists_of_choice {rules : List Rule} (h : d.Gives byname (.choice rules) kinds) :
    ∃ r ∈ rules, d.Gives byname r kinds := by
  cases h with
  | choice hr h => exact ⟨_, hr, h⟩

/-- A child that a repetition gives is given by its body. -/
theorem Gives.exists_of_repeat1 {r : Rule} (h : d.Gives byname (.repeat1 r) kinds)
    (hk : k ∈ kinds) :
    ∃ given, d.Gives byname r given ∧ k ∈ given := by
  generalize hrule : Rule.repeat1 r = rule at h
  induction h with
  | once h =>
    cases hrule
    exact ⟨_, h, hk⟩
  | again hfirst _ _ ih =>
    cases hrule
    rcases List.mem_append.1 hk with hk | hk
    · exact ⟨_, hfirst, hk⟩
    · exact ih hk rfl
  | _ => cases hrule

end Inversion

end Definition

end IconSubset.Grammar

namespace IconSubset.Tsx

open Grammar (Rule)
open Syntax (Kind Node)

/-- The rule of templates: between backticks stand stretches, escapes and substitutions. -/
theorem lookup_template : definition.rules.lookup "template_string" =
    some (.seq
      [ .literal "`",
        .many (.choice
          [ .renamed "string_fragment" (.symbol "_template_chars"),
            .symbol "escape_sequence",
            .symbol "template_substitution" ]),
        .literal "`" ]) :=
  rfl

/-- What stands between the backticks of a template is a stretch, an escape or a substitution. -/
theorem kind_of_gives_piece {kinds : List Kind} {k : Kind}
    (h : definition.Gives none (.many (.choice
      [ .renamed "string_fragment" (.symbol "_template_chars"), .symbol "escape_sequence",
        .symbol "template_substitution" ])) kinds) (hk : k ∈ kinds) :
    k = .stringFragment ∨ k = .escapeSequence ∨ k = .templateSubstitution := by
  have hescape : definition.isHidden "escape_sequence" = false := by decide +kernel
  have hsubstitution : definition.isHidden "template_substitution" = false := by decide +kernel
  obtain ⟨r, hr, h⟩ := h.exists_of_choice
  rcases List.mem_cons.1 hr with rfl | hr
  · obtain ⟨given, hgiven, hmem⟩ := h.exists_of_repeat1 hk
    obtain ⟨piece, hpiece, hgiven⟩ := hgiven.exists_of_choice
    simp only [List.mem_cons, List.not_mem_nil, or_false] at hpiece
    obtain rfl | rfl | rfl := hpiece
    · cases hgiven with
      | aliased h =>
        cases h
        exact .inl (List.mem_singleton.1 hmem)
    · cases hgiven with
      | symbol => exact .inr (.inl (List.mem_singleton.1 hmem))
      | hidden hhidden => cases hescape.symm.trans hhidden
    · cases hgiven with
      | symbol => exact .inr (.inr (List.mem_singleton.1 hmem))
      | hidden hhidden => cases hsubstitution.symm.trans hhidden
  · obtain rfl := List.mem_singleton.1 hr
    cases h
    exact absurd hk List.not_mem_nil

/-- A part of a template is a backtick, a stretch, an escape or a substitution, or it may stand
anywhere. -/
theorem kind_of_mem_template {n c : Node} (h : definition.Makes "template_string" n)
    (hc : c ∈ n.children) : c.kind ∈ definition.anywhere ∨ c.kind = .token "`" ∨
      c.kind = .stringFragment ∨ c.kind = .escapeSequence ∨ c.kind = .templateSubstitution := by
  obtain ⟨rule, hrule, hgives⟩ := h.gives
  obtain rfl := Option.some.inj (lookup_template.symm.trans hrule)
  by_cases hextra : c.kind ∈ definition.anywhere
  · exact .inl hextra
  have hkind : c.kind ∈ (n.children.map Node.kind).filter (· ∉ definition.anywhere) :=
    List.mem_filter.2 ⟨List.mem_map_of_mem hc, decide_eq_true hextra⟩
  obtain ⟨r, hr, given, hgiven, hmem⟩ := hgives.exists_of_seq hkind
  have hmark : ∀ {given : List Kind}, definition.Gives none (.literal "`") given →
      c.kind ∈ given → c.kind = .token "`" := by
    intro given hgiven hmem
    cases hgiven
    exact List.mem_singleton.1 hmem
  simp only [List.mem_cons, List.not_mem_nil, or_false] at hr
  obtain rfl | rfl | rfl := hr
  · exact .inr (.inl (hmark hgiven hmem))
  · exact .inr (.inr (kind_of_gives_piece hgiven hmem))
  · exact .inr (.inl (hmark hgiven hmem))

/-- No part of a template is a character reference. -/
theorem kind_ne_reference_of_mem_template {n c : Node} (h : definition.Makes "template_string" n)
    (hc : c ∈ n.children) : c.kind ≠ .characterReference := by
  intro hkind
  have hanywhere : Kind.characterReference ∉ definition.anywhere := by decide +kernel
  have hcases := kind_of_mem_template h hc
  rw [hkind] at hcases
  obtain hextra | heq | heq | heq | heq := hcases
  · exact hanywhere hextra
  all_goals cases heq

end IconSubset.Tsx
