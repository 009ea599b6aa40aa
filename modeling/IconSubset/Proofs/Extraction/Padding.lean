import IconSubset.Proofs.Extraction.Marking
import Mathlib.Data.List.Forall2

/-!
# Comments and parentheses

`Padded` relates a tree to the same tree with any number of comments and parentheses put in, at any
depth: comments among the parts of argument lists, parentheses, braces, attributes and tags, and
parentheses around arguments, branches, operands and what stands in parentheses or braces. Nothing
that is found in an expression changes by them: neither its literals (`Padded.mem_literals`) nor the
markers in it (`Padded.isMarking_iff`).

A search looks for some of the parts of a node: the first that is no trivia, those in a role, or the
attributes. Of each such search `PaddedParts.forall₂_filter` says that the parts it finds correspond
to each other, by induction over the parts. A part that is found may be in parentheses now
(`PaddedExpression`), and then it has the same literals and marks the same classes. From there the
searches of literals and markers follow, each by induction on the size of the tree with what was put
in.
-/

namespace IconSubset.Extraction

open Syntax

/-! ## What is put into a tree -/

/-- A comment. It has no parts. -/
structure IsComment (n : Node) : Prop where
  /-- It is one by its kind. -/
  kind_eq : n.kind = .comment
  /-- It has no parts. -/
  children_eq : n.children = []

/-- A punctuation mark. It has no parts. -/
structure IsPunctuation (mark : String) (n : Node) : Prop where
  /-- It is one by its kind. -/
  kind_eq : n.kind = .token mark
  /-- It has no parts. -/
  children_eq : n.children = []

/-- The kinds of nodes among whose parts comments can be put: argument lists, parentheses, braces,
attributes and tags. -/
def takesComments : Kind → Bool
  | .arguments | .parenthesized | .jsxExpression | .jsxAttribute | .jsxSelfClosing => true
  | .other name => name == "jsx_opening_element"
  | _ => false

/-- Whether a part can be an expression: it is no trivia and no attribute. -/
def canBeExpression (part : Node) : Bool :=
  !isTrivia part && decide (part.kind ≠ .jsxAttribute)

/-- Whether a part of a node is an expression that can be put into parentheses: an argument, a
branch of a conditional, a logical operand, or what stands in parentheses or braces. -/
def takesParentheses (n part : Node) : Bool :=
  canBeExpression part &&
    match n.kind with
    | .arguments | .parenthesized | .jsxExpression => true
    | .ternary => part.role == some .consequence || part.role == some .alternative
    | .binary =>
      isLogical n.children && (part.role == some .left || part.role == some .right)
    | _ => false

/-- A node is an expression in parentheses. It plays the part that the expression had. -/
structure Parenthesizes (outer inner : Node) : Prop where
  /-- It is an expression in parentheses by its kind. -/
  kind_eq : outer.kind = .parenthesized
  /-- It plays the part of the expression. -/
  role_eq : outer.role = inner.role
  /-- The expression stands between the two parentheses, wherever these are. -/
  children_eq : ∃ opening n closing, outer.children = [opening, n, closing] ∧
    IsPunctuation "(" opening ∧ IsPunctuation ")" closing ∧
      n.kind = inner.kind ∧ n.text = inner.text ∧ n.children = inner.children

/-- Whether the text of a node is read as it is written. -/
def isVerbatim (n : Node) : Bool :=
  n.role == some .operator ||
    match n.kind with
    | .stringFragment | .escapeSequence | .characterReference | .jsxText => true
    | _ => false

/-- The name of an attribute with these parts. -/
def attributeName? (parts : List Node) : Option String :=
  (Attribute.ofParts? parts).map Attribute.name

mutual

/-- A tree, after comments and parentheses have been put into it. Its nodes may stand elsewhere and
have other texts, since what was put in belongs to them; but nothing is put into what is read as it
is written, nor into the name of an attribute. -/
inductive Padded : Node → Node → Prop
  /-- They have been put among the parts of the tree and into the parts. -/
  | intro {n n' : Node} (hkind : n'.kind = n.kind) (hrole : n'.role = n.role)
      (htext : isVerbatim n = true → n'.text = n.text)
      (hname : n.kind = .jsxAttribute → attributeName? n'.children = attributeName? n.children)
      (hparts : PaddedParts n n.children n'.children) : Padded n n'

/-- The parts of a node, after comments and parentheses have been put among them and into them. -/
inductive PaddedParts : Node → List Node → List Node → Prop
  /-- There are no parts. -/
  | nil {n : Node} : PaddedParts n [] []
  /-- A part stays in its place. -/
  | part {n c c' : Node} {cs cs' : List Node} (h : Padded c c') (hrest : PaddedParts n cs cs') :
      PaddedParts n (c :: cs) (c' :: cs')
  /-- A comment is put in. -/
  | comment {n c' : Node} {cs cs' : List Node} (hplace : takesComments n.kind = true)
      (hcomment : IsComment c') (hrest : PaddedParts n cs cs') : PaddedParts n cs (c' :: cs')
  /-- An expression is put into parentheses, in which there can be more again. -/
  | parentheses {n c outer c' : Node} {cs cs' : List Node} (hplace : takesParentheses n c = true)
      (houter : Parenthesizes outer c) (h : Padded outer c') (hrest : PaddedParts n cs cs') :
      PaddedParts n (c :: cs) (c' :: cs')

end

namespace Padded

variable {n n' : Node}

/-- A node keeps its kind. -/
theorem kind_eq (h : Padded n n') : n'.kind = n.kind := by
  obtain ⟨hkind, -, -, -, -⟩ := h
  exact hkind

/-- A node keeps the part that it plays. -/
theorem role_eq (h : Padded n n') : n'.role = n.role := by
  obtain ⟨-, hrole, -, -, -⟩ := h
  exact hrole

/-- A node keeps its text when that is read as it is written. -/
theorem text_eq (h : Padded n n') (hverbatim : isVerbatim n = true) : n'.text = n.text := by
  obtain ⟨-, -, htext, -, -⟩ := h
  exact htext hverbatim

/-- An attribute keeps its name. -/
theorem attributeName?_eq (h : Padded n n') (hkind : n.kind = .jsxAttribute) :
    attributeName? n'.children = attributeName? n.children := by
  obtain ⟨-, -, -, hname, -⟩ := h
  exact hname hkind

/-- The parts of a node are padded. -/
theorem parts (h : Padded n n') : PaddedParts n n.children n'.children := by
  obtain ⟨-, -, -, -, hparts⟩ := h
  exact hparts

end Padded

/-- An expression stands where one was before: it is that expression with more in it, or that
expression is in parentheses. -/
inductive PaddedExpression (n n' : Node) : Prop
  /-- There may be more in it. -/
  | padded (h : Padded n n')
  /-- It is in parentheses. -/
  | parenthesized {outer : Node} (hn : canBeExpression n = true) (houter : Parenthesizes outer n)
      (h : Padded outer n')

/-- An expression has a property as before, when putting something into an expression leaves the
property as it is, and when an expression in parentheses has it as the expression does. -/
theorem PaddedExpression.congr {n n' : Node} {q : Node → Prop} (h : PaddedExpression n n')
    (hpadded : ∀ m, Padded m n' → (q n' ↔ q m))
    (hparentheses : ∀ outer, canBeExpression n = true → Parenthesizes outer n → (q outer ↔ q n)) :
    q n' ↔ q n := by
  cases h with
  | padded h => exact hpadded n h
  | @parenthesized outer hn houter h => exact (hpadded outer h).trans (hparentheses outer hn houter)

/-! ## The parts that a search looks for -/

/-- The parts of a node that a search looks for correspond to each other, when it looks for no
comment and when parts are found as well in parentheses. -/
theorem PaddedParts.forall₂_filter {n : Node} {p : Node → Bool} {S : Node → Node → Prop}
    (hcomment : takesComments n.kind = true → ∀ c, IsComment c → p c = false)
    (hpart : ∀ c c', Padded c c' → p c' = p c ∧ (p c = true → S c c'))
    (hparentheses : ∀ c outer c', takesParentheses n c = true → Parenthesizes outer c →
      Padded outer c' → p c' = p c ∧ (p c = true → S c c')) :
    ∀ {cs cs' : List Node}, PaddedParts n cs cs' → List.Forall₂ S (cs.filter p) (cs'.filter p)
  | _, _, .nil => .nil
  | _, _, .part (c := c) h hrest => by
    have ih := forall₂_filter hcomment hpart hparentheses hrest
    obtain ⟨heq, hS⟩ := hpart _ _ h
    rw [List.filter_cons, List.filter_cons, heq]
    split_ifs with hc
    · exact .cons (hS hc) ih
    · exact ih
  | _, _, .comment hplace hc hrest => by
    have ih := forall₂_filter hcomment hpart hparentheses hrest
    rw [List.filter_cons, if_neg (by simp [hcomment hplace _ hc])]
    exact ih
  | _, _, .parentheses hplace houter h hrest => by
    have ih := forall₂_filter hcomment hpart hparentheses hrest
    obtain ⟨heq, hS⟩ := hparentheses _ _ _ hplace houter h
    rw [List.filter_cons, List.filter_cons, heq]
    split_ifs with hc
    · exact .cons (hS hc) ih
    · exact ih

/-- So do the first parts that the search finds. -/
theorem optionRel_find? {p : Node → Bool} {S : Node → Node → Prop}
    {cs cs' : List Node} (h : List.Forall₂ S (cs.filter p) (cs'.filter p)) :
    Option.Rel S (cs.find? p) (cs'.find? p) := by
  rw [← List.head?_filter, ← List.head?_filter]
  generalize cs.filter p = ds at h ⊢
  generalize cs'.filter p = ds' at h ⊢
  cases h with
  | nil => exact .none
  | cons hc _ => exact .some hc

/-- A part that may be missing is a list of at most one. -/
theorem forall₂_toList {S : Node → Node → Prop} {o o' : Option Node} (h : Option.Rel S o o') :
    List.Forall₂ S o.toList o'.toList := by
  cases h with
  | some h => exact .cons h .nil
  | none => exact .nil

section Parts

variable {n n' : Node} {cs cs' : List Node}

/-- An expression that can be put into parentheses is no trivia. -/
theorem isTrivia_of_canBeExpression {c : Node} (h : canBeExpression c = true) :
    isTrivia c = false := by
  unfold canBeExpression at h
  rw [Bool.and_eq_true, Bool.not_eq_true'] at h
  exact h.1

/-- Expressions in parentheses can be expressions. -/
theorem takesParentheses_canBeExpression {c : Node} (h : takesParentheses n c = true) :
    canBeExpression c = true := by
  unfold takesParentheses at h
  exact (Bool.and_eq_true _ _ ▸ h).1

/-- Whether a node is trivia depends on its kind. -/
theorem isTrivia_congr {c c' : Node} (h : c'.kind = c.kind) : isTrivia c' = isTrivia c := by
  unfold isTrivia
  rw [h]

/-- The expressions among the parts of a node correspond to each other. -/
theorem PaddedParts.forall₂_expressions (h : PaddedParts n cs cs') :
    List.Forall₂ PaddedExpression (cs.filter fun c => !isTrivia c)
      (cs'.filter fun c => !isTrivia c) := by
  refine h.forall₂_filter ?_ ?_ ?_
  · intro _ c hc
    simp [isTrivia, hc.kind_eq]
  · exact fun c c' h => ⟨by rw [isTrivia_congr h.kind_eq], fun _ => .padded h⟩
  · intro c outer c' hplace houter h
    have hc := takesParentheses_canBeExpression hplace
    refine ⟨?_, fun _ => .parenthesized hc houter h⟩
    rw [isTrivia_of_canBeExpression hc]
    simp [isTrivia, h.kind_eq, houter.kind_eq]

/-- The parts in a role correspond to each other, when no comments can be put among the parts. -/
theorem PaddedParts.forall₂_role (hplace : takesComments n.kind = false) (role : Role)
    (h : PaddedParts n cs cs') :
    List.Forall₂ PaddedExpression (cs.filter (·.role == some role))
      (cs'.filter (·.role == some role)) := by
  refine h.forall₂_filter ?_ ?_ ?_
  · exact fun htakes => absurd (hplace.symm.trans htakes) Bool.false_ne_true
  · exact fun c c' h => ⟨by rw [h.role_eq], fun _ => .padded h⟩
  · intro c outer c' hplace houter h
    have hc := takesParentheses_canBeExpression hplace
    exact ⟨by rw [h.role_eq, houter.role_eq], fun _ => .parenthesized hc houter h⟩

/-- Among parts that cannot be put into parentheses a search finds what it found before. -/
theorem PaddedParts.forall₂_padded {p : Node → Bool}
    (hcomment : takesComments n.kind = true → ∀ c, IsComment c → p c = false)
    (hpart : ∀ c c', Padded c c' → p c' = p c)
    (hparentheses : ∀ c, takesParentheses n c = false) (h : PaddedParts n cs cs') :
    List.Forall₂ Padded (cs.filter p) (cs'.filter p) := by
  refine h.forall₂_filter hcomment (fun c c' h => ⟨hpart c c' h, fun _ => h⟩) ?_
  exact fun c _ _ hplace => absurd ((hparentheses c).symm.trans hplace) Bool.false_ne_true

/-- The parts of a node among which nothing can be put stay in their places. -/
theorem PaddedParts.forall₂ (hcomments : takesComments n.kind = false)
    (hparentheses : ∀ c, takesParentheses n c = false) (h : PaddedParts n cs cs') :
    List.Forall₂ Padded cs cs' := by
  have hall := h.forall₂_padded (p := fun _ => true)
    (fun htakes => absurd (hcomments.symm.trans htakes) Bool.false_ne_true) (fun _ _ _ => rfl)
    hparentheses
  rwa [List.filter_true, List.filter_true] at hall

end Parts

/-! ## Expressions -/

namespace Padded

variable {n n' : Node}

/-- A node keeps what it stands for as a part of a string. -/
theorem partText_eq (h : Padded n n') : partText n' = partText n := by
  unfold partText
  rw [h.kind_eq]
  cases hkind : n.kind with
  | stringFragment => dsimp only; rw [h.text_eq (by simp [isVerbatim, hkind])]
  | escapeSequence => dsimp only; rw [h.text_eq (by simp [isVerbatim, hkind])]
  | characterReference => dsimp only; rw [h.text_eq (by simp [isVerbatim, hkind])]
  | _ => rfl

/-- A node keeps what it stands for as a part of a template. -/
theorem templatePartText_eq (h : Padded n n') : templatePartText n' = templatePartText n := by
  unfold templatePartText
  rw [h.kind_eq]
  cases hkind : n.kind with
  | stringFragment => dsimp only; rw [h.text_eq (by simp [isVerbatim, hkind])]
  | escapeSequence => dsimp only; rw [h.text_eq (by simp [isVerbatim, hkind])]
  | _ => rfl

/-- Parts of a string keep what they stand for. -/
theorem stringText_eq {cs cs' : List Node} (h : List.Forall₂ Padded cs cs') :
    stringText cs' = stringText cs := by
  unfold stringText
  induction h with
  | nil => rfl
  | cons hc _ ih =>
    rw [String.ofList_inj] at ih ⊢
    rw [List.flatMap_cons, List.flatMap_cons, hc.partText_eq, ih]

/-- Parts of a template keep what they stand for. -/
theorem segments_eq {cs cs' : List Node} (h : List.Forall₂ Padded cs cs') :
    segments cs' = segments cs := by
  induction h with
  | nil => rfl
  | cons hc _ ih => rw [segments, segments, hc.kind_eq, hc.templatePartText_eq, ih]

/-- An expression keeps its own texts. -/
theorem ownTexts_eq (h : Padded n n') : ownTexts n' = ownTexts n := by
  unfold ownTexts
  rw [h.kind_eq]
  cases hkind : n.kind with
  | string =>
    have hparts := h.parts.forall₂ (by rw [hkind]; rfl) fun c => by simp [takesParentheses, hkind]
    exact congrArg (fun text => [text]) (stringText_eq hparts)
  | templateString =>
    have hparts := h.parts.forall₂ (by rw [hkind]; rfl) fun c => by simp [takesParentheses, hkind]
    exact congrArg (List.map String.ofList) (segments_eq hparts)
  | _ => rfl

/-- An operation keeps its operator. -/
theorem isLogical_eq (h : Padded n n') (hkind : n.kind = .binary) :
    isLogical n'.children = isLogical n.children := by
  have hoperator : Option.Rel (fun c c' : Node => c'.text = c.text)
      (n.children.find? (·.role == some .operator))
      (n'.children.find? (·.role == some .operator)) := by
    refine optionRel_find? (h.parts.forall₂_filter ?_ ?_ ?_)
    · rw [hkind]
      exact fun htakes => absurd htakes Bool.false_ne_true
    · intro c c' hc
      exact ⟨by rw [hc.role_eq], fun hrole => hc.text_eq (by simp [isVerbatim, hrole])⟩
    · -- Only operands can be in parentheses.
      intro c outer c' hplace houter hc
      have hrole : (c.role == some .operator) = false := by
        unfold takesParentheses at hplace
        simp only [hkind, Bool.and_eq_true, Bool.or_eq_true, beq_iff_eq] at hplace
        obtain ⟨-, -, hrole | hrole⟩ := hplace
        · rw [hrole]; rfl
        · rw [hrole]; rfl
      rw [hc.role_eq, houter.role_eq, hrole]
      exact ⟨rfl, fun htrue => absurd htrue Bool.false_ne_true⟩
  unfold isLogical
  generalize n.children.find? _ = o at hoperator ⊢
  generalize n'.children.find? _ = o' at hoperator ⊢
  cases hoperator with
  | none => rfl
  | some htext => dsimp only; rw [htext]

/-- The expressions correspond to each other that stand in a role. -/
theorem child?_rel (h : Padded n n') (hcomments : takesComments n.kind = false) (role : Role) :
    Option.Rel PaddedExpression (n.child? role) (n'.child? role) :=
  optionRel_find? (h.parts.forall₂_role hcomments role)

/-- The expressions in parentheses or braces correspond to each other. -/
theorem inner?_rel (h : Padded n n') : Option.Rel PaddedExpression (inner? n) (inner? n') :=
  optionRel_find? h.parts.forall₂_expressions

/-- A part in a role stays in its place in a node among whose parts nothing can be put. -/
theorem child?_padded (h : Padded n n') (hcomments : takesComments n.kind = false)
    (hparentheses : ∀ c, takesParentheses n c = false) (role : Role) :
    Option.Rel Padded (n.child? role) (n'.child? role) := by
  refine optionRel_find? (h.parts.forall₂_padded ?_ ?_ hparentheses)
  · exact fun htakes => absurd (hcomments.symm.trans htakes) Bool.false_ne_true
  · exact fun c c' hc => by rw [hc.role_eq]

/-- The arguments of a call correspond to each other. -/
theorem argumentsOf_rel (h : Padded n n') (hkind : n.kind = .call) :
    List.Forall₂ PaddedExpression (argumentsOf n) (argumentsOf n') := by
  have hlist := h.child?_padded (by rw [hkind]; rfl) (fun c => by simp [takesParentheses, hkind])
    .arguments
  unfold argumentsOf
  generalize n.child? .arguments = o at hlist ⊢
  generalize n'.child? .arguments = o' at hlist ⊢
  cases hlist with
  | none => exact .nil
  | some hlist =>
    dsimp only
    rw [hlist.kind_eq]
    split_ifs
    · exact hlist.parts.forall₂_expressions
    · exact .nil

/-- The expressions correspond to each other with which a search goes on. -/
theorem branches_rel (h : Padded n n') :
    List.Forall₂ PaddedExpression (branches n) (branches n') := by
  unfold branches
  rw [h.kind_eq]
  cases hkind : n.kind with
  | ternary =>
    have hrole := h.child?_rel (by rw [hkind]; rfl)
    exact List.rel_append (forall₂_toList (hrole _)) (forall₂_toList (hrole _))
  | binary =>
    have hrole := h.child?_rel (by rw [hkind]; rfl)
    dsimp only
    rw [h.isLogical_eq hkind]
    split_ifs
    · exact List.rel_append (forall₂_toList (hrole _)) (forall₂_toList (hrole _))
    · exact .nil
  | call => exact h.argumentsOf_rel hkind
  | parenthesized => exact forall₂_toList h.inner?_rel
  | _ => exact .nil

end Padded

/-- What can be found among corresponding parts of a tree can be found among those of the other. -/
theorem exists_mem_congr {S : Node → Node → Prop} {q q' : Node → Prop} {cs cs' : List Node}
    (h : List.Forall₂ S cs cs') (hq : ∀ c c', c' ∈ cs' → S c c' → (q' c' ↔ q c)) :
    (∃ c' ∈ cs', q' c') ↔ ∃ c ∈ cs, q c := by
  induction h with
  | nil => simp
  | cons hc _ ih =>
    rw [List.exists_mem_cons_iff, List.exists_mem_cons_iff, hq _ _ List.mem_cons_self hc,
      ih fun c c' hmem => hq c c' (List.mem_cons_of_mem _ hmem)]

/-- The expression in parentheses is the one that was put there. -/
theorem Parenthesizes.inner?_eq {outer inner : Node} (h : Parenthesizes outer inner)
    (hinner : canBeExpression inner = true) : ∃ n, inner? outer = some n ∧ n.kind = inner.kind ∧
      n.children = inner.children := by
  obtain ⟨-, -, opening, n, closing, hparts, hopening, -, hkind, -, hchildren⟩ := h
  refine ⟨n, ?_, hkind, hchildren⟩
  have hmark : isTrivia opening = true := by simp [isTrivia, hopening.kind_eq]
  have hn : isTrivia n = false :=
    (isTrivia_congr hkind).trans (isTrivia_of_canBeExpression hinner)
  simp [inner?, hparts, hmark, hn]

/-- The literals of a node depend on its kind and its parts. -/
theorem literals_congr {n m : Node} (hkind : n.kind = m.kind)
    (hchildren : n.children = m.children) :
    literals n = literals m := by
  obtain ⟨kind, role, start, text, missing, parts⟩ := n
  obtain ⟨kind', role', start', text', missing', parts'⟩ := m
  obtain rfl : kind = kind' := hkind
  obtain rfl : parts = parts' := hchildren
  cases kind <;> simp only [literals]

/-- Whether a node is marking depends on its kind and its parts. -/
theorem isMarking_congr {marker : String} {n m : Node} (hkind : n.kind = m.kind)
    (hchildren : n.children = m.children) : isMarking marker n = isMarking marker m := by
  obtain ⟨kind, role, start, text, missing, parts⟩ := n
  obtain ⟨kind', role', start', text', missing', parts'⟩ := m
  obtain rfl : kind = kind' := hkind
  obtain rfl : parts = parts' := hchildren
  cases kind <;> simp only [isMarking]

/-- An expression in parentheses has the literals of the expression. -/
theorem Parenthesizes.literals_eq {outer inner : Node} (h : Parenthesizes outer inner)
    (hinner : canBeExpression inner = true) : literals outer = literals inner := by
  obtain ⟨n, hn, hkind, hchildren⟩ := h.inner?_eq hinner
  rw [literals_parenthesized h.kind_eq, hn]
  exact literals_congr hkind hchildren

/-- What stands in parentheses or braces decides whether they are marking. -/
theorem isMarking_inner {marker : String} {n : Node}
    (h : n.kind = .parenthesized ∨ n.kind = .jsxExpression) :
    isMarking marker n = (inner? n).elim false (isMarking marker) := by
  obtain ⟨kind, role, start, text, missing, parts⟩ := n
  obtain h | h := h
  · obtain rfl : kind = .parenthesized := h
    rw [isMarking, isMarkingInside_eq]
    rfl
  · obtain rfl : kind = .jsxExpression := h
    rw [isMarking, isMarkingInside_eq]
    rfl

/-- An expression in parentheses is marking when the expression is. -/
theorem Parenthesizes.isMarking_eq {marker : String} {outer inner : Node}
    (h : Parenthesizes outer inner) (hinner : canBeExpression inner = true) :
    isMarking marker outer = isMarking marker inner := by
  obtain ⟨n, hn, hkind, hchildren⟩ := h.inner?_eq hinner
  rw [isMarking_inner (.inl h.kind_eq), hn]
  exact isMarking_congr hkind hchildren

namespace Padded

variable {n n' : Node}

/-- A tree keeps its literals. -/
theorem mem_literals {text : String} {n n' : Node} (h : Padded n n') :
    text ∈ literals n' ↔ text ∈ literals n := by
  rw [mem_literals_iff_step, mem_literals_iff_step, h.ownTexts_eq]
  refine or_congr_right (exists_mem_congr h.branches_rel fun m m' hm' hm => ?_)
  refine hm.congr (q := fun e => text ∈ literals e) (fun _ h => h.mem_literals) ?_
  exact fun outer hm houter => by rw [houter.literals_eq hm]
  termination_by sizeOf n'
  decreasing_by exact sizeOf_lt_of_mem_branches hm'

/-- A tree stays marking, and none becomes so. -/
theorem isMarking_iff {marker : String} {n n' : Node} (h : Padded n n') :
    isMarking marker n' = true ↔ isMarking marker n = true := by
  by_cases hkind : n.kind = .jsxExpression
  · rw [isMarking_inner (.inr (h.kind_eq.trans hkind)), isMarking_inner (.inr hkind),
      elim_false_iff, elim_false_iff]
    refine exists_mem_congr (forall₂_toList h.inner?_rel) fun m m' hm' hm => ?_
    refine hm.congr (q := fun e => isMarking marker e = true) (fun _ h => h.isMarking_iff) ?_
    exact fun outer hm houter => by rw [houter.isMarking_eq hm]
  · rw [isMarking_iff_step hkind, isMarking_iff_step (h.kind_eq ▸ hkind), h.ownTexts_eq]
    refine or_congr_right (exists_mem_congr h.branches_rel fun m m' hm' hm => ?_)
    refine hm.congr (q := fun e => isMarking marker e = true) (fun _ h => h.isMarking_iff) ?_
    exact fun outer hm houter => by rw [houter.isMarking_eq hm]
  termination_by sizeOf n'
  decreasing_by
    · exact Node.sizeOf_lt_of_mem (mem_children_of_inner? (Option.mem_toList.1 hm'))
    · exact sizeOf_lt_of_mem_branches hm'

/-- What stands in parentheses or braces keeps its literals. -/
theorem mem_literalsOfInner {text : String} (h : Padded n n') :
    text ∈ literalsOfInner n'.children ↔ text ∈ literalsOfInner n.children := by
  rw [literalsOfInner_eq, literalsOfInner_eq, mem_elim_nil, mem_elim_nil]
  refine exists_mem_congr (forall₂_toList h.inner?_rel) fun m m' _ hm => ?_
  refine hm.congr (q := fun e => text ∈ literals e) (fun _ h => h.mem_literals) ?_
  exact fun outer hm houter => by rw [houter.literals_eq hm]

/-- The value of an attribute keeps its literals. -/
theorem mem_literalsOfValue {text : String} (h : Padded n n') :
    text ∈ literalsOfValue n' ↔ text ∈ literalsOfValue n := by
  have hvalue : ∀ m : Node, literalsOfValue m =
      if m.kind = .jsxExpression then literalsOfInner m.children else literals m := by
    intro m
    rw [literalsOfValue_eq, literalsOfInner_eq]
    unfold expression?
    split_ifs
    · rfl
    · rfl
  rw [hvalue, hvalue, h.kind_eq]
  split_ifs
  · exact h.mem_literalsOfInner
  · exact h.mem_literals

end Padded

end IconSubset.Extraction
