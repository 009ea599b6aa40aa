import IconSubset.Proofs.Extraction.Contribution
import IconSubset.Syntax.Fault
import IconSubset.Tsx.Shape

/-!
# The nodes of shapes

A shape that is no blanks has one node, wherever it is put (`Shape.nodes_eq`). What the kinds in a
shape are is what the kinds within its nodes are (`Shape.kind_of_within`), so shapes tell whether
their nodes hold faults (`firstFault_eq_none`) or elements (`forestTexts_eq_nil`).
-/

namespace IconSubset

open Extraction (Within)
open Syntax (Node Kind Role firstFault firstFaultOfAll)

namespace Syntax

/-- The same node in another role. -/
def Node.withRole (role : Role) (n : Node) : Node :=
  .mk n.kind (some role) n.start n.text n.missing n.children

mutual

/-- A tree in which no node is missing or an error has no fault. -/
theorem firstFault_eq_none (source : List Char) : ∀ n : Node,
    (∀ e, Within e n → e.missing = false ∧ e.kind ≠ .error) → firstFault source n = none
  | .mk kind role start text missing children, h => by
    obtain ⟨hmissing, hkind⟩ : missing = false ∧ kind ≠ .error := h _ .self
    have hchildren : firstFaultOfAll source children = none :=
      firstFaultOfAll_eq_none source children fun c hc e he => h e (.child hc he)
    rw [firstFault, hmissing, if_neg Bool.false_ne_true, if_neg hkind, hchildren]

/-- Trees in which no node is missing or an error have no fault. -/
theorem firstFaultOfAll_eq_none (source : List Char) : ∀ ns : List Node,
    (∀ n ∈ ns, ∀ e, Within e n → e.missing = false ∧ e.kind ≠ .error) →
      firstFaultOfAll source ns = none
  | [], _ => by rw [firstFaultOfAll]
  | n :: rest, h => by
    rw [firstFaultOfAll, firstFault_eq_none source n (h n List.mem_cons_self)]
    exact firstFaultOfAll_eq_none source rest fun m hm => h m (List.mem_cons_of_mem n hm)

end

end Syntax

namespace Extraction

/-- Literals do not depend on the role of an expression. -/
theorem literals_withRole (role : Role) (n : Node) : literals (n.withRole role) = literals n := by
  obtain ⟨kind, role', start, text, missing, children⟩ := n
  unfold Node.withRole Node.kind Node.children
  cases kind <;> simp only [literals]

/-- Trees within which there is no element give no texts. -/
theorem forestTexts_eq_nil {marker : String} {properties : List String} {ns : List Node}
    (h : ∀ n ∈ ns, ∀ e, Within e n → e.kind ≠ .jsxElement ∧ e.kind ≠ .jsxSelfClosing) :
    forestTexts marker properties ns = [] := by
  rw [List.eq_nil_iff_forall_not_mem]
  intro text htext
  -- A text would come from an element.
  obtain ⟨n, hn, e, he, htext⟩ := (mem_forestTexts ns).1 htext
  obtain ⟨hpaired, hselfClosing⟩ := h n hn e he
  unfold elementTexts at htext
  split at htext
  · next hkind => exact hpaired hkind
  · next hkind => exact hselfClosing hkind
  · exact absurd htext List.not_mem_nil

/-- The texts of two runs of trees are those of each. -/
theorem forestTexts_append (marker : String) (properties : List String) (ms ns : List Node) :
    forestTexts marker properties (ms ++ ns) =
      forestTexts marker properties ms ++ forestTexts marker properties ns := by
  induction ms with
  | nil => rw [forestTexts, List.nil_append, List.nil_append]
  | cons m ms ih => rw [List.cons_append, forestTexts, forestTexts, ih, List.append_assoc]

end Extraction

namespace Tsx.Shape

/-- Whether a shape is blanks. -/
def isBlanks : Shape → Bool
  | blanks _ => true
  | token .. => false
  | branch .. => false

/-- The node of a shape that is no blanks. -/
def node (start : Syntax.Position) (s : Shape) : Node := (s.nodes start).headD default

/-- A shape that is no blanks has one node. -/
theorem nodes_eq {s : Shape} (h : s.isBlanks = false) (start : Syntax.Position) :
    s.nodes start = [s.node start] := by
  cases s with
  | blanks text => cases h
  | token kind role text => rfl
  | branch kind role parts => rfl

/-- The node of the first of several shapes is the first of their nodes. -/
theorem nodesOfAll_cons {s : Shape} (h : s.isBlanks = false) (start : Syntax.Position)
    (rest : List Shape) :
    nodesOfAll start (s :: rest) =
      s.node start :: nodesOfAll (start.after s.chars) rest := by
  rw [nodesOfAll, nodes_eq h]
  rfl

/-- A shape in another role is blanks when it was. -/
theorem isBlanks_withRole (role : Role) (s : Shape) : (s.withRole role).isBlanks = s.isBlanks := by
  cases s <;> rfl

/-- The node of a shape in another role is the node in that role. -/
theorem node_withRole {s : Shape} (h : s.isBlanks = false) (role : Role) (start : Syntax.Position) :
    (s.withRole role).node start = (s.node start).withRole role := by
  cases s with
  | blanks text => cases h
  | token kind role text => rfl
  | branch kind role parts => rfl

/-- The node of the first of several shapes, in another role. -/
theorem nodesOfAll_withRole {s : Shape} (h : s.isBlanks = false) (role : Role)
    (start : Syntax.Position)
    (rest : List Shape) : nodesOfAll start (s.withRole role :: rest) =
      (s.node start).withRole role ::
        nodesOfAll (start.after (s.withRole role).chars) rest := by
  rw [nodesOfAll_cons (by rw [isBlanks_withRole, h]), node_withRole h]

mutual

/-- Whether the kinds in a shape satisfy a predicate. -/
def allKinds (p : Kind → Bool) : Shape → Bool
  | blanks _ => true
  | token kind _ _ => p kind
  | branch kind _ parts => p kind && allKindsOfAll p parts

/-- Whether the kinds in shapes that follow each other satisfy a predicate. -/
def allKindsOfAll (p : Kind → Bool) : List Shape → Bool
  | [] => true
  | s :: rest => s.allKinds p && allKindsOfAll p rest

end

/-- The kinds in a shape do not depend on its role. -/
theorem allKinds_withRole (p : Kind → Bool) (role : Role) (s : Shape) :
    (s.withRole role).allKinds p = s.allKinds p := by
  cases s <;> simp only [withRole, allKinds]

/-- The kinds in two runs of shapes are those in each. -/
theorem allKindsOfAll_append (p : Kind → Bool) (xs ys : List Shape) :
    allKindsOfAll p (xs ++ ys) = (allKindsOfAll p xs && allKindsOfAll p ys) := by
  induction xs with
  | nil => rfl
  | cons x xs ih => rw [List.cons_append, allKindsOfAll, allKindsOfAll, ih, Bool.and_assoc]

mutual

/-- A weaker predicate holds as well of the kinds in a shape. -/
theorem allKinds_imp {p q : Kind → Bool} (h : ∀ k, p k = true → q k = true) : ∀ s : Shape,
    s.allKinds p = true → s.allKinds q = true
  | blanks text, _ => rfl
  | token kind role text, hs => h kind hs
  | branch kind role parts, hs => by
    obtain ⟨hkind, hparts⟩ := Bool.and_eq_true_iff.1 (show (p kind && _) = true from hs)
    rw [allKinds, h kind hkind, allKindsOfAll_imp h parts hparts]
    rfl

/-- A weaker predicate holds as well of the kinds in shapes that follow each other. -/
theorem allKindsOfAll_imp {p q : Kind → Bool} (h : ∀ k, p k = true → q k = true) :
    ∀ ss : List Shape, allKindsOfAll p ss = true → allKindsOfAll q ss = true
  | [], _ => rfl
  | s :: rest, hs => by
    obtain ⟨hfirst, hrest⟩ := Bool.and_eq_true_iff.1 (show (s.allKinds p && _) = true from hs)
    rw [allKindsOfAll, allKinds_imp h s hfirst, allKindsOfAll_imp h rest hrest]
    rfl

end

mutual

/-- What stands within the nodes of a shape has a kind that is in the shape, and is not missing. -/
theorem kind_of_within {p : Kind → Bool} :
    ∀ (s : Shape) {start : Syntax.Position}, s.allKinds p = true →
    ∀ n ∈ s.nodes start, ∀ e, Within e n → e.missing = false ∧ p e.kind = true
  | blanks text, start, h, n, hn, e, he => absurd hn List.not_mem_nil
  | token kind role text, start, h, n, hn, e, he => by
    obtain rfl := List.mem_singleton.1 hn
    rcases Extraction.within_iff.1 he with rfl | ⟨c, hc, -⟩
    · exact ⟨rfl, h⟩
    · exact absurd hc List.not_mem_nil
  | branch kind role parts, start, h, n, hn, e, he => by
    obtain ⟨hkind, hparts⟩ := Bool.and_eq_true_iff.1 (show (p kind && _) = true from h)
    obtain rfl := List.mem_singleton.1 hn
    rcases Extraction.within_iff.1 he with rfl | ⟨c, hc, he⟩
    · exact ⟨rfl, hkind⟩
    · exact kind_of_within_all parts hparts c hc e he

/-- What stands within the nodes of shapes has a kind that is in the shapes, and is not missing. -/
theorem kind_of_within_all {p : Kind → Bool} : ∀ (ss : List Shape) {start : Syntax.Position},
    allKindsOfAll p ss = true →
      ∀ n ∈ nodesOfAll start ss, ∀ e, Within e n → e.missing = false ∧ p e.kind = true
  | [], start, h, n, hn, e, he => absurd hn List.not_mem_nil
  | s :: rest, start, h, n, hn, e, he => by
    obtain ⟨hs, hrest⟩ := Bool.and_eq_true_iff.1 (show (s.allKinds p && _) = true from h)
    rcases List.mem_append.1 (show n ∈ s.nodes start ++ _ from hn) with hn | hn
    · exact kind_of_within s hs n hn e he
    · exact kind_of_within_all rest hrest n hn e he

end

end Tsx.Shape

end IconSubset
