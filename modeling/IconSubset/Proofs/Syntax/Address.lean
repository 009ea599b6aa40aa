import IconSubset.Syntax.Node
import Mathlib.Data.List.Lex

/-!
# Addresses of nodes

The address of a node is the list of the indices of the children that lead to it from the root.
Addresses are compared as words in a dictionary, which is the order of the document: a node comes
before everything inside it, and what is inside a child before the children to its right. A search
that stops at a node with a property without a look inside it, and else goes through the children
from the left, ends at the node of the least address that has the property
(`exists_isFirst_of_search`).
-/

namespace IconSubset.Syntax

/-- The node at an address, the indices of the children that lead to it. -/
def Node.at? : Node → List Nat → Option Node
  | n, [] => some n
  | n, i :: address => n.children[i]?.bind fun c => c.at? address

/-- The node of the least address in a tree that has a property. -/
structure IsFirst (tree : Node) (p : Node → Prop) (address : List Nat) (n : Node) : Prop where
  /-- The node stands at the address. -/
  at_address : tree.at? address = some n
  /-- It has the property. -/
  holds : p n
  /-- No node before it has. -/
  before : ∀ earlier m, earlier < address → tree.at? earlier = some m → ¬ p m

/-- A node is a stretch of a source, with the byte and the row at which the stretch starts. -/
def Node.Stands (source : List Char) (n : Node) : Prop :=
  ∃ before after, source = before ++ n.text.toList ++ after ∧ n.start = Position.after 0 before

/-- All nodes of a tree are stretches of a source. -/
def Node.AllStand (source : List Char) (n : Node) : Prop :=
  ∀ address m, n.at? address = some m → m.Stands source

/-! ## Addresses -/

/-- The address of the root. -/
theorem Node.at?_nil (n : Node) : n.at? [] = some n := rfl

/-- An address that leads into a child. -/
theorem Node.at?_cons (n : Node) (i : Nat) (address : List Nat) :
    n.at? (i :: address) = n.children[i]?.bind fun c => c.at? address := rfl

/-- What stands below a child stands in the tree, behind the index of the child. -/
theorem Node.at?_child {n c : Node} {i : Nat} (hc : n.children[i]? = some c)
    (address : List Nat) : n.at? (i :: address) = c.at? address := by
  rw [Node.at?_cons, hc, Option.bind_some]

/-- What stands below the root stands below a child. -/
theorem Node.exists_child_of_at? {n m : Node} {i : Nat} {address : List Nat}
    (h : n.at? (i :: address) = some m) :
    ∃ c, n.children[i]? = some c ∧ c.at? address = some m :=
  Option.bind_eq_some_iff.1 h

/-- The node around another comes before it. -/
theorem lt_append_of_ne_nil (outer : List Nat) {inner : List Nat} (h : inner ≠ []) :
    outer < outer ++ inner := by
  induction outer with
  | nil =>
    obtain ⟨i, rest, rfl⟩ := List.exists_cons_of_ne_nil h
    exact List.nil_lt_cons i rest
  | cons i outer ih => exact List.cons_lt_cons_iff.2 (.inr ⟨rfl, ih⟩)

/-- There is one least address of a node with a property. -/
theorem IsFirst.unique {tree : Node} {p : Node → Prop} {a b : List Nat} {n m : Node}
    (ha : IsFirst tree p a n) (hb : IsFirst tree p b m) : n = m := by
  rcases lt_trichotomy a b with hlt | heq | hgt
  · exact absurd ha.holds (hb.before a n hlt ha.at_address)
  · have hsame : some n = some m := by rw [← ha.at_address, ← hb.at_address, heq]
    exact Option.some.inj hsame
  · exact absurd hb.holds (ha.before b m hgt hb.at_address)

/-! ## Searches -/

section Search

variable {α : Type} {p : Node → Prop} {find : Node → Option α} {T : Node → α → Prop}

/-- A search that finds nothing has met no node with the property at any depth. -/
theorem not_holds_of_search_eq_none (hhit : ∀ n, p n → ∃ a, find n = some a ∧ T n a)
    (hmiss : ∀ n, ¬ p n → find n = n.children.findSome? find) (n : Node) (h : find n = none)
    {address : List Nat} {m : Node} (hm : n.at? address = some m) : ¬ p m := by
  have hroot : ¬ p n := by
    intro hp
    obtain ⟨a, hfound, -⟩ := hhit n hp
    rw [hfound] at h
    cases h
  cases address with
  | nil =>
    obtain rfl : n = m := Option.some.inj hm
    exact hroot
  | cons i address =>
    obtain ⟨c, hc, hm⟩ := Node.exists_child_of_at? hm
    rw [hmiss n hroot, List.findSome?_eq_none_iff] at h
    have hmem : c ∈ n.children := List.mem_of_getElem? hc
    exact not_holds_of_search_eq_none hhit hmiss c (h c hmem) hm
  termination_by sizeOf n
  decreasing_by exact Node.sizeOf_lt_of_mem hmem

/-- What a search finds is told of the node of the least address that has the property. -/
theorem exists_isFirst_of_search (hhit : ∀ n, p n → ∃ a, find n = some a ∧ T n a)
    (hmiss : ∀ n, ¬ p n → find n = n.children.findSome? find) (n : Node) {a : α}
    (h : find n = some a) : ∃ address m, IsFirst n p address m ∧ T m a := by
  by_cases hp : p n
  · obtain ⟨b, hfound, htold⟩ := hhit n hp
    obtain rfl : b = a := Option.some.inj (hfound.symm.trans h)
    exact ⟨[], n, ⟨rfl, hp, fun e _ he => absurd he (List.not_lt_nil e)⟩, htold⟩
  · -- The children to the left of the one in which something is found have nothing.
    rw [hmiss n hp, List.findSome?_eq_some_iff] at h
    obtain ⟨left, c, right, hchildren, hc, hleft⟩ := h
    have hmem : c ∈ n.children := hchildren ▸ List.mem_append_right _ List.mem_cons_self
    obtain ⟨address, m, hfirst, htold⟩ := exists_isFirst_of_search hhit hmiss c hc
    have hindex : n.children[left.length]? = some c := by
      rw [hchildren, List.getElem?_append_right le_rfl, Nat.sub_self, List.getElem?_cons_zero]
    refine ⟨left.length :: address, m,
      ⟨(Node.at?_child hindex address).trans hfirst.at_address, hfirst.holds, ?_⟩, htold⟩
    intro earlier k hlt hk
    cases earlier with
    | nil =>
      obtain rfl : n = k := Option.some.inj hk
      exact hp
    | cons j earlier =>
      rcases List.cons_lt_cons_iff.1 hlt with hj | ⟨rfl, hbelow⟩
      · obtain ⟨d, hd, hk⟩ := Node.exists_child_of_at? hk
        rw [hchildren, List.getElem?_append_left hj] at hd
        exact not_holds_of_search_eq_none hhit hmiss d (hleft d (List.mem_of_getElem? hd)) hk
      · rw [Node.at?_child hindex] at hk
        exact hfirst.before earlier k hbelow hk
  termination_by sizeOf n
  decreasing_by exact Node.sizeOf_lt_of_mem hmem

end Search

/-! ## Trees that stand in a source -/

/-- A tree stands in a source when its root does and the trees of its children do. -/
theorem Node.Stands.all {source : List Char} {n : Node} (h : n.Stands source)
    (hchildren : ∀ c ∈ n.children, c.AllStand source) : n.AllStand source := by
  intro address m hm
  cases address with
  | nil =>
    obtain rfl : n = m := Option.some.inj hm
    exact h
  | cons i address =>
    obtain ⟨c, hc, hbelow⟩ := Node.exists_child_of_at? hm
    exact hchildren c (List.mem_of_getElem? hc) address m hbelow

end IconSubset.Syntax
