import IconSubset.Proofs.Syntax.Address
import IconSubset.Tsx.Module

/-!
# The first fault of a source

A source is refused exactly when a node of its tree is an error or a token that the source lacks,
and then the first such node in the order of the document is told (`parse_first_fault`).

The order of the document is that of addresses. The search stops at a faulty node without a look
inside it and else goes through the children from the left, so it ends at the faulty node of the
least address (`exists_firstFaulty`).
-/

namespace IconSubset.Syntax

/-- A node that does not belong to a well-formed source: an error, or a token that is missing. -/
def Node.IsFaulty (n : Node) : Prop := n.missing = true ∨ n.kind = .error

/-- The fault that a node is: what is expected there, or how the stretch begins that does not
fit. -/
inductive Describes (source : List Char) (n : Node) : Fault → Prop
  /-- A token that is missing is told by its kind. -/
  | missing (h : n.missing = true) :
      Describes source n (.missing (Location.ofPosition source n.start) n.kind.name)
  /-- An error is told by its beginning. -/
  | unexpected (hthere : n.missing = false) (h : n.kind = .error) :
      Describes source n (.unexpected (Location.ofPosition source n.start) (snippet n.text))

/-- The faulty node of the least address in a tree. -/
structure IsFirstFaulty (tree : Node) (address : List Nat) (n : Node) : Prop where
  /-- The node stands at the address. -/
  at_address : tree.at? address = some n
  /-- It is faulty. -/
  faulty : n.IsFaulty
  /-- No node before it is. -/
  before : ∀ earlier m, earlier < address → tree.at? earlier = some m → ¬ m.IsFaulty

/-- The first faulty node is the first node that is faulty. -/
theorem isFirstFaulty_iff {tree : Node} {address : List Nat} {n : Node} :
    IsFirstFaulty tree address n ↔ IsFirst tree Node.IsFaulty address n :=
  ⟨fun h => ⟨h.at_address, h.faulty, h.before⟩, fun h => ⟨h.at_address, h.holds, h.before⟩⟩

/-- The first faulty node stands inside no other faulty node. -/
theorem IsFirstFaulty.not_inside {tree n outer : Node} {above below : List Nat}
    (h : IsFirstFaulty tree (above ++ below) n) (hbelow : below ≠ [])
    (houter : tree.at? above = some outer) : ¬ outer.IsFaulty :=
  h.before above outer (lt_append_of_ne_nil above hbelow) houter

/-! ## The search -/

section Search

variable {source : List Char}

/-- Each faulty node is described by one fault. -/
theorem Describes.unique {n : Node} {f g : Fault} (hf : Describes source n f)
    (hg : Describes source n g) : f = g := by
  cases hf with
  | missing h =>
    cases hg with
    | missing _ => rfl
    | unexpected hthere _ => exact absurd h (by rw [hthere]; exact Bool.false_ne_true)
  | unexpected hthere h =>
    cases hg with
    | missing h' => exact absurd h' (by rw [hthere]; exact Bool.false_ne_true)
    | unexpected _ _ => rfl

/-- The search through a list of trees is the search through each, up to the first fault. -/
theorem firstFaultOfAll_eq (ns : List Node) :
    firstFaultOfAll source ns = ns.findSome? (firstFault source) := by
  induction ns with
  | nil => rfl
  | cons n rest ih =>
    rw [firstFaultOfAll, List.findSome?_cons, ih]
    cases firstFault source n <;> rfl

variable (source) in
/-- The search ends at a faulty node, which it describes. -/
theorem firstFault_of_faulty {n : Node} (h : n.IsFaulty) :
    ∃ fault, firstFault source n = some fault ∧ Describes source n fault := by
  obtain ⟨kind, role, start, text, missing, children⟩ := n
  rw [firstFault]
  by_cases hmissing : missing = true
  · exact ⟨_, if_pos hmissing, .missing hmissing⟩
  · have herror : kind = .error := h.resolve_left hmissing
    rw [if_neg hmissing, if_pos herror]
    exact ⟨_, rfl, .unexpected (Bool.eq_false_iff.2 hmissing) herror⟩

/-- The search goes on through the children of any other node. -/
theorem firstFault_of_not_faulty {n : Node} (h : ¬ n.IsFaulty) :
    firstFault source n = n.children.findSome? (firstFault source) := by
  obtain ⟨kind, role, start, text, missing, children⟩ := n
  obtain ⟨hmissing, herror⟩ : ¬ missing = true ∧ ¬ kind = .error := not_or.1 h
  rw [firstFault, if_neg hmissing, if_neg herror, firstFaultOfAll_eq]
  rfl

/-- The search that finds nothing has met no faulty node at any depth. -/
theorem not_faulty_of_firstFault_eq_none (n : Node) (h : firstFault source n = none)
    {address : List Nat} {m : Node} (hm : n.at? address = some m) : ¬ m.IsFaulty :=
  not_holds_of_search_eq_none (fun _ => firstFault_of_faulty source)
    (fun _ => firstFault_of_not_faulty) n h hm

/-- A fault that is found is that of the faulty node of the least address. -/
theorem exists_firstFaulty (n : Node) {fault : Fault} (h : firstFault source n = some fault) :
    ∃ address m, IsFirstFaulty n address m ∧ Describes source m fault := by
  obtain ⟨address, m, hfirst, hdescribes⟩ := exists_isFirst_of_search
    (fun _ => firstFault_of_faulty source) (fun _ => firstFault_of_not_faulty) n h
  exact ⟨address, m, isFirstFaulty_iff.2 hfirst, hdescribes⟩

/-- Nothing is found exactly in trees without faulty nodes. -/
theorem firstFault_eq_none_iff {n : Node} : firstFault source n = none ↔
    ∀ address m, n.at? address = some m → ¬ m.IsFaulty := by
  constructor
  · exact fun h address m hm => not_faulty_of_firstFault_eq_none n h hm
  · intro h
    cases hfound : firstFault source n with
    | none => rfl
    | some fault =>
      obtain ⟨address, m, hfirst, -⟩ := exists_firstFaulty n hfound
      exact absurd hfirst.faulty (h address m hfirst.at_address)

/-- The fault that is found is the one that describes the first faulty node. -/
theorem firstFault_eq_some_iff {n : Node} {fault : Fault} : firstFault source n = some fault ↔
    ∃ address m, IsFirstFaulty n address m ∧ Describes source m fault := by
  constructor
  · exact exists_firstFaulty n
  · rintro ⟨address, m, hfirst, hdescribes⟩
    cases hfound : firstFault source n with
    | none =>
      exact absurd hfirst.faulty (firstFault_eq_none_iff.1 hfound address m hfirst.at_address)
    | some found =>
      obtain ⟨address', m', hfirst', hdescribes'⟩ := exists_firstFaulty n hfound
      obtain rfl : m' = m := (isFirstFaulty_iff.1 hfirst').unique (isFirstFaulty_iff.1 hfirst)
      rw [hdescribes'.unique hdescribes]

end Search

/-- A source whose tree is searched in vain is accepted. -/
theorem parse_of_sound {source : String} (h : firstFault source.toList (Tsx.tree source) = none) :
    Tsx.parse source = .ok (Tsx.tree source) := by
  unfold Tsx.parse
  simp only [h]

/-- The fault that is found in the tree of a source is the one that is told. -/
theorem parse_of_fault {source : String} {fault : Fault}
    (h : firstFault source.toList (Tsx.tree source) = some fault) :
    Tsx.parse source = .error fault := by
  unfold Tsx.parse
  simp only [h]

/-- A source is accepted, with its tree, exactly when no node at any depth of the tree is faulty.
Otherwise the fault that is told is that of the faulty node of the least address, so that the node
stands inside no other faulty one. -/
theorem parse_first_fault (source : String) :
    (∀ t, Tsx.parse source = .ok t ↔
      t = Tsx.tree source ∧ ∀ address n, t.at? address = some n → ¬ n.IsFaulty) ∧
    (∀ fault, Tsx.parse source = .error fault ↔
      ∃ address n, IsFirstFaulty (Tsx.tree source) address n ∧
        Describes source.toList n fault) ∧
    ∀ above below n outer, IsFirstFaulty (Tsx.tree source) (above ++ below) n → below ≠ [] →
      (Tsx.tree source).at? above = some outer → ¬ outer.IsFaulty := by
  refine ⟨fun t => ?_, fun fault => ?_, fun above below n outer h hbelow houter =>
    h.not_inside hbelow houter⟩
  · cases hfound : firstFault source.toList (Tsx.tree source) with
    | none =>
      have hsound := firstFault_eq_none_iff.1 hfound
      rw [parse_of_sound hfound, Except.ok.injEq, eq_comm, iff_self_and]
      rintro rfl
      exact hsound
    | some fault =>
      obtain ⟨address, n, hfirst, -⟩ := exists_firstFaulty _ hfound
      have hfaulty : ¬(t = Tsx.tree source ∧
          ∀ address n, t.at? address = some n → ¬ n.IsFaulty) := by
        rintro ⟨rfl, hsound⟩
        exact hsound address n hfirst.at_address hfirst.faulty
      rw [parse_of_fault hfound]
      exact iff_of_false (fun h => by cases h) hfaulty
  · rw [← firstFault_eq_some_iff]
    cases hfound : firstFault source.toList (Tsx.tree source) with
    | none =>
      rw [parse_of_sound hfound]
      exact iff_of_false (fun h => by cases h) fun h => by cases h
    | some found => rw [parse_of_fault hfound, Except.error.injEq, Option.some.injEq]

end IconSubset.Syntax
