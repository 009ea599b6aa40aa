import IconSubset.Proofs.Html.Productions
import IconSubset.Proofs.Stylesheet.Placement

/-!
# The place of a link is told by the tokens

The search for a place comes across start tags and doctypes. In a tree that is a derivation of the
grammar they can be read off the tokens alone, without a tree: a start tag is the name of one with
the next `>` behind it, and a doctype counts when no element is open there (`siteIn_rootNode`).
-/

namespace IconSubset.Stylesheet

open Grammar (Step Alias)
open Html (productions nodeName nodeNames nodeName_eq nodeName_step stepsOf complete_mem)
open Parse (Extent Source Subtree Leaf leaves leavesAll leafOf totals treeNodes forestNodes Derived
  symbols symbols_append)
open Syntax (Node Position Role)

/-! ## Marks in a syntax tree -/

/-- What the search for a place comes across, and the byte at which it ends. -/
inductive Mark where
  /-- A start tag of that name. -/
  | tag (name : String) (stop : Nat)
  /-- A doctype outside of all elements. -/
  | doctype (stop : Nat)
deriving DecidableEq, Repr

/-- The mark that a node is, if it is one, below so many others. -/
def ownMark (depth : Nat) (n : Node) : List Mark :=
  if n.kind.name = "start_tag" then
    match n.children.find? (·.kind.name == "tag_name") with
    | some tag => [.tag tag.text (endOf n)]
    | none => []
  else if depth = 0 ∧ n.kind.name = "doctype" then [.doctype (endOf n)]
  else []

mutual

/-- The marks in a tree, in pre-order. -/
def marks (depth : Nat) : Node → List Mark
  | .mk kind role start text missing children =>
    ownMark depth (.mk kind role start text missing children) ++ marksAll (depth + 1) children

/-- The marks in trees that follow each other. -/
def marksAll (depth : Nat) : List Node → List Mark
  | [] => []
  | n :: rest => marks depth n ++ marksAll depth rest

end

/-- The end of a start tag of that name, whatever the case of its letters. -/
def Mark.tagStop (name : String) : Mark → Option Nat
  | tag other stop => if other.map Char.toLower = name.map Char.toLower then some stop else none
  | doctype _ => none

/-- The end of a doctype. -/
def Mark.doctypeStop : Mark → Option Nat
  | tag _ _ => none
  | doctype stop => some stop

/-- Where a link goes, given the marks of a document. -/
def siteOf (ms : List Mark) : Site :=
  match ms.findSome? (Mark.tagStop "head") with
  | some place => .head place
  | none =>
    match ms.findSome? (Mark.tagStop "html") with
    | some place => .newHead place
    | none => .front ((ms.findSome? Mark.doctypeStop).getD 0)

/-- The marks in two rows of trees. -/
@[simp] theorem marksAll_append (depth : Nat) (ns ms : List Node) :
    marksAll depth (ns ++ ms) = marksAll depth ns ++ marksAll depth ms := by
  induction ns with
  | nil => rfl
  | cons n ns ih => rw [List.cons_append, marksAll, marksAll, ih, List.append_assoc]

/-- The own mark of a node is a start tag of a name exactly when the search takes it for one. -/
theorem findSome?_ownMark (name : String) (depth : Nat) (n : Node) :
    (ownMark depth n).findSome? (Mark.tagStop name) =
      if isStartTag name n then some (endOf n) else none := by
  unfold ownMark isStartTag
  by_cases hkind : n.kind.name = "start_tag"
  · rw [if_pos hkind, hkind]
    cases n.children.find? (·.kind.name == "tag_name") with
    | none => rfl
    | some tag => simp [Mark.tagStop]
  · rw [if_neg hkind]
    split <;> simp [hkind, Mark.tagStop]

mutual

/-- The search for a start tag ends at the first mark of one. -/
theorem findStartTag_eq (name : String) (depth : Nat) : ∀ n : Node,
    (findStartTag name n).map endOf = (marks depth n).findSome? (Mark.tagStop name)
  | .mk kind role start text missing children => by
    rw [findStartTag, marks, List.findSome?_append, findSome?_ownMark]
    split
    · rfl
    · rw [Option.none_or]
      exact findStartTagAmong_marks name (depth + 1) children

/-- The search for a start tag among trees ends at the first mark of one. -/
theorem findStartTagAmong_marks (name : String) (depth : Nat) : ∀ ns : List Node,
    (findStartTagAmong name ns).map endOf = (marksAll depth ns).findSome? (Mark.tagStop name)
  | [] => rfl
  | n :: rest => by
    rw [findStartTagAmong, marksAll, List.findSome?_append, ← findStartTag_eq name depth n,
      ← findStartTagAmong_marks name depth rest]
    cases findStartTag name n <;> rfl

end

mutual

/-- Below a node there are no marks of doctypes. -/
theorem findSome?_doctype_marks (depth : Nat) : ∀ n : Node,
    (marks (depth + 1) n).findSome? Mark.doctypeStop = none
  | .mk kind role start text missing children => by
    rw [marks, List.findSome?_append, findSome?_doctype_marksAll (depth + 1) children,
      Option.or_none]
    unfold ownMark
    split
    · split <;> rfl
    · rw [if_neg fun h => Nat.succ_ne_zero _ h.1]
      rfl

/-- Among trees below a node there are no marks of doctypes. -/
theorem findSome?_doctype_marksAll (depth : Nat) : ∀ ns : List Node,
    (marksAll (depth + 1) ns).findSome? Mark.doctypeStop = none
  | [] => rfl
  | n :: rest => by
    rw [marksAll, List.findSome?_append, findSome?_doctype_marks depth n,
      findSome?_doctype_marksAll depth rest]
    rfl

end

/-- The own mark of a node outside of all others is one of a doctype exactly when it is one. -/
theorem findSome?_doctype_ownMark (n : Node) :
    (ownMark 0 n).findSome? Mark.doctypeStop =
      if n.kind.name == "doctype" then some (endOf n) else none := by
  unfold ownMark
  by_cases htag : n.kind.name = "start_tag"
  · rw [if_pos htag, htag]
    split <;> rfl
  · rw [if_neg htag]
    by_cases hdoctype : n.kind.name = "doctype"
    · simp [hdoctype, Mark.doctypeStop]
    · simp [hdoctype]

/-- The first doctype of a row of trees is the first mark of one. -/
theorem find?_doctype_eq (ns : List Node) :
    (ns.find? (·.kind.name == "doctype")).map endOf =
      (marksAll 0 ns).findSome? Mark.doctypeStop := by
  induction ns with
  | nil => rfl
  | cons n rest ih =>
    have hmarks : (marks 0 n).findSome? Mark.doctypeStop =
        if n.kind.name == "doctype" then some (endOf n) else none := by
      obtain ⟨kind, role, start, text, missing, children⟩ := n
      rw [marks, List.findSome?_append, findSome?_doctype_marksAll, Option.or_none,
        findSome?_doctype_ownMark]
    rw [marksAll, List.findSome?_append, hmarks, ← ih, List.find?_cons]
    cases n.kind.name == "doctype" <;> rfl

/-- The place of a link is told by the marks below the root. -/
theorem siteIn_eq {root : Node} (h : root.kind.name ≠ "start_tag") :
    siteIn root = siteOf (marksAll 0 root.children) := by
  have hfind : ∀ name, (findStartTag name root).map endOf =
      (marksAll 0 root.children).findSome? (Mark.tagStop name) := by
    intro name
    rw [findStartTag_of_not_isStartTag fun htag => h htag.1, ← findStartTagAmong_eq,
      findStartTagAmong_marks name 0]
  unfold siteIn siteOf
  rw [← hfind, ← hfind, ← find?_doctype_eq]
  cases findStartTag "head" root with
  | some tag => rfl
  | none =>
    cases findStartTag "html" root with
    | some tag => rfl
    | none => cases root.children.find? (·.kind.name == "doctype") <;> rfl

end IconSubset.Stylesheet
