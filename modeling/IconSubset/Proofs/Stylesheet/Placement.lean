import IconSubset.Proofs.Parse.Standing
import IconSubset.Stylesheet.Injection

/-!
# Where a link goes

A link is one insertion into a document. The place is told by the syntax tree: behind the first
start tag of the head, whatever the case of its letters, or else, with a head around the link,
behind the first start tag of the root element, or else behind the first doctype directly below the
root, or else at the very beginning (`inject_placed`). The search for a head goes through the whole
tree before a root element counts. Since every node is a stretch of the document, the place is a
boundary between characters.
-/

namespace IconSubset.Stylesheet

open Syntax (Node Position IsFirst)

/-- A start tag whose name is the given one but for the case of ASCII letters. The name of a tag is
its first child that is one. -/
def IsStartTag (name : String) (n : Node) : Prop :=
  n.kind.name = "start_tag" ∧ ∃ tag, n.children.find? (·.kind.name == "tag_name") = some tag ∧
    tag.text.map Char.toLower = name.map Char.toLower

/-- A node ends where the first part of a document does. -/
def EndsAt (before : String) (n : Node) : Prop :=
  ∃ outer, before = outer ++ n.text ∧ n.start = Position.after 0 outer.toList

/-- The first part of a document ends with the first start tag of a name, in pre-order. -/
def FirstTag (document name before : String) : Prop :=
  ∃ address n, IsFirst (Html.tree document) (IsStartTag name) address n ∧ EndsAt before n

/-- The tree of a document has no start tag of a name. -/
def NoTag (document name : String) : Prop :=
  ∀ address n, (Html.tree document).at? address = some n → ¬ IsStartTag name n

/-- The first part of a document ends with the first doctype directly below the root. -/
def FirstDoctype (document before : String) : Prop :=
  ∃ left n right, (Html.tree document).children = left ++ n :: right ∧
    n.kind.name = "doctype" ∧ (∀ m ∈ left, m.kind.name ≠ "doctype") ∧ EndsAt before n

/-- No doctype stands directly below the root of a document. -/
def NoDoctype (document : String) : Prop :=
  ∀ n ∈ (Html.tree document).children, n.kind.name ≠ "doctype"

/-- The place of a link between two parts of a document, and what is inserted there. -/
inductive Placed (document link : String) : (before insertion : String) → Prop
  /-- First in the head. -/
  | head {before : String} (htag : FirstTag document "head" before) :
      Placed document link before link
  /-- First in the root element, with a head around it. -/
  | newHead {before : String} (hhead : NoTag document "head")
      (htag : FirstTag document "html" before) :
      Placed document link before ("<head>" ++ link ++ "</head>")
  /-- Behind the doctype. -/
  | doctype {before : String} (hhead : NoTag document "head") (hhtml : NoTag document "html")
      (hdoctype : FirstDoctype document before) : Placed document link before link
  /-- At the very beginning. -/
  | start (hhead : NoTag document "head") (hhtml : NoTag document "html")
      (hdoctype : NoDoctype document) : Placed document link "" link

/-! ## The search -/

/-- What the search looks for in a node. -/
theorem isStartTag_iff {name : String} {n : Node} :
    isStartTag name n = true ↔ IsStartTag name n := by
  unfold isStartTag IsStartTag
  rw [Bool.and_eq_true, beq_iff_eq, Option.any_eq_true]
  simp only [beq_iff_eq, and_comm]

/-- The search through a list of trees is the search through each, up to the first tag. -/
theorem findStartTagAmong_eq (name : String) (ns : List Node) :
    findStartTagAmong name ns = ns.findSome? (findStartTag name) := by
  induction ns with
  | nil => rfl
  | cons n rest ih =>
    rw [findStartTagAmong, List.findSome?_cons, ih]
    cases findStartTag name n <;> rfl

/-- The search ends at a start tag of the name. -/
theorem findStartTag_of_isStartTag {name : String} {n : Node} (h : IsStartTag name n) :
    findStartTag name n = some n := by
  obtain ⟨kind, role, start, text, missing, children⟩ := n
  rw [findStartTag]
  exact if_pos (isStartTag_iff.2 h)

/-- The search goes on through the children of any other node. -/
theorem findStartTag_of_not_isStartTag {name : String} {n : Node} (h : ¬ IsStartTag name n) :
    findStartTag name n = n.children.findSome? (findStartTag name) := by
  obtain ⟨kind, role, start, text, missing, children⟩ := n
  rw [findStartTag, if_neg fun htag => h (isStartTag_iff.1 htag), findStartTagAmong_eq]
  rfl

/-- The tag that is found is the first one in pre-order. -/
theorem exists_isFirst_of_findStartTag {name : String} {root n : Node}
    (h : findStartTag name root = some n) :
    ∃ address, IsFirst root (IsStartTag name) address n := by
  obtain ⟨address, m, hfirst, rfl⟩ := Syntax.exists_isFirst_of_search (T := fun m a => m = a)
    (fun n hn => ⟨n, findStartTag_of_isStartTag hn, rfl⟩)
    (fun _ => findStartTag_of_not_isStartTag) root h
  exact ⟨address, hfirst⟩

/-- Where nothing is found, there is no such tag. -/
theorem noTag_of_findStartTag {document name : String}
    (h : findStartTag name (Html.tree document) = none) : NoTag document name :=
  fun _ _ => Syntax.not_holds_of_search_eq_none (T := fun m a => m = a)
    (fun n hn => ⟨n, findStartTag_of_isStartTag hn, rfl⟩)
    (fun _ => findStartTag_of_not_isStartTag) _ h

/-! ## The parts of a document -/

/-- Characters are split exactly at the byte where the first of them end. -/
theorem splitAtByte_append (before after : List Char) :
    splitAtByte (before ++ after) (String.ofList before).utf8ByteSize = (before, after) := by
  induction before with
  | nil =>
    cases after with
    | nil => rfl
    | cons c cs => exact if_neg (Nat.not_le.2 c.utf8Size_pos)
  | cons c before ih =>
    have hsize : (String.ofList (c :: before)).utf8ByteSize =
        c.utf8Size + (String.ofList before).utf8ByteSize := by
      rw [← List.singleton_append, String.ofList_append, String.utf8ByteSize_append]
      simp
    rw [List.cons_append, splitAtByte, if_pos (hsize ▸ Nat.le_add_right _ _), hsize,
      Nat.add_sub_cancel_left, ih]

/-- Every node of the tree of a document is a stretch of the document. -/
theorem allStand_tree (document : String) : (Html.tree document).AllStand document.toList := by
  unfold Html.tree
  generalize Html.table.get = t
  exact Parse.allStand_rootNode t.grammar document _

/-- A node that stands in a document ends between two parts of it. -/
theorem exists_endsAt {document : String} {n : Node} (h : n.Stands document.toList) :
    ∃ before after, document = before ++ after ∧ EndsAt before n ∧
      endOf n = before.utf8ByteSize := by
  obtain ⟨outer, after, hsource, hstart⟩ := h
  refine ⟨String.ofList outer ++ n.text, String.ofList after, ?_,
    ⟨String.ofList outer, rfl, ?_⟩, ?_⟩
  · rw [← String.toList_inj, String.toList_append, String.toList_append, String.toList_ofList,
      String.toList_ofList, hsource]
  · rw [String.toList_ofList, hstart]
  · rw [String.utf8ByteSize_append, endOf, hstart]
    exact congrArg (· + _) (Nat.zero_add _)

/-- A document with a link, given the two parts between which the link goes. -/
theorem inject_of_site {document before after : String} (link : String)
    (hdocument : document = before ++ after)
    (hplace : (site document).place = before.utf8ByteSize) :
    inject document link = before ++ (site document).wrap link ++ after := by
  have hsplit : splitAtByte document.toList (site document).place =
      (before.toList, after.toList) := by
    rw [hplace, hdocument, String.toList_append, ← splitAtByte_append, String.ofList_toList]
  unfold inject
  simp only [hsplit, String.ofList_toList]

/-! ## The insertion -/

/-- The place for a link is the end of a first part of the document, at which the tree has what is
looked for. -/
theorem exists_placed (document link : String) : ∃ before after, document = before ++ after ∧
    (site document).place = before.utf8ByteSize ∧
    Placed document link before ((site document).wrap link) := by
  unfold site siteIn
  cases hhead : findStartTag "head" (Html.tree document) with
  | some tag =>
    obtain ⟨address, hfirst⟩ := exists_isFirst_of_findStartTag hhead
    obtain ⟨before, after, hdocument, hends, hplace⟩ :=
      exists_endsAt (allStand_tree document address tag hfirst.at_address)
    exact ⟨before, after, hdocument, hplace, .head ⟨address, tag, hfirst, hends⟩⟩
  | none =>
    have hnoHead := noTag_of_findStartTag hhead
    cases hhtml : findStartTag "html" (Html.tree document) with
    | some tag =>
      obtain ⟨address, hfirst⟩ := exists_isFirst_of_findStartTag hhtml
      obtain ⟨before, after, hdocument, hends, hplace⟩ :=
        exists_endsAt (allStand_tree document address tag hfirst.at_address)
      exact ⟨before, after, hdocument, hplace, .newHead hnoHead ⟨address, tag, hfirst, hends⟩⟩
    | none =>
      have hnoHtml := noTag_of_findStartTag hhtml
      cases hdoctype : (Html.tree document).children.find? (·.kind.name == "doctype") with
      | some n =>
        obtain ⟨hkind, left, right, hchildren, hleft⟩ := List.find?_eq_some_iff_append.1 hdoctype
        have hindex : (Html.tree document).at? [left.length] = some n := by
          rw [Node.at?_child (c := n) (by simp [hchildren])]
          rfl
        obtain ⟨before, after, hdocument, hends, hplace⟩ :=
          exists_endsAt (allStand_tree document _ n hindex)
        exact ⟨before, after, hdocument, hplace, .doctype hnoHead hnoHtml
          ⟨left, n, right, hchildren, beq_iff_eq.1 hkind, fun m hm => by simpa using hleft m hm,
            hends⟩⟩
      | none =>
        refine ⟨"", document, String.empty_append.symm, rfl, .start hnoHead hnoHtml ?_⟩
        exact fun n hn hkind => List.find?_eq_none.1 hdoctype n hn (beq_iff_eq.2 hkind)

/-- A link goes into a document as one insertion, at a boundary between characters, and nothing else
changes. In front of the insertion ends the first start tag of the head in pre-order; where there is
none, the first one of the root element, and the link has a head around it; where there is neither,
the first doctype directly below the root; and where there is nothing of all these, the insertion
stands at the very beginning. -/
theorem inject_placed (document link : String) : ∃ before insertion after,
    document = before ++ after ∧ inject document link = before ++ insertion ++ after ∧
      before.rawEndPos.IsValid document ∧ Placed document link before insertion := by
  obtain ⟨before, after, hdocument, hplace, hplaced⟩ := exists_placed document link
  refine ⟨before, _, after, hdocument, inject_of_site link hdocument hplace, ?_, hplaced⟩
  rw [String.Pos.Raw.isValid_iff_exists_append]
  exact ⟨before, after, hdocument, rfl⟩

end IconSubset.Stylesheet
