import IconSubset.Extraction.Element
import IconSubset.Proofs.Printing.Element
import IconSubset.Proofs.Printing.Names
import Mathlib.Data.List.Forall2

/-!
# The texts of printed elements

What the search finds in the tree of a printed element: its attributes with their values
(`attributesAmong_tag`), the literals of a value (`AttributeValue.literalsOfValue_node`), and the
texts between its tags (`Content.mem_childTexts_node`). No other element stands in such a tree, and
nothing in it is faulty.
-/

namespace IconSubset.Printing

open Extraction
open Syntax (Kind Node stringText templateSegments)
open Tsx Tsx.Constant Tsx.Shape

/-! ## Names of elements and attributes -/

/-- The name of an attribute or element is no blanks. -/
theorem QualifiedName.isBlanks_shape (kind : Kind) (n : QualifiedName) :
    (n.shape kind).isBlanks = false := by
  cases n <;> rfl

/-- The text of the node of a name is the name. -/
theorem QualifiedName.text_node (kind : Kind) (n : QualifiedName) (start : Syntax.Position) :
    ((n.shape kind).node start).text = String.ofList n.text := by
  cases n with
  | simple name => rfl
  | namespaced space name =>
    rw [← QualifiedName.chars_shape kind]
    rfl

/-- The shape of the name of a member, and so on, is that of the object or of a member. -/
theorem exists_foldl_memberOf (object : Shape) (texts : List (List Char)) :
    texts.foldl memberOf object = object ∨
      ∃ parts, texts.foldl memberOf object = .branch (.other "member_expression") none parts := by
  induction texts generalizing object with
  | nil => exact .inl rfl
  | cons text rest ih =>
    rw [List.foldl_cons]
    rcases ih (memberOf object text) with h | h
    · exact .inr ⟨_, h⟩
    · exact .inr h

/-- There are neither elements nor errors in the name of a member when there are none in the
object. -/
theorem allKinds_foldl_memberOf {object : Shape} (h : object.allKinds isInert = true)
    (texts : List (List Char)) : (texts.foldl memberOf object).allKinds isInert = true := by
  induction texts generalizing object with
  | nil => exact h
  | cons text rest ih =>
    refine ih ?_
    rw [memberOf, allKinds, allKindsOfAll, h]
    rfl

namespace TagName

/-- The name of an element is one token or one branch, of a kind that is looked into for nothing. -/
theorem exists_kind (t : TagName) (start : Syntax.Position) :
    t.shape.isBlanks = false ∧ ∃ name, (t.shape.node start).kind = .other name := by
  cases t with
  | name n hword => cases n <;> exact ⟨rfl, _, rfl⟩
  | member object members hne =>
    rw [shape]
    rcases exists_foldl_memberOf (.token (.other "identifier") none object.text)
      (members.map Word.text) with h | ⟨parts, h⟩
    · rw [h]
      exact ⟨rfl, _, rfl⟩
    · rw [h]
      exact ⟨rfl, _, rfl⟩

/-- The name of an element is no blanks. -/
theorem isBlanks_shape (t : TagName) : t.shape.isBlanks = false := (t.exists_kind 0).1

/-- There are neither elements nor errors in the name of an element. -/
theorem allKinds_shape (t : TagName) : t.shape.allKinds isInert = true := by
  cases t with
  | name n hword => cases n <;> rfl
  | member object members hne => exact allKinds_foldl_memberOf rfl _

end TagName

/-! ## Values and attributes -/

/-- The shape of plain text is neither an element nor an error. -/
theorem allKinds_plainShapes (text : List Char) :
    allKindsOfAll isInert (plainShapes .stringFragment text) = true := by
  unfold plainShapes
  split_ifs <;> rfl

/-- What the nodes of plain text stand for. -/
theorem flatMap_partText_plainShapes (text : List Char) (start : Syntax.Position) :
    (nodesOfAll start (plainShapes .stringFragment text)).flatMap Syntax.partText = text := by
  unfold plainShapes
  split_ifs with h
  · exact h.symm
  · show (String.ofList text).toList ++ [] = text
    rw [String.toList_ofList, List.append_nil]

/-- There are neither elements nor errors in an expression in braces. -/
theorem allKinds_containerShape (e : Expression) : (containerShape e).allKinds isInert = true := by
  simp only [containerShape, allKinds, allKindsOfAll, allKinds_markShape, e.allKinds_shape,
    Bool.and_true]
  rfl

/-- The expression in braces is what stands between them. -/
theorem literalsOfInner_container (e : Expression) (start : Syntax.Position) :
    literalsOfInner ((containerShape e).node start).children = e.names.map IconName.string := by
  rw [literalsOfInner_eq]
  show (List.find? _ (nodesOfAll start _)).elim [] literals = _
  rw [nodesOfAll_mark, nodesOfAll_cons e.isBlanks_shape, List.find?_cons_of_neg Bool.false_ne_true,
    List.find?_cons_of_pos]
  · exact e.literals_node _
  · rw [e.isTrivia_node]
    rfl

namespace AttributeValue

/-- The literals of a value: its text, or the names among which its expression chooses. -/
def literals : AttributeValue → List String
  | string _ t => [String.ofList t.text]
  | expression e _ => e.names.map IconName.string

/-- A value is no blanks. -/
theorem isBlanks_shape (v : AttributeValue) : v.shape.isBlanks = false := by
  cases v <;> rfl

/-- There are neither elements nor errors in a value. -/
theorem allKinds_shape (v : AttributeValue) : v.shape.allKinds isInert = true := by
  cases v with
  | string quote t =>
    simp only [shape, allKinds, allKindsOfAll, allKindsOfAll_append, List.cons_append,
      allKinds_markShape, allKinds_plainShapes, Bool.and_true]
    rfl
  | expression e _ => exact allKinds_containerShape e

/-- The text of a string is what stands between its quotes. -/
theorem stringText_node (quote : AttributeQuote) (t : PlainText) (start : Syntax.Position) :
    stringText ((string quote t).shape.node start).children = String.ofList t.text := by
  unfold stringText
  show String.ofList ((nodesOfAll start (markShape _ :: plainShapes _ _ ++ [markShape _])).flatMap
    Syntax.partText) = _
  rw [List.cons_append, nodesOfAll_mark, nodesOfAll_append, List.flatMap_cons, List.flatMap_append,
    flatMap_partText_plainShapes]
  show String.ofList ([] ++ (t.text ++ [])) = _
  rw [List.nil_append, List.append_nil]

/-- The literals of the node of a value are those of the value. -/
theorem literalsOfValue_node (v : AttributeValue) (start : Syntax.Position) :
    literalsOfValue (v.shape.node start) = v.literals := by
  cases v with
  | string quote t =>
    have hstring : Extraction.literals ((string quote t).shape.node start) =
        [String.ofList t.text] := by
      rw [literals_string rfl, stringText_node]
    exact hstring
  | expression e _ => exact literalsOfInner_container e start

/-- A string marks when the marker occurs in its text. -/
theorem isMarking_node (marker : String) (quote : AttributeQuote) (t : PlainText)
    (start : Syntax.Position) :
    isMarking marker ((string quote t).shape.node start) =
      Text.contains (String.ofList t.text) marker := by
  show Text.contains (stringText ((string quote t).shape.node start).children) marker = _
  rw [stringText_node]

end AttributeValue

/-- The attributes among nodes. -/
def attributesAmong (ns : List Node) : List Extraction.Attribute :=
  ns.filterMap fun n => if n.kind = .jsxAttribute then Attribute.ofParts? n.children else none

/-- An attribute that is found is one that is written. -/
def Found (found : Extraction.Attribute) (a : Attribute) : Prop :=
  ∃ start, found = ⟨String.ofList a.name.text, some (a.value.shape.node start)⟩

/-- Where one attribute is written, one is found. -/
theorem exists_found {found : List Extraction.Attribute} {a : Attribute}
    (h : List.Forall₂ Found found [a]) : ∃ f, found = [f] ∧ Found f a := by
  obtain ⟨f, rest, hf, hrest, rfl⟩ := List.forall₂_cons_right_iff.1 h
  obtain rfl := List.forall₂_nil_right_iff.1 hrest
  exact ⟨f, rfl, hf⟩

/-- The attributes among two runs of nodes are those among each. -/
theorem attributesAmong_append (ms ns : List Node) :
    attributesAmong (ms ++ ns) = attributesAmong ms ++ attributesAmong ns :=
  List.filterMap_append

/-- A node of another kind is no attribute. -/
theorem attributesAmong_cons {n : Node} (h : n.kind ≠ .jsxAttribute) (ns : List Node) :
    attributesAmong (n :: ns) = attributesAmong ns :=
  List.filterMap_cons_none (if_neg h)

/-- The parts of an attribute are its name, the equals sign and its value. -/
theorem ofParts?_shapes (name : QualifiedName) {value : Shape} (hblanks : value.isBlanks = false)
    (hvalue : ∀ start, (value.node start).kind ≠ .token "=" ∧ (value.node start).kind ≠ .comment)
    (start : Syntax.Position) : ∃ start', Attribute.ofParts? (nodesOfAll start
      [name.shape (.other "property_identifier"), markShape "=", value]) =
        some ⟨String.ofList name.text, some (value.node start')⟩ := by
  -- Neither of the two is what is left out between them.
  have hname : ∀ start,
      ((name.shape (.other "property_identifier")).node start).kind ≠ .token "=" ∧
        ((name.shape (.other "property_identifier")).node start).kind ≠ .comment := by
    intro start
    cases name <;> exact ⟨nofun, nofun⟩
  rw [nodesOfAll_cons (name.isBlanks_shape _), nodesOfAll_mark, nodesOfAll_cons hblanks]
  unfold Attribute.ofParts?
  rw [List.filter_cons_of_pos (by simpa using hname _), List.filter_cons_of_neg ?_,
    List.filter_cons_of_pos (by simpa using hvalue _)]
  swap
  · rw [decide_eq_true_eq]
    exact fun h => h.1 rfl
  exact ⟨_, congrArg (fun text => some (Extraction.Attribute.mk text _)) (name.text_node _ _)⟩

/-- The attribute that is written is found among its parts. -/
theorem ofParts?_node (a : Attribute) (start : Syntax.Position) : ∃ found,
    Attribute.ofParts? (nodesOfAll start [a.name.shape (.other "property_identifier"),
      markShape "=", a.value.shape]) = some found ∧ Found found a := by
  have hvalue : ∀ start, (a.value.shape.node start).kind ≠ .token "=" ∧
      (a.value.shape.node start).kind ≠ .comment := by
    intro start
    cases a.value <;> exact ⟨nofun, nofun⟩
  obtain ⟨start', hparts⟩ := ofParts?_shapes a.name a.value.isBlanks_shape hvalue start
  exact ⟨_, hparts, start', rfl⟩

/-- The attributes that are written are found one after the other. -/
theorem attributesAmong_shapes : ∀ (attributes : List Attribute) (start : Syntax.Position),
    List.Forall₂ Found (attributesAmong (nodesOfAll start (attributes.flatMap Attribute.shapes)))
      attributes
  | [], start => .nil
  | a :: rest, start => by
    obtain ⟨found, hparts, hfound⟩ := ofParts?_node a (start.after [' '])
    rw [List.flatMap_cons, nodesOfAll_append, attributesAmong_append]
    have hone : attributesAmong (nodesOfAll start a.shapes) = [found] :=
      List.filterMap_cons_some hparts
    rw [hone]
    exact .cons hfound (attributesAmong_shapes rest _)

/-! ## Content -/

namespace Content

/-- The literals of content: the name, or the names among which its expression chooses. -/
def literals : Content → List String
  | name n => [n.string]
  | expression e _ => e.names.map IconName.string

/-- Content is no blanks. -/
theorem isBlanks_shape (c : Content) : c.shape.isBlanks = false := by
  cases c <;> rfl

/-- There are neither elements nor errors in content. -/
theorem allKinds_shape (c : Content) : c.shape.allKinds isInert = true := by
  cases c with
  | name n => rfl
  | expression e _ => exact allKinds_containerShape e

/-- Between tags, the texts are the literals of the content, and empty ones around them. -/
theorem mem_childTexts_node {c : Content} {opening closing : Node} {name name' text : String}
    (hopening : opening.kind = .other name) (hclosing : closing.kind = .other name')
    (start : Syntax.Position) :
    text ∈ childTexts [] [opening, c.shape.node start, closing] ↔
      text = "" ∨ text ∈ c.literals := by
  -- The tags are children as well, and end the runs of text.
  have hend : ∀ run, childTexts run [closing] = [String.ofList run, ""] := by
    intro run
    rw [childTexts, hclosing]
    rfl
  have hstart : childTexts [] [opening, c.shape.node start, closing] =
      "" :: childTexts [] [c.shape.node start, closing] := by
    rw [childTexts, hopening]
  rw [hstart, List.mem_cons]
  cases c with
  | name n =>
    have htext : childTexts [] [(Content.name n).shape.node start, closing] = [n.string, ""] := by
      rw [childTexts]
      show childTexts ([] ++ (String.ofList n.text).toList) [closing] = _
      rw [hend, List.nil_append, String.ofList_toList]
      rfl
    rw [htext, literals]
    simp only [List.mem_cons, List.not_mem_nil]
    tauto
  | expression e he =>
    have htext : childTexts [] [(Content.expression e he).shape.node start, closing] =
        "" :: (e.names.map IconName.string ++ ["", ""]) := by
      rw [childTexts]
      show String.ofList [] :: literalsOfInner ((containerShape e).node start).children ++
        childTexts [] [closing] = _
      rw [hend, literalsOfInner_container]
      rfl
    rw [htext, literals]
    simp only [List.mem_cons, List.mem_append, List.not_mem_nil]
    tauto

end Content

/-! ## Elements -/

section Elements

variable (marker : String) (properties : List String) (tag : TagName) (attributes : List Attribute)

/-- There are neither elements nor errors in attributes. -/
theorem allKinds_attributes :
    allKindsOfAll isInert (attributes.flatMap Attribute.shapes) = true := by
  induction attributes with
  | nil => rfl
  | cons a rest ih =>
    have hname : (a.name.shape (.other "property_identifier")).allKinds isInert = true := by
      cases a.name <;> rfl
    rw [List.flatMap_cons, allKindsOfAll_append, ih, Attribute.shapes]
    simp only [allKinds, allKindsOfAll, allKinds_markShape, allKinds_spaceShape, hname,
      a.value.allKinds_shape, Bool.and_true]
    rfl

/-- There are neither elements nor errors in what an opening tag is made of. -/
theorem allKinds_opening : allKindsOfAll isInert (markShape "<" :: tag.shape ::
    attributes.flatMap Attribute.shapes ++ [markShape ">"]) = true := by
  simp only [allKindsOfAll, allKindsOfAll_append, List.cons_append, allKinds_markShape,
    tag.allKinds_shape, allKinds_attributes, Bool.and_true]

/-- There are neither elements nor errors in an opening tag. -/
theorem allKinds_openingShape : (Element.openingShape tag attributes).allKinds isInert = true := by
  rw [Element.openingShape, allKinds, allKinds_opening]
  rfl

/-- There are neither elements nor errors in a closing tag. -/
theorem allKinds_closingShape : (Element.closingShape tag).allKinds isInert = true := by
  simp only [Element.closingShape, allKinds, allKindsOfAll, allKinds_markShape, tag.allKinds_shape,
    Bool.and_true]
  rfl

/-- Inert shapes give no texts. -/
theorem forestTexts_of_allKinds {ss : List Shape} (h : allKindsOfAll isInert ss = true)
    (start : Syntax.Position) : forestTexts marker properties (nodesOfAll start ss) = [] := by
  refine forestTexts_eq_nil fun n hn e he => ?_
  obtain ⟨-, hkind⟩ := kind_of_within_all ss h n hn e he
  exact (isInert_iff.1 hkind).2

/-- Before the attributes of a tag stand its mark and its name. -/
theorem attributesAmong_tag (last : List Shape)
    (hlast : ∀ start, attributesAmong (nodesOfAll start last) = []) (shapes : List Shape)
    (start : Syntax.Position) : ∃ start',
      attributesAmong (nodesOfAll start (markShape "<" :: tag.shape :: (shapes ++ last))) =
        attributesAmong (nodesOfAll start' shapes) := by
  have hmark : ((markShape "<").node start).kind ≠ .jsxAttribute :=
    fun h => nomatch (show Kind.token "<" = .jsxAttribute from h)
  have htag : ∀ start, (tag.shape.node start).kind ≠ .jsxAttribute := by
    intro start
    obtain ⟨-, name, hkind⟩ := tag.exists_kind start
    rw [hkind]
    exact nofun
  rw [nodesOfAll_mark, nodesOfAll_cons tag.isBlanks_shape, nodesOfAll_append,
    attributesAmong_cons hmark, attributesAmong_cons (htag _), attributesAmong_append, hlast,
    List.append_nil]
  exact ⟨_, rfl⟩

/-- What an element with two tags gives: what stands between them, when the marker is found among
its attributes, and its icon properties. -/
theorem texts_paired (role : Option Syntax.Role) {opening children : List Shape}
    (hopening : allKindsOfAll isInert opening = true)
    (hchildren : allKindsOfAll isInert children = true) (start : Syntax.Position) :
    let tagShape := Shape.branch (.other "jsx_opening_element") (some .openTag) opening
    let found := attributesAmong (nodesOfAll start opening)
    forestTexts marker properties
        ((Shape.branch .jsxElement role (tagShape :: children)).nodes start) =
      (if isMarked marker found then childTexts [] (nodesOfAll start (tagShape :: children))
        else []) ++ propertyTexts properties found := by
  -- Nothing inside the element gives texts of its own.
  have hinert : allKindsOfAll isInert
      (.branch (.other "jsx_opening_element") (some .openTag) opening :: children) = true := by
    rw [allKindsOfAll, allKinds, hopening, hchildren]
    rfl
  show treeTexts marker properties (.mk .jsxElement role start _ false (nodesOfAll start _)) ++
    [] = _
  rw [List.append_nil, treeTexts, forestTexts_of_allKinds marker properties hinert, List.append_nil]
  rfl

/-- What an element that is one tag gives: its icon properties. -/
theorem texts_selfClosing {role : Option Syntax.Role} {parts : List Shape}
    (hparts : allKindsOfAll isInert parts = true) (start : Syntax.Position) :
    forestTexts marker properties ((Shape.branch .jsxSelfClosing role parts).nodes start) =
      propertyTexts properties (attributesAmong (nodesOfAll start parts)) := by
  show treeTexts marker properties (.mk .jsxSelfClosing role start _ false (nodesOfAll start _)) ++
    [] = _
  rw [List.append_nil, treeTexts, forestTexts_of_allKinds marker properties hparts, List.append_nil]
  rfl

/-- What an element with two tags gives: the literals of its content, when the marker is found among
its attributes, and those of its icon properties. -/
theorem mem_texts_paired (c : Content) (start : Syntax.Position) :
    ∃ found : List Extraction.Attribute,
    List.Forall₂ Found found attributes ∧ ∀ text,
      text ∈ forestTexts marker properties ((Element.paired tag attributes c).shape.nodes start) ↔
        (isMarked marker found = true ∧ (text = "" ∨ text ∈ c.literals)) ∨
          text ∈ propertyTexts properties found := by
  have hinside : allKindsOfAll isInert [c.shape, Element.closingShape tag] = true := by
    simp only [allKindsOfAll, allKinds_closingShape, c.allKinds_shape, Bool.and_true]
  have hnodes : ∃ s₁ s₂, nodesOfAll start [Element.openingShape tag attributes, c.shape,
      Element.closingShape tag] = [(Element.openingShape tag attributes).node start,
        c.shape.node s₁, (Element.closingShape tag).node s₂] := by
    refine ⟨start.after (Element.openingShape tag attributes).chars,
      (start.after (Element.openingShape tag attributes).chars).after c.shape.chars, ?_⟩
    rw [nodesOfAll_cons rfl, nodesOfAll_cons c.isBlanks_shape, nodesOfAll_cons rfl]
    rfl
  obtain ⟨s₁, s₂, hnodes⟩ := hnodes
  obtain ⟨s₃, hfound⟩ : ∃ s₃, attributesAmong (nodesOfAll start
      (markShape "<" :: tag.shape :: attributes.flatMap Attribute.shapes ++ [markShape ">"])) =
        attributesAmong (nodesOfAll s₃ (attributes.flatMap Attribute.shapes)) :=
    attributesAmong_tag tag _ (fun _ => rfl) _ start
  have htexts : forestTexts marker properties
      ((Element.paired tag attributes c).shape.nodes start) =
        (if isMarked marker _ then childTexts [] (nodesOfAll start
          [Element.openingShape tag attributes, c.shape, Element.closingShape tag]) else []) ++
            propertyTexts properties _ :=
    texts_paired marker properties _ (allKinds_opening tag attributes) hinside start
  refine ⟨_, attributesAmong_shapes attributes s₃, fun text => ?_⟩
  rw [htexts, hfound, hnodes, List.mem_append]
  split_ifs with hmarked
  · rw [Content.mem_childTexts_node rfl rfl]
    simp [hmarked]
  · simp [hmarked]

/-- What an element that is one tag gives: the literals of its icon properties. -/
theorem mem_texts_selfClosing (start : Syntax.Position) : ∃ found : List Extraction.Attribute,
    List.Forall₂ Found found attributes ∧ ∀ text,
      text ∈ forestTexts marker properties
          ((Element.selfClosing tag attributes).shape.nodes start) ↔
        text ∈ propertyTexts properties found := by
  have hinert : allKindsOfAll isInert (markShape "<" :: tag.shape ::
      (attributes.flatMap Attribute.shapes ++ [spaceShape, markShape "/>"])) = true := by
    simp only [allKindsOfAll, allKindsOfAll_append, allKinds_markShape, allKinds_spaceShape,
      tag.allKinds_shape, allKinds_attributes, Bool.and_true]
  have hshape : (Element.selfClosing tag attributes).shape = .branch .jsxSelfClosing none
      (markShape "<" :: tag.shape ::
        (attributes.flatMap Attribute.shapes ++ [spaceShape, markShape "/>"])) := by
    simp [Element.shape]
  obtain ⟨start', hfound⟩ := attributesAmong_tag tag [spaceShape, markShape "/>"]
    (fun _ => rfl) (attributes.flatMap Attribute.shapes) start
  refine ⟨_, attributesAmong_shapes attributes start', fun text => ?_⟩
  rw [hshape, texts_selfClosing marker properties hinert, hfound]

end Elements

end IconSubset.Printing
