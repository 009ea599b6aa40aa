import IconSubset.Extraction.Element
import IconSubset.Proofs.Extraction.Literals
import IconSubset.Proofs.IconSet.Membership

/-!
# What each element of a tree contributes

Scanning a tree puts into the set what its elements contribute, each on its own, and nothing else
(`mem_scanElements`). What an element contributes is said here without the search: `Contributes`
speaks of its opening tag, of the first attribute of a name, of the runs of text among its own
children, and of the literals of expressions.

The proof goes along the tree. `mem_treeTexts` reduces the texts of a tree to those of the elements
within it, by induction over trees and lists of trees, and `mem_elementTexts` reduces the texts
of one element to `Contributes`.
-/

namespace IconSubset.Extraction

open Syntax

/-- A node stands in a tree: it is the tree itself or stands in a child of it. -/
inductive Within (e : Node) : Node → Prop
  /-- A tree stands in itself. -/
  | self : Within e e
  /-- What stands in a child stands in the tree. -/
  | child {n c : Node} (hc : c ∈ n.children) (h : Within e c) : Within e n

/-- Whether a child of an element belongs to a run of text. -/
def isRunPart (n : Node) : Bool := n.kind = .jsxText || n.kind = .characterReference

/-- What a child of an element adds to its run of text: its text, decoded when it is a character
reference. -/
def runPart (n : Node) : List Char :=
  if n.kind = .characterReference then (Html.decode n.text).toList else n.text.toList

/-- The longest runs of text among the children of an element. -/
def textRuns (children : List Node) : List String :=
  (children.splitOnP fun n => !isRunPart n).map fun run => String.ofList (run.flatMap runPart)

/-- A text that the children of a marked element give. -/
inductive ChildText (children : List Node) : String → Prop
  /-- A longest run of text. -/
  | run {text : String} (h : text ∈ textRuns children) : ChildText children text
  /-- A literal of an expression in braces. -/
  | literal {container expression : Node} {text : String} (hmem : container ∈ children)
      (hkind : container.kind = .jsxExpression) (hinner : inner? container = some expression)
      (h : text ∈ literals expression) : ChildText children text

/-- A value is that of the first attribute of a tag that has the given name. -/
def IsFirstValue (tag : Node) (name : String) (value : Node) : Prop :=
  ∃ before after, attributes tag = before ++ ⟨name, some value⟩ :: after ∧
    ∀ a ∈ before, a.name ≠ name

/-- The tag of an element that holds its attributes. -/
inductive IsTagOf : Node → Node → Prop
  /-- The opening tag of an element with two tags. -/
  | opening {e tag : Node} (hkind : e.kind = .jsxElement) (h : e.child? .openTag = some tag) :
      IsTagOf tag e
  /-- An element that is one tag. -/
  | selfClosing {e : Node} (hkind : e.kind = .jsxSelfClosing) : IsTagOf e e

/-- A text that an element contributes, apart from the elements inside it. -/
inductive Contributes (marker : String) (properties : List String) (e : Node) : String → Prop
  /-- A text of its own children, when the value of its class attribute marks it. -/
  | child {tag value : Node} {text : String} (hkind : e.kind = .jsxElement) (htag : IsTagOf tag e)
      (hvalue : IsFirstValue tag classAttribute value) (hmarked : isMarking marker value = true)
      (h : ChildText e.children text) : Contributes marker properties e text
  /-- A literal of the value of an icon property. -/
  | property {tag value expression : Node} {name text : String} (htag : IsTagOf tag e)
      (hname : name ∈ properties) (hvalue : IsFirstValue tag name value)
      (hexpression : expression? value = some expression) (h : text ∈ literals expression) :
      Contributes marker properties e text

/-! ## The elements within a tree -/

/-- What stands in a tree is the tree itself or stands in one of its children. -/
theorem within_iff {e n : Node} : Within e n ↔ e = n ∨ ∃ c ∈ n.children, Within e c := by
  constructor
  · intro h
    cases h with
    | self => exact .inl rfl
    | child hc h => exact .inr ⟨_, hc, h⟩
  · rintro (rfl | ⟨c, hc, h⟩)
    · exact .self
    · exact .child hc h

section Tree

variable {marker : String} {properties : List String} {text : String}

mutual

/-- The texts of a tree are those of the nodes within it. -/
theorem mem_treeTexts : ∀ n : Node, text ∈ treeTexts marker properties n ↔
    ∃ e, Within e n ∧ text ∈ elementTexts marker properties e
  | .mk kind role start source missing children => by
    -- A node within the tree is the tree or stands in a child.
    rw [treeTexts, List.mem_append, mem_forestTexts children]
    constructor
    · rintro (h | ⟨c, hc, e, he, h⟩)
      · exact ⟨_, .self, h⟩
      · exact ⟨e, .child hc he, h⟩
    · rintro ⟨e, he, h⟩
      rcases within_iff.1 he with rfl | ⟨c, hc, he⟩
      · exact .inl h
      · exact .inr ⟨c, hc, e, he, h⟩

/-- The texts of a list of trees are those of the nodes within one of them. -/
theorem mem_forestTexts : ∀ ns : List Node, text ∈ forestTexts marker properties ns ↔
    ∃ n ∈ ns, ∃ e, Within e n ∧ text ∈ elementTexts marker properties e
  | [] => by simp [forestTexts]
  | n :: rest => by
    rw [forestTexts, List.mem_append, mem_treeTexts n, mem_forestTexts rest,
      List.exists_mem_cons_iff]

end

end Tree

/-! ## The texts of one element -/

/-- The value that is found for a name is that of the first attribute of the name. -/
theorem attributeValue?_eq_some_iff {tag : Node} {name : String} {value : Node} :
    attributeValue? (attributes tag) name = some value ↔ IsFirstValue tag name value := by
  unfold attributeValue? IsFirstValue
  rw [Option.bind_eq_some_iff]
  constructor
  · rintro ⟨⟨name', value'⟩, hfind, hvalue⟩
    obtain ⟨hname, before, after, hsplit, hbefore⟩ := List.find?_eq_some_iff_append.1 hfind
    obtain rfl : name' = name := by simpa using hname
    obtain rfl : value' = some value := hvalue
    exact ⟨before, after, hsplit, fun a ha => by simpa using hbefore a ha⟩
  · rintro ⟨before, after, hsplit, hbefore⟩
    have hfirst : ∀ a ∈ before, (!(a.name == name)) = true := by
      intro a ha
      simpa using hbefore a ha
    exact ⟨⟨name, some value⟩,
      List.find?_eq_some_iff_append.2 ⟨by simp, before, after, hsplit, hfirst⟩, rfl⟩

/-- A tag is marked when the value of its first class attribute is. -/
theorem isMarked_iff {marker : String} {tag : Node} : isMarked marker (attributes tag) = true ↔
    ∃ value, IsFirstValue tag classAttribute value ∧ isMarking marker value = true := by
  unfold isMarked
  cases hvalue : attributeValue? (attributes tag) classAttribute with
  | none =>
    constructor
    · exact fun h => absurd h Bool.false_ne_true
    · rintro ⟨value, h, -⟩
      rw [attributeValue?_eq_some_iff.2 h] at hvalue
      cases hvalue
  | some value =>
    constructor
    · exact fun h => ⟨value, attributeValue?_eq_some_iff.1 hvalue, h⟩
    · rintro ⟨value', h, hmarking⟩
      rw [attributeValue?_eq_some_iff.2 h] at hvalue
      cases hvalue
      exact hmarking

/-- The value of an attribute gives the literals of its expression. -/
theorem mem_literalsOfValue {value : Node} {text : String} : text ∈ literalsOfValue value ↔
    ∃ expression, expression? value = some expression ∧ text ∈ literals expression := by
  rw [literalsOfValue_eq]
  cases expression? value with
  | none => simp
  | some expression => simp

/-- Icon properties give the literals of the values that are found for them. -/
theorem mem_propertyTexts_iff {properties : List String} {attrs : List Attribute} {text : String} :
    text ∈ propertyTexts properties attrs ↔ ∃ name ∈ properties, ∃ value,
      attributeValue? attrs name = some value ∧ text ∈ literalsOfValue value := by
  unfold propertyTexts
  rw [List.mem_flatMap]
  refine exists_congr fun name => and_congr_right fun _ => ?_
  cases attributeValue? attrs name with
  | none => simp
  | some value => simp

/-- The icon properties of a tag give the literals of their first values. -/
theorem mem_propertyTexts {properties : List String} {tag : Node} {text : String} :
    text ∈ propertyTexts properties (attributes tag) ↔ ∃ name ∈ properties, ∃ value expression,
      IsFirstValue tag name value ∧ expression? value = some expression ∧
        text ∈ literals expression := by
  simp only [mem_propertyTexts_iff, attributeValue?_eq_some_iff, mem_literalsOfValue,
    exists_and_left]

/-- The longest runs of text among children, when a run of text goes before them. -/
def runsAfter (run : List Char) (children : List Node) : List (List Char) :=
  ((children.splitOnP fun n => !isRunPart n).map (·.flatMap runPart)).modifyHead (run ++ ·)

/-- Without text before them, children have their own runs. -/
theorem map_runsAfter_nil (children : List Node) :
    (runsAfter [] children).map String.ofList = textRuns children := by
  unfold runsAfter textRuns
  cases children.splitOnP fun n => !isRunPart n with
  | nil => rfl
  | cons first rest => simp

/-- A part of a run goes to the text before the others. -/
theorem runsAfter_cons_of_part {n : Node} (h : isRunPart n = true) (run : List Char)
    (rest : List Node) : runsAfter run (n :: rest) = runsAfter (run ++ runPart n) rest := by
  unfold runsAfter
  rw [List.splitOnP_cons_eq_if_modifyHead, if_neg (by simp [h])]
  cases rest.splitOnP fun n => !isRunPart n with
  | nil => rfl
  | cons first rest => simp

/-- Any other child ends the run before it. -/
theorem runsAfter_cons_of_not_part {n : Node} (h : isRunPart n = false) (run : List Char)
    (rest : List Node) : runsAfter run (n :: rest) = run :: runsAfter [] rest := by
  unfold runsAfter
  rw [List.splitOnP_cons_eq_if_modifyHead, if_pos (by simp [h])]
  cases rest.splitOnP fun n => !isRunPart n with
  | nil => simp
  | cons first rest => simp

/-- The texts of children, given the text before them: their runs, and the literals of the
expressions among them. -/
theorem mem_childTexts_iff {text : String} {run : List Char} {children : List Node} :
    text ∈ childTexts run children ↔ text ∈ (runsAfter run children).map String.ofList ∨
      ∃ container ∈ children, container.kind = .jsxExpression ∧
        text ∈ literalsOfInner container.children := by
  induction children generalizing run with
  | nil => simp [childTexts, runsAfter]
  | cons n rest ih =>
    rw [List.exists_mem_cons_iff]
    unfold childTexts
    -- The run goes on through text and character references; anything else ends it.
    split
    · next hkind =>
      have hpart : isRunPart n = true := by simp [isRunPart, hkind]
      have htext : runPart n = n.text.toList := by simp [runPart, hkind]
      rw [ih, runsAfter_cons_of_part hpart, htext]
      simp [hkind]
    · next hkind =>
      have hpart : isRunPart n = true := by simp [isRunPart, hkind]
      have htext : runPart n = (Html.decode n.text).toList := by simp [runPart, hkind]
      rw [ih, runsAfter_cons_of_part hpart, htext]
      simp [hkind]
    · next hkind =>
      have hpart : isRunPart n = false := by simp [isRunPart, hkind]
      rw [List.cons_append, List.mem_cons, List.mem_append, ih, runsAfter_cons_of_not_part hpart,
        List.map_cons, List.mem_cons]
      tauto
    · next htext href hexpression =>
      have hpart : isRunPart n = false := by
        unfold isRunPart
        rw [decide_eq_false htext, decide_eq_false href]
        rfl
      rw [List.mem_cons, ih, runsAfter_cons_of_not_part hpart, List.map_cons, List.mem_cons]
      tauto

/-- The texts of the children of an element are those that `ChildText` speaks of. -/
theorem mem_childTexts {text : String} {children : List Node} :
    text ∈ childTexts [] children ↔ ChildText children text := by
  rw [mem_childTexts_iff, map_runsAfter_nil]
  constructor
  · rintro (h | ⟨container, hmem, hkind, h⟩)
    · exact .run h
    · rw [literalsOfInner_eq] at h
      -- Braces without an expression inside them give nothing.
      cases hinner : inner? container with
      | none =>
        rw [show container.children.find? (fun c => !isTrivia c) = none from hinner] at h
        exact absurd h List.not_mem_nil
      | some expression =>
        rw [show container.children.find? (fun c => !isTrivia c) = some expression from hinner] at h
        exact .literal hmem hkind hinner h
  · rintro (h | ⟨hmem, hkind, hinner, h⟩)
    · exact .inl h
    · refine .inr ⟨_, hmem, hkind, ?_⟩
      rw [literalsOfInner_eq, show List.find? (fun c => !isTrivia c) _ = _ from hinner]
      exact h

section Element

variable {marker : String} {properties : List String} {text : String}

/-- The texts that are found for a tag: those of the children, when the tag is marked and there are
children, and the literals of its icon properties. -/
theorem mem_tagTexts {tag : Node} {children : Option (List Node)} :
    text ∈ tagTexts marker properties tag children ↔
      (∃ cs, children = some cs ∧
        (∃ value, IsFirstValue tag classAttribute value ∧ isMarking marker value = true) ∧
          ChildText cs text) ∨
      ∃ name ∈ properties, ∃ value expression, IsFirstValue tag name value ∧
        expression? value = some expression ∧ text ∈ literals expression := by
  unfold tagTexts
  rw [List.mem_append, mem_propertyTexts]
  refine or_congr_left ?_
  rw [← isMarked_iff]
  cases children with
  | none =>
    refine iff_of_false List.not_mem_nil ?_
    rintro ⟨cs, h, -⟩
    cases h
  | some cs =>
    dsimp only
    split_ifs with hmarked
    · rw [mem_childTexts]
      simp [hmarked]
    · simp [hmarked]

/-- The texts of one element are those that are found for its tag. -/
theorem mem_elementTexts_iff {e : Node} : text ∈ elementTexts marker properties e ↔
    ∃ tag, IsTagOf tag e ∧ text ∈ tagTexts marker properties tag
      (if e.kind = .jsxElement then some e.children else none) := by
  unfold elementTexts
  constructor
  · split
    · next hkind =>
      rw [if_pos hkind]
      split
      · next tag htag => exact fun h => ⟨tag, .opening hkind htag, h⟩
      · exact fun h => absurd h List.not_mem_nil
    · next hkind =>
      rw [hkind]
      exact fun h => ⟨e, .selfClosing hkind, h⟩
    · exact fun h => absurd h List.not_mem_nil
  · rintro ⟨tag, htag, h⟩
    cases htag with
    | opening hkind htag =>
      rw [if_pos hkind] at h
      rw [hkind]
      dsimp only
      rw [htag]
      exact h
    | selfClosing hkind =>
      rw [hkind] at h ⊢
      exact h

/-- The texts of one element are those that it contributes. -/
theorem mem_elementTexts {e : Node} :
    text ∈ elementTexts marker properties e ↔ Contributes marker properties e text := by
  rw [mem_elementTexts_iff]
  constructor
  · rintro ⟨tag, htag, h⟩
    rcases mem_tagTexts.1 h with ⟨cs, hcs, ⟨value, hvalue, hmarked⟩, h⟩ |
      ⟨name, hname, value, expression, hvalue, hexpression, h⟩
    · -- Only an element with two tags has children to look at.
      split_ifs at hcs with hkind
      cases hcs
      exact .child hkind htag hvalue hmarked h
    · exact .property htag hname hvalue hexpression h
  · rintro (⟨hkind, htag, hvalue, hmarked, h⟩ | ⟨htag, hname, hvalue, hexpression, h⟩)
    · exact ⟨_, htag, mem_tagTexts.2 (.inl ⟨_, if_pos hkind, ⟨_, hvalue, hmarked⟩, h⟩)⟩
    · exact ⟨_, htag, mem_tagTexts.2 (.inr ⟨_, hname, _, _, hvalue, hexpression, h⟩)⟩

end Element

/-- An element contributes no less when more icon properties are looked for. -/
theorem Contributes.of_subset {marker : String} {properties others : List String}
    (hsub : properties ⊆ others) {e : Node} {text : String}
    (h : Contributes marker properties e text) : Contributes marker others e text := by
  cases h with
  | child hkind htag hvalue hmarked h => exact .child hkind htag hvalue hmarked h
  | property htag hname hvalue hexpression h =>
    exact .property htag (hsub hname) hvalue hexpression h

/-- In which order the icon properties are listed does not matter, nor how often each is. -/
theorem scanElements_congr {properties others : List String}
    (h : ∀ p, p ∈ others ↔ p ∈ properties) (tree : Node) (marker : String) (seed : IconSet) :
    scanElements tree marker others seed = scanElements tree marker properties seed := by
  have helement : ∀ e text, text ∈ elementTexts marker others e ↔
      text ∈ elementTexts marker properties e := by
    intro e text
    rw [mem_elementTexts, mem_elementTexts]
    exact ⟨.of_subset fun p hp => (h p).1 hp, .of_subset fun p hp => (h p).2 hp⟩
  have htree : ∀ text, text ∈ treeTexts marker others tree ↔
      text ∈ treeTexts marker properties tree := by
    intro text
    simp only [mem_treeTexts, helement]
  unfold scanElements
  refine IconSet.ext_mem fun name => ?_
  simp only [IconSet.mem_insertMany, htree]

/-- Scanning a tree leaves in the set what was in it before and what the nodes within the tree
contribute as elements, trimmed and without what is blank, and nothing else. -/
theorem mem_scanElements (tree : Node) (marker : String) (properties : List String) (seed : IconSet)
    (name : String) : name ∈ scanElements tree marker properties seed ↔
      name ∈ seed ∨ ∃ e text, Within e tree ∧ Contributes marker properties e text ∧
        name = Text.trim text ∧ name ≠ "" := by
  unfold scanElements
  rw [IconSet.mem_insertMany]
  refine or_congr_right ?_
  constructor
  · rintro ⟨⟨text, h, hname⟩, hblank⟩
    obtain ⟨e, he, h⟩ := (mem_treeTexts tree).1 h
    exact ⟨e, text, he, mem_elementTexts.1 h, hname, hblank⟩
  · rintro ⟨e, text, he, h, hname, hblank⟩
    exact ⟨⟨text, (mem_treeTexts tree).2 ⟨e, he, mem_elementTexts.2 h⟩, hname⟩, hblank⟩

end IconSubset.Extraction
