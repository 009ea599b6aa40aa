import IconSubset.Extraction.SourceFile
import IconSubset.Proofs.Extraction.Resolution
import IconSubset.Proofs.Syntax.FirstFault

/-!
# What the icon properties of a source give

An attribute of an element is found by its name, and of several with the same name the first. So the
icons of a source are all that the first attribute of each icon property resolves to, and what
marked elements hold, and nothing else (`mem_extract_iff_first`). What is written in a second
attribute of a name is lost, although it is the one that counts when the program runs
(`extract_repeated_attribute`).

Attributes are told here by what stands in the tag (`IsAttribute`, `HasValue`), and the search for a
name is brought back to it by `isFirstValue_iff`.
-/

namespace IconSubset.Extraction

open Syntax

/-- What an attribute is made of, apart from its equals sign and comments. -/
def attributeParts (attr : Node) : List Node :=
  attr.children.filter fun n => n.kind ≠ .token "=" ∧ n.kind ≠ .comment

/-- A child of a tag is an attribute of that name, with a value or without. -/
def IsAttribute (name : String) (n : Node) : Prop :=
  n.kind = .jsxAttribute ∧ ∃ first rest, attributeParts n = first :: rest ∧ first.text = name

/-- The value of an attribute is what follows its name. -/
def HasValue (attr value : Node) : Prop :=
  ∃ name rest, attributeParts attr = name :: value :: rest

/-- The value of an attribute resolves to a text. -/
def GivesText (attr : Node) (text : String) : Prop :=
  ∃ value expression, HasValue attr value ∧ expression? value = some expression ∧
    Resolves expression text

/-- An attribute stands in the tag of an element of a tree, behind these other parts of the tag. -/
def StandsIn (tree : Node) (before : List Node) (attr : Node) : Prop :=
  ∃ element tag after, Within element tree ∧ IsTagOf tag element ∧
    tag.children = before ++ attr :: after

/-- A text that the children of a marked element of a tree give. -/
def MarkedText (marker : String) (tree : Node) (text : String) : Prop :=
  ∃ element tag value, Within element tree ∧ element.kind = .jsxElement ∧ IsTagOf tag element ∧
    IsFirstValue tag classAttribute value ∧ isMarking marker value = true ∧
      ChildText element.children text

/-- A text that the first attribute of an icon property gives in an element of a tree. -/
def PropertyText (properties : List String) (tree : Node) (text : String) : Prop :=
  ∃ before attr, StandsIn tree before attr ∧ ∃ name ∈ properties,
    IsAttribute name attr ∧ (∀ n ∈ before, ¬IsAttribute name n) ∧ GivesText attr text

/-! ## Attributes in tags -/

section Tag

variable {name : String}

/-- What is read of a child of a tag. -/
def attribute? (n : Node) : Option Attribute :=
  if n.kind = .jsxAttribute then Attribute.ofParts? n.children else none

/-- An attribute is read from a child exactly when the child is an attribute of that name, and its
value is the one that the child has. -/
theorem attribute?_eq_some_iff {n value : Node} :
    attribute? n = some ⟨name, some value⟩ ↔ IsAttribute name n ∧ HasValue n value := by
  unfold attribute? IsAttribute HasValue Attribute.ofParts?
  rw [show (n.children.filter fun n => n.kind ≠ .token "=" ∧ n.kind ≠ .comment) =
    attributeParts n from rfl]
  by_cases hkind : n.kind = .jsxAttribute
  · rw [if_pos hkind]
    rcases attributeParts n with _ | ⟨first, _ | ⟨second, rest⟩⟩
    · simp
    · simp
    · simp [hkind]
  · simp [hkind]

/-- A child that is an attribute is read as one of its name. -/
theorem exists_attribute?_iff {n : Node} :
    (∃ value?, attribute? n = some ⟨name, value?⟩) ↔ IsAttribute name n := by
  unfold attribute? IsAttribute Attribute.ofParts?
  rw [show (n.children.filter fun n => n.kind ≠ .token "=" ∧ n.kind ≠ .comment) =
    attributeParts n from rfl]
  by_cases hkind : n.kind = .jsxAttribute
  · rw [if_pos hkind]
    rcases attributeParts n with _ | ⟨first, _ | ⟨second, rest⟩⟩
    · simp
    · simp [hkind]
    · simp [hkind]
  · simp [hkind]

/-- No attribute of a name is read from children none of which is one. -/
theorem forall_filterMap_iff {ns : List Node} :
    (∀ a ∈ ns.filterMap attribute?, a.name ≠ name) ↔ ∀ n ∈ ns, ¬IsAttribute name n := by
  constructor
  · intro h n hn hname
    obtain ⟨value?, hread⟩ := exists_attribute?_iff.2 hname
    exact h _ (List.mem_filterMap.2 ⟨n, hn, hread⟩) rfl
  · rintro h ⟨name', value?⟩ ha rfl
    obtain ⟨n, hn, hread⟩ := List.mem_filterMap.1 ha
    exact h n hn (exists_attribute?_iff.1 ⟨value?, hread⟩)

/-- The first value of a name in a tag is that of an attribute of the name before which none of the
name stands. -/
theorem isFirstValue_iff {tag value : Node} : IsFirstValue tag name value ↔
    ∃ before attr after, tag.children = before ++ attr :: after ∧
      IsAttribute name attr ∧ HasValue attr value ∧
        ∀ n ∈ before, ¬IsAttribute name n := by
  have hattributes : attributes tag = tag.children.filterMap attribute? := rfl
  unfold IsFirstValue
  rw [hattributes]
  constructor
  · rintro ⟨first, others, hsplit, hfirst⟩
    obtain ⟨left, right, hchildren, rfl, hright⟩ := List.filterMap_eq_append_iff.1 hsplit
    obtain ⟨passed, attr, after, rfl, hpassed, hread, -⟩ :=
      List.filterMap_eq_cons_iff.1 hright
    obtain ⟨hname, hvalue⟩ := attribute?_eq_some_iff.1 hread
    refine ⟨left ++ passed, attr, after, ?_, hname, hvalue, fun n hn => ?_⟩
    · rw [hchildren, List.append_assoc]
    · rcases List.mem_append.1 hn with hn | hn
      · exact forall_filterMap_iff.1 hfirst n hn
      · intro hother
        obtain ⟨value?, hother⟩ := exists_attribute?_iff.2 hother
        rw [hpassed n hn] at hother
        cases hother
  · rintro ⟨before, attr, after, hchildren, hname, hvalue, hfirst⟩
    have hread := attribute?_eq_some_iff.2 ⟨hname, hvalue⟩
    refine ⟨before.filterMap attribute?, after.filterMap attribute?, ?_,
      forall_filterMap_iff.2 hfirst⟩
    rw [hchildren, List.filterMap_append, List.filterMap_cons_some hread]

end Tag

/-! ## The icons of a source -/

/-- What the elements of a tree contribute is what marked elements hold and what the first
attributes of icon properties give. -/
theorem exists_contributes_iff {marker : String} {properties : List String} {tree : Node}
    {text : String} :
    (∃ element, Within element tree ∧ Contributes marker properties element text) ↔
      MarkedText marker tree text ∨ PropertyText properties tree text := by
  constructor
  · rintro ⟨element, helement, hkind, htag, hvalue, hmarked, h⟩
    · exact .inl ⟨element, _, _, helement, hkind, htag, hvalue, hmarked, h⟩
    · next tag value expression name htag hname hfirst hexpression h =>
      obtain ⟨before, attr, after, hchildren, hattribute, hvalue, hbefore⟩ :=
        isFirstValue_iff.1 hfirst
      exact .inr ⟨before, attr, ⟨element, tag, after, helement, htag, hchildren⟩, name, hname,
        hattribute, hbefore, value, expression, hvalue, hexpression, resolves_of_mem_literals _ h⟩
  · rintro (⟨element, tag, value, helement, hkind, htag, hvalue, hmarked, h⟩ |
      ⟨before, attr, ⟨element, tag, after, helement, htag, hchildren⟩, name, hname, hattribute,
        hbefore, value, expression, hvalue, hexpression, h⟩)
    · exact ⟨element, helement, .child hkind htag hvalue hmarked h⟩
    · have hfirst : IsFirstValue tag name value :=
        isFirstValue_iff.2 ⟨before, attr, after, hchildren, hattribute, hvalue, hbefore⟩
      exact ⟨element, helement, .property htag hname hfirst hexpression
        (mem_literals_of_resolves h)⟩

/-- The icons of an accepted source are those of its tree. -/
theorem eq_scanElements_of_extract {e : Extractor} {source : String} {icons : IconSet}
    (h : e.extract source = .ok icons) :
    icons = scanElements (Tsx.tree source) e.variant.marker e.iconProps .empty := by
  unfold Extractor.extract Tsx.parse at h
  cases hfault : Syntax.firstFault source.toList (Tsx.tree source) with
  | none =>
    simp only [hfault] at h
    exact (Except.ok.inj h).symm
  | some fault =>
    simp only [hfault] at h
    cases h

/-- The icons of an accepted source are the trims of the texts that are not blank among what its
marked elements hold and what the first attribute of each icon property resolves to in each of its
elements. So no attribute of an icon property is lost before which none of the same name stands in
its tag, and nothing is taken from an attribute before which one does. -/
theorem mem_extract_iff_first {e : Extractor} {source : String} {icons : IconSet}
    (h : e.extract source = .ok icons) (icon : String) :
    icon ∈ icons ↔ icon ≠ "" ∧ ∃ text, icon = Text.trim text ∧
      (MarkedText e.variant.marker (Tsx.tree source) text ∨
        PropertyText e.iconProps (Tsx.tree source) text) := by
  have hmem : icon ∈ icons ↔ (∃ text ∈ treeTexts e.variant.marker e.iconProps (Tsx.tree source),
      icon = Text.trim text) ∧ icon ≠ "" := by
    rw [eq_scanElements_of_extract h, scanElements, IconSet.mem_insertMany]
    exact or_iff_right IconSet.not_mem_empty
  rw [hmem, and_comm]
  refine and_congr_right fun _ => exists_congr fun text => ?_
  rw [mem_treeTexts, and_comm, ← exists_contributes_iff]
  simp only [mem_elementTexts]

/-- From two attributes of one name the icon of the first is taken. -/
theorem mem_extract_iff_first_menu :
    (⟨.rounded, ["leftIcon"]⟩ : Extractor).extract
      "const a = <Icon leftIcon=\"home\" leftIcon=\"menu\" />;" = .ok (.ofList ["home"]) ∧
    ∃ text, "home" = Text.trim text ∧
      (MarkedText Variant.rounded.marker
          (Tsx.tree "const a = <Icon leftIcon=\"home\" leftIcon=\"menu\" />;") text ∨
        PropertyText ["leftIcon"]
          (Tsx.tree "const a = <Icon leftIcon=\"home\" leftIcon=\"menu\" />;") text) := by
  have hextract : (⟨.rounded, ["leftIcon"]⟩ : Extractor).extract
      "const a = <Icon leftIcon=\"home\" leftIcon=\"menu\" />;" = .ok (.ofList ["home"]) := by
    decide +kernel
  exact ⟨hextract, ((mem_extract_iff_first hextract "home").1 List.mem_cons_self).2⟩

/-! ## Repeated attributes -/

/-- What an address leads to stands in the tree. -/
theorem within_of_at? {e : Node} (address : List Nat) {n : Node} (h : n.at? address = some e) :
    Within e n := by
  induction address generalizing n with
  | nil =>
    obtain rfl : n = e := Option.some.inj h
    exact .self
  | cons i address ih =>
    obtain ⟨c, hc, h⟩ := Node.exists_child_of_at? h
    exact .child (List.mem_of_getElem? hc) (ih h)

/-- An attribute `leftIcon` at a byte of the first row that is set to a quoted text. -/
def iconAttribute (start : Nat) (text : String) : Node :=
  .mk .jsxAttribute none ⟨start, 0⟩ ("leftIcon=\"" ++ text ++ "\"") false
    [ .mk (.other "property_identifier") none ⟨start, 0⟩ "leftIcon" false [],
      .mk (.token "=") none ⟨start + 8, 0⟩ "=" false [],
      .mk .string none ⟨start + 9, 0⟩ ("\"" ++ text ++ "\"") false
        [ .mk (.token "\"") none ⟨start + 9, 0⟩ "\"" false [],
          .mk .stringFragment none ⟨start + 10, 0⟩ text false [],
          .mk (.token "\"") none ⟨start + 10 + text.length, 0⟩ "\"" false [] ] ]

/-- An attribute that is set to a text gives the text. -/
theorem givesText_iconAttribute (start : Nat) (text : String) :
    GivesText (iconAttribute start text) text := by
  have hresolves : ∀ n : Node, n.kind = .string → Syntax.stringText n.children = text →
      Resolves n text := by
    rintro n hkind rfl
    exact .string hkind
  refine ⟨_, _, ⟨_, _, rfl⟩, rfl, hresolves _ rfl ?_⟩
  simp [Syntax.stringText, Syntax.partText, Node.children, Node.kind, Node.text]

/-- The icon of a second attribute of a name is not among the icons of a source, though its value
resolves to it. -/
theorem extract_repeated_attribute :
    (⟨.rounded, ["leftIcon"]⟩ : Extractor).extract
      "const a = <Icon leftIcon=\"home\" leftIcon=\"menu\" />;" = .ok (.ofList ["home"]) ∧
    (∃ before attr, StandsIn
        (Tsx.tree "const a = <Icon leftIcon=\"home\" leftIcon=\"menu\" />;") before attr ∧
      IsAttribute "leftIcon" attr ∧ GivesText attr "menu") ∧
    Text.trim "menu" ≠ "" ∧ Text.trim "menu" ∉ IconSet.ofList ["home"] := by
  have helement :
      (Tsx.tree "const a = <Icon leftIcon=\"home\" leftIcon=\"menu\" />;").at? [0, 1, 2] =
      some (.mk .jsxSelfClosing (some .value) 10
        "<Icon leftIcon=\"home\" leftIcon=\"menu\" />" false
        [ .mk (.token "<") none 10 "<" false [],
          .mk (.other "identifier") none 11 "Icon" false [],
          iconAttribute 16 "home", iconAttribute 32 "menu",
          .mk (.token "/>") none 48 "/>" false [] ]) := by
    decide +kernel
  have hstands : StandsIn (Tsx.tree "const a = <Icon leftIcon=\"home\" leftIcon=\"menu\" />;")
      [ .mk (.token "<") none 10 "<" false [], .mk (.other "identifier") none 11 "Icon" false [],
        iconAttribute 16 "home" ] (iconAttribute 32 "menu") :=
    ⟨_, _, _, within_of_at? _ helement, .selfClosing rfl, rfl⟩
  have hlost : "menu" ∉ (IconSet.ofList ["home"]).names := by decide
  exact ⟨by decide +kernel,
    ⟨_, _, hstands, ⟨rfl, _, _, rfl, rfl⟩, givesText_iconAttribute 32 "menu"⟩,
    by decide, hlost⟩

end IconSubset.Extraction
