import IconSubset.Extraction.SourceFile
import IconSubset.Proofs.Extraction.Contribution
import IconSubset.Proofs.Printing.ElementTexts

/-!
# Items of a printed module

What a module for an extractor is printed from: elements that the marker of the extractor marks,
elements that it does not mark, and elements that are one tag and bear an icon property.
`Item.names` are the icon names that an item stands for, and `Item.mem_names` says that they are
what the search finds in its tree.
-/

namespace IconSubset.Printing

open Extraction
open Tsx Tsx.Constant Tsx.Shape

/-! ## Names and plain text without blanks around them -/

/-- Text without blanks is its own trim. -/
theorem trim_eq_self {cs : List Char} (h : ∀ c ∈ cs, Text.isBlank c = false) :
    Text.trim (String.ofList cs) = String.ofList cs := by
  have hdrop : ∀ ds : List Char, (∀ c ∈ ds, Text.isBlank c = false) →
      ds.dropWhile Text.isBlank = ds := by
    intro ds hds
    cases ds with
    | nil => rfl
    | cons d rest =>
      refine List.dropWhile_cons_of_neg ?_
      rw [hds d List.mem_cons_self]
      exact Bool.false_ne_true
  unfold Text.trim Text.trimChars Text.trimEnd
  rw [String.toList_ofList, hdrop cs h, hdrop cs.reverse fun c hc => h c (List.mem_reverse.1 hc),
    List.reverse_reverse]

/-- The characters of names are not blank. -/
theorem isBlank_of_isIconChar {c : Char} (h : isIconChar c = true) : Text.isBlank c = false := by
  have hpart : isNamePart c = true := by
    unfold isNamePart isNameStart Char.isAlpha
    unfold isIconChar at h
    cases hlower : c.isLower <;> cases hdigit : c.isDigit <;> simp_all
  have hblank : (!Text.isBlank c) = true :=
    imp_of_toNat_lt (p := isIconChar) (q := fun c => !Text.isBlank c) (by decide)
      (toNat_lt_of_isNamePart hpart) h
  exact Bool.not_eq_eq_eq_not.1 hblank

namespace IconName

/-- A name is its own trim. -/
theorem trim_string (n : IconName) : Text.trim n.string = n.string :=
  trim_eq_self fun c hc => isBlank_of_isIconChar (List.all_eq_true.1 n.chars c hc)

/-- A name is not empty. -/
theorem string_ne_empty (n : IconName) : n.string ≠ "" := by
  intro h
  have hlist : n.string.toList = "".toList := congrArg String.toList h
  unfold string at hlist
  rw [String.toList_ofList] at hlist
  exact n.ne_nil hlist

/-- The trims of names are the names. -/
theorem mem_map_string {names : List IconName} {name : String} :
    (∃ text ∈ names.map string, name = Text.trim text ∧ name ≠ "") ↔ name ∈ names.map string := by
  constructor
  · rintro ⟨text, htext, rfl, -⟩
    obtain ⟨n, hn, rfl⟩ := List.mem_map.1 htext
    rw [trim_string]
    exact htext
  · intro h
    obtain ⟨n, hn, rfl⟩ := List.mem_map.1 h
    exact ⟨n.string, h, n.trim_string.symm, n.string_ne_empty⟩

end IconName

/-- The name that plain text stands for: its trim, unless that is empty. -/
def PlainText.names (t : PlainText) : List String :=
  let trimmed := Text.trim (String.ofList t.text)
  if trimmed = "" then [] else [trimmed]

/-- The names that a value stands for. -/
def AttributeValue.names : AttributeValue → List String
  | string _ t => t.names
  | expression e _ => e.names.map IconName.string

/-- The names that a value stands for are the trims of its literals. -/
theorem AttributeValue.mem_names {v : AttributeValue} {name : String} :
    (∃ text ∈ v.literals, name = Text.trim text ∧ name ≠ "") ↔ name ∈ v.names := by
  cases v with
  | string quote t =>
    show (∃ text ∈ [String.ofList t.text], _) ↔ name ∈ t.names
    unfold PlainText.names
    dsimp only
    split_ifs with hempty
    · simp [hempty]
    · simp only [List.mem_singleton, exists_eq_left]
      constructor
      · exact And.left
      · rintro rfl
        exact ⟨rfl, hempty⟩
  | expression e _ => exact IconName.mem_map_string

/-- The names that content stands for. -/
def Content.names : Content → List String
  | name n => [n.string]
  | expression e _ => e.names.map IconName.string

/-- The names that content stands for are the trims of its literals. -/
theorem Content.mem_names {c : Content} {name : String} :
    (∃ text ∈ c.literals, name = Text.trim text ∧ name ≠ "") ↔ name ∈ c.names := by
  cases c with
  | name n =>
    show (∃ text ∈ [n].map IconName.string, _) ↔ name ∈ [n].map IconName.string
    exact IconName.mem_map_string
  | expression e _ => exact IconName.mem_map_string

/-! ## Items -/

/-- The name of the attribute that holds the classes of an element. -/
def className : QualifiedName :=
  .simple (.word ⟨[.plain 'c' rfl, .plain 'l' rfl, .plain 'a' rfl, .plain 's' rfl, .plain 's' rfl,
    .plain 'N' rfl, .plain 'a' rfl, .plain 'm' rfl, .plain 'e' rfl], nofun, rfl⟩)

/-- The attribute that holds the classes of an element is looked for by that name. -/
theorem ofList_className : String.ofList className.text = classAttribute := rfl

/-- The marker of a style as plain text. -/
def markerText (v : Variant) : PlainText where
  text := v.marker.toList
  chars := by cases v <;> rfl

/-- Classes that do not mark an element. -/
structure OtherClasses (x : Extractor) extends PlainText where
  /-- The marker does not occur in them. -/
  unmarked : Text.contains (String.ofList text) x.variant.marker = false

/-- An item of a module that is printed for an extractor. -/
inductive Item (x : Extractor) where
  /-- An element whose class is the marker. -/
  | marked (tag : TagName) (quote : AttributeQuote) (content : Content)
  /-- An element without classes, or with others. -/
  | unmarked (tag : TagName) (classes : Option (AttributeQuote × OtherClasses x))
      (content : Content)
  /-- An element that is one tag and bears an icon property. -/
  | bearing (tag : TagName) (property : QualifiedName)
      (hproperty : String.ofList property.text ∈ x.iconProps) (value : AttributeValue)

namespace Item

variable {x : Extractor}

/-- The element that an item is. -/
def element : Item x → Element
  | marked tag quote content =>
    .paired tag [⟨className, .string quote (markerText x.variant)⟩] content
  | unmarked tag none content => .paired tag [] content
  | unmarked tag (some (quote, classes)) content =>
    .paired tag [⟨className, .string quote classes.toPlainText⟩] content
  | bearing tag property _ value => .selfClosing tag [⟨property, value⟩]

/-- The names that classes stand for, where the project counts them among the icon properties. -/
def classNames (x : Extractor) (t : PlainText) : List String :=
  if classAttribute ∈ x.iconProps then t.names else []

/-- The names that an item stands for. -/
def names : Item x → List String
  | marked _ _ content => content.names ++ classNames x (markerText x.variant)
  | unmarked _ none _ => []
  | unmarked _ (some (_, classes)) _ => classNames x classes.toPlainText
  | bearing _ _ _ value => value.names

end Item

/-! ## What the search finds in items -/

/-- A text occurs in itself. -/
theorem contains_self (s : String) : Text.contains s s = true := by
  unfold Text.contains
  cases hcs : s.toList with
  | nil => rfl
  | cons c rest =>
    rw [Text.occursIn, List.isPrefixOf_iff_prefix.2 List.prefix_rfl, Bool.true_or]

/-- Without attributes no icon property gives anything. -/
theorem propertyTexts_nil (properties : List String) : propertyTexts properties [] = [] := by
  unfold propertyTexts
  rw [List.flatMap_eq_nil_iff]
  exact fun _ _ => rfl

/-- An attribute gives its literals when it is an icon property. -/
theorem mem_propertyTexts_found {found : Extraction.Attribute} {a : Attribute} (h : Found found a)
    (properties : List String) (text : String) : text ∈ propertyTexts properties [found] ↔
      String.ofList a.name.text ∈ properties ∧ text ∈ a.value.literals := by
  obtain ⟨start, rfl⟩ := h
  have hvalue : ∀ name, attributeValue? [⟨String.ofList a.name.text,
      some (a.value.shape.node start)⟩] name =
        if String.ofList a.name.text = name then some (a.value.shape.node start) else none := by
    intro name
    unfold attributeValue?
    by_cases hname : String.ofList a.name.text = name
    · rw [if_pos hname, List.find?_cons_of_pos (by simpa using hname)]
      rfl
    · rw [if_neg hname, List.find?_cons_of_neg (by simpa using hname)]
      rfl
  rw [mem_propertyTexts_iff]
  constructor
  · rintro ⟨name, hname, value, hfound, htext⟩
    rw [hvalue, Option.ite_none_right_eq_some] at hfound
    obtain ⟨rfl, hsome⟩ := hfound
    obtain rfl := Option.some.inj hsome
    rw [a.value.literalsOfValue_node] at htext
    exact ⟨hname, htext⟩
  · rintro ⟨hname, htext⟩
    refine ⟨_, hname, _, (hvalue _).trans (if_pos rfl), ?_⟩
    rwa [a.value.literalsOfValue_node]

/-- Classes mark an element when the marker occurs in them. -/
theorem isMarked_found {found : Extraction.Attribute} {quote : AttributeQuote} {t : PlainText}
    (h : Found found ⟨className, .string quote t⟩) (marker : String) :
    isMarked marker [found] = Text.contains (String.ofList t.text) marker := by
  obtain ⟨start, rfl⟩ := h
  exact AttributeValue.isMarking_node marker quote t start

/-- The texts that are found in the tree of an item. -/
def Item.textsAt {x : Extractor} (item : Item x) (start : Syntax.Position) : List String :=
  forestTexts x.variant.marker x.iconProps (item.element.shape.nodes start)

/-- Classes stand for their names where they are found as an icon property. -/
theorem mem_classNames {x : Extractor} {found : Extraction.Attribute} {quote : AttributeQuote}
    {t : PlainText} (h : Found found ⟨className, .string quote t⟩) (name : String) :
    (∃ text ∈ propertyTexts x.iconProps [found], name = Text.trim text ∧ name ≠ "") ↔
      name ∈ Item.classNames x t := by
  have hvalue : (∃ text ∈ (AttributeValue.string quote t).literals,
      name = Text.trim text ∧ name ≠ "") ↔ name ∈ t.names := AttributeValue.mem_names
  simp only [mem_propertyTexts_found h, ofList_className]
  unfold Item.classNames
  split_ifs with hclass
  · rw [← hvalue]
    simp [hclass]
  · simp [hclass]

/-- The names that are found in the tree of an item are those for which the item stands. -/
theorem Item.mem_names {x : Extractor} (item : Item x) (start : Syntax.Position) (name : String) :
    (∃ text ∈ item.textsAt start, name = Text.trim text ∧ name ≠ "") ↔ name ∈ item.names := by
  unfold Item.textsAt
  cases item with
  | marked tag quote content =>
    obtain ⟨found, hfound, htexts⟩ := mem_texts_paired x.variant.marker x.iconProps tag
      [⟨className, .string quote (markerText x.variant)⟩] content start
    obtain ⟨f, rfl, hf⟩ := exists_found hfound
    have hmarked : isMarked x.variant.marker [f] = true := by
      rw [isMarked_found hf]
      show Text.contains (String.ofList x.variant.marker.toList) _ = true
      rw [String.ofList_toList, contains_self]
    show _ ↔ name ∈ content.names ++ classNames x (markerText x.variant)
    rw [List.mem_append, ← Content.mem_names, ← mem_classNames hf name]
    constructor
    · rintro ⟨text, htext, hname, hne⟩
      rcases (htexts text).1 htext with ⟨-, rfl | htext⟩ | htext
      · exact absurd hname hne
      · exact .inl ⟨text, htext, hname, hne⟩
      · exact .inr ⟨text, htext, hname, hne⟩
    · rintro (⟨text, htext, hname⟩ | ⟨text, htext, hname⟩)
      · exact ⟨text, (htexts text).2 (.inl ⟨hmarked, .inr htext⟩), hname⟩
      · exact ⟨text, (htexts text).2 (.inr htext), hname⟩
  | unmarked tag classes content =>
    cases classes with
    | none =>
      obtain ⟨found, hfound, htexts⟩ := mem_texts_paired x.variant.marker x.iconProps tag [] content
        start
      obtain rfl := List.forall₂_nil_right_iff.1 hfound
      refine iff_of_false ?_ List.not_mem_nil
      rintro ⟨text, htext, -⟩
      rcases (htexts text).1 htext with ⟨hmarked, -⟩ | htext
      · exact Bool.false_ne_true hmarked
      · rw [propertyTexts_nil] at htext
        exact absurd htext List.not_mem_nil
    | some classes =>
      obtain ⟨quote, classes⟩ := classes
      obtain ⟨found, hfound, htexts⟩ := mem_texts_paired x.variant.marker x.iconProps tag
        [⟨className, .string quote classes.toPlainText⟩] content start
      obtain ⟨f, rfl, hf⟩ := exists_found hfound
      have hunmarked : isMarked x.variant.marker [f] = false := by
        rw [isMarked_found hf]
        exact classes.unmarked
      show _ ↔ name ∈ classNames x classes.toPlainText
      rw [← mem_classNames hf name]
      refine exists_congr fun text => and_congr_left fun _ => (htexts text).trans ?_
      rw [hunmarked]
      exact or_iff_right fun h => Bool.false_ne_true h.1
  | bearing tag property hproperty value =>
    obtain ⟨found, hfound, htexts⟩ := mem_texts_selfClosing x.variant.marker x.iconProps tag
      [⟨property, value⟩] start
    obtain ⟨f, rfl, hf⟩ := exists_found hfound
    show _ ↔ name ∈ value.names
    rw [← AttributeValue.mem_names]
    refine exists_congr fun text => and_congr_left fun _ => (htexts text).trans ?_
    rw [mem_propertyTexts_found hf]
    exact and_iff_right hproperty

end IconSubset.Printing
