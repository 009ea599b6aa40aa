import IconSubset.Proofs.IconSet.Membership
import IconSubset.Proofs.Printing.Item
import IconSubset.Proofs.Printing.Module

/-!
# Printed modules and their icons

A module that is printed from items is well formed, and its icons are the names for which the items
stand: printing and then extracting neither loses a name nor invents one (`extract_source`). Two
words that are not reserved are an exception: `using` cannot stand for an identifier
(`extract_using`), nor can `override` be called on the left of an operator.

The module is read back as its shape (`shape?_moduleText`). The nodes around the items contribute
nothing (`forestTexts_module`), and each item contributes its names (`Item.mem_names`).
-/

namespace IconSubset.Printing

open Extraction
open Syntax (Kind Node firstFault)
open Tsx Tsx.Constant Tsx.Shape

/-! ## Faults -/

/-- There are no errors in an element. -/
theorem Element.allKinds_ne_error (x : Element) : x.shape.allKinds (· ≠ .error) = true := by
  have hinert : ∀ ss, allKindsOfAll isInert ss = true → allKindsOfAll (· ≠ .error) ss = true :=
    allKindsOfAll_imp ne_error_of_isInert
  cases x with
  | paired tag attributes c =>
    refine hinert _ ?_
    simp only [allKindsOfAll, allKinds_openingShape, allKinds_closingShape, c.allKinds_shape,
      Bool.and_true]
  | selfClosing tag attributes =>
    refine hinert _ ?_
    simp only [allKindsOfAll, allKindsOfAll_append, List.cons_append, allKinds_markShape,
      allKinds_spaceShape, tag.allKinds_shape, allKinds_attributes, Bool.and_true]

/-- There are no errors in a module. -/
theorem allKinds_moduleShape (elements : List Element) :
    (moduleShape elements).allKinds (· ≠ .error) = true := by
  have helements : allKindsOfAll (· ≠ .error) (elements.map Element.shape) = true := by
    induction elements with
    | nil => rfl
    | cons x rest ih => rw [List.map_cons, allKindsOfAll, x.allKinds_ne_error, ih]; rfl
  simp only [moduleShape, fragmentShape, allKinds, allKindsOfAll, allKindsOfAll_append,
    allKinds_withRole, List.cons_append, helements, Bool.and_true]
  rfl

/-! ## Texts -/

section Texts

variable (marker : String) (properties : List String)

/-- A module gives what its elements give. -/
theorem forestTexts_module (elements : List Element) : ∃ start,
    forestTexts marker properties ((moduleShape elements).nodes 0) =
      forestTexts marker properties (nodesOfAll start (elements.map Element.shape)) := by
  obtain ⟨start, hvalue⟩ := forestTexts_constant marker properties
    (fragmentShape (elements.map Element.shape))
  obtain ⟨start', htexts⟩ := forestTexts_fragment marker properties
    (elements.map Element.shape) .value start
  exact ⟨start', hvalue.trans htexts⟩

end Texts

/-! ## The icons of a module -/

variable {x : Extractor}

/-- The module that is printed from items. -/
def source (items : List (Item x)) : String :=
  String.ofList (moduleText (items.map Item.element))

/-- The names that are found in the trees of items are those for which the items stand. -/
theorem mem_names_items : ∀ (items : List (Item x)) (start : Syntax.Position) (name : String),
    (∃ text ∈ forestTexts x.variant.marker x.iconProps
        (nodesOfAll start ((items.map Item.element).map Element.shape)),
      name = Text.trim text ∧ name ≠ "") ↔ ∃ item ∈ items, name ∈ item.names
  | [], start, name => by
    simp [nodesOfAll, forestTexts]
  | item :: rest, start, name => by
    rw [List.map_cons, List.map_cons, nodesOfAll, forestTexts_append, List.exists_mem_cons_iff,
      ← item.mem_names start, ← mem_names_items rest]
    simp only [List.mem_append, or_and_right, exists_or]
    rfl

/-- A module that is printed from items is well formed, and its icons are exactly the names for
which the items stand. -/
theorem extract_source (items : List (Item x)) : ∃ found, x.extract (source items) = .ok found ∧
    ∀ name, name ∈ found ↔ ∃ item ∈ items, name ∈ item.names := by
  have hshape := shape?_moduleText (items.map Item.element)
  have htree : Tsx.tree (source items) = (moduleShape (items.map Item.element)).node 0 := by
    unfold Tsx.tree Constant.tree? source
    rw [String.toList_ofList, hshape]
    rfl
  have hfault : ∀ cs, firstFault cs ((moduleShape (items.map Item.element)).node 0) = none := by
    intro cs
    refine Syntax.firstFault_eq_none cs _ fun e he => ?_
    obtain ⟨hmissing, hkind⟩ := kind_of_within _ (allKinds_moduleShape (items.map Item.element)) _
      (List.mem_singleton_self _) e he
    exact ⟨hmissing, of_decide_eq_true hkind⟩
  refine ⟨scanElements ((moduleShape (items.map Item.element)).node 0) x.variant.marker x.iconProps
    .empty, ?_, fun name => ?_⟩
  -- The module is accepted.
  · unfold Extractor.extract Tsx.parse
    rw [htree]
    dsimp only
    rw [hfault]
  -- Its icons are those of the items.
  · obtain ⟨start, htexts⟩ := forestTexts_module x.variant.marker x.iconProps
      (items.map Item.element)
    have hnode : forestTexts x.variant.marker x.iconProps
        ((moduleShape (items.map Item.element)).nodes 0) = treeTexts x.variant.marker x.iconProps
          ((moduleShape (items.map Item.element)).node 0) := by
      rw [nodes_eq rfl, forestTexts, forestTexts, List.append_nil]
    rw [← mem_names_items items start name, ← htexts, hnode]
    unfold scanElements
    rw [IconSet.mem_insertMany]
    constructor
    · rintro (hempty | ⟨⟨text, htext, hname⟩, hne⟩)
      · exact absurd hempty IconSet.not_mem_empty
      · exact ⟨text, htext, hname, hne⟩
    · rintro ⟨text, htext, hname, hne⟩
      exact .inr ⟨⟨text, htext, hname⟩, hne⟩

/-- With `using` in the place of an identifier a module is refused, though the word is not
reserved. -/
theorem extract_using : reservedWords.contains "using" = false ∧
    (⟨.rounded, []⟩ : Extractor).extract
      "const x = <><i className=\"material-symbols-rounded\">\x7busing\x7d</i></>;" =
        .error (.unexpected ⟨1, 54⟩ "using") := by
  refine ⟨by decide, ?_⟩
  decide +kernel

/-- What is printed of two items, one of which is marked. -/
example :
    let tag : TagName := .name (.simple (.word ⟨[.plain 'i' rfl], nofun, rfl⟩)) rfl
    let on : Word := ⟨[.plain 'o' rfl, .plain 'n' rfl], nofun, rfl⟩
    let home : IconName := ⟨"home".toList, nofun, rfl⟩
    let menu : IconName := ⟨"menu_2".toList, nofun, rfl⟩
    let items : List (Item ⟨.rounded, ["on"]⟩) :=
      [ .marked tag .double (.name home),
        .bearing tag (.simple (.word on)) (by decide)
          (.expression (.conditional ⟨on, rfl⟩ (.name .single home) (.name .backtick menu)) rfl) ]
    source items = "const x = <><i className=\"material-symbols-rounded\">home</i>" ++
      "<i on=\x7b(on ? 'home' : `menu_2`)\x7d /></>;" := by
  decide

end IconSubset.Printing
