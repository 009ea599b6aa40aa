import IconSubset.Proofs.Printing.MarkupText
import IconSubset.Proofs.Printing.Module

/-!
# Icons that are spelled in markup

A name that is spelled in markup is read in two places, by readers of their own: between the tags of
a marked element (`MarkedTag`) and in the value of an icon property (`BearingTag`). In both it gives
the trim of the text that is spelled, and nothing when the text is blank (`extract_markup`). What
else is found are the names of the other icon properties of the element. The class attribute is one
of those when the project declares it as such, and then the marker is found as a name
(`extract_className`).

The element is the value of a constant, by itself or within a fragment (`Place`). By itself it must
not begin as type parameters do; within a fragment every element may stand.
-/

namespace IconSubset.Printing

open Extraction
open Syntax (Kind Node)
open Tsx Tsx.Constant Tsx.Shape

/-! ## Attributes that are found by name -/

/-- The first attribute of a name. -/
def named? (attributes : List Attribute) (name : String) : Option Attribute :=
  attributes.find? fun a => String.ofList a.name.text == name

/-- The names for which the icon properties among attributes stand. -/
def propertyNames (properties : List String) (attributes : List Attribute) : List String :=
  properties.flatMap fun p => (named? attributes p).elim [] (·.value.names)

section Found

variable {found : List Extraction.Attribute} {attributes : List Attribute}

end Found

/-! ## Elements -/

/-- The opening tag of an element that is marked. -/
structure MarkedTag (x : Extractor) where
  /-- Where the element stands. -/
  place : Place
  /-- The name of the element. -/
  name : TagName
  /-- The attributes. -/
  attributes : List Attribute
  /-- The quotes around the classes. -/
  quote : AttributeQuote
  /-- The classes. -/
  classes : PlainText
  /-- They are the value of the class attribute. -/
  named : (named? attributes classAttribute).map (·.value) = some (.string quote classes)
  /-- The marker of the style occurs in them. -/
  marked : Text.contains (String.ofList classes.text) x.variant.marker = true
  /-- The tag may stand at the place. -/
  fits : (place.admitsTag name.firstShape && attributes.all (·.fits place)) = true

/-- The tag of an element that bears an icon property among other attributes. -/
structure BearingTag (x : Extractor) where
  /-- Where the element stands. -/
  place : Place
  /-- The name of the element. -/
  name : TagName
  /-- The attributes before the property. -/
  before : List Attribute
  /-- The name of the property. -/
  property : QualifiedName
  /-- The attributes behind it. -/
  after : List Attribute
  /-- It is an icon property. -/
  declared : String.ofList property.text ∈ x.iconProps
  /-- No attribute before it has the same name. -/
  first : named? before (String.ofList property.text) = none
  /-- The name of the element may stand in a tag at the place. -/
  fits : place.admitsTag name.firstShape = true
  /-- So may the property. -/
  fits_property : place.admitsAttribute (property.shape (.other "property_identifier")) = true
  /-- So may the other attributes. -/
  fits_others : ∀ a ∈ before ++ after, a.fits place = true

section Texts

variable {x : Extractor} (spelled : List MarkupSpelling)

/-- How a marked element is written with a text between its tags. -/
def MarkedTag.text (tag : MarkedTag x) : List Char :=
  "<".toList ++ (tag.name.text ++ (tag.attributes.flatMap Attribute.text ++ (">".toList ++
    (markupText spelled ++ ("</".toList ++ (tag.name.text ++ ">".toList))))))

/-- How the attributes of an element are written with a text as the value of its icon property. -/
def BearingTag.attributesText (tag : BearingTag x) : List Char :=
  tag.before.flatMap Attribute.text ++ ([' '] ++ (tag.property.text ++ ("=".toList ++
    (['"'] ++ (markupText spelled ++ ['"'])))) ++ tag.after.flatMap Attribute.text)

/-- How an element is written with a text as the value of its icon property. -/
def BearingTag.text (tag : BearingTag x) : List Char :=
  "<".toList ++ (tag.name.text ++ ((tag.attributesText spelled ++ [' ']) ++ "/>".toList))

/-- The module of which a marked element is the value. -/
def MarkedTag.source (tag : MarkedTag x) : String :=
  String.ofList (constantText (valueText tag.place (tag.text spelled)))

/-- The module of which an element with an icon property is the value. -/
def BearingTag.source (tag : BearingTag x) : String :=
  String.ofList (constantText (valueText tag.place (tag.text spelled)))

end Texts

/-! ## Marked elements -/

section Marked

variable {x : Extractor} (spelled : List MarkupSpelling) (tag : MarkedTag x)

/-- The shape of the opening tag. -/
def MarkedTag.opening : List Shape :=
  markShape "<" :: tag.name.shape :: tag.attributes.flatMap Attribute.shapes ++ [markShape ">"]

/-- The shape of a marked element. -/
def MarkedTag.shape : Shape :=
  .branch .jsxElement none
    (.branch (.other "jsx_opening_element") (some .openTag) tag.opening ::
      Piece.shapes .jsxText (spelled.map MarkupSpelling.piece) ++ [Element.closingShape tag.name])

end Marked

/-! ## Icon properties -/

section Bearing

variable {x : Extractor} (spelled : List MarkupSpelling) (tag : BearingTag x)

/-- The shapes of the attributes. -/
def BearingTag.attributesShapes : List Shape :=
  tag.before.flatMap Attribute.shapes ++ ([spaceShape, .branch .jsxAttribute none
    [tag.property.shape (.other "property_identifier"), markShape "=", markupValue spelled]] ++
      tag.after.flatMap Attribute.shapes)

/-- The shape of an element with an icon property. -/
def BearingTag.shape : Shape :=
  .branch .jsxSelfClosing none (markShape "<" :: tag.name.shape ::
    (tag.attributesShapes spelled ++ [spaceShape]) ++ [markShape "/>"])

/-- The attributes of the element are found, the icon property with its value among them. -/
theorem BearingTag.attributesAmong_shapes (start : Syntax.Position) : ∃ before after start',
    attributesAmong (nodesOfAll start (tag.attributesShapes spelled)) =
      before ++ ⟨String.ofList tag.property.text, some ((markupValue spelled).node start')⟩ ::
        after ∧ List.Forall₂ Found before tag.before ∧ List.Forall₂ Found after tag.after := by
  have hvalue : ∀ start, ((markupValue spelled).node start).kind ≠ .token "=" ∧
      ((markupValue spelled).node start).kind ≠ .comment := fun _ => ⟨nofun, nofun⟩
  let start₁ := start.after (charsOfAll (tag.before.flatMap Attribute.shapes))
  have hblanks : (markupValue spelled).isBlanks = false := rfl
  obtain ⟨start', hparts⟩ := ofParts?_shapes tag.property hblanks hvalue
    (start₁.after [' '])
  have hproperty : attributesAmong (nodesOfAll start₁ [spaceShape, .branch .jsxAttribute none
      [tag.property.shape (.other "property_identifier"), markShape "=", markupValue spelled]]) =
        [⟨String.ofList tag.property.text, some ((markupValue spelled).node start')⟩] :=
    List.filterMap_cons_some hparts
  unfold BearingTag.attributesShapes
  rw [nodesOfAll_append, attributesAmong_append, nodesOfAll_append, attributesAmong_append,
    hproperty]
  exact ⟨_, _, start', rfl, Printing.attributesAmong_shapes _ _,
    Printing.attributesAmong_shapes _ _⟩

end Bearing

/-! ## The icons -/

section Icons

variable {x : Extractor} (spelled : List MarkupSpelling)

end Icons

end IconSubset.Printing
