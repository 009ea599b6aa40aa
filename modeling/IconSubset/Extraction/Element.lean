import IconSubset.Extraction.Marking
import IconSubset.IconSet

/-!
# The icons that elements name

An element names icons in two ways. When its class attribute marks it, each run of text among its
children is a name, and each expression among them gives names. And whatever its class, the
attributes that the project declares as icon properties give names. Every element of a tree is asked
on its own, however deep it lies.
-/

namespace IconSubset.Extraction

open Syntax

/-- An attribute of an element; one that is written without a value has none. -/
structure Attribute where
  /-- The name. -/
  name : String
  /-- The value. -/
  value? : Option Node
deriving Repr, Inhabited

/-- The attribute with these parts, the name first and the value next. -/
def Attribute.ofParts? (parts : List Node) : Option Attribute :=
  match parts.filter fun n => n.kind ≠ .token "=" ∧ n.kind ≠ .comment with
  | [] => none
  | [name] => some ⟨name.text, none⟩
  | name :: value :: _ => some ⟨name.text, some value⟩

/-- The attributes of a tag. Spread expressions are none. -/
def attributes (tag : Node) : List Attribute :=
  tag.children.filterMap fun n =>
    if n.kind = .jsxAttribute then Attribute.ofParts? n.children else none

/-- The value of the first attribute of a name. -/
def attributeValue? (attrs : List Attribute) (name : String) : Option Node :=
  (attrs.find? (·.name == name)).bind (·.value?)

/-- The name of the attribute that holds the classes of an element. -/
def classAttribute : String := "className"

/-- Whether the class attribute of a tag marks it. -/
def isMarked (marker : String) (attrs : List Attribute) : Bool :=
  match attributeValue? attrs classAttribute with
  | some value => isMarking marker value
  | none => false

/-- The texts among the children of a marked element, given the text of the run before them: runs of
text and character references, and the literals of expressions. -/
def childTexts (run : List Char) : List Node → List String
  | [] => [String.ofList run]
  | n :: rest =>
    match n.kind with
    | .jsxText => childTexts (run ++ n.text.toList) rest
    | .characterReference => childTexts (run ++ (Html.decode n.text).toList) rest
    | .jsxExpression => String.ofList run :: literalsOfInner n.children ++ childTexts [] rest
    | _ => String.ofList run :: childTexts [] rest

/-- The texts that the icon properties of a tag give. -/
def propertyTexts (properties : List String) (attrs : List Attribute) : List String :=
  properties.flatMap fun p =>
    match attributeValue? attrs p with
    | some value => literalsOfValue value
    | none => []

/-- The texts that one element gives, apart from the elements inside it; `children` are those of an
element with an opening and a closing tag. -/
def tagTexts (marker : String) (properties : List String) (tag : Node)
    (children : Option (List Node)) : List String :=
  let attrs := attributes tag
  let own := match children with
    | some cs => if isMarked marker attrs then childTexts [] cs else []
    | none => []
  own ++ propertyTexts properties attrs

/-- The texts that a node gives as an element, apart from the elements inside it. -/
def elementTexts (marker : String) (properties : List String) (n : Node) : List String :=
  match n.kind with
  | .jsxElement =>
    match n.child? .openTag with
    | some tag => tagTexts marker properties tag (some n.children)
    | none => []
  | .jsxSelfClosing => tagTexts marker properties n none
  | _ => []

mutual

/-- The texts that all elements of a tree give, in the order of the document. -/
def treeTexts (marker : String) (properties : List String) : Node → List String
  | .mk kind role start text missing children =>
    elementTexts marker properties (.mk kind role start text missing children) ++
      forestTexts marker properties children

/-- The texts that all elements of a list of trees give. -/
def forestTexts (marker : String) (properties : List String) : List Node → List String
  | [] => []
  | n :: rest => treeTexts marker properties n ++ forestTexts marker properties rest

end

/-- Puts the icons that the elements of a tree name into a set. -/
def scanElements (tree : Node) (marker : String) (properties : List String) (seed : IconSet) :
    IconSet :=
  seed.insertMany (treeTexts marker properties tree)

end IconSubset.Extraction
