import IconSubset.FontAxes
import IconSubset.Variant
import IconSubset.Html.Reference

/-!
# The address of the stylesheet

The stylesheet that loads the font names its family, the ranges of its axes and the icons that the
subset must hold. The icon names are trimmed, sorted and written once each, with commas between
them.
-/

namespace IconSubset.Stylesheet

/-- Where the font provider answers. -/
def endpoint : String := "https://fonts.googleapis.com/css2"

/-- A list in which no name stands next to itself. -/
def dropRepeats : List String → List String
  | [] => []
  | [x] => [x]
  | x :: y :: rest => if x = y then dropRepeats (y :: rest) else x :: dropRepeats (y :: rest)

/-- The trims of the names that are not blank, sorted, each once. -/
def iconList (names : List String) : List String :=
  dropRepeats
    (((names.map Text.trim).filter (· ≠ "")).mergeSort fun a b => decide (a ≤ b))

/-- The name of a font family as an address writes it: with plus signs for spaces. -/
def familyName (v : Variant) : String :=
  String.ofList (v.family.toList.map fun c => if c = ' ' then '+' else c)

/-- The address of the stylesheet for a style, its axes and the icons that the subset must hold. -/
def address (v : Variant) (axes : FontAxes) (names : List String) : String :=
  endpoint ++ "?family=" ++ familyName v ++ ":opsz,wght,FILL,GRAD@" ++ axes.opsz ++ ","
    ++ axes.wght ++ "," ++ axes.fill ++ "," ++ axes.grad ++ "&icon_names="
    ++ String.intercalate "," (iconList names) ++ "&display=block"

/-- The element that links an HTML document to a stylesheet. -/
def linkElement (url : String) : String :=
  "<link rel=\"stylesheet\" href=\"" ++ Html.encode url ++ "\">"

end IconSubset.Stylesheet
