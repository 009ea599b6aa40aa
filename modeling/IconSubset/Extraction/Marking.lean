import IconSubset.Extraction.Literals
import IconSubset.Text.Blank

/-!
# Which classes mark an element

A class attribute marks its element when a literal of its value has the marker in it. The value is
followed as in the search for literals, except that the texts between the substitutions of a
template count as well.
-/

namespace IconSubset.Extraction

open Syntax

mutual

/-- Whether a literal of a class value has the marker in it. -/
def isMarking (marker : String) : Node → Bool
  | .mk .string _ _ _ _ parts => Text.contains (stringText parts) marker
  | .mk .jsxExpression _ _ _ _ parts => isMarkingInside marker parts
  | .mk .parenthesized _ _ _ _ parts => isMarkingInside marker parts
  | .mk .call _ _ _ _ parts => isMarkingArgument marker parts
  | .mk .ternary _ _ _ _ parts =>
    isMarkingPart marker .consequence parts || isMarkingPart marker .alternative parts
  | .mk .binary _ _ _ _ parts =>
    isLogical parts && (isMarkingPart marker .left parts || isMarkingPart marker .right parts)
  | .mk .templateString _ _ _ _ parts =>
    (templateSegments parts).any fun segment => Text.contains segment marker
  | _ => false

/-- Whether the expression inside parentheses or braces has the marker in a literal. -/
def isMarkingInside (marker : String) : List Node → Bool
  | [] => false
  | n :: rest => if isTrivia n then isMarkingInside marker rest else isMarking marker n

/-- Whether the first part with a role has the marker in a literal. -/
def isMarkingPart (marker : String) (role : Role) : List Node → Bool
  | [] => false
  | n :: rest =>
    if n.role == some role then isMarking marker n else isMarkingPart marker role rest

/-- Whether an argument has the marker in a literal, among the parts of a call. -/
def isMarkingArgument (marker : String) : List Node → Bool
  | [] => false
  | .mk kind role _ _ _ parts :: rest =>
    if role == some .arguments then kind = .arguments && isMarkingOneOf marker parts
    else isMarkingArgument marker rest

/-- Whether an expression of an argument list has the marker in a literal. -/
def isMarkingOneOf (marker : String) : List Node → Bool
  | [] => false
  | n :: rest =>
    if isTrivia n then isMarkingOneOf marker rest
    else isMarking marker n || isMarkingOneOf marker rest

end

end IconSubset.Extraction
