import IconSubset.Text.Blank

/-!
# Font styles

The icon font comes in three styles, and a project uses one of them. The style decides the name of
the font family and the class that marks an element whose text is an icon name.
-/

namespace IconSubset

/-- A style of the icon font. -/
inductive Variant where
  | sharp
  | rounded
  | outlined
deriving DecidableEq, Repr, Inhabited

namespace Variant

/-- All styles, in the order in which they are listed to the user. -/
def all : List Variant := [.sharp, .rounded, .outlined]

/-- The name of a style. -/
def name : Variant → String
  | sharp => "sharp"
  | rounded => "rounded"
  | outlined => "outlined"

/-- The name of the font family. -/
def family : Variant → String
  | sharp => "Material Symbols Sharp"
  | rounded => "Material Symbols Rounded"
  | outlined => "Material Symbols Outlined"

/-- The class that marks an element whose text is an icon name. -/
def marker : Variant → String
  | sharp => "material-symbols-sharp"
  | rounded => "material-symbols-rounded"
  | outlined => "material-symbols-outlined"

/-- The style of a name, whatever its case and whatever blanks surround it. -/
def parse? (text : String) : Option Variant :=
  let wanted := Text.lowerAscii (Text.trim text)
  all.find? fun v => v.name == wanted

/-- The style of a name that is written exactly so. -/
def ofName? (text : String) : Option Variant := all.find? fun v => v.name == text

/-- What the user is told about a text that names no style. -/
def unknownMessage (text : String) : String :=
  "Unknown variant '" ++ text ++ "' (expected one of: sharp, rounded, outlined)"

end Variant

end IconSubset
