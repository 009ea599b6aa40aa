import IconSubset.FontAxes
import IconSubset.Text.ByteString
import IconSubset.Variant

/-!
# What a project asks for

The settings of a project, once they are complete: the style of its font, where its source files
lie, and which icons it needs beside those that its sources name.
-/

namespace IconSubset

/-- The settings of a project. -/
structure Settings where
  /-- The style of the font. -/
  variant : Variant
  /-- The directories whose source files are scanned. -/
  paths : List ByteString := []
  /-- Further files to scan. -/
  files : List ByteString := []
  /-- Icons to keep whether a source names them or not. -/
  safelist : List String := []
  /-- The attributes that hold icon names. -/
  iconProps : List String := []
  /-- The ranges requested from the font provider. -/
  axes : FontAxes := {}
deriving DecidableEq, Repr, Inhabited

end IconSubset
