/-!
# Axes of the variable font

The ranges in which the font may vary. They are written into the stylesheet address as they are
given, whatever they hold.
-/

namespace IconSubset

/-- The ranges requested from the font provider. -/
structure FontAxes where
  /-- The optical size. -/
  opsz : String := "20..48"
  /-- The weight. -/
  wght : String := "100..700"
  /-- How far the icons are filled. -/
  fill : String := "0..1"
  /-- The grade. -/
  grad : String := "-50..200"
deriving DecidableEq, Repr, Inhabited

end IconSubset
