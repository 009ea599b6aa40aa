import IconSubset.Extraction.Element
import IconSubset.Text.ByteString
import IconSubset.Tsx.Module
import IconSubset.Variant

/-!
# The icons of source files

A project looks for the marker of its style and for its icon properties in every source file. A file
that is not well formed contributes nothing and leaves alone what other files contribute.
-/

namespace IconSubset

/-- A source file. -/
structure SourceFile where
  /-- Its path. -/
  path : ByteString
  /-- Its text. -/
  text : String
deriving DecidableEq, Repr, Inhabited

/-- What a project looks for in its source files. -/
structure Extractor where
  /-- The style whose marker counts. -/
  variant : Variant
  /-- The attributes that hold icon names. -/
  iconProps : List String
deriving DecidableEq, Repr, Inhabited

namespace Extractor

/-- The icons of a source, or what is wrong with it. -/
def extract (e : Extractor) (source : String) : Except Syntax.Fault IconSet :=
  match Tsx.parse source with
  | .ok tree => .ok (Extraction.scanElements tree e.variant.marker e.iconProps .empty)
  | .error fault => .error fault

/-- Adds the icons of a file to a set, and says how many different ones it has or what is wrong with
it. -/
def process (e : Extractor) (file : SourceFile) (icons : IconSet) :
    Except Syntax.Fault Nat × IconSet :=
  match e.extract file.text with
  | .ok found => (.ok found.size, icons.union found)
  | .error fault => (.error fault, icons)

end Extractor

end IconSubset
