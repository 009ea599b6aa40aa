import IconSubset.Tsx.Constant
import IconSubset.Tsx.Tree
import IconSubset.Syntax.Fault

/-!
# Reading TSX modules

Every source file is read as a TSX module, whatever the end of its name, so that each may hold
elements and type annotations.
-/

namespace IconSubset.Tsx

open Syntax (Node Fault)

/-- The syntax tree of a source. A module that declares one constant needs no tables. -/
def tree (source : String) : Node :=
  match Constant.tree? source.toList with
  | some t => t
  | none => treeByGrammar source

/-- The syntax tree of a well-formed source, or else its first fault. -/
def parse (source : String) : Except Fault Node :=
  let t := tree source
  match Syntax.firstFault source.toList t with
  | some fault => .error fault
  | none => .ok t

end IconSubset.Tsx
