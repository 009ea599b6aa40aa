import IconSubset.Parse.Subtree
import IconSubset.Syntax.Node

/-!
# From parse trees to syntax trees

A parse tree has a node for every symbol of the grammar. In the syntax tree the hidden ones are
replaced by their children, aliases are in place, and every node knows where it stands and what its
text is. Parse trees measure stretches; a place is found by adding up, in characters, those before
it, and both the byte at which a node starts and its text are read off the source there.
-/

namespace IconSubset.Parse

open Grammar (Grammar Step Alias)
open Syntax (Node Kind Role)

/-- The kind of a visible symbol or alias. -/
def kindOf (name : String) (named : Bool) : Kind :=
  if named then Kind.ofName name else .token name

/-- The kind of a node; none for one that leaves its place to its children. -/
def visibleKind (g : Grammar) (byname : Option Alias) (label : Label) : Option Kind :=
  match byname, label with
  | some a, _ => some (kindOf a.name a.named)
  | none, .error => some .error
  | none, .skipped => none
  | none, .symbol id =>
    match g.symbols[id]? with
    | some info => if info.visible then some (kindOf info.name info.named) else none
    | none => none

/-- The remarks of a grammar on one child. -/
def stepFor (steps : List Step) (child : Summary) : Option Step :=
  if child.extra then none else steps.head?

mutual

/-- The syntax nodes of a parse tree that starts at a place. -/
def treeNodes (g : Grammar) (s : Source) (byname : Option Alias) (role : Option Role)
    (place : Nat) : Subtree → List Node
  | .node t children =>
    let steps := g.stepsOf t.production
    match visibleKind g byname t.label with
    | some kind =>
      let start := place + t.padding.chars
      let before := s.extent 0 start
      [.mk kind role ⟨before.bytes, before.rows⟩ (s.slice start (start + t.size.chars)) t.missing
        (forestNodes g s none place steps children)]
    | none => forestNodes g s role place steps children

/-- The syntax nodes of parse trees that follow each other. -/
def forestNodes (g : Grammar) (s : Source) (role : Option Role) (place : Nat)
    (steps : List Step) : List Subtree → List Node
  | [] => []
  | .node t cs :: rest =>
    let step := stepFor steps t
    let own := (step.bind (·.field)).bind Role.ofName?
    treeNodes g s (step.bind (·.byname)) (own.or role) place (.node t cs) ++
      forestNodes g s role (place + t.padding.chars + t.size.chars)
        (if t.extra then steps else steps.drop 1) rest

end

/-- The syntax tree of a parse tree of a source. -/
def rootNode (g : Grammar) (source : String) (t : Subtree) : Node :=
  match treeNodes g (Source.ofString source) none none 0 t with
  | root :: _ => root
  | [] => .mk .error none 0 source false []

end IconSubset.Parse
