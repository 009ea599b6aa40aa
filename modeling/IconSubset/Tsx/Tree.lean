import IconSubset.Tsx.Lexer
import IconSubset.Parse.Run
import IconSubset.Parse.Tree

/-!
# The syntax tree of a TSX module by the grammar

The parser runs on the grammar of TSX modules, and its parse tree is turned into a syntax tree.
-/

namespace IconSubset.Tsx

open Parse (Source)
open Syntax (Node)

/-- The tables of the grammar of TSX modules, made when first needed. -/
def table : Thunk Grammar.Table :=
  Thunk.mk fun _ => Grammar.Table.ofGrammar (Grammar.Definition.compile definition)

/-- The syntax tree of a source by the grammar, whatever the source. -/
def treeByGrammar (source : String) : Node :=
  let t := table.get
  let automaton := Grammar.Automaton.ofTable t (landmarks t.grammar)
  Parse.rootNode t.grammar source
    (Parse.parse automaton (lexer t.grammar) (Source.ofString source))

end IconSubset.Tsx
