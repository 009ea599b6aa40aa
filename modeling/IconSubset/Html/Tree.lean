import IconSubset.Html.Lexer
import IconSubset.Parse.Run
import IconSubset.Parse.Tree

/-!
# The syntax tree of an HTML document

The parser runs on the grammar of HTML documents, and its parse tree is turned into a syntax tree.
Whatever the document, there is one, with errors and missing tokens where the document is malformed.
-/

namespace IconSubset.Html

open Parse (Source)
open Syntax (Node)

/-- The tables of the grammar of HTML documents, made when first needed. -/
def table : Thunk Grammar.Table :=
  Thunk.mk fun _ => Grammar.Table.ofGrammar (Grammar.Definition.compile definition)

/-- The syntax tree of a document. -/
def tree (document : String) : Node :=
  let t := table.get
  let automaton := Grammar.Automaton.ofTable t (landmarks t.grammar)
  Parse.rootNode t.grammar document
    (Parse.parse automaton (lexer t.grammar) (Source.ofString document))

end IconSubset.Html
