import IconSubset.Grammar.Production

/-!
# The grammar of HTML documents

A document is a row of nodes: elements, text, character references, doctypes, and end tags of
elements that are not open. The scanner tells where an element ends that has no end tag, and which
names belong to scripts and style sheets, whose text is raw. What the rules call a token is read by
the lexer.
-/

namespace IconSubset.Html

open Grammar (Rule Definition)
open Grammar.Rule (optional many renamed spelled)

/-- A start tag whose name is that token. -/
private def startTag (name : String) : Rule :=
  .seq [.literal "<", renamed "tag_name" (.symbol name), many (.symbol "attribute"), .literal ">"]

/-- An element with raw text, whose start tag is that. -/
private def rawElement (tag : String) : Rule :=
  .seq [renamed "start_tag" (.symbol tag), optional (.symbol "raw_text"), .symbol "end_tag"]

/-- A value between quotation marks. -/
private def quoted (mark inner : String) : Rule :=
  .seq [.literal mark, optional (renamed "attribute_value" (.symbol inner)), .literal mark]

/-- The grammar of HTML documents. -/
def definition : Definition :=
  { rules :=
    [ ("document", many (.symbol "_node")),
      ("doctype", .seq [.literal "<!", spelled "doctype" (.symbol "_doctype"),
        .symbol "_doctype_text", .literal ">"]),
      ("_doctype_text", .token),
      ("_doctype", .token),
      ("_node", .choice [.symbol "doctype", .symbol "entity", .symbol "text", .symbol "element",
        .symbol "script_element", .symbol "style_element", .symbol "erroneous_end_tag"]),
      ("element", .choice [
        .seq [.symbol "start_tag", many (.symbol "_node"),
          .choice [.symbol "end_tag", .symbol "_implicit_end_tag"]],
        .symbol "self_closing_tag"]),
      ("script_element", rawElement "script_start_tag"),
      ("style_element", rawElement "style_start_tag"),
      ("start_tag", startTag "_start_tag_name"),
      ("script_start_tag", startTag "_script_start_tag_name"),
      ("style_start_tag", startTag "_style_start_tag_name"),
      ("self_closing_tag", .seq [.literal "<", renamed "tag_name" (.symbol "_start_tag_name"),
        many (.symbol "attribute"), .literal "/>"]),
      ("end_tag", .seq [.literal "</", renamed "tag_name" (.symbol "_end_tag_name"), .literal ">"]),
      ("erroneous_end_tag", .seq [.literal "</", .symbol "erroneous_end_tag_name", .literal ">"]),
      ("attribute", .seq [.symbol "attribute_name", optional (.seq [.literal "=",
        .choice [.symbol "attribute_value", .symbol "quoted_attribute_value"]])]),
      ("attribute_name", .token),
      ("attribute_value", .token),
      ("entity", .token),
      ("quoted_attribute_value",
        .choice [quoted "'" "_single_quoted_text", quoted "\"" "_double_quoted_text"]),
      ("_single_quoted_text", .token),
      ("_double_quoted_text", .token),
      ("text", .token) ]
    word := none
    externals := ["_start_tag_name", "_script_start_tag_name", "_style_start_tag_name",
      "_end_tag_name", "erroneous_end_tag_name", "/>", "_implicit_end_tag", "raw_text", "comment"]
    extras := ["comment"]
    inline := []
    supertypes := []
    orderings := [] }

end IconSubset.Html
