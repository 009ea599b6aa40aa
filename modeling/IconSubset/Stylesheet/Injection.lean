import IconSubset.Html.Tree
import IconSubset.Log.Event

/-!
# Putting the link into a document

The link goes first into the head of the document, so that later style sheets come after it. A
document without a head gets one, right after the start tag of its root element. Where there is no
root element either, the link follows the doctype, or stands at the very beginning. The places are
found on the syntax tree of the document; the rest of the document stays as it is.
-/

namespace IconSubset.Stylesheet

open Syntax (Node)

/-- Whether a node is a start tag of that name, whatever the case of its letters. -/
def isStartTag (name : String) (n : Node) : Bool :=
  n.kind.name == "start_tag" &&
    (n.children.find? (·.kind.name == "tag_name")).any fun tag =>
      tag.text.map Char.toLower == name.map Char.toLower

mutual

/-- The first start tag of a name in a tree. A node comes before its children. -/
def findStartTag (name : String) : Node → Option Node
  | .mk kind role start text missing children =>
    let n := Node.mk kind role start text missing children
    if isStartTag name n then some n else findStartTagAmong name children

/-- The first start tag of a name in trees that follow each other. -/
def findStartTagAmong (name : String) : List Node → Option Node
  | [] => none
  | n :: rest => (findStartTag name n).or (findStartTagAmong name rest)

end

/-- The byte of the document at which a node ends. -/
def endOf (n : Node) : Nat := n.start.byte + n.text.utf8ByteSize

/-- Where a link goes into a document. Places are numbers of bytes. -/
inductive Site where
  /-- Into the head. -/
  | head (place : Nat)
  /-- Into a new head of the root element. -/
  | newHead (place : Nat)
  /-- After the doctype, or at the very beginning. -/
  | front (place : Nat)
deriving DecidableEq, Repr, Inhabited

/-- Where a link goes into a document with that syntax tree. -/
def siteIn (root : Node) : Site :=
  match findStartTag "head" root with
  | some tag => .head (endOf tag)
  | none =>
    match findStartTag "html" root with
    | some tag => .newHead (endOf tag)
    | none => .front ((root.children.find? (·.kind.name == "doctype")).elim 0 endOf)

/-- Where a link goes into a document. -/
def site (document : String) : Site := siteIn (Html.tree document)

/-- The place. -/
def Site.place : Site → Nat
  | head place | newHead place | front place => place

/-- What a link needs around it. -/
def Site.wrap (link : String) : Site → String
  | head _ | front _ => link
  | newHead _ => "<head>" ++ link ++ "</head>"

/-- The characters of a text up to a byte, and those from there on. -/
def splitAtByte : List Char → Nat → List Char × List Char
  | [], _ => ([], [])
  | c :: cs, n =>
    if c.utf8Size ≤ n then
      let (before, after) := splitAtByte cs (n - c.utf8Size)
      (c :: before, after)
    else ([], c :: cs)

/-- The document with a link. -/
def inject (document link : String) : String :=
  let s := site document
  let (before, after) := splitAtByte document.toList s.place
  String.ofList before ++ s.wrap link ++ String.ofList after

/-- What is logged of a link that goes into a document. -/
def Site.events : Site → List LogEvent
  | head _ => []
  | newHead _ =>
    [{ level := .debug, target := "glyph_link::inject",
       message := "document has no <head>; creating one" }]
  | front _ =>
    [{ level := .debug, target := "glyph_link::inject",
       message := "document has no <html> or <head>; prepending link" }]

/-- What is logged while a link is put into a document. -/
def injectionEvents (document : String) : List LogEvent := (site document).events

end IconSubset.Stylesheet
