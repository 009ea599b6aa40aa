/-!
# Elements of HTML

Which elements never have content, and which may contain which. The scanner ends an element that has
no end tag when something comes that it cannot contain. Names are in lower case.
-/

namespace IconSubset.Html

/-- Elements that never have content. -/
def voidNames : List String :=
  [ "area", "base", "basefont", "bgsound", "br", "col", "command", "embed", "frame", "hr", "image",
    "img", "input", "isindex", "keygen", "link", "menuitem", "meta", "nextid", "param", "source",
    "track", "wbr" ]

/-- Elements that may have content. -/
def contentNames : List String :=
  [ "a", "abbr", "address", "article", "aside", "audio", "b", "bdi", "bdo", "blockquote", "body",
    "button", "canvas", "caption", "cite", "code", "colgroup", "data", "datalist", "dd", "del",
    "details", "dfn", "dialog", "div", "dl", "dt", "em", "fieldset", "figcaption", "figure",
    "footer", "form", "h1", "h2", "h3", "h4", "h5", "h6", "head", "header", "hgroup", "html", "i",
    "iframe", "ins", "kbd", "label", "legend", "li", "main", "map", "mark", "math", "menu", "meter",
    "nav", "noscript", "object", "ol", "optgroup", "option", "output", "p", "picture", "pre",
    "progress", "q", "rb", "rp", "rt", "rtc", "ruby", "s", "samp", "script", "section", "select",
    "slot", "small", "span", "strong", "style", "sub", "summary", "sup", "svg", "table", "tbody",
    "td", "template", "textarea", "tfoot", "th", "thead", "time", "title", "tr", "u", "ul", "var",
    "video" ]

/-- Elements that end a paragraph. -/
def blockNames : List String :=
  [ "address", "article", "aside", "blockquote", "details", "div", "dl", "fieldset", "figcaption",
    "figure", "footer", "form", "h1", "h2", "h3", "h4", "h5", "h6", "header", "hr", "main", "nav",
    "ol", "p", "pre", "section" ]

/-- What stands for an open element whose name has been forgotten. It is no name. -/
def forgotten : String := "?"

/-- Whether an element is none of those that HTML has. -/
def isCustom (name : String) : Bool :=
  !(name ∈ voidNames) && !(name ∈ contentNames) && name != forgotten

/-- Whether two elements are of one sort: the same element of HTML, or none of them both. -/
def sameSort (a b : String) : Bool := a == b || (isCustom a && isCustom b)

/-- Whether an element may contain another directly. -/
def canContain (parent child : String) : Bool :=
  match parent with
  | "li" => child != "li"
  | "dt" | "dd" => child != "dt" && child != "dd"
  | "p" => !(child ∈ blockNames)
  | "colgroup" => child == "col"
  | "rb" | "rt" | "rp" => child != "rb" && child != "rt" && child != "rp"
  | "optgroup" => child != "optgroup"
  | "tr" => child != "tr"
  | "td" | "th" => child != "td" && child != "th" && child != "tr"
  | _ => true

end IconSubset.Html
