import PageMark.Document.Node

/-!
# Blocks and void elements

Elements are told apart by their lower-case names.  Block elements stand on
lines of their own; void elements have no content.
-/

namespace PageMark

def blockNames : List String :=
  ["address", "article", "aside", "audio", "blockquote", "body", "canvas", "center", "dd",
    "dir", "div", "dl", "dt", "fieldset", "figcaption", "figure", "footer", "form",
    "frameset", "h1", "h2", "h3", "h4", "h5", "h6", "header", "hgroup", "hr", "html",
    "isindex", "li", "main", "menu", "nav", "noframes", "noscript", "ol", "output", "p",
    "pre", "section", "table", "tbody", "td", "tfoot", "th", "thead", "tr", "ul"]

def voidNames : List String :=
  ["area", "base", "br", "col", "command", "embed", "hr", "img", "input", "keygen", "link",
    "meta", "param", "source", "track", "wbr"]

def isBlockName (name : String) : Bool :=
  blockNames.contains name

def isVoidName (name : String) : Bool :=
  voidNames.contains name

def Tag.isBlock (tag : Tag) : Bool :=
  isBlockName tag.kind

def Tag.isVoid (tag : Tag) : Bool :=
  isVoidName tag.kind

def Node.isBlock (node : Node) : Bool :=
  isBlockName node.kind

def Node.isVoid (node : Node) : Bool :=
  isVoidName node.kind

/-- Texts in the wide sense: those of every kind, and no marks. -/
def Node.isText : Node → Bool
  | .text _ _ => true
  | _ => false

end PageMark
