import PageMark.Text.Basic

/-!
# Implied ends of elements

Which open elements end when another element starts, which open elements an end
tag may close, and which elements have no content.
-/

namespace PageMark.Html

/-- Elements without content and without an end tag. -/
def emptyElements : List String :=
  ["area", "base", "basefont", "br", "col", "frame", "hr", "img", "input", "isindex", "link",
    "meta", "param"]

def blockTextEnders : List String :=
  ["dd", "dl", "dt", "fieldset", "form", "li", "table", "ul"]

def headingEnders : List String :=
  ["fieldset", "form", "li", "p", "table"]

def captionEnders : List String :=
  ["col", "colgroup", "tbody", "tfoot", "thead", "tr"]

def cellEnders : List String :=
  ["tbody", "td", "tfoot", "th", "tr"]

def menuEnders : List String :=
  ["dd", "dl", "dt", "form", "ul"]

def headEnders : List String :=
  ["a", "abbr", "acronym", "address", "b", "bdo", "big", "blockquote", "body", "br", "center",
    "cite", "code", "dd", "dfn", "dir", "div", "dl", "dt", "em", "fieldset", "font", "form",
    "frameset", "h1", "h2", "h3", "h4", "h5", "h6", "hr", "i", "iframe", "img", "kbd", "li",
    "listing", "map", "menu", "ol", "p", "pre", "q", "s", "samp", "small", "span", "strike",
    "strong", "sub", "sup", "table", "tt", "u", "ul", "var", "xmp"]

def paragraphEnders : List String :=
  ["address", "blockquote", "body", "caption", "center", "col", "colgroup", "dd", "dir", "div",
    "dl", "dt", "fieldset", "form", "frameset", "h1", "h2", "h3", "h4", "h5", "h6", "head",
    "hr", "li", "listing", "menu", "ol", "p", "pre", "table", "tbody", "td", "tfoot", "th",
    "title", "tr", "ul", "xmp"]

/-- The elements whose start ends an open element of the given name. -/
def endersOf : String → List String
  | "a" => ["a", "fieldset", "table", "td", "th"]
  | "address" => ["dd", "dl", "dt", "form", "li", "ul"]
  | "b" => ["center", "p", "td", "th"]
  | "big" => ["p"]
  | "caption" => captionEnders
  | "col" => captionEnders
  | "colgroup" => ["colgroup", "tbody", "tfoot", "thead", "tr"]
  | "dd" => ["dt"]
  | "dir" => menuEnders
  | "dl" => ["form", "li"]
  | "dt" => ["dd", "dl"]
  | "font" => ["center", "td", "th"]
  | "form" => ["form"]
  | "h1" => headingEnders
  | "h2" => headingEnders
  | "h3" => headingEnders
  | "h4" => headingEnders
  | "h5" => headingEnders
  | "h6" => headingEnders
  | "head" => headEnders
  | "hr" => ["form"]
  | "i" => ["center", "p", "td", "th"]
  | "legend" => ["fieldset"]
  | "li" => ["li"]
  | "link" => ["body", "frameset"]
  | "listing" => blockTextEnders
  | "menu" => menuEnders
  | "ol" => ["form"]
  | "option" => ["optgroup", "option"]
  | "p" => paragraphEnders
  | "pre" => blockTextEnders
  | "s" => ["p"]
  | "script" => ["noscript"]
  | "small" => ["p"]
  | "span" => ["td", "th"]
  | "strike" => ["p"]
  | "style" => ["body", "frameset"]
  | "tbody" => ["tbody", "tfoot"]
  | "td" => cellEnders
  | "tfoot" => ["tbody"]
  | "th" => cellEnders
  | "thead" => ["tbody", "tfoot"]
  | "title" => ["body", "frameset"]
  | "tr" => ["tbody", "tfoot", "tr"]
  | "tt" => ["p"]
  | "u" => ["p", "td", "th"]
  | "ul" => ["address", "form", "menu", "pre"]
  | "xmp" => blockTextEnders
  | _ => []

/-- Whether the start of `starting` ends the innermost open element. -/
def endsAtStart (starting innermost : String) : Bool :=
  (endersOf innermost).contains starting

/-- An end tag does not reach through an open element of a higher rank than its
own. -/
def endRank : String → Nat
  | "div" => 150
  | "td" => 160
  | "th" => 160
  | "tr" => 170
  | "thead" => 180
  | "tbody" => 180
  | "tfoot" => 180
  | "table" => 190
  | "head" => 200
  | "body" => 200
  | "html" => 220
  | _ => 100

/-- Whether an end tag of the given name closes one of these open elements,
innermost first. -/
def canClose (name : String) : List String → Bool
  | [] => false
  | innermost :: others =>
      innermost == name || (endRank innermost ≤ endRank name && canClose name others)

/-- Elements that belong into a head which has not been opened. -/
def headContent : List String :=
  ["script", "style", "meta", "link", "title", "base"]

/-- Elements that do not open a body. -/
def framesetContent : List String :=
  ["noframes", "frame", "frameset"]

end PageMark.Html
