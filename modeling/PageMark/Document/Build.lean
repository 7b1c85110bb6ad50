import PageMark.Document.Node

/-!
# Building documents

Two rules hold in every document.  An attribute that stands for a set of tokens
is split at white space, and a text takes its kind from the nearest enclosing
element that gives its texts a kind.
-/

namespace PageMark

/-- Attributes that hold tokens in every element. -/
def tokenAttributes : List String :=
  ["class", "accesskey", "dropzone"]

/-- Attributes that hold tokens in the elements of one name. -/
def tokenAttributesOf : String → List String
  | "a" => ["rel", "rev"]
  | "link" => ["rel", "rev"]
  | "td" => ["headers"]
  | "th" => ["headers"]
  | "form" => ["accept-charset"]
  | "object" => ["archive"]
  | "area" => ["rel"]
  | "icon" => ["sizes"]
  | "iframe" => ["sandbox"]
  | "output" => ["for"]
  | _ => []

def holdsTokens (tagName attributeName : String) : Bool :=
  tokenAttributes.contains attributeName ||
    (tokenAttributesOf (Text.lowerName tagName)).contains attributeName

def AttributeValue.read (tagName attributeName : String) (value : Text) : AttributeValue :=
  if holdsTokens tagName attributeName then .tokens (Text.pieces Text.isBlank value)
  else .single value

/-- A name keeps its first place and takes the given value. -/
def assign (name : String) (value : Text) : List (String × Text) → List (String × Text)
  | [] => [(name, value)]
  | (other, old) :: rest =>
      if other = name then (name, value) :: rest else (other, old) :: assign name value rest

namespace Tag

/-- The last value of a repeated attribute counts. -/
def ofPairs (name : String) (pairs : List (String × Text)) : Tag where
  name := name
  attributes :=
    (pairs.foldl (fun known pair => assign pair.1 pair.2 known) []).map fun pair =>
      { name := pair.1, value := AttributeValue.read name pair.1 pair.2 }

end Tag

/-- The kind that an element gives to the texts inside it. -/
def TextKind.ofContainer? : String → Option TextKind
  | "script" => some .script
  | "style" => some .stylesheet
  | "template" => some .template
  | "rt" => some .rubyText
  | "rp" => some .rubyParenthesis
  | _ => none

mutual

def Node.withKind (kind : TextKind) : Node → Node
  | .text _ content => .text kind content
  | .mark markKind content => .mark markKind content
  | .element tag children =>
      .element tag (nodesWithKind ((TextKind.ofContainer? tag.name).getD kind) children)

/-- Texts take the kind of the nearest container, `kind` if there is none below
these nodes. -/
def nodesWithKind (kind : TextKind) : List Node → List Node
  | [] => []
  | node :: rest => node.withKind kind :: nodesWithKind kind rest

end

structure Document where
  nodes : List Node

namespace Document

/-- The document itself is an element of this name around its nodes. -/
def rootTag : Tag :=
  { name := "[document]", attributes := [] }

def root (document : Document) : Node :=
  .element rootTag document.nodes

def ofNodes (nodes : List Node) : Document :=
  { nodes := nodesWithKind .plain nodes }

end Document

end PageMark
