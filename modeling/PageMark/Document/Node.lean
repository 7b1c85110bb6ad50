import PageMark.Text.Lowercase

/-!
# Document nodes

A document is a forest of texts, elements and marks.  A mark is neither text
nor element: a comment, a declaration and the like.
-/

namespace PageMark

/-- Where a text stands: in ordinary content, or in an element whose text is
not part of the page's running text. -/
inductive TextKind where
  | plain
  | script
  | stylesheet
  | template
  | rubyText
  | rubyParenthesis
deriving DecidableEq, Repr

inductive MarkKind where
  | comment
  | cdata
  | instruction
  | declaration
  | doctype
deriving DecidableEq, Repr

inductive AttributeValue where
  | single (value : Text)
  | tokens (values : List Text)
deriving DecidableEq, Repr

structure Attribute where
  name : String
  value : AttributeValue
deriving DecidableEq, Repr

/-- The name of an element as written and its attributes in their order. -/
structure Tag where
  name : String
  attributes : List Attribute
deriving DecidableEq, Repr

inductive Node where
  | text (kind : TextKind) (content : Text)
  | mark (kind : MarkKind) (content : Text)
  | element (tag : Tag) (children : List Node)
deriving Repr

namespace AttributeValue

/-- Tokens are joined by one space. -/
def toText : AttributeValue → Text
  | single value => value
  | tokens values => Text.joinWith [' '] values

end AttributeValue

namespace Tag

def value? (tag : Tag) (name : String) : Option AttributeValue :=
  (tag.attributes.find? fun entry => entry.name == name).map Attribute.value

def has (tag : Tag) (name : String) : Bool :=
  (tag.value? name).isSome

/-- The text of an attribute, empty if there is none. -/
def textOf (tag : Tag) (name : String) : Text :=
  match tag.value? name with
  | some value => value.toText
  | none => []

/-- The name in lower case, by which elements are told apart. -/
def kind (tag : Tag) : String :=
  Text.lowerName tag.name

end Tag

namespace Node

def isElement : Node → Bool
  | element _ _ => true
  | _ => false

def tag? : Node → Option Tag
  | element tag _ => some tag
  | _ => none

def children : Node → List Node
  | element _ children => children
  | _ => []

/-- The lower-case name of an element; other nodes have the empty name. -/
def kind : Node → String
  | element tag _ => tag.kind
  | _ => ""

/-! ## Decidable equality -/

mutual

def decideEq : (left right : Node) → Decidable (left = right)
  | text kind content, text kind' content' =>
      decidable_of_iff (kind = kind' ∧ content = content') (by simp)
  | mark kind content, mark kind' content' =>
      decidable_of_iff (kind = kind' ∧ content = content') (by simp)
  | element tag children, element tag' children' =>
      have := decideListEq children children'
      decidable_of_iff (tag = tag' ∧ children = children') (by simp)
  | text _ _, mark _ _ => isFalse (by simp)
  | text _ _, element _ _ => isFalse (by simp)
  | mark _ _, text _ _ => isFalse (by simp)
  | mark _ _, element _ _ => isFalse (by simp)
  | element _ _, text _ _ => isFalse (by simp)
  | element _ _, mark _ _ => isFalse (by simp)

def decideListEq : (left right : List Node) → Decidable (left = right)
  | [], [] => isTrue rfl
  | [], _ :: _ => isFalse (by simp)
  | _ :: _, [] => isFalse (by simp)
  | first :: rest, first' :: rest' =>
      have := decideEq first first'
      have := decideListEq rest rest'
      decidable_of_iff (first = first' ∧ rest = rest') (by simp)

end

instance : DecidableEq Node := decideEq

end Node

/-! ## Element children -/

/-- The children that are elements, with their tags and contents. -/
def elementsAmong : List Node → List (Tag × List Node)
  | [] => []
  | .element tag children :: rest => (tag, children) :: elementsAmong rest
  | _ :: rest => elementsAmong rest

def elementCount (nodes : List Node) : Nat :=
  (elementsAmong nodes).length

theorem elementsAmong_append (left right : List Node) :
    elementsAmong (left ++ right) = elementsAmong left ++ elementsAmong right := by
  induction left with
  | nil => rfl
  | cons node rest ih => cases node <;> simp [elementsAmong, ih]

theorem elementCount_append (left right : List Node) :
    elementCount (left ++ right) = elementCount left + elementCount right := by
  simp [elementCount, elementsAmong_append]

@[simp] theorem elementCount_cons (node : Node) (rest : List Node) :
    elementCount (node :: rest) = elementCount rest + if node.isElement then 1 else 0 := by
  cases node <;> rfl

end PageMark
