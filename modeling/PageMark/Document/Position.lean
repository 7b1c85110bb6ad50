import PageMark.Document.Build

/-!
# Positions

An element is found by its address: from the document downwards, its index
among the element children of each ancestor.  Texts and marks that come and go
leave every address as it is.  A path counts all children instead, and reaches
every node.
-/

namespace PageMark

abbrev Address := List Nat

abbrev Path := List Nat

/-- The parent of a node and the siblings on both sides, in document order. -/
structure Surroundings where
  parent : Tag
  before : List Node
  after : List Node

/-- A node in its place.  The address is that of the element, and for another
node that of the next element after it. -/
structure Position where
  address : Address
  node : Node
  surroundings : Option Surroundings

namespace Position

def ofDocument (document : Document) : Position where
  address := []
  node := document.root
  surroundings := none

def parentTag? (position : Position) : Option Tag :=
  position.surroundings.map Surroundings.parent

/-- The name of the parent in lower case, empty for the document. -/
def parentKind (position : Position) : String :=
  match position.surroundings with
  | some surroundings => surroundings.parent.kind
  | none => ""

def previousSibling? (position : Position) : Option Node :=
  position.surroundings.bind fun surroundings => surroundings.before.getLast?

def nextSibling? (position : Position) : Option Node :=
  position.surroundings.bind fun surroundings => surroundings.after.head?

/-- All children of the parent. -/
def siblings (position : Position) : List Node :=
  match position.surroundings with
  | some surroundings => surroundings.before ++ position.node :: surroundings.after
  | none => []

/-- The number of children before this one. -/
def index (position : Position) : Nat :=
  match position.surroundings with
  | some surroundings => surroundings.before.length
  | none => 0

/-- The number of element children before this one. -/
def elementIndex (position : Position) : Nat :=
  match position.surroundings with
  | some surroundings => PageMark.elementCount surroundings.before
  | none => 0

def parentAddress (position : Position) : Address :=
  position.address.dropLast

/-- The child between two parts of the children of `tag`. -/
def child (address : Address) (tag : Tag) (before : List Node) (node : Node)
    (after : List Node) : Position where
  address := address ++ [PageMark.elementCount before]
  node := node
  surroundings := some { parent := tag, before := before, after := after }

/-! ## Going down -/

/-- Splits children before the element of the given index among the elements. -/
def splitAtElement : Nat → List Node → Option (List Node × Node × List Node)
  | _, [] => none
  | index, node :: rest =>
      match node.isElement, index with
      | true, 0 => some ([], node, rest)
      | true, index + 1 => (splitAtElement index rest).map fun (before, found, after) =>
          (node :: before, found, after)
      | false, index => (splitAtElement index rest).map fun (before, found, after) =>
          (node :: before, found, after)

def splitAtChild : Nat → List Node → Option (List Node × Node × List Node)
  | _, [] => none
  | 0, node :: rest => some ([], node, rest)
  | index + 1, node :: rest => (splitAtChild index rest).map fun (before, found, after) =>
      (node :: before, found, after)

def descendWith (split : Nat → List Node → Option (List Node × Node × List Node))
    (position : Position) : List Nat → Option Position
  | [] => some position
  | index :: rest =>
      match position.node with
      | .element tag children =>
          match split index children with
          | some (before, node, after) =>
              descendWith split (child position.address tag before node after) rest
          | none => none
      | _ => none

end Position

namespace Document

def elementAt? (document : Document) (address : Address) : Option Position :=
  (Position.ofDocument document).descendWith Position.splitAtElement address

def nodeAt? (document : Document) (path : Path) : Option Position :=
  (Position.ofDocument document).descendWith Position.splitAtChild path

end Document

/-- Whether a text or a mark below `node` stands in the way of the path. -/
def Node.blocks : Path → Node → Bool
  | [], _ => false
  | index :: rest, .element _ children =>
      match children[index]? with
      | some child => child.blocks rest
      | none => false
  | _ :: _, _ => true

/-! ## Paths of addresses -/

/-- The path of an element below `node`; it ends where the address leaves the
tree. -/
def Node.pathOf (node : Node) : Address → Path
  | [] => []
  | index :: rest =>
      match Position.splitAtElement index node.children with
      | some (before, found, _) => before.length :: found.pathOf rest
      | none => []

def Document.pathOf (document : Document) (address : Address) : Path :=
  document.root.pathOf address

/-! ## Changing a part of a document -/

def changeChild (change : Node → Node) : Nat → List Node → List Node
  | _, [] => []
  | 0, node :: rest => change node :: rest
  | index + 1, node :: rest => node :: changeChild change index rest

def Node.changeAt (change : Node → Node) : Path → Node → Node
  | [], node => change node
  | index :: rest, .element tag children =>
      .element tag (changeChild (changeAt change rest) index children)
  | _ :: _, node => node

def Document.changeAt (document : Document) (path : Path) (change : Node → Node) : Document :=
  { nodes := (document.root.changeAt change path).children }

end PageMark
