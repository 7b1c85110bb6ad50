import PageMark.Document.Build

/-!
# Spots

An element together with everything around it, so that its parent, its siblings
and its descendants can be reached.  The document itself is the outermost spot.
-/

namespace PageMark

inductive Spot where
  | document (nodes : List Node)
  /-- The nodes before are listed nearest first. -/
  | inside (parent : Spot) (before : List Node) (tag : Tag) (children after : List Node)

namespace Spot

def ofDocument (document : Document) : Spot :=
  .document document.nodes

def tag : Spot → Tag
  | document _ => Document.rootTag
  | inside _ _ tag _ _ => tag

def children : Spot → List Node
  | document nodes => nodes
  | inside _ _ _ children _ => children

def parent? : Spot → Option Spot
  | document _ => none
  | inside parent _ _ _ _ => some parent

/-- The ancestors, nearest first. -/
def ancestors : Spot → List Spot
  | document _ => []
  | inside parent _ _ _ _ => parent :: parent.ancestors

def nodesBefore : Spot → List Node
  | document _ => []
  | inside _ before _ _ _ => before

def nodesAfter : Spot → List Node
  | document _ => []
  | inside _ _ _ _ after => after

/-- The place of an element: the number of nodes before it and before each of
its ancestors, innermost first. -/
def place : Spot → List Nat
  | document _ => []
  | inside parent before _ _ _ => before.length :: parent.place

/-- The elements among nodes that follow `before`. -/
def forward (parent : Spot) (before : List Node) : List Node → List Spot
  | [] => []
  | .element tag children :: rest =>
      .inside parent before tag children rest ::
        forward parent (.element tag children :: before) rest
  | node :: rest => forward parent (node :: before) rest

/-- The elements among nodes that precede `after`, nearest first. -/
def backward (parent : Spot) (after : List Node) : List Node → List Spot
  | [] => []
  | .element tag children :: rest =>
      .inside parent rest tag children after ::
        backward parent (.element tag children :: after) rest
  | node :: rest => backward parent (node :: after) rest

def elementChildren (spot : Spot) : List Spot :=
  forward spot [] spot.children

def laterSiblings : Spot → List Spot
  | document _ => []
  | inside parent before tag children after =>
      forward parent (.element tag children :: before) after

/-- The siblings before an element, nearest first. -/
def earlierSiblings : Spot → List Spot
  | document _ => []
  | inside parent before tag children after =>
      backward parent (.element tag children :: after) before

end Spot

mutual

/-- The elements of a node in document order, itself included. -/
def Node.spots (parent : Spot) (before after : List Node) : Node → List Spot
  | .element tag children =>
      .inside parent before tag children after ::
        spotsAmong (.inside parent before tag children after) [] children
  | _ => []

def spotsAmong (parent : Spot) (before : List Node) : List Node → List Spot
  | [] => []
  | node :: rest => node.spots parent before rest ++ spotsAmong parent (node :: before) rest

end

def Spot.descendants (spot : Spot) : List Spot :=
  spotsAmong spot [] spot.children

/-- All elements of a document in document order. -/
def Document.spots (document : Document) : List Spot :=
  (Spot.ofDocument document).descendants

end PageMark
