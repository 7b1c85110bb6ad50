import PageMark.Document.Position

/-!
# Level order

The elements below a node, level by level and in document order within a
level.  A queue holds the elements whose children have not been listed yet.
-/

namespace PageMark

mutual

def Node.elementTotal : Node → Nat
  | .element _ children => elementTotalOf children + 1
  | _ => 0

/-- The number of elements among these nodes and below them. -/
def elementTotalOf : List Node → Nat
  | [] => 0
  | node :: rest => node.elementTotal + elementTotalOf rest

end

/-- Element children with their addresses, numbered from `index`. -/
def childEntries (address : Address) (index : Nat) : List Node → List (Address × Node)
  | [] => []
  | node :: rest =>
      if node.isElement then (address ++ [index], node) :: childEntries address (index + 1) rest
      else childEntries address index rest

/-- Each entry of the queue leaves it once; its children join the queue at the
end.  `fuel` bounds the number of entries. -/
def drainQueue : Nat → List (Address × Node) → List (Address × Node)
  | 0, _ => []
  | _, [] => []
  | fuel + 1, (address, node) :: queue =>
      (address, node) ::
        drainQueue fuel (queue ++ childEntries address 0 node.children)

/-- The entries below the node at `address`, the node itself left out. -/
def Node.levelEntries (address : Address) (node : Node) : List (Address × Node) :=
  (drainQueue node.elementTotal [(address, node)]).drop 1

def Node.levelOrder (address : Address) (node : Node) : List Address :=
  (node.levelEntries address).map Prod.fst

end PageMark
