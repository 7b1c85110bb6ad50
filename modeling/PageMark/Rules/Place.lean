import PageMark.Document.Position
import PageMark.Failure

/-!
# Places among siblings

Siblings may look alike, so an element is looked for among them by its address.
-/

namespace PageMark

/-- Where the children of the node at `address` are, numbered from `index`.
Only elements have an address of their own. -/
def childAddresses (address : Address) (index : Nat) : List Node → List (Option Address)
  | [] => []
  | .element _ _ :: rest => some (address ++ [index]) :: childAddresses address (index + 1) rest
  | _ :: rest => none :: childAddresses address index rest

/-- The place of the element at `address`; `name` is its name, for the failure. -/
def placeIn (addresses : List (Option Address)) (address : Address) (name : String) :
    Except Failure Nat :=
  match addresses.findIdx? (· == some address) with
  | some place => .ok place
  | none => .error (.notAmongChildren (some name))

namespace Position

/-- The addresses of the node and its siblings. -/
def siblingAddresses (position : Position) : Except Failure (List (Option Address)) :=
  match position.surroundings with
  | some _ => .ok (childAddresses position.parentAddress 0 position.siblings)
  | none => .error .notAnElement

/-- The place of an element among all children of its parent. -/
def place (position : Position) (name : String) : Except Failure Nat := do
  let addresses ← position.siblingAddresses
  placeIn addresses position.address name

/-- The place of an element among the element children of its parent. -/
def placeAmongElements (position : Position) (name : String) : Except Failure Nat := do
  let addresses ← position.siblingAddresses
  placeIn (addresses.filter Option.isSome) position.address name

end Position

end PageMark
