import Mathlib.Data.List.Induction
import PageMark.Conversion.Document

/-!
# Elements and their addresses

An address leads down from the document through one element child after the
other, so what stands at a longer address stands below what stands at a shorter
one.  The place of an element among its siblings is found at its own address.
-/

namespace PageMark

theorem elementCount_snoc_element (before : List Node) (tag : Tag) (children : List Node) :
    elementCount (before ++ [.element tag children]) = elementCount before + 1 := by
  rw [elementCount_append]
  rfl

theorem elementCount_snoc_other {node : Node} (other : node.isElement = false)
    (before : List Node) : elementCount (before ++ [node]) = elementCount before := by
  rw [elementCount_append, elementCount_cons, other]
  rfl

namespace Position

/-! ## One step down -/

theorem splitAtElement_eq_some_iff {index : Nat} {children before after : List Node}
    {node : Node} :
    splitAtElement index children = some (before, node, after) ↔
      children = before ++ node :: after ∧ node.isElement = true ∧
        PageMark.elementCount before = index := by
  induction children generalizing index before with
  | nil => simp [splitAtElement]
  | cons first rest ih =>
      cases element : first.isElement with
      | false =>
          simp only [splitAtElement, element, Option.map_eq_some_iff, Prod.mk.injEq]
          constructor
          · rintro ⟨⟨left, found, right⟩, split, rfl, rfl, rfl⟩
            obtain ⟨rfl, isElement, rfl⟩ := ih.1 split
            exact ⟨rfl, isElement, by simp [element]⟩
          · rintro ⟨whole, isElement, rfl⟩
            cases before with
            | nil =>
                cases whole
                rw [element] at isElement
                cases isElement
            | cons head tail =>
                cases whole
                exact ⟨_, ih.2 ⟨rfl, isElement, by simp [element]⟩, rfl, rfl, rfl⟩
      | true =>
          cases index with
          | zero =>
              simp only [splitAtElement, element, Option.some.injEq, Prod.mk.injEq]
              constructor
              · rintro ⟨rfl, rfl, rfl⟩
                exact ⟨rfl, element, rfl⟩
              · rintro ⟨whole, isElement, count⟩
                cases before with
                | nil =>
                    cases whole
                    exact ⟨rfl, rfl, rfl⟩
                | cons head tail =>
                    cases whole
                    simp [element] at count
          | succ index =>
              simp only [splitAtElement, element, Option.map_eq_some_iff, Prod.mk.injEq]
              constructor
              · rintro ⟨⟨left, found, right⟩, split, rfl, rfl, rfl⟩
                obtain ⟨rfl, isElement, rfl⟩ := ih.1 split
                exact ⟨rfl, isElement, by simp [element]⟩
              · rintro ⟨whole, isElement, count⟩
                cases before with
                | nil => simp [PageMark.elementCount, elementsAmong] at count
                | cons head tail =>
                    cases whole
                    have counted : PageMark.elementCount tail = index := by
                      simpa [element] using count
                    exact ⟨_, ih.2 ⟨rfl, isElement, counted⟩, by simp⟩

theorem descendWith_append (split : Nat → List Node → Option (List Node × Node × List Node))
    (position : Position) (first second : List Nat) :
    position.descendWith split (first ++ second) =
      (position.descendWith split first).bind fun middle => middle.descendWith split second := by
  induction first generalizing position with
  | nil => rfl
  | cons index rest ih =>
      cases node : position.node with
      | text kind content => simp [descendWith, node]
      | mark kind content => simp [descendWith, node]
      | element tag children =>
          cases found : split index children with
          | none => simp [descendWith, node, found]
          | some parts => simp [descendWith, node, found, ih]

end Position

namespace Document

/-! ## Elements at addresses -/

/-- The element at an address one step longer is a child of the element at the
shorter one. -/
theorem elementAt?_snoc_iff {document : Document} {address : Address} {index : Nat}
    {position : Position} :
    document.elementAt? (address ++ [index]) = some position ↔
      ∃ parent tag before node after,
        document.elementAt? address = some parent ∧
          parent.node = .element tag (before ++ node :: after) ∧ node.isElement = true ∧
          elementCount before = index ∧
          position = Position.child parent.address tag before node after := by
  rw [elementAt?, Position.descendWith_append]
  constructor
  · intro found
    obtain ⟨parent, outer, inner⟩ := Option.bind_eq_some_iff.1 found
    rw [Position.descendWith] at inner
    split at inner
    · next tag children shape =>
        split at inner
        · next before node after split =>
            obtain ⟨rfl, isElement, count⟩ := Position.splitAtElement_eq_some_iff.1 split
            exact ⟨parent, tag, before, node, after, outer, shape, isElement, count,
              (Option.some.inj inner).symm⟩
        · cases inner
    · cases inner
  · rintro ⟨parent, tag, before, node, after, outer, shape, isElement, count, rfl⟩
    have split : Position.splitAtElement index (before ++ node :: after) =
        some (before, node, after) :=
      Position.splitAtElement_eq_some_iff.2 ⟨rfl, isElement, count⟩
    have outer' : (Position.ofDocument document).descendWith Position.splitAtElement address =
        some parent := outer
    simp [outer', Position.descendWith, shape, split]

/-- What is found at an address knows this address. -/
theorem address_of_elementAt? {document : Document} {address : Address} {position : Position}
    (found : document.elementAt? address = some position) : position.address = address := by
  induction address using List.reverseRecOn generalizing position with
  | nil =>
      cases found
      rfl
  | append_singleton address index ih =>
      obtain ⟨parent, tag, before, node, after, outer, -, -, count, rfl⟩ :=
        elementAt?_snoc_iff.1 found
      simp [Position.child, ih outer, count]

theorem isElement_of_elementAt? {document : Document} {address : Address}
    {position : Position} (found : document.elementAt? address = some position) :
    position.node.isElement = true := by
  induction address using List.reverseRecOn with
  | nil =>
      cases found
      rfl
  | append_singleton address index _ =>
      obtain ⟨parent, tag, before, node, after, -, -, isElement, -, rfl⟩ :=
        elementAt?_snoc_iff.1 found
      exact isElement

/-- A node is an element exactly if it has a tag. -/
theorem exists_element_of_elementAt? {document : Document} {address : Address}
    {position : Position} (found : document.elementAt? address = some position) :
    ∃ tag children, position.node = .element tag children := by
  have isElement := isElement_of_elementAt? found
  cases node : position.node with
  | element tag children => exact ⟨tag, children, rfl⟩
  | text kind content =>
      rw [node] at isElement
      cases isElement
  | mark kind content =>
      rw [node] at isElement
      cases isElement

/-- Each element child of an element stands at the address of its place. -/
theorem elementAt?_child {document : Document} {address : Address} {parent : Position}
    {tag : Tag} {before after : List Node} {node : Node}
    (found : document.elementAt? address = some parent)
    (shape : parent.node = .element tag (before ++ node :: after))
    (isElement : node.isElement = true) :
    document.elementAt? (address ++ [elementCount before]) =
      some (Position.child address tag before node after) := by
  have known := address_of_elementAt? found
  exact elementAt?_snoc_iff.2
    ⟨parent, tag, before, node, after, found, shape, isElement, rfl, by rw [known]⟩

/-- The address leads to an element strictly below the one at `top`. -/
def HasBelow (document : Document) (top address : Address) : Prop :=
  (document.elementAt? address).isSome = true ∧ top <+: address ∧ address ≠ top

/-- The body stands at its address. -/
theorem elementAt?_of_body? {document : Document} {body : Position}
    (found : document.body? = some body) :
    document.elementAt? body.address = some body := by
  obtain ⟨address, _, placed⟩ := Option.bind_eq_some_iff.1 found
  rw [address_of_elementAt? placed]
  exact placed

end Document

/-! ## Places among siblings -/

theorem findIdx?_childAddresses (address : Address) (start : Nat) (before after : List Node)
    {node : Node} (isElement : node.isElement = true) :
    (childAddresses address start (before ++ node :: after)).findIdx?
      (· == some (address ++ [start + elementCount before])) = some before.length := by
  induction before generalizing start with
  | nil =>
      cases node with
      | text kind content => cases isElement
      | mark kind content => cases isElement
      | element tag children =>
          simp [childAddresses, List.findIdx?_cons, elementCount, elementsAmong]
  | cons head tail ih =>
      cases head with
      | text kind content =>
          have later := ih start
          simp [childAddresses, List.findIdx?_cons, Node.isElement, later]
      | mark kind content =>
          have later := ih start
          simp [childAddresses, List.findIdx?_cons, Node.isElement, later]
      | element tag children =>
          have later := ih (start + 1)
          rw [Nat.add_right_comm, Nat.add_assoc] at later
          simp [childAddresses, List.findIdx?_cons, Node.isElement, later]

theorem filter_childAddresses (address : Address) (start : Nat) (children : List Node) :
    (childAddresses address start children).filter Option.isSome =
      childAddresses address start (children.filter Node.isElement) := by
  induction children generalizing start with
  | nil => rfl
  | cons node rest ih => cases node <;> simp [childAddresses, List.filter_cons, Node.isElement, ih]

theorem elementCount_filter (nodes : List Node) :
    elementCount (nodes.filter Node.isElement) = elementCount nodes := by
  induction nodes with
  | nil => rfl
  | cons node rest ih => cases node <;> simp [List.filter_cons, Node.isElement, ih]

theorem length_filter_isElement (nodes : List Node) :
    (nodes.filter Node.isElement).length = elementCount nodes := by
  induction nodes with
  | nil => rfl
  | cons node rest ih => cases node <;> simp [List.filter_cons, Node.isElement, ih]

namespace Position

theorem siblingAddresses_child (address : Address) (tag : Tag) (before : List Node) (node : Node)
    (after : List Node) :
    (child address tag before node after).siblingAddresses =
      .ok (childAddresses address 0 (before ++ node :: after)) := by
  simp [siblingAddresses, child, parentAddress, siblings]

/-- An element is among the children of its parent, at the place where it is. -/
theorem place_child (address : Address) (tag : Tag) (before : List Node) {node : Node}
    (after : List Node) (isElement : node.isElement = true) (name : String) :
    (child address tag before node after).place name = .ok before.length := by
  have found := findIdx?_childAddresses address 0 before after isElement
  rw [Nat.zero_add] at found
  rw [place, siblingAddresses_child, ok_bind, placeIn, child, found]

theorem placeAmongElements_child (address : Address) (tag : Tag) (before : List Node)
    {node : Node} (after : List Node) (isElement : node.isElement = true) (name : String) :
    (child address tag before node after).placeAmongElements name = .ok (elementCount before) := by
  have found := findIdx?_childAddresses address 0 (before.filter Node.isElement)
    (after.filter Node.isElement) isElement
  rw [Nat.zero_add, elementCount_filter, length_filter_isElement] at found
  rw [placeAmongElements, siblingAddresses_child, ok_bind, placeIn, filter_childAddresses,
    List.filter_append, List.filter_cons_of_pos isElement, child, found]

/-- A position that is that of an element child. -/
def IsChild (position : Position) : Prop :=
  ∃ address tag before node after, node.isElement = true ∧
    position = child address tag before node after

end Position

theorem Document.HasBelow.isChild {document : Document} {top : Address} {position : Position}
    (below : document.HasBelow top position.address)
    (placed : document.elementAt? position.address = some position) : position.IsChild := by
  cases shape : position.address using List.reverseRecOn with
  | nil =>
      obtain ⟨-, above, different⟩ := below
      rw [shape] at above different
      exact absurd (List.prefix_nil.1 above).symm different
  | append_singleton address index =>
      rw [shape] at placed
      obtain ⟨parent, tag, before, node, after, -, -, isElement, -, rfl⟩ :=
        elementAt?_snoc_iff.1 placed
      exact ⟨parent.address, tag, before, node, after, isElement, rfl⟩

end PageMark
