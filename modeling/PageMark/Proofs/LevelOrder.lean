import Mathlib.Data.List.Shortlex
import PageMark.Proofs.Positions

/-!
# The level order

The queue lists every element below a node once.  Shorter addresses come before
longer ones, and addresses of the same length come in document order, so an
element always comes before those below it.
-/

namespace PageMark

/-! ## What the queue lists -/

/-- The node that an address leads to, counted from this node. -/
def Node.elementBelow? (node : Node) : Address → Option Node
  | [] => some node
  | index :: rest =>
      (Position.splitAtElement index node.children).bind fun parts =>
        parts.2.1.elementBelow? rest

theorem Node.elementBelow?_cons_iff {node found : Node} {index : Nat} {rest : Address} :
    node.elementBelow? (index :: rest) = some found ↔
      ∃ before child after, node.children = before ++ child :: after ∧
        child.isElement = true ∧ elementCount before = index ∧
        child.elementBelow? rest = some found := by
  rw [elementBelow?, Option.bind_eq_some_iff]
  constructor
  · rintro ⟨⟨before, child, after⟩, split, inner⟩
    obtain ⟨shape, isElement, count⟩ := Position.splitAtElement_eq_some_iff.1 split
    exact ⟨before, child, after, shape, isElement, count, inner⟩
  · rintro ⟨before, child, after, shape, isElement, count, inner⟩
    exact ⟨(before, child, after),
      Position.splitAtElement_eq_some_iff.2 ⟨shape, isElement, count⟩, inner⟩

theorem Node.elementBelow?_append (node : Node) (first second : Address) :
    node.elementBelow? (first ++ second) =
      (node.elementBelow? first).bind fun middle => middle.elementBelow? second := by
  induction first generalizing node with
  | nil => rfl
  | cons index rest ih =>
      rw [List.cons_append, elementBelow?, elementBelow?, Option.bind_assoc]
      exact congrArg _ (funext fun parts => ih parts.2.1)

/-- Below a node without children there is nothing. -/
theorem Node.elementBelow?_of_childless {node : Node} {steps : Address}
    (childless : node.children = []) (nonempty : steps ≠ []) :
    node.elementBelow? steps = none := by
  cases steps with
  | nil => exact absurd rfl nonempty
  | cons index rest => simp [elementBelow?, childless, Position.splitAtElement]

/-- Going down from a position finds the node that going down from its node
finds. -/
theorem Position.map_node_descendWith (position : Position) (steps : Address) :
    (position.descendWith splitAtElement steps).map Position.node =
      position.node.elementBelow? steps := by
  induction steps generalizing position with
  | nil => rfl
  | cons index rest ih =>
      cases node : position.node with
      | text kind content =>
          simp [descendWith, Node.elementBelow?, node, Node.children, splitAtElement]
      | mark kind content =>
          simp [descendWith, Node.elementBelow?, node, Node.children, splitAtElement]
      | element tag children =>
          cases split : splitAtElement index children with
          | none => simp [descendWith, Node.elementBelow?, node, Node.children, split]
          | some parts =>
              simp [descendWith, Node.elementBelow?, node, Node.children, split, ih, child]

theorem mem_childEntries_iff {address : Address} {index : Nat} {children : List Node}
    {entry : Address × Node} :
    entry ∈ childEntries address index children ↔
      ∃ before child after, children = before ++ child :: after ∧ child.isElement = true ∧
        entry = (address ++ [index + elementCount before], child) := by
  induction children generalizing index with
  | nil => simp [childEntries]
  | cons first rest ih =>
      constructor
      · intro member
        cases element : first.isElement with
        | false =>
            rw [childEntries, element] at member
            obtain ⟨before, child, after, rfl, isElement, rfl⟩ := ih.1 member
            exact ⟨first :: before, child, after, rfl, isElement, by simp [element]⟩
        | true =>
            rw [childEntries, element] at member
            rcases List.mem_cons.1 member with rfl | inRest
            · exact ⟨[], first, rest, rfl, element, by simp [elementCount, elementsAmong]⟩
            · obtain ⟨before, child, after, rfl, isElement, rfl⟩ := ih.1 inRest
              exact ⟨first :: before, child, after, rfl, isElement, by
                simp only [elementCount_cons, element, if_true]
                rw [Nat.add_assoc, Nat.add_comm 1]⟩
      · rintro ⟨before, child, after, whole, isElement, rfl⟩
        cases before with
        | nil =>
            cases whole
            rw [childEntries, isElement]
            exact List.mem_cons.2 (.inl (by simp [elementCount, elementsAmong]))
        | cons head tail =>
            cases whole
            cases element : first.isElement with
            | false =>
                rw [childEntries, element]
                exact ih.2 ⟨tail, child, after, rfl, isElement, by simp [element]⟩
            | true =>
                rw [childEntries, element]
                refine List.mem_cons.2 (.inr (ih.2 ⟨tail, child, after, rfl, isElement, ?_⟩))
                simp only [elementCount_cons, element, if_true]
                rw [Nat.add_assoc, Nat.add_comm 1]

theorem isElement_of_mem_childEntries {address : Address} {index : Nat} {children : List Node}
    {entry : Address × Node} (member : entry ∈ childEntries address index children) :
    entry.2.isElement = true := by
  obtain ⟨before, child, after, -, isElement, rfl⟩ := mem_childEntries_iff.1 member
  exact isElement

/-- What is found below a node is one of its element children or found below one. -/
theorem Node.exists_childEntry_iff {address : Address} {node : Node} {entry : Address × Node} :
    (∃ start ∈ childEntries address 0 node.children, ∃ steps, entry.1 = start.1 ++ steps ∧
        start.2.elementBelow? steps = some entry.2) ↔
      ∃ steps, steps ≠ [] ∧ entry.1 = address ++ steps ∧
        node.elementBelow? steps = some entry.2 := by
  constructor
  · rintro ⟨start, member, steps, longer, found⟩
    obtain ⟨before, child, after, shape, isElement, rfl⟩ := mem_childEntries_iff.1 member
    refine ⟨elementCount before :: steps, by simp, by simpa using longer, ?_⟩
    exact Node.elementBelow?_cons_iff.2 ⟨before, child, after, shape, isElement, rfl, found⟩
  · rintro ⟨steps, nonempty, longer, found⟩
    cases steps with
    | nil => exact absurd rfl nonempty
    | cons index steps =>
        obtain ⟨before, child, after, shape, isElement, rfl, inner⟩ :=
          Node.elementBelow?_cons_iff.1 found
        refine ⟨(address ++ [elementCount before], child), ?_, steps, by simpa using longer, inner⟩
        exact mem_childEntries_iff.2 ⟨before, child, after, shape, isElement, by simp⟩

/-- At a node or below it is the node itself and what is strictly below. -/
theorem exists_steps_iff {start entry : Address × Node} :
    (∃ steps, entry.1 = start.1 ++ steps ∧ start.2.elementBelow? steps = some entry.2) ↔
      entry = start ∨ ∃ steps, steps ≠ [] ∧ entry.1 = start.1 ++ steps ∧
        start.2.elementBelow? steps = some entry.2 := by
  constructor
  · rintro ⟨steps, longer, found⟩
    cases steps with
    | nil =>
        rw [List.append_nil] at longer
        exact .inl (Prod.ext longer (Option.some.inj found).symm)
    | cons index rest => exact .inr ⟨index :: rest, List.cons_ne_nil _ _, longer, found⟩
  · rintro (rfl | ⟨steps, -, longer, found⟩)
    · exact ⟨[], (List.append_nil _).symm, rfl⟩
    · exact ⟨steps, longer, found⟩

/-- The number of elements that the queue will list. -/
def queueTotal (queue : List (Address × Node)) : Nat :=
  (queue.map fun entry => entry.2.elementTotal).sum

theorem queueTotal_childEntries (address : Address) (index : Nat) (children : List Node) :
    queueTotal (childEntries address index children) = elementTotalOf children := by
  induction children generalizing index with
  | nil => rfl
  | cons node rest ih =>
      have others := fun next => ih next
      simp only [queueTotal] at others ⊢
      cases node <;> simp [childEntries, Node.isElement, elementTotalOf, Node.elementTotal, others]

theorem queueTotal_step {address : Address} {node : Node} {queue : List (Address × Node)}
    (isElement : node.isElement = true) :
    queueTotal ((address, node) :: queue) =
      queueTotal (queue ++ childEntries address 0 node.children) + 1 := by
  cases node with
  | element tag children =>
      have below := queueTotal_childEntries address 0 children
      simp only [queueTotal] at below
      simp only [queueTotal, List.map_cons, List.sum_cons, List.map_append, List.sum_append,
        Node.elementTotal, Node.children, below]
      omega
  | text kind content => cases isElement
  | mark kind content => cases isElement

/-- There are only elements in the queue, and there is fuel for all that will be listed. -/
structure QueueFed (fuel : Nat) (queue : List (Address × Node)) : Prop where
  elements : ∀ entry ∈ queue, entry.2.isElement = true
  enough : queueTotal queue ≤ fuel

namespace QueueFed

variable {fuel : Nat} {address : Address} {node : Node} {queue : List (Address × Node)}

theorem eq_nil (fed : QueueFed 0 queue) : queue = [] := by
  cases queue with
  | nil => rfl
  | cons first rest =>
      have enough := fed.enough
      rw [queueTotal_step (fed.elements first List.mem_cons_self)] at enough
      exact absurd enough (Nat.not_succ_le_zero _)

/-- When an entry leaves the queue and its children join, one unit of fuel less will do. -/
theorem step (fed : QueueFed (fuel + 1) ((address, node) :: queue)) :
    QueueFed fuel (queue ++ childEntries address 0 node.children) where
  elements := by
    intro entry member
    rcases List.mem_append.1 member with inQueue | inChildren
    · exact fed.elements entry (List.mem_cons_of_mem _ inQueue)
    · exact isElement_of_mem_childEntries inChildren
  enough := by
    have enough := fed.enough
    rw [queueTotal_step (fed.elements _ List.mem_cons_self)] at enough
    exact Nat.le_of_succ_le_succ enough

theorem of_children (address : Address) (children : List Node) :
    QueueFed (elementTotalOf children) (childEntries address 0 children) where
  elements := fun _ member => isElement_of_mem_childEntries member
  enough := Nat.le_of_eq (queueTotal_childEntries address 0 children)

end QueueFed

/-- With enough fuel the queue lists its elements and all below them. -/
theorem mem_drainQueue_iff {fuel : Nat} {queue : List (Address × Node)}
    (fed : QueueFed fuel queue) (entry : Address × Node) :
    entry ∈ drainQueue fuel queue ↔
      ∃ start ∈ queue, ∃ steps, entry.1 = start.1 ++ steps ∧
        start.2.elementBelow? steps = some entry.2 := by
  induction fuel generalizing queue with
  | zero =>
      obtain rfl := fed.eq_nil
      simp [drainQueue]
  | succ fuel ih =>
      cases queue with
      | nil => simp [drainQueue]
      | cons first rest =>
          -- The children that join stand for all that is strictly below the first entry.
          rw [drainQueue, List.mem_cons, ih fed.step, List.exists_mem_cons_iff, exists_steps_iff,
            or_assoc]
          refine or_congr_right ?_
          simp only [List.mem_append, or_and_right, exists_or]
          rw [Node.exists_childEntry_iff, or_comm]

/-! ## The order of the queue -/

/-- Shorter addresses first, and addresses of one length in document order. -/
abbrev Address.ComesBefore (left right : Address) : Prop :=
  List.Shortlex (· < ·) left right

namespace Address

theorem comesBefore_snoc (address : Address) (index : Nat) :
    ComesBefore address (address ++ [index]) :=
  .of_length_lt (by simp)

/-- Children come in the order of their parents. -/
theorem ComesBefore.snoc {left right : Address} (before : ComesBefore left right)
    (index other : Nat) : ComesBefore (left ++ [index]) (right ++ [other]) := by
  rcases List.shortlex_def.1 before with shorter | ⟨same, less⟩
  · exact .of_length_lt (by simpa using shorter)
  · refine .of_lex (by simp [same]) ?_
    clear before
    induction less with
    | nil => simp at same
    | cons _ ih => exact .cons (ih (by simpa using same))
    | rel less => exact .rel less

theorem comesBefore_sibling (address : Address) {index other : Nat} (less : index < other) :
    ComesBefore (address ++ [index]) (address ++ [other]) := by
  have last : List.Shortlex (· < ·) [index] [other] := .of_lex rfl (.rel less)
  exact last.append_left address

theorem not_comesBefore_self (address : Address) : ¬ ComesBefore address address :=
  fun before => Std.Asymm.asymm address address before before

/-- What comes later is not on the way down to what comes earlier. -/
theorem ComesBefore.not_isPrefix {left right : Address} (before : ComesBefore left right) :
    ¬ right <+: left := by
  intro above
  rcases List.shortlex_def.1 before with shorter | ⟨same, -⟩
  · exact absurd above.length_le (Nat.not_le_of_lt shorter)
  · have equal : right = left := above.eq_of_length same.symm
    rw [equal] at before
    exact not_comesBefore_self left before

end Address

/-- Of two entries of the queue the later one comes before the children of the
earlier one. -/
def QueueOrdered (queue : List (Address × Node)) : Prop :=
  queue.Pairwise fun earlier later =>
    Address.ComesBefore earlier.1 later.1 ∧
      ∀ index, Address.ComesBefore later.1 (earlier.1 ++ [index])

theorem queueOrdered_childEntries (address : Address) (index : Nat) (children : List Node) :
    QueueOrdered (childEntries address index children) := by
  induction children generalizing index with
  | nil => exact .nil
  | cons node rest ih =>
      cases element : node.isElement with
      | false =>
          rw [childEntries, element]
          exact ih index
      | true =>
          rw [childEntries, element]
          refine .cons ?_ (ih (index + 1))
          intro later member
          obtain ⟨before, child, after, -, -, rfl⟩ := mem_childEntries_iff.1 member
          exact ⟨Address.comesBefore_sibling address (by omega),
            fun next => .of_length_lt (by simp)⟩

/-- When an entry leaves the queue and its children join, the queue stays in
order. -/
theorem QueueOrdered.step {address : Address} {node : Node} {queue : List (Address × Node)}
    (ordered : QueueOrdered ((address, node) :: queue)) :
    QueueOrdered (queue ++ childEntries address 0 node.children) := by
  obtain ⟨first, others⟩ := List.pairwise_cons.1 ordered
  refine List.pairwise_append.2 ⟨others, queueOrdered_childEntries address 0 _, ?_⟩
  intro earlier member later inChildren
  obtain ⟨before, child, after, -, -, rfl⟩ := mem_childEntries_iff.1 inChildren
  obtain ⟨comesBefore, closeTo⟩ := first earlier member
  exact ⟨closeTo _, fun next => comesBefore.snoc _ next⟩

theorem pairwise_drainQueue {fuel : Nat} {queue : List (Address × Node)}
    (fed : QueueFed fuel queue) (ordered : QueueOrdered queue) :
    (drainQueue fuel queue).Pairwise fun earlier later =>
      Address.ComesBefore earlier.1 later.1 := by
  induction fuel generalizing queue with
  | zero =>
      rw [drainQueue]
      exact .nil
  | succ fuel ih =>
      cases queue with
      | nil => simp [drainQueue]
      | cons first rest =>
          obtain ⟨address, node⟩ := first
          rw [drainQueue]
          refine .cons ?_ (ih fed.step ordered.step)
          intro later member
          obtain ⟨start, inQueue, steps, longer, -⟩ := (mem_drainQueue_iff fed.step later).1 member
          have comesBefore : Address.ComesBefore address start.1 := by
            rcases List.mem_append.1 inQueue with inRest | inChildren
            · exact ((List.pairwise_cons.1 ordered).1 start inRest).1
            · obtain ⟨before, child, after, -, -, rfl⟩ := mem_childEntries_iff.1 inChildren
              exact Address.comesBefore_snoc address _
          rw [longer]
          exact comesBefore.append_right steps

/-! ## The entries below an element -/

theorem Node.levelEntries_eq (address : Address) (tag : Tag) (children : List Node) :
    Node.levelEntries address (.element tag children) =
      drainQueue (elementTotalOf children) (childEntries address 0 children) := by
  simp [levelEntries, elementTotal, drainQueue, Node.children]

theorem Node.mem_levelEntries_iff {address : Address} {tag : Tag} {children : List Node}
    {entry : Address × Node} :
    entry ∈ Node.levelEntries address (.element tag children) ↔
      ∃ steps, steps ≠ [] ∧ entry.1 = address ++ steps ∧
        (Node.element tag children).elementBelow? steps = some entry.2 := by
  rw [levelEntries_eq, mem_drainQueue_iff (.of_children address children)]
  exact @exists_childEntry_iff address (.element tag children) entry

/-- The level order is the order of addresses. -/
theorem Node.pairwise_levelOrder (address : Address) (tag : Tag) (children : List Node) :
    (Node.levelOrder address (.element tag children)).Pairwise Address.ComesBefore := by
  rw [levelOrder, levelEntries_eq, List.pairwise_map]
  exact pairwise_drainQueue (.of_children address children)
    (queueOrdered_childEntries address 0 children)

namespace Document

theorem map_node_elementAt? (document : Document) (address : Address) :
    (document.elementAt? address).map Position.node = document.root.elementBelow? address :=
  Position.map_node_descendWith (Position.ofDocument document) address

/-- Going on from an element's address finds the nodes below the element. -/
theorem map_node_elementAt?_append {document : Document} {top : Position} {address : Address}
    (placed : document.elementAt? address = some top) (steps : Address) :
    (document.elementAt? (address ++ steps)).map Position.node = top.node.elementBelow? steps := by
  have placed' : (Position.ofDocument document).descendWith Position.splitAtElement address =
      some top := placed
  rw [elementAt?, Position.descendWith_append, placed', Option.bind_some,
    Position.map_node_descendWith]

/-- The level order below an element lists the addresses below it. -/
theorem mem_levelOrder_iff {document : Document} {top : Position}
    (placed : document.elementAt? top.address = some top) (address : Address) :
    address ∈ top.node.levelOrder top.address ↔ document.HasBelow top.address address := by
  obtain ⟨tag, children, shape⟩ := exists_element_of_elementAt? placed
  have inside := map_node_elementAt?_append placed
  rw [Node.levelOrder, List.mem_map, shape]
  constructor
  · rintro ⟨entry, member, rfl⟩
    obtain ⟨steps, nonempty, longer, found⟩ := Node.mem_levelEntries_iff.1 member
    rw [← shape, ← inside steps, Option.map_eq_some_iff] at found
    obtain ⟨position, found, -⟩ := found
    rw [longer]
    exact ⟨by rw [found]; rfl, List.prefix_append _ _, by simpa using nonempty⟩
  · rintro ⟨isSome, ⟨steps, rfl⟩, different⟩
    obtain ⟨position, found⟩ := Option.isSome_iff_exists.1 isSome
    have below := inside steps
    rw [found, shape] at below
    exact ⟨(top.address ++ steps, position.node),
      Node.mem_levelEntries_iff.2 ⟨steps, by simpa using different, rfl, below.symm⟩, rfl⟩

/-- All element children of the element at `address` are among these. -/
def ChildrenAmong (document : Document) (address : Address) (done : List Address) : Prop :=
  ∀ index, (document.elementAt? (address ++ [index])).isSome = true → address ++ [index] ∈ done

/-- Every element below the one at `top` once, and after all elements below
itself. -/
structure BottomUp (document : Document) (top : Address) (order : List Address) : Prop where
  listed : ∀ address, address ∈ order ↔ document.HasBelow top address
  once : order.Nodup
  afterDescendants : order.Pairwise fun earlier later => ¬ earlier <+: later

namespace BottomUp

variable {document : Document} {top address : Address} {order done rest : List Address}

theorem not_mem_done (bottomUp : document.BottomUp top order)
    (split : order = done ++ address :: rest) : address ∉ done := by
  have once := bottomUp.once
  rw [split] at once
  exact fun member => (List.nodup_append.1 once).2.2 address member address List.mem_cons_self rfl

/-- When an element has its turn, all elements below it have had theirs. -/
theorem mem_done (bottomUp : document.BottomUp top order)
    (split : order = done ++ address :: rest) {other : Address}
    (below : document.HasBelow address other) : other ∈ done := by
  obtain ⟨isSome, above, different⟩ := below
  have own := (bottomUp.listed address).1 (by rw [split]; simp)
  have otherBelow : document.HasBelow top other := by
    refine ⟨isSome, own.2.1.trans above, ?_⟩
    rintro rfl
    exact different (above.eq_of_length_le own.2.1.length_le).symm
  have member := (bottomUp.listed other).2 otherBelow
  rw [split] at member
  rcases List.mem_append.1 member with inDone | later
  · exact inDone
  · rcases List.mem_cons.1 later with same | inRest
    · exact absurd same different
    · have apart := bottomUp.afterDescendants
      rw [split] at apart
      have apart' := (List.pairwise_append.1 apart).2.1
      exact absurd above ((List.pairwise_cons.1 apart').1 _ inRest)

theorem childrenAmong (bottomUp : document.BottomUp top order)
    (split : order = done ++ address :: rest) : document.ChildrenAmong address done :=
  fun _ isSome => bottomUp.mem_done split ⟨isSome, List.prefix_append _ _, by simp⟩

theorem exists_position (bottomUp : document.BottomUp top order) (member : address ∈ order) :
    ∃ position, document.elementAt? address = some position :=
  Option.isSome_iff_exists.1 ((bottomUp.listed address).1 member).1

/-- Another arrangement of the same elements with children before their parents. -/
theorem of_perm (bottomUp : document.BottomUp top order) {other : List Address}
    (arranged : other.Perm order)
    (apart : other.Pairwise fun earlier later => ¬ earlier <+: later) :
    document.BottomUp top other where
  listed := fun address => (arranged.mem_iff).trans (bottomUp.listed address)
  once := arranged.nodup_iff.2 bottomUp.once
  afterDescendants := apart

/-- At the end the children of the top have had their turn, too. -/
theorem childrenAmong_top (bottomUp : document.BottomUp top order) :
    document.ChildrenAmong top order := by
  intro index isSome
  exact (bottomUp.listed _).2 ⟨isSome, List.prefix_append _ _, by simp⟩

end BottomUp

/-- The reversed level order goes from the bottom up. -/
theorem bottomUp_levelOrder {document : Document} {top : Position}
    (placed : document.elementAt? top.address = some top) :
    document.BottomUp top.address (top.node.levelOrder top.address).reverse := by
  obtain ⟨tag, children, shape⟩ := exists_element_of_elementAt? placed
  have ordered : (top.node.levelOrder top.address).Pairwise Address.ComesBefore := by
    rw [shape]
    exact Node.pairwise_levelOrder top.address tag children
  refine ⟨fun address => ?_, ?_, ?_⟩
  · rw [List.mem_reverse]
    exact mem_levelOrder_iff placed address
  · refine List.pairwise_reverse.2 (ordered.imp ?_)
    rintro left right comesBefore rfl
    exact Address.not_comesBefore_self _ comesBefore
  · exact List.pairwise_reverse.2 (ordered.imp fun comesBefore => comesBefore.not_isPrefix)

end Document

end PageMark
