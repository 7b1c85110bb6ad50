import PageMark.Document.Position
import PageMark.Proofs.Stretches

/-!
# Block by block

Next to a block there is nothing to be carried over.  A root whose children are all
blocks is collapsed like each of them on its own, one after the other in any order;
only, a text of which nothing is left stays before the edge of a block, and goes at
the end of a root.
-/

namespace PageMark

/-! ## Nodes without empty texts -/

mutual

def Node.withoutEmptyTexts : Node → List Node
  | .text kind content => if content.isEmpty then [] else [.text kind content]
  | .mark kind content => [.mark kind content]
  | .element tag children =>
      [.element tag (if tag.isPreformatted then children else withoutEmptyTexts children)]

/-- All empty texts are deleted, except inside of preformatted elements. -/
def withoutEmptyTexts : List Node → List Node
  | [] => []
  | node :: rest => node.withoutEmptyTexts ++ withoutEmptyTexts rest

end

theorem withoutEmptyTexts_append (left right : List Node) :
    withoutEmptyTexts (left ++ right) = withoutEmptyTexts left ++ withoutEmptyTexts right := by
  induction left with
  | nil => rfl
  | cons node rest ih =>
      rw [List.cons_append, withoutEmptyTexts, withoutEmptyTexts, ih, List.append_assoc]

/-! ## Before a boundary and before the end -/

/-- Something inline comes next in both cases, or in neither. -/
def Edge.Alike (edge edge' : Edge) : Prop :=
  edge = .inline ↔ edge' = .inline

namespace Edge.Alike

variable {edge edge' : Edge} (alike : Edge.Alike edge edge')

include alike

theorem pass (separation : Separation) :
    Edge.Alike (edge.pass separation) (edge'.pass separation) := by
  cases separation with
  | boundary => exact Iff.rfl
  | inlineVoid => exact Iff.rfl
  | none => exact alike

theorem shorten_eq (content : Text) : edge.shorten content = edge'.shorten content := by
  by_cases inner : edge = .inline
  · rw [inner, alike.1 inner]
  · have closed : edge' ≠ .inline := fun inner' => inner (alike.2 inner')
    rw [shorten_of_ne_inline inner, shorten_of_ne_inline closed]

end Edge.Alike

/-- Before a text there is something inline, even if nothing is left of the text. -/
theorem Node.settleBefore_text_fst (edge : Edge) (kind : TextKind) (content : Text) :
    ((Node.text kind content).settleBefore edge).1 = .inline := by
  rw [settleBefore]
  split <;> rfl

/-- What is left of a text, but for the empty one. -/
theorem Node.withoutEmptyTexts_settleBefore_text (edge : Edge) (kind : TextKind)
    (content : Text) :
    PageMark.withoutEmptyTexts ((Node.text kind content).settleBefore edge).2.toList =
      if (edge.shorten content).isEmpty then []
      else [textAfter kind content (edge.shorten content)] := by
  cases empty : (edge.shorten content).isEmpty with
  | true =>
      cases dropped : edge.drops content <;>
        simp [settleBefore, dropped, PageMark.withoutEmptyTexts, textAfter,
          Node.withoutEmptyTexts, empty]
  | false =>
      have kept : edge.drops content = false := by rw [Edge.drops, empty, Bool.and_false]
      simp [settleBefore, kept, PageMark.withoutEmptyTexts, textAfter, Node.withoutEmptyTexts,
        empty]

mutual

theorem Node.settleBefore_alike {edge edge' : Edge} (alike : Edge.Alike edge edge') :
    (node : Node) →
      Edge.Alike (node.settleBefore edge).1 (node.settleBefore edge').1 ∧
        PageMark.withoutEmptyTexts (node.settleBefore edge).2.toList =
          PageMark.withoutEmptyTexts (node.settleBefore edge').2.toList
  | .text kind content => by
      refine ⟨?_, ?_⟩
      · rw [Node.settleBefore_text_fst, Node.settleBefore_text_fst]
        exact Iff.rfl
      · rw [Node.withoutEmptyTexts_settleBefore_text, Node.withoutEmptyTexts_settleBefore_text,
          alike.shorten_eq]
  | .mark kind content => ⟨alike, rfl⟩
  | .element tag children => by
      obtain ⟨before, inside⟩ := settleAll_alike (alike.pass tag.separation) children
      cases preformatted : tag.isPreformatted with
      | true => simp [Node.settleBefore, preformatted, alike.pass tag.separation]
      | false =>
          simp [Node.settleBefore, preformatted, before.pass tag.separation,
            PageMark.withoutEmptyTexts, Node.withoutEmptyTexts, inside]

/-- Before a boundary and before the end the same texts are left, but for empty ones. -/
theorem settleAll_alike {edge edge' : Edge} (alike : Edge.Alike edge edge') :
    (nodes : List Node) →
      Edge.Alike (settleAll edge nodes).1 (settleAll edge' nodes).1 ∧
        withoutEmptyTexts (settleAll edge nodes).2 = withoutEmptyTexts (settleAll edge' nodes).2
  | [] => ⟨alike, rfl⟩
  | node :: rest => by
      obtain ⟨after, others⟩ := settleAll_alike alike rest
      obtain ⟨before, first⟩ := Node.settleBefore_alike after node
      refine ⟨before, ?_⟩
      rw [settleAll, settleAll, withoutEmptyTexts_append, withoutEmptyTexts_append, first, others]

end

/-! ## Blocks -/

/-- A block is collapsed between boundaries, where it stands. -/
def Node.collapseInPlace : Node → Node
  | .element tag children =>
      .element tag
        (if tag.isPreformatted then children else collapseBetween .atBoundary .boundary children)
  | node => node

theorem Node.withoutEmptyTexts_collapse (node : Node) :
    node.collapse.withoutEmptyTexts = node.collapseInPlace.withoutEmptyTexts := by
  cases node with
  | text kind content => rfl
  | mark kind content => rfl
  | element tag children =>
      have alike : Edge.Alike .finish .boundary := by simp [Edge.Alike]
      have inside := (settleAll_alike alike (squeezeAll .atBoundary children).2).2
      cases preformatted : tag.isPreformatted with
      | true => simp [collapse, collapseInPlace, preformatted]
      | false =>
          simp only [collapse, collapseInPlace, preformatted, Node.withoutEmptyTexts,
            Bool.false_eq_true, if_false]
          rw [collapseChildren, collapseBetween, inside]

theorem withoutEmptyTexts_map_collapse (nodes : List Node) :
    withoutEmptyTexts (nodes.map Node.collapse) =
      withoutEmptyTexts (nodes.map Node.collapseInPlace) := by
  induction nodes with
  | nil => rfl
  | cons node rest ih =>
      rw [List.map_cons, List.map_cons, withoutEmptyTexts, withoutEmptyTexts, ih,
        Node.withoutEmptyTexts_collapse]

/-- Whatever comes before a block and after it, nothing of that is seen inside. -/
theorem collapseBetween_cons_block (gap : Gap) (edge : Edge) {node : Node}
    (block : node.isBlock = true) (rest : List Node) :
    collapseBetween gap edge (node :: rest) =
      node.collapseInPlace :: collapseBetween .atBoundary edge rest := by
  have noName : isBlockName "" = false := rfl
  cases node with
  | text kind content => exact absurd (noName.symm.trans block) Bool.false_ne_true
  | mark kind content => exact absurd (noName.symm.trans block) Bool.false_ne_true
  | element tag children =>
      have boundary := Tag.separation_of_isBlock block
      cases preformatted : tag.isPreformatted with
      | true =>
          simp [collapseBetween, squeezeAll, Node.squeezeFrom, settleAll, Node.settleBefore,
            Node.collapseInPlace, preformatted, boundary, Gap.pass]
      | false =>
          simp [collapseBetween, squeezeAll, Node.squeezeFrom, settleAll, Node.settleBefore,
            Node.collapseInPlace, preformatted, boundary, Gap.pass, Edge.pass]

theorem collapseBetween_of_blocks {nodes : List Node}
    (blocks : ∀ node ∈ nodes, node.isBlock = true) (gap : Gap) (edge : Edge) :
    collapseBetween gap edge nodes = nodes.map Node.collapseInPlace := by
  induction nodes generalizing gap with
  | nil => rfl
  | cons node rest ih =>
      rw [List.forall_mem_cons] at blocks
      rw [collapseBetween_cons_block gap edge blocks.1, ih blocks.2, List.map_cons]

/-! ## One after the other -/

theorem changeChild_eq_modify (change : Node → Node) (index : Nat) (nodes : List Node) :
    changeChild change index nodes = nodes.modify index change := by
  induction nodes generalizing index with
  | nil => cases index <;> rfl
  | cons node rest ih =>
      cases index with
      | zero => rfl
      | succ index => rw [changeChild, ih, List.modify_succ_cons]

theorem Node.changeAt_child (change : Node → Node) (tag : Tag) (children : List Node)
    (index : Nat) :
    (Node.element tag children).changeAt change [index] =
      .element tag (children.modify index change) := by
  rw [changeAt, changeChild_eq_modify]
  rfl

/-- Children that are changed one after the other, none of them twice. -/
theorem getElem?_foldl_modify {α : Type} (change : α → α) {order : List Nat}
    (once : order.Nodup) (children : List α) (index : Nat) :
    (order.foldl (fun changed place => changed.modify place change) children)[index]? =
      if index ∈ order then children[index]?.map change else children[index]? := by
  induction order generalizing children with
  | nil => rfl
  | cons place others ih =>
      obtain ⟨first, once⟩ := List.nodup_cons.1 once
      rw [List.foldl_cons, ih once, List.getElem?_modify]
      by_cases here : place = index
      · subst here
        simp [first]
      · have other : index ≠ place := Ne.symm here
        simp [here, other]

theorem foldl_modify_of_perm {α : Type} (change : α → α) (children : List α) {order : List Nat}
    (every : order.Perm (List.range children.length)) :
    order.foldl (fun changed place => changed.modify place change) children =
      children.map change := by
  refine List.ext_getElem? fun index => ?_
  rw [getElem?_foldl_modify change (every.nodup_iff.2 List.nodup_range), List.getElem?_map]
  split
  · rfl
  · next outside =>
      rw [every.mem_iff, List.mem_range] at outside
      rw [List.getElem?_eq_none (Nat.le_of_not_lt outside), Option.map_none]

/-- Every child is collapsed as a root of its own, in this order. -/
def Node.collapseEach (order : List Nat) (root : Node) : Node :=
  order.foldl (fun root index => root.changeAt Node.collapse [index]) root

def Document.collapseEach (order : List Nat) (document : Document) : Document :=
  order.foldl (fun document index => document.changeAt [index] Node.collapse) document

theorem Node.collapseEach_element (tag : Tag) (children : List Node) {order : List Nat}
    (every : order.Perm (List.range children.length)) :
    (Node.element tag children).collapseEach order =
      .element tag (children.map Node.collapse) := by
  rw [← foldl_modify_of_perm _ _ every, collapseEach]
  exact List.foldl_hom (Node.element tag) fun changed place => changeAt_child _ tag changed place

theorem Document.collapseEach_nodes (document : Document) {order : List Nat}
    (every : order.Perm (List.range document.nodes.length)) :
    (document.collapseEach order).nodes = document.nodes.map Node.collapse := by
  rw [← foldl_modify_of_perm _ _ every, collapseEach]
  refine (List.foldl_hom Document.nodes fun changed place => ?_).symm
  rw [changeAt, root, Node.changeAt_child]
  rfl

/-- A root whose children are all blocks, and likewise a whole document, is collapsed by
collapsing every child by itself; but for empty texts, that is what comes of collapsing the
children as roots of their own, one after the other in any order. -/
theorem blocks_collapse_apart :
    (∀ tag children, tag.isPreformatted = false → (∀ node ∈ children, node.isBlock = true) →
      (Node.element tag children).collapse = .element tag (children.map Node.collapseInPlace) ∧
      ∀ order : List Nat, order.Perm (List.range children.length) →
        (Node.element tag children).collapse.withoutEmptyTexts =
          ((Node.element tag children).collapseEach order).withoutEmptyTexts) ∧
    ∀ document : Document, (∀ node ∈ document.nodes, node.isBlock = true) →
      document.collapse.nodes = document.nodes.map Node.collapseInPlace ∧
      ∀ order : List Nat, order.Perm (List.range document.nodes.length) →
        withoutEmptyTexts document.collapse.nodes =
          withoutEmptyTexts (document.collapseEach order).nodes := by
  have apart {nodes : List Node} (blocks : ∀ node ∈ nodes, node.isBlock = true) :
      collapseChildren nodes = nodes.map Node.collapseInPlace :=
    collapseBetween_of_blocks blocks .atBoundary .finish
  refine ⟨fun tag children other blocks => ?_, fun document blocks => ?_⟩
  · have whole : (Node.element tag children).collapse =
        .element tag (children.map Node.collapseInPlace) := by
      rw [Node.collapse, other, if_neg Bool.false_ne_true, apart blocks]
    refine ⟨whole, fun order every => ?_⟩
    rw [whole, Node.collapseEach_element tag children every, Node.withoutEmptyTexts,
      Node.withoutEmptyTexts, other, if_neg Bool.false_ne_true, if_neg Bool.false_ne_true,
      withoutEmptyTexts_map_collapse]
  · have whole : document.collapse.nodes = document.nodes.map Node.collapseInPlace :=
      apart blocks
    refine ⟨whole, fun order every => ?_⟩
    rw [whole, document.collapseEach_nodes every, withoutEmptyTexts_map_collapse]

/-- A block that ends in a void element and a space, a preformatted one, an empty one, and a
block with a block and a mark inside. -/
def fourBlocks : List Node :=
  let tag (name : String) : Tag := { name := name, attributes := [] }
  let words (content : String) : Node := .text .plain content.toList
  [.element (tag "p") [words " a ", .element (tag "img") [], words " "],
    .element (tag "pre") [words " b\n"], .element (tag "div") [],
    .element (tag "div") [words "c ", .element (tag "ul") [words " d"], .mark .comment [],
      words " e "]]

theorem fourBlocks_collapse_apart :
    (∀ node ∈ fourBlocks, node.isBlock = true) ∧
      (Node.element { name := "div", attributes := [] } fourBlocks).collapse.withoutEmptyTexts =
        ((Node.element { name := "div", attributes := [] } fourBlocks).collapseEach
          [2, 0, 3, 1]).withoutEmptyTexts ∧
      (Node.element { name := "div", attributes := [] } fourBlocks).collapse ≠
        (Node.element { name := "div", attributes := [] } fourBlocks).collapseEach
          [2, 0, 3, 1] := by
  have blocks : ∀ node ∈ fourBlocks, node.isBlock = true := by decide +kernel
  have every : [2, 0, 3, 1].Perm (List.range fourBlocks.length) := by decide
  exact ⟨blocks, (blocks_collapse_apart.1 _ _ (by decide +kernel) blocks).2 _ every,
    by decide +kernel⟩

end PageMark
