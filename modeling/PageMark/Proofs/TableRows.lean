import Mathlib.Algebra.Order.BigOperators.Group.List
import PageMark.Proofs.InlineCharacters
import PageMark.Proofs.Layout
import PageMark.Proofs.Openings

/-!
# Rows of tables

A row shows its cells that are not blank, each with a bar behind it, and begins with
a bar if its first cell is not blank.  The border under a head row has all cells.  So
a row without blank cells is one line, with as many cells as its border, unless bars or
line feeds are written for the elements in its cells.
-/

namespace PageMark

/-! ## Lines of a table -/

theorem Text.shown_cons (first : Text) (rest : List Text) :
    shown (first :: rest) = if isAllBlank first then shown rest else first :: shown rest := by
  cases seen : isAllBlank first <;> simp [shown, seen]

namespace Gfm

/-- A cell with the bar behind it. -/
def closedCell (content : Text) : Text :=
  ' ' :: content ++ " |".toList

/-- A line with these cells between bars. -/
def tableLine (cells : List Text) : Text :=
  '|' :: cells.flatMap closedCell

/-- What is seen of the cells of a row: blank cells are left out, and with the first cell the
bar at the beginning. -/
def rowLine (contents : List Text) : Text :=
  if Text.isAllBlank (contents.headD []) then (tableLine (Text.shown contents)).drop 1
  else tableLine (Text.shown contents)

/-- One line with this number of cells between bars. -/
structure IsTableLine (count : Nat) (text : Text) : Prop where
  cells : ∃ cells, cells.length = count ∧ text = tableLine cells
  bars : text.count '|' = count + 1
  single : '\n' ∉ text

theorem count_bar_closedCell (content : Text) :
    (closedCell content).count '|' = content.count '|' + 1 := by
  simp [closedCell]

theorem count_bar_tableLine (cells : List Text) :
    (tableLine cells).count '|' = cells.length + 1 + (cells.map (List.count '|')).sum := by
  rw [tableLine, List.count_cons_self]
  induction cells with
  | nil => rfl
  | cons first rest ih =>
      rw [List.flatMap_cons, List.count_append, count_bar_closedCell, List.map_cons, List.sum_cons,
        List.length_cons]
      omega

theorem count_feed_tableLine (cells : List Text) :
    (tableLine cells).count '\n' = (cells.map (List.count '\n')).sum := by
  have own (cell : Text) : (closedCell cell).count '\n' = cell.count '\n' := by
    simp [closedCell]
  have bar : ¬ ('|' == '\n') = true := by decide
  rw [tableLine, List.count_cons, if_neg bar, List.count_flatMap, Nat.add_zero]
  exact congrArg List.sum (List.map_congr_left fun cell _ => own cell)

theorem isTableLine {cells : List Text} (free : ∀ cell ∈ cells, '|' ∉ cell)
    (single : ∀ cell ∈ cells, '\n' ∉ cell) : IsTableLine cells.length (tableLine cells) where
  cells := ⟨cells, rfl, rfl⟩
  bars := by
    have none : ∀ count ∈ cells.map (List.count '|'), count = 0 := by
      simpa [List.count_eq_zero] using free
    rw [count_bar_tableLine, List.sum_eq_zero none, Nat.add_zero]
  single := by
    have none : ∀ count ∈ cells.map (List.count '\n'), count = 0 := by
      simpa [List.count_eq_zero] using single
    rw [← List.count_eq_zero, count_feed_tableLine, List.sum_eq_zero none]

/-- If all cells are seen, the line has them all. -/
theorem rowLine_of_shown {contents : List Text} (some : contents ≠ [])
    (seen : ∀ content ∈ contents, Text.isAllBlank content = false) :
    rowLine contents = tableLine contents := by
  have all : Text.shown contents = contents :=
    List.filter_eq_self.2 fun content member => by rw [seen content member]; rfl
  cases contents with
  | nil => exact absurd rfl some
  | cons first rest =>
      rw [rowLine, all, List.headD_cons, seen first List.mem_cons_self]
      rfl

/-- There is a bar behind each cell that is seen, and one before the first cell if that is seen;
the others are those of the cells. -/
theorem count_bar_rowLine (contents : List Text) :
    (rowLine contents).count '|' = (Text.shown contents).length +
      (if Text.isAllBlank (contents.headD []) then 0 else 1) +
        ((Text.shown contents).map (List.count '|')).sum := by
  have line := count_bar_tableLine (Text.shown contents)
  rw [rowLine]
  split
  · rw [tableLine, List.count_cons_self] at line
    rw [tableLine, List.drop_one, List.tail_cons]
    omega
  · exact line

theorem sum_shown_le (contents : List Text) (character : Char) :
    ((Text.shown contents).map (List.count character)).sum ≤
      (contents.map (List.count character)).sum :=
  (List.filter_sublist.map _).sum_le_sum fun _ _ => Nat.zero_le _

theorem count_feed_rowLine_le (contents : List Text) :
    (rowLine contents).count '\n' ≤ (contents.map (List.count '\n')).sum := by
  have shown : (tableLine (Text.shown contents)).count '\n' ≤
      (contents.map (List.count '\n')).sum := by
    rw [count_feed_tableLine]
    exact sum_shown_le contents '\n'
  rw [rowLine]
  split
  · exact ((List.drop_sublist 1 _).count_le _).trans shown
  · exact shown

/-- With a cell that is not blank there is something to see in the row. -/
theorem isAllBlank_rowLine {contents : List Text}
    (seen : ∃ content ∈ contents, Text.isAllBlank content = false) :
    Text.isAllBlank (rowLine contents) = false := by
  obtain ⟨content, listed, visible⟩ := seen
  have kept : content ∈ Text.shown contents := List.mem_filter.2 ⟨listed, by rw [visible]; rfl⟩
  have closed : Text.isAllBlank ((Text.shown contents).flatMap closedCell) = false := by
    rw [Bool.eq_false_iff]
    intro blank
    have bar : '|' ∈ closedCell content := by simp [closedCell]
    have member := List.mem_flatMap.2 ⟨content, kept, bar⟩
    exact absurd (List.all_eq_true.1 blank _ member) (by decide)
  rw [rowLine]
  split
  · exact closed
  · rw [tableLine, Text.isAllBlank_cons, closed, Bool.and_false]

/-! ## Cells as they are rendered -/

/-- What cells with these contents become, numbered from `index`. -/
def cellsFrom (index : Nat) : List Text → Text
  | [] => []
  | content :: rest =>
      (if Text.isAllBlank content then [] else cell index content) ++ cellsFrom (index + 1) rest

theorem cellsFrom_succ (index : Nat) (contents : List Text) :
    cellsFrom (index + 1) contents = (Text.shown contents).flatMap closedCell := by
  induction contents generalizing index with
  | nil => rfl
  | cons first rest ih =>
      rw [cellsFrom, ih, Text.shown_cons]
      cases Text.isAllBlank first <;> rfl

theorem cellsFrom_zero (contents : List Text) : cellsFrom 0 contents = rowLine contents := by
  cases contents with
  | nil => rfl
  | cons first rest =>
      rw [cellsFrom, cellsFrom_succ, rowLine, List.headD_cons, Text.shown_cons]
      cases Text.isAllBlank first <;> rfl

end Gfm

/-! ## Cells of a row -/

/-- A cell of a table: its tag and what is in it. -/
structure TableCell where
  tag : Tag
  children : List Node

namespace TableCell

def node (cell : TableCell) : Node :=
  .element cell.tag cell.children

/-- A cell without blocks in it and without bars in its texts. -/
structure IsInline (cell : TableCell) : Prop where
  kind : cell.tag.kind ∈ ["th", "td"]
  inline : HaveNoBlocks cell.children
  free : '|' ∉ wholeTextOf cell.children

theorem IsInline.isBlock {cell : TableCell} (inline : cell.IsInline) :
    cell.tag.isBlock = true := by
  have all : ∀ name ∈ ["th", "td"], isBlockName name = true := by decide
  exact all _ inline.kind

end TableCell

theorem elementCount_cells (cells : List TableCell) :
    elementCount (cells.map TableCell.node) = cells.length := by
  induction cells with
  | nil => rfl
  | cons cell rest ih => rw [List.map_cons, elementCount_cons, ih]; rfl

namespace Gfm

/-- The border under a head row with these cells. -/
def borderLine (cells : List TableCell) : Text :=
  tableLine (cells.map fun cell => alignmentBorder cell.tag)

theorem alignmentBorder_mem (tag : Tag) :
    alignmentBorder tag ∈ [":--".toList, "--:".toList, ":-:".toList, "---".toList] := by
  unfold alignmentBorder
  dsimp only
  split
  · decide
  · split
    · decide
    · split <;> decide

theorem isTableLine_borderLine (cells : List TableCell) :
    IsTableLine cells.length (borderLine cells) := by
  have clean : ∀ border ∈ [":--".toList, "--:".toList, ":-:".toList, "---".toList],
      '|' ∉ border ∧ '\n' ∉ border := by decide
  have line := @isTableLine (cells.map fun cell => alignmentBorder cell.tag)
    (by simpa using fun (cell : TableCell) _ => (clean _ (alignmentBorder_mem cell.tag)).1)
    (by simpa using fun (cell : TableCell) _ => (clean _ (alignmentBorder_mem cell.tag)).2)
  rwa [List.length_map] at line

theorem isAllBlank_alignmentBorder (tag : Tag) : Text.isAllBlank (alignmentBorder tag) = false := by
  have all : ∀ border ∈ [":--".toList, "--:".toList, ":-:".toList, "---".toList],
      Text.isAllBlank border = false := by decide
  exact all _ (alignmentBorder_mem tag)

theorem borderCells_cells (address : Address) (front cells : List TableCell) :
    borderCells (childAddresses address 0 ((front ++ cells).map TableCell.node)) address
        front.length (cells.map TableCell.node) =
      .ok (cellsFrom front.length (cells.map fun cell => alignmentBorder cell.tag)) := by
  induction cells generalizing front with
  | nil => rfl
  | cons first rest ih =>
      have others := ih (front ++ [first])
      rw [List.append_assoc, List.singleton_append, List.length_append, List.length_singleton]
        at others
      have found := findIdx?_childAddresses address 0 (front.map TableCell.node)
        (rest.map TableCell.node) (rfl : first.node.isElement = true)
      rw [Nat.zero_add, elementCount_cells, List.length_map] at found
      have split : (front ++ first :: rest).map TableCell.node =
          front.map TableCell.node ++ first.node :: rest.map TableCell.node := by simp
      rw [split] at others ⊢
      show borderCells _ address front.length
        (.element first.tag first.children :: rest.map TableCell.node) = _
      rw [borderCells, placeIn, found, ok_bind, others, List.map_cons, cellsFrom,
        isAllBlank_alignmentBorder]
      rfl

theorem rowBorder_cells {position : Position} {cells : List TableCell} (some : cells ≠ [])
    (children : position.node.children = cells.map TableCell.node) :
    rowBorder position =
      .ok (if position.parentKind = "thead" then borderLine cells else []) := by
  have border := borderCells_cells position.address [] cells
  have seen : ∀ content ∈ cells.map fun cell => alignmentBorder cell.tag,
      Text.isAllBlank content = false := by
    simpa using fun (cell : TableCell) _ => isAllBlank_alignmentBorder cell.tag
  rw [List.nil_append, List.length_nil, cellsFrom_zero, rowLine_of_shown (by simpa) seen,
    ← children] at border
  rw [rowBorder]
  by_cases head : position.parentKind = "thead"
  · rw [if_pos head, if_pos (beq_iff_eq.2 head)]
    exact border
  · rw [if_neg head, if_neg (by simpa using head)]

end Gfm

/-! ## Rendering cells and rows -/

/-- What the contents of these cells of the row at `address` become, numbered from `index`. -/
inductive CellsBecome (address : Address) : Nat → List TableCell → List Text → Prop
  | nil (index : Nat) : CellsBecome address index [] []
  | cons {index : Nat} {cell : TableCell} {rest : List TableCell} {contents : List Text}
      {inside : Inside}
      (made : (Registry.builtIn true).insideOf (address ++ [index]) cell.tag [] cell.children =
        .ok inside)
      (further : CellsBecome address (index + 1) rest contents) :
      CellsBecome address index (cell :: rest) (inside.content :: contents)

namespace CellsBecome

variable {address : Address} {index : Nat} {cells : List TableCell} {contents : List Text}

/-- The content of one of the cells. -/
theorem exists_inside (become : CellsBecome address index cells contents) {place : Nat}
    {content : Text} (known : contents[place]? = some content) :
    ∃ cell inside, cells[place]? = some cell ∧
      (Registry.builtIn true).insideOf (address ++ [index + place]) cell.tag [] cell.children =
        .ok inside ∧ inside.content = content := by
  induction become generalizing place with
  | nil => cases known
  | @cons index cell rest contents inside made further ih =>
      cases place with
      | zero =>
          cases known
          exact ⟨cell, inside, rfl, made, rfl⟩
      | succ place =>
          rw [Nat.add_comm place, ← Nat.add_assoc]
          rw [Nat.add_comm 1 place]
          exact ih known

end CellsBecome

namespace Registry

variable {position : Position} {replacements : Replacements}

theorem exists_find_cell (kind : position.node.kind ∈ ["th", "td"]) :
    ∃ choice, (builtIn true).find position replacements = .ok (some choice) ∧
      choice.rendering = fun content position _ => Gfm.tableCell content position :=
  exists_find_gfm kind 3 rfl (by decide) (by decide) (Filter.selects_oneOf_iff.2 kind) rfl

theorem exists_find_row (kind : position.node.kind = "tr") :
    ∃ choice, (builtIn true).find position replacements = .ok (some choice) ∧
      choice.rendering = fun content position _ => Gfm.tableRow content position :=
  exists_find_gfm (List.mem_singleton.2 kind) 4 rfl (by decide) (by decide)
    (Filter.selects_exact_iff.2 kind) rfl

theorem finish_cell {address : Address} {tag : Tag} {before after : List Node} {cell : TableCell}
    (kind : cell.tag.kind ∈ ["th", "td"]) (inside : Inside) :
    (builtIn true).finish (Position.child address tag before cell.node after) inside =
      .ok (if Text.isAllBlank inside.content then []
        else Gfm.cell before.length inside.content) := by
  let position := Position.child address tag before cell.node after
  have facts : ∀ name ∈ ["th", "td"],
      isBlockName name = true ∧ isVoidName name = false ∧ name ≠ "a" := by decide
  obtain ⟨block, solid, noAnchor⟩ := facts _ kind
  obtain ⟨choice, found, rendering⟩ := @exists_find_cell position (inside.table position.address) kind
  rw [@finish_block _ position _ _ block solid noAnchor found, rendering]
  split
  · rfl
  · show Gfm.tableCell inside.content position = _
    rw [Gfm.tableCell, Position.place_child address tag before after rfl]
    rfl

theorem insideOf_cells {address : Address} {tag : Tag} {cells : List TableCell}
    {contents : List Text} (front : List TableCell)
    (become : CellsBecome address front.length cells contents)
    (kinds : ∀ cell ∈ cells, cell.tag.kind ∈ ["th", "td"]) :
    ∃ items, (builtIn true).insideOf address tag (front.map TableCell.node)
        (cells.map TableCell.node) = .ok ⟨Gfm.cellsFrom front.length contents, items⟩ := by
  induction cells generalizing front contents with
  | nil =>
      cases become
      exact ⟨[], rfl⟩
  | cons cell rest ih =>
      cases become with
      | @cons _ _ _ others inside made further =>
          have snoc : (front ++ [cell]).length = front.length + 1 := by simp
          obtain ⟨items, later⟩ := ih (front ++ [cell]) (snoc ▸ further)
            fun other member => kinds other (List.mem_cons_of_mem _ member)
          rw [List.map_append, snoc] at later
          have own := @finish_cell address tag (front.map TableCell.node)
            (rest.map TableCell.node) cell (kinds cell List.mem_cons_self) inside
          rw [List.length_map] at own
          have makes : (builtIn true).markdownOf
              (address ++ [elementCount (front.map TableCell.node)])
              (some { parent := tag, before := front.map TableCell.node,
                      after := rest.map TableCell.node })
              (.element cell.tag cell.children) =
                (builtIn true).finish (Position.child address tag (front.map TableCell.node)
                  cell.node (rest.map TableCell.node)) inside := by
            rw [markdownOf, elementCount_cells, made, ok_bind, Position.child, elementCount_cells]
            rfl
          let text := if Text.isAllBlank inside.content then []
            else Gfm.cell front.length inside.content
          refine ⟨text :: items, ?_⟩
          rw [List.map_cons, TableCell.node, insideOf, makes, own, ok_bind]
          show insideOf _ address tag (front.map TableCell.node ++ [cell].map TableCell.node) _ >>=
            _ = _
          rw [later]
          rfl

/-- A row with something to see. -/
theorem markdownHere_row {tag : Tag} {cells : List TableCell} {contents : List Text}
    (shape : position.node = .element tag (cells.map TableCell.node)) (kind : tag.kind = "tr")
    (become : CellsBecome position.address 0 cells contents)
    (kinds : ∀ cell ∈ cells, cell.tag.kind ∈ ["th", "td"])
    (seen : Text.isAllBlank (Gfm.rowLine contents) = false) :
    (builtIn true).markdownHere position = .ok ('\n' :: (Gfm.rowLine contents ++
      if position.parentKind = "thead" then '\n' :: Gfm.borderLine cells else [])) := by
  have some : cells ≠ [] := by
    rintro rfl
    cases become
    exact absurd seen (by decide)
  obtain ⟨items, made⟩ := @insideOf_cells position.address tag cells contents [] become kinds
  rw [List.length_nil, Gfm.cellsFrom_zero] at made
  have insideMade : (builtIn true).insideHere position = .ok ⟨Gfm.rowLine contents, items⟩ := by
    rw [insideHere, shape]
    exact made
  have kind' : position.node.kind = "tr" := by rw [shape]; exact kind
  have block : position.node.isBlock = true := by rw [Node.isBlock, kind']; rfl
  have solid : position.node.isVoid = false := by rw [Node.isVoid, kind']; rfl
  have noAnchor : position.node.kind ≠ "a" := by rw [kind']; decide
  obtain ⟨choice, found, rendering⟩ := @exists_find_row position
    (Inside.table ⟨Gfm.rowLine contents, items⟩ position.address) kind'
  rw [markdownHere_eq_finish insideMade, finish_block block solid noAnchor found, rendering, seen]
  show Gfm.tableRow (Gfm.rowLine contents) position = _
  have children : position.node.children = cells.map TableCell.node := by rw [shape]; rfl
  rw [Gfm.tableRow, Gfm.rowBorder_cells some children, ok_bind]
  by_cases head : position.parentKind = "thead"
  · rw [if_pos head, if_pos head]
    rfl
  · rw [if_neg head, if_neg head]
    rfl

end Registry

/-! ## Rows of collapsed documents -/

section Thinned

variable {before after : List Node} (thinned : Thinned before after)

include thinned

theorem Thinned.not_mem_bar (free : '|' ∉ wholeTextOf before) : '|' ∉ wholeTextOf after := by
  intro member
  have seen : '|' ∈ Text.visible (wholeTextOf after) := List.mem_filter.2 ⟨member, by decide⟩
  rw [thinned.visible_wholeTextOf] at seen
  exact free (List.mem_filter.1 seen).1

end Thinned

/-- A cell as collapsing leaves it: in its texts there are neither bars nor line feeds, and for its
elements as many are written. -/
structure TableCell.LeftOf (left cell : TableCell) : Prop where
  tag : left.tag = cell.tag
  flowing : left.tag.kind ≠ "pre"
  inline : HaveNoBlocks left.children
  layout : ∀ character, IsLayout character →
    boundOf (Node.inlineAdded true) left.children character =
      addedIn (Node.inlineAdded true) cell.children character

theorem TableCell.IsInline.leftOf {cell left : TableCell} (inline : cell.IsInline)
    (tag : left.tag = cell.tag) (thinned : Thinned cell.children left.children)
    (single : '\n' ∉ wholeTextOf left.children) : left.LeftOf cell where
  tag := tag
  flowing := by
    intro preformatted
    have kind := inline.kind
    rw [← tag, preformatted] at kind
    exact absurd kind (by decide)
  inline := inline.inline.of_thinned thinned
  layout := by
    intro character layout
    have free : character ∉ wholeTextOf left.children :=
      layout.not_mem ⟨thinned.not_mem_bar inline.free, single⟩
    rw [boundOf, List.count_eq_zero_of_not_mem free, thinned.addedIn_inlineAdded, Nat.zero_add]

/-- The content has no more bars and line feeds than are written for the elements of the cell. -/
structure TableCell.IsWrittenAs (cell : TableCell) (content : Text) : Prop where
  bars : content.count '|' ≤ barsWritten true cell.children
  feeds : content.count '\n' ≤ feedsWritten true cell.children

theorem TableCell.LeftOf.isWrittenAs {left cell : TableCell} {content : Text}
    (leftOf : left.LeftOf cell)
    (few : ∀ character, IsLayout character →
      content.count character ≤ boundOf (Node.inlineAdded true) left.children character) :
    cell.IsWrittenAs content where
  bars := (few '|' (.inl rfl)).trans_eq (leftOf.layout '|' (.inl rfl))
  feeds := (few '\n' (.inr rfl)).trans_eq (leftOf.layout '\n' (.inr rfl))

namespace Gfm

/-- What a row with these cells is, if these are their contents. -/
structure IsRowOf (cells : List TableCell) (contents : List Text) : Prop where
  written : List.Forall₂ TableCell.IsWrittenAs cells contents
  bars : ∃ others ≤ (cells.map fun cell => barsWritten true cell.children).sum,
    (rowLine contents).count '|' = (Text.shown contents).length +
      (if Text.isAllBlank (contents.headD []) then 0 else 1) + others
  feeds : (rowLine contents).count '\n' ≤
    (cells.map fun cell => feedsWritten true cell.children).sum
  whole : cells ≠ [] → (∀ content ∈ contents, Text.isAllBlank content = false) →
    (∀ cell ∈ cells, barsWritten true cell.children = 0 ∧ feedsWritten true cell.children = 0) →
      IsTableLine cells.length (rowLine contents)

section Written

variable {cells : List TableCell} {contents : List Text}
  (written : List.Forall₂ TableCell.IsWrittenAs cells contents)

include written

theorem sum_count_le {character : Char} {most : TableCell → Nat}
    (few : ∀ cell content, TableCell.IsWrittenAs cell content → content.count character ≤ most cell) :
    (contents.map (List.count character)).sum ≤ (cells.map most).sum := by
  refine List.Forall₂.sum_le_sum ?_
  rw [List.forall₂_map_left_iff, List.forall₂_map_right_iff]
  exact written.flip.imp fun content cell own => few cell content own

theorem not_mem_of_none {character : Char} {most : TableCell → Nat}
    (few : ∀ cell content, TableCell.IsWrittenAs cell content → content.count character ≤ most cell)
    (none : ∀ cell ∈ cells, most cell = 0) : ∀ content ∈ contents, character ∉ content := by
  induction written with
  | nil => exact List.forall_mem_nil _
  | @cons cell content _ _ own _ ih =>
      rw [List.forall_mem_cons] at none
      refine List.forall_mem_cons.2 ⟨?_, ih none.2⟩
      have most := few cell content own
      rwa [none.1, Nat.le_zero, List.count_eq_zero] at most

theorem isRowOf : IsRowOf cells contents := by
  have bars := fun cell content (own : TableCell.IsWrittenAs cell content) => own.bars
  have feeds := fun cell content (own : TableCell.IsWrittenAs cell content) => own.feeds
  refine ⟨written, ⟨_, (sum_shown_le contents '|').trans (sum_count_le written bars),
    count_bar_rowLine contents⟩, (count_feed_rowLine_le contents).trans (sum_count_le written feeds),
    fun some seen none => ?_⟩
  have some' : contents ≠ [] := by
    rintro rfl
    cases written
    exact some rfl
  rw [rowLine_of_shown some' seen, written.length_eq]
  exact isTableLine (not_mem_of_none written bars fun cell member => (none cell member).1)
    (not_mem_of_none written feeds fun cell member => (none cell member).2)

end Written

/-- What a row becomes: its line, below a line feed, and a head row's border. -/
def rowText (parentKind : String) (cells : List TableCell) (contents : List Text) : Text :=
  '\n' :: (rowLine contents ++ if parentKind = "thead" then '\n' :: borderLine cells else [])

end Gfm

/-- Cells stay, with their tags. -/
theorem exists_cells_of_thinned {cells : List TableCell} {rest : List Node}
    (thinned : Thinned (cells.map TableCell.node) rest) :
    ∃ cells' : List TableCell, rest = cells'.map TableCell.node ∧
      List.Forall₂ (fun cell cell' : TableCell =>
        cell'.tag = cell.tag ∧ Thinned cell.children cell'.children) cells cells' := by
  induction cells generalizing rest with
  | nil =>
      cases thinned
      exact ⟨[], rfl, .nil⟩
  | cons cell others ih =>
      cases thinned with
      | @element _ _ inner _ _ _ inside further =>
          obtain ⟨cells', rfl, alike⟩ := ih further
          exact ⟨⟨cell.tag, inner⟩ :: cells', rfl, .cons ⟨rfl, inside⟩ alike⟩

theorem not_mem_feed : (nodes : List Node) → HaveNoBlocks nodes → HaveSpacesOnly nodes →
    '\n' ∉ wholeTextOf nodes
  | [], _, _ => List.not_mem_nil
  | .text kind content :: rest, inline, spaces => by
      rw [wholeTextOf, List.mem_append, not_or]
      refine ⟨fun member => ?_, not_mem_feed rest inline.tail spaces.2⟩
      exact absurd (spaces.1 _ member rfl) (by decide)
  | .mark kind content :: rest, inline, spaces => by
      rw [wholeTextOf, List.mem_append, not_or]
      exact ⟨List.not_mem_nil, not_mem_feed rest inline.tail spaces.2⟩
  | .element tag children :: rest, inline, spaces => by
      rw [wholeTextOf, List.mem_append, not_or]
      obtain ⟨own, inner⟩ := inline.inside
      have open' : HaveSpacesOnly children := by
        refine spaces.1.resolve_left fun preformatted => ?_
        rw [Tag.isBlock, beq_iff_eq.1 preformatted] at own
        cases own
      exact ⟨not_mem_feed children inner open', not_mem_feed rest inline.tail spaces.2⟩

/-- These nodes are cells, with nothing but spacing and marks around them. -/
structure AreCells (nodes : List Node) (cells : List TableCell) : Prop where
  elements : nodes.filter Node.isElement = cells.map TableCell.node
  spacing : ∀ kind content, .text kind content ∈ nodes → Text.solid content = []

theorem AreCells.collapseBetween_eq {nodes : List Node} {cells : List TableCell}
    (areCells : AreCells nodes cells) (inline : ∀ cell ∈ cells, cell.IsInline) (edge : Edge) :
    collapseBetween .atBoundary edge nodes =
      collapseBetween .atBoundary edge (cells.map TableCell.node) := by
  have blocks : ∀ tag children, .element tag children ∈ nodes → tag.isBlock = true := by
    intro tag children member
    have kept : Node.element tag children ∈ nodes.filter Node.isElement :=
      List.mem_filter.2 ⟨member, rfl⟩
    rw [areCells.elements] at kept
    obtain ⟨cell, listed, same⟩ := List.mem_map.1 kept
    cases same
    exact (inline cell listed).isBlock
  rw [collapseBetween, collapseBetween, ← squeezeAll_filter_isElement blocks areCells.spacing,
    areCells.elements]

/-- The cells of a row that is not preformatted have no spacing but spaces in their texts. -/
theorem exists_cells_of_collapseBetween {cells : List TableCell}
    (inline : ∀ cell ∈ cells, cell.IsInline) (gap : Gap) (edge : Edge) :
    ∃ cells' : List TableCell,
      collapseBetween gap edge (cells.map TableCell.node) = cells'.map TableCell.node ∧
      List.Forall₂ (fun cell cell' => cell'.LeftOf cell) cells cells' := by
  have spaces := haveSpacesOnly_collapseBetween gap edge (cells.map TableCell.node)
  obtain ⟨cells', same, alike⟩ :=
    exists_cells_of_thinned (thinned_collapseBetween gap edge (cells.map TableCell.node))
  rw [same] at spaces
  refine ⟨cells', same, ?_⟩
  clear same
  induction alike with
  | nil => exact .nil
  | @cons cell cell' _ _ own _ ih =>
      obtain ⟨tag, thinned⟩ := own
      have cellInline := inline cell List.mem_cons_self
      have open' : HaveSpacesOnly cell'.children := by
        refine spaces.1.resolve_left fun preformatted => ?_
        have pre : cell'.tag.kind = "pre" := beq_iff_eq.1 preformatted
        have kind := cellInline.kind
        rw [← tag, pre] at kind
        exact absurd kind (by decide)
      have single := not_mem_feed _ (cellInline.inline.of_thinned thinned) open'
      exact .cons (cellInline.leftOf tag thinned single)
        (ih (fun other member => inline other (List.mem_cons_of_mem _ member)) spaces.2)

section Kept

variable {cells left : List TableCell}
  (kept : List.Forall₂ (fun cell left => TableCell.LeftOf left cell) cells left)

include kept

theorem map_tag_of_kept : left.map TableCell.tag = cells.map TableCell.tag := by
  induction kept with
  | nil => rfl
  | cons leftOf _ ih => rw [List.map_cons, List.map_cons, leftOf.tag, ih]

theorem exists_cellsBecome (address : Address) (index : Nat) :
    ∃ contents, CellsBecome address index left contents ∧
      List.Forall₂ TableCell.IsWrittenAs cells contents := by
  induction kept generalizing index with
  | nil => exact ⟨[], .nil index, .nil⟩
  | @cons cell left _ _ leftOf _ ih =>
      obtain ⟨inside, made, few⟩ := @Registry.exists_insideOf_inline true (address ++ [index])
        left.tag left.children leftOf.flowing leftOf.inline
      obtain ⟨contents, become, others⟩ := ih (index + 1)
      exact ⟨inside.content :: contents, .cons made become, .cons (leftOf.isWrittenAs few) others⟩

end Kept

theorem Gfm.borderLine_congr {cells left : List TableCell}
    (tags : left.map TableCell.tag = cells.map TableCell.tag) :
    borderLine left = borderLine cells := by
  have borders (others : List TableCell) : borderLine others =
      tableLine ((others.map TableCell.tag).map alignmentBorder) := by
    rw [List.map_map]
    rfl
  rw [borders, borders, tags]

namespace Document

theorem parentKind_collapse {document : Document} {address : Address} {position left : Position}
    (placed : document.elementAt? address = some position)
    (placed' : document.collapse.elementAt? address = some left) :
    left.parentKind = position.parentKind := by
  cases address using List.reverseRecOn with
  | nil =>
      cases placed
      cases placed'
      rfl
  | append_singleton address index =>
      obtain ⟨parent, tag, before, node, after, above, shape, -, -, rfl⟩ :=
        elementAt?_snoc_iff.1 placed
      obtain ⟨parent', tag', before', node', after', above', shape', -, -, rfl⟩ :=
        elementAt?_snoc_iff.1 placed'
      obtain ⟨own, children, left, rest, known, again, leaves, -⟩ :=
        exists_collapse_elementAt? above
      rw [above'] at again
      cases again
      rw [shape, Node.element.injEq] at known
      rw [shape', Node.element.injEq] at leaves
      show tag'.kind = tag.kind
      rw [leaves.1, known.1]

/-- The content of the element at this address, as recursion over the collapsed tree makes it. -/
def contentAt? (document : Document) (gfm : Bool) (address : Address) : Option Text := do
  let position ← document.collapse.elementAt? address
  let inside ← ((Registry.builtIn gfm).insideHere position).toOption
  return inside.content

/-- The Markdown of the element at this address, made in the same way. -/
def markdownAt? (document : Document) (gfm : Bool) (address : Address) : Option Text := do
  let position ← document.collapse.elementAt? address
  ((Registry.builtIn gfm).markdownHere position).toOption

section Collapsed

variable {document : Document} {gfm : Bool} {address : Address} {left : Position}
  (placed : document.collapse.elementAt? address = some left)

include placed

theorem contentAt?_eq {inside : Inside} (made : (Registry.builtIn gfm).insideHere left = .ok inside) :
    document.contentAt? gfm address = some inside.content := by
  rw [contentAt?, placed]
  show Option.bind ((Registry.builtIn gfm).insideHere left).toOption _ = _
  rw [made]
  rfl

theorem markdownAt?_eq {text : Text} (makes : (Registry.builtIn gfm).markdownHere left = .ok text) :
    document.markdownAt? gfm address = some text := by
  rw [markdownAt?, placed]
  show ((Registry.builtIn gfm).markdownHere left).toOption = _
  rw [makes]
  rfl

theorem hasBelow_collapse {body left' : Position} (found : document.body? = some body)
    (again : document.collapse.body? = some left') (above : body.address <+: address)
    (different : address ≠ body.address) :
    document.collapse.HasBelow left'.address left.address := by
  rw [address_of_collapse_body? found again, address_of_elementAt? placed]
  exact ⟨by rw [placed]; rfl, above, different⟩

/-- A conversion keeps what the element becomes. -/
theorem find?_eq_of_convert {conversion : Conversion}
    (converted : document.convert { gfm := gfm } [] = .ok conversion) {body : Position}
    (found : document.body? = some body) (below : document.HasBelow body.address address)
    {text : Text} (makes : (Registry.builtIn gfm).markdownHere left = .ok text) :
    conversion.replacements.find? address = some text := by
  obtain ⟨_, _, body', _, _, again, -⟩ := exists_collapse_body? found
  have below' := hasBelow_collapse placed found again below.2.1 below.2.2
  have address := address_of_elementAt? placed
  have recorded := find?_of_convert converted again (address ▸ placed) below'
  rw [makes, address] at recorded
  exact recorded

end Collapsed

/-- A row of a table stands at its place in the document: its children are cells.  If it is
preformatted, there is nothing around them, and no line feed in them. -/
structure HasTableRow (document : Document) (row : Position) (cells : List TableCell) : Prop where
  placed : document.elementAt? row.address = some row
  shape : ∃ tag children, row.node = .element tag children ∧ tag.kind = "tr" ∧
    AreCells children cells
  inline : ∀ cell ∈ cells, cell.IsInline
  flat : document.InPreformatted row.address → row.node.children = cells.map TableCell.node ∧
    ∀ cell ∈ cells, '\n' ∉ wholeTextOf cell.children

variable {document : Document} {row : Position} {cells : List TableCell}

/-- The row in the collapsed document. -/
theorem HasTableRow.exists_collapse (hasRow : document.HasTableRow row cells) :
    ∃ (left : Position) (tag : Tag) (cells' : List TableCell),
      document.collapse.elementAt? row.address = some left ∧
      left.node = .element tag (cells'.map TableCell.node) ∧ tag.kind = "tr" ∧
      left.parentKind = row.parentKind ∧
      List.Forall₂ (fun cell cell' => cell'.LeftOf cell) cells cells' := by
  obtain ⟨tag, children, shape, kind, areCells⟩ := hasRow.shape
  obtain ⟨own, children', left, rest, shape', placed', shapeLeft, inside, outside⟩ :=
    exists_collapse_elementAt? hasRow.placed
  obtain ⟨rfl, rfl⟩ := Node.element.inj (shape.symm.trans shape')
  have parentKind := parentKind_collapse hasRow.placed placed'
  by_cases preformatted : document.InPreformatted row.address
  · obtain ⟨bare, single⟩ := hasRow.flat preformatted
    rw [shape] at bare
    obtain rfl : children = cells.map TableCell.node := bare
    rw [inside preformatted] at shapeLeft
    exact ⟨left, tag, cells, placed', shapeLeft, kind, parentKind,
      List.forall₂_same.2 fun cell member => (hasRow.inline cell member).leftOf rfl (.refl _)
        (single cell member)⟩
  · obtain ⟨gap, edge, rfl⟩ := outside preformatted
    have separation : tag.separation = .boundary := by
      rw [Tag.separation, Tag.isBlock, kind]
      have block : isBlockName "tr" = true := rfl
      rw [block]
      rfl
    rw [separation, Gap.pass, areCells.collapseBetween_eq hasRow.inline] at shapeLeft
    obtain ⟨cells', same, kept⟩ :=
      exists_cells_of_collapseBetween hasRow.inline .atBoundary (edge.pass .boundary)
    rw [same] at shapeLeft
    exact ⟨left, tag, cells', placed', shapeLeft, kind, parentKind, kept⟩

/-- A cell of a row stands at its place. -/
theorem exists_elementAt?_cell {address : Address} {tag : Tag} {index : Nat} {cell : TableCell}
    (placed : document.elementAt? address = some row)
    (shape : row.node = .element tag (cells.map TableCell.node))
    (listed : cells[index]? = some cell) :
    ∃ position, document.elementAt? (address ++ [index]) = some position ∧
      position.address = address ++ [index] ∧ position.node = .element cell.tag cell.children := by
  obtain ⟨inside, rfl⟩ := List.getElem?_eq_some_iff.1 listed
  have split : cells.map TableCell.node = (cells.take index).map TableCell.node ++
      cells[index].node :: (cells.drop (index + 1)).map TableCell.node := by
    rw [← List.map_cons, ← List.map_append, List.cons_getElem_drop_succ, List.take_append_drop]
  rw [split] at shape
  have placed' := elementAt?_child placed shape rfl
  have count : elementCount ((cells.take index).map TableCell.node) = index := by
    rw [elementCount_cells, List.length_take, Nat.min_eq_left (Nat.le_of_lt inside)]
  rw [count] at placed'
  exact ⟨_, placed', address_of_elementAt? placed', rfl⟩

/-- Every row has the cells that are not blank, and is one line with all its cells if none is
blank and no bar or line feed is written for the elements in them.  The border under a head row is
one line with all its cells. -/
theorem table_row (hasRow : document.HasTableRow row cells) :
    Gfm.IsTableLine cells.length (Gfm.borderLine cells) ∧
    ∃ contents, Gfm.IsRowOf cells contents ∧
      (∀ index content, contents[index]? = some content →
        document.contentAt? true (row.address ++ [index]) = some content) ∧
      ((∃ content ∈ contents, Text.isAllBlank content = false) →
        document.markdownAt? true row.address = some (Gfm.rowText row.parentKind cells contents) ∧
        ∀ conversion body, document.convert { gfm := true } [] = .ok conversion →
          document.body? = some body → document.HasBelow body.address row.address →
            conversion.replacements.find? row.address =
              some (Gfm.rowText row.parentKind cells contents)) := by
  obtain ⟨left, tag, cells', placed, shape, kind, parentKind, kept⟩ := hasRow.exists_collapse
  have address := address_of_elementAt? placed
  have tags := map_tag_of_kept kept
  obtain ⟨contents, become, written⟩ := exists_cellsBecome kept row.address 0
  refine ⟨Gfm.isTableLine_borderLine cells, contents, Gfm.isRowOf written,
    fun index content known => ?_, fun seen => ?_⟩
  · obtain ⟨cell, inside, listed, made, rfl⟩ := become.exists_inside known
    rw [Nat.zero_add] at made
    obtain ⟨position, placed', address', shape'⟩ := exists_elementAt?_cell placed shape listed
    have here : (Registry.builtIn true).insideHere position = .ok inside := by
      rw [Registry.insideHere, shape', address']
      exact made
    rw [contentAt?, placed']
    show Option.bind ((Registry.builtIn true).insideHere position).toOption _ = _
    rw [here]
    rfl
  · have kinds : ∀ cell ∈ cells', cell.tag.kind ∈ ["th", "td"] := by
      intro cell member
      have tag := List.mem_map_of_mem (f := TableCell.tag) member
      rw [tags] at tag
      obtain ⟨original, listed, same⟩ := List.mem_map.1 tag
      rw [← same]
      exact (hasRow.inline original listed).kind
    have made := Registry.markdownHere_row shape kind (address ▸ become) kinds
      (Gfm.isAllBlank_rowLine seen)
    rw [parentKind, Gfm.borderLine_congr tags] at made
    have recorded : document.markdownAt? true row.address =
        some (Gfm.rowText row.parentKind cells contents) := by
      rw [markdownAt?, placed]
      show ((Registry.builtIn true).markdownHere left).toOption = _
      rw [made]
      rfl
    refine ⟨recorded, fun conversion body converted found below => ?_⟩
    obtain ⟨_, _, body', _, _, again, -, -, -⟩ := exists_collapse_body? found
    have same := address_of_collapse_body? found again
    rw [← address] at placed below ⊢
    have below' : document.collapse.HasBelow body'.address left.address := by
      rw [same]
      exact ⟨by rw [placed]; rfl, below.2⟩
    rw [find?_of_convert converted again placed below', made]
    rfl

section Tables

/-- A page with a table of one row. -/
def tableOf (part : String) (cells : List TableCell) : Document :=
  pageOf [.element (plainTag "table") [.element (plainTag part)
    [.element (plainTag "tr") (cells.map TableCell.node)]]]

/-- The row of this page. -/
def rowOf (part : String) (cells : List TableCell) : Position :=
  .child [0, 0, 0, 0] (plainTag part) [] (.element (plainTag "tr") (cells.map TableCell.node)) []

theorem hasTableRow_tableOf (part : String) (inline : ∀ cell ∈ cells, cell.IsInline)
    (single : ∀ cell ∈ cells, '\n' ∉ wholeTextOf cell.children) :
    (tableOf part cells).HasTableRow (rowOf part cells) cells where
  placed := rfl
  shape := ⟨plainTag "tr", _, rfl, by decide, {
    elements := by simp [List.filter_map, Function.comp_def, TableCell.node, Node.isElement]
    spacing := by simp [TableCell.node] }⟩
  inline := inline
  flat := fun _ => ⟨rfl, single⟩

def plainCell (kind : String) (children : List Node) : TableCell where
  tag := plainTag kind
  children := children

/-- A row of heads, one without content and one with a line break. -/
def headRow : List TableCell :=
  [plainCell "th" [.text .plain "a".toList], plainCell "th" [],
    plainCell "th" [.text .plain "b".toList, .element (plainTag "br") [],
      .element (plainTag "em") [.text .plain "c".toList]]]

/-- A row with nothing in its first cell. -/
def emptyFirst : List TableCell :=
  [plainCell "td" [], plainCell "td" [.text .plain "x".toList]]

/-- A row with a line break in its cell. -/
def brokenCell : List TableCell :=
  [plainCell "td" [.text .plain "a".toList, .element (plainTag "br") [],
    .text .plain "b".toList]]

/-- An element without children that has these attributes. -/
def emptyElement (name : String) (attributes : List (String × String)) : Node :=
  .element { name := name, attributes := attributes.map fun entry =>
    { name := entry.1, value := .single entry.2.toList } } []

/-- A row with an image of which this is said. -/
def pictured (said : String) : List TableCell :=
  [plainCell "td" [emptyElement "img" [("alt", said), ("src", "x")]]]

/-- All cells of these rows. -/
def sampleCells : List TableCell :=
  headRow ++ emptyFirst ++ brokenCell ++ pictured "a\nb" ++ pictured "a|b"

theorem hasTableRow_sample (part : String) (listed : cells ⊆ sampleCells) :
    (tableOf part cells).HasTableRow (rowOf part cells) cells := by
  have facts : ∀ cell ∈ sampleCells, cell.tag.kind ∈ ["th", "td"] ∧ HaveNoBlocks cell.children ∧
      '|' ∉ wholeTextOf cell.children ∧ '\n' ∉ wholeTextOf cell.children := by
    decide +kernel
  refine hasTableRow_tableOf part (fun cell member => ?_) fun cell member => ?_
  · obtain ⟨kind, inline, free, -⟩ := facts cell (listed member)
    exact ⟨kind, inline, free⟩
  · exact (facts cell (listed member)).2.2.2

theorem headRow_leaves_blank_cell_out :
    (tableOf "thead" headRow).HasTableRow (rowOf "thead" headRow) headRow ∧
      Gfm.IsTableLine 3 (Gfm.borderLine headRow) ∧
      (tableOf "thead" headRow).markdownAt? true [0, 0, 0, 0, 0] =
        some "\n| a | b\n_c_ |\n| --- | --- | --- |".toList := by
  have hasRow : (tableOf "thead" headRow).HasTableRow (rowOf "thead" headRow) headRow :=
    hasTableRow_sample "thead" fun cell member => by simp [sampleCells, member]
  obtain ⟨border, contents, isRow, placed, made⟩ := table_row hasRow
  have length : 3 = contents.length := isRow.written.length_eq
  match contents, length with
  | [first, second, third], _ =>
    have first' : some "a".toList = some first := Eq.trans (by decide +kernel) (placed 0 first rfl)
    have second' : some [] = some second := Eq.trans (by decide +kernel) (placed 1 second rfl)
    have third' : some "b\n_c_".toList = some third :=
      Eq.trans (by decide +kernel) (placed 2 third rfl)
    cases first'
    cases second'
    cases third'
    exact ⟨hasRow, border, (made ⟨_, List.mem_cons_self, by decide⟩).1.trans (by decide)⟩

/-- A blank cell at the beginning is lost with its bar and the bar before it.  A line break in a cell
breaks the row, and so does a line feed in what is said with an image; a bar there is one too many
in the row.  There is something to see in all these rows. -/
theorem tables_lose_cells_and_break :
    ((tableOf "tbody" emptyFirst).HasTableRow (rowOf "tbody" emptyFirst) emptyFirst ∧
      (tableOf "tbody" emptyFirst).contentAt? true [0, 0, 0, 0, 0, 1] = some "x".toList ∧
      (tableOf "tbody" emptyFirst).markdownAt? true [0, 0, 0, 0, 0] = some "\n x |".toList ∧
      ¬ Gfm.IsTableLine 2 " x |".toList) ∧
    ((tableOf "tbody" brokenCell).HasTableRow (rowOf "tbody" brokenCell) brokenCell ∧
      (tableOf "tbody" brokenCell).contentAt? true [0, 0, 0, 0, 0, 0] = some "a\nb".toList ∧
      (tableOf "tbody" brokenCell).markdownAt? true [0, 0, 0, 0, 0] =
        some "\n| a\nb |".toList ∧
      ¬ Gfm.IsTableLine 1 "| a\nb |".toList) ∧
    ((tableOf "tbody" (pictured "a\nb")).HasTableRow (rowOf "tbody" (pictured "a\nb"))
        (pictured "a\nb") ∧
      (tableOf "tbody" (pictured "a\nb")).markdownAt? true [0, 0, 0, 0, 0] =
        some "\n| ![a\nb](x) |".toList ∧
      ¬ Gfm.IsTableLine 1 "| ![a\nb](x) |".toList) ∧
    (tableOf "tbody" (pictured "a|b")).HasTableRow (rowOf "tbody" (pictured "a|b"))
        (pictured "a|b") ∧
      (tableOf "tbody" (pictured "a|b")).markdownAt? true [0, 0, 0, 0, 0] =
        some "\n| ![a|b](x) |".toList ∧
      ¬ Gfm.IsTableLine 1 "| ![a|b](x) |".toList := by
  have rows (cells : List TableCell) (listed : cells ⊆ sampleCells) :=
    hasTableRow_sample "tbody" listed
  refine ⟨⟨rows _ fun cell member => ?_, by decide +kernel, by decide +kernel, fun line => ?_⟩,
    ⟨rows _ fun cell member => ?_, by decide +kernel, by decide +kernel, fun line => ?_⟩,
    ⟨rows _ fun cell member => ?_, by decide +kernel, fun line => ?_⟩,
    rows _ fun cell member => ?_, by decide +kernel, fun line => ?_⟩
  · simp [sampleCells, member]
  · exact absurd line.bars (by decide)
  · simp [sampleCells, member]
  · exact absurd line.single (by decide)
  · simp [sampleCells, member]
  · exact absurd line.single (by decide)
  · simp [sampleCells, member]
  · exact absurd line.bars (by decide)

end Tables

end Document

end PageMark
