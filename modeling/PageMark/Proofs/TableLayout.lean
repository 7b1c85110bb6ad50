import PageMark.Proofs.Layout
import PageMark.Proofs.TableRows

/-!
# The lines of a table

A table of cells with one text each, and nothing but spacing around them, becomes a
line for each row, below which there is a border if the row is one of the head.
-/

namespace PageMark

/-! ## Tables of texts -/

/-- An element of one of these kinds with some parts in it and spacing around them. -/
structure Filled (kinds : List String) {α : Type} (node : α → Node) where
  tag : Tag
  children : List Node
  items : List α
  named : tag.kind ∈ kinds
  some : items ≠ []
  spaced : AreSpaced children (items.map node)

def Filled.node {kinds : List String} {α : Type} {node : α → Node} (filled : Filled kinds node) :
    Node :=
  .element filled.tag filled.children

/-- A cell with one text, with something to see in it. -/
structure TextCell where
  tag : Tag
  kind : TextKind
  text : Text
  named : tag.kind ∈ ["th", "td"]
  seen : Text.isAllBlank text = false

def TextCell.node (cell : TextCell) : Node :=
  .element cell.tag [.text cell.kind cell.text]

abbrev TextRow := Filled ["tr"] TextCell.node

/-- The head, a body or the foot of a table. -/
abbrev RowGroup := Filled ["thead", "tbody", "tfoot"] (Filled.node : TextRow → Node)

abbrev TextTable := Filled ["table"] (Filled.node : RowGroup → Node)

/-! ## Their lines -/

/-- The border of a cell with this alignment. -/
def alignmentBorders : List (Text × Text) :=
  [("left".toList, ":--".toList), ("right".toList, "--:".toList), ("center".toList, ":-:".toList)]

/-- The alignment is read in any case; every other one has a border without colons. -/
def TextCell.border (cell : TextCell) : Text :=
  (alignmentBorders.lookup (Text.lower (cell.tag.textOf "align"))).getD "---".toList

/-- The line of a row, and the border below it. -/
def TextRow.lines (inHead : Bool) (row : TextRow) : List Text :=
  Gfm.tableLine (row.items.map fun cell => Text.normal cell.text) ::
    if inHead then [Gfm.tableLine (row.items.map TextCell.border)] else []

def RowGroup.lines (group : RowGroup) : List Text :=
  group.items.flatMap (TextRow.lines (group.tag.kind == "thead"))

def TextTable.lines (table : TextTable) : List Text :=
  table.items.flatMap RowGroup.lines

/-! ## Cells -/

namespace Text

theorem isAllBlank_normal (text : Text) : isAllBlank (normal text) = isAllBlank text := by
  refine isAllBlank_eq_of_visible (visible_eq_of_solid ?_)
  rw [normal_eq, solid_dropTrailingSpace, solid_squeezeAfter]

theorem not_mem_feed_normal (text : Text) : '\n' ∉ normal text := by
  intro member
  have spaces : (normal text).HasSpacesOnly := by
    rw [normal_eq]
    exact (HasSpacesOnly.squeezeAfter true text).shorten_edge .boundary
  exact absurd (spaces _ member rfl) (by decide)

end Text

/-- A text between boundaries becomes normal; the other pass finds it squeezed. -/
theorem exists_collapseBetween_text (kind : TextKind) {content : Text}
    (seen : Text.isAllBlank content = false) :
    ∃ after, collapseBetween .atBoundary .boundary [.text kind content] =
      [.text after (Text.normal content)] := by
  have shortened : Gap.atBoundary.shorten content = Text.squeezeAfter true content :=
    Gap.shorten_eq _ _
  have kept : (Text.squeezeAfter true content).isEmpty = false := by
    rw [Bool.eq_false_iff, ne_eq, List.isEmpty_iff]
    intro nothing
    rw [← Text.isAllBlank_normal, Text.normal_eq, nothing] at seen
    cases seen
  have squeezed : (squeezeAll .atBoundary [.text kind content]).2 =
      [textAfter kind content (Text.squeezeAfter true content)] := by
    rw [squeezeAll, Node.squeezeFrom, shortened, kept]
    rfl
  rw [collapseBetween, squeezed, Text.normal_eq]
  exact ⟨_, rfl⟩

namespace TextCell

variable (cell : TextCell)

theorem isPlainBlock : cell.tag.IsPlainBlock := by
  have parts : ∀ name ∈ ["th", "td"], name ∈ partNames := by decide
  exact Tag.isPlainBlock_of_mem (parts _ cell.named)

/-- The cell as collapsing leaves it. -/
def left : TableCell where
  tag := cell.tag
  children := collapseBetween .atBoundary .boundary [.text cell.kind cell.text]

theorem collapseInPlace_node : cell.node.collapseInPlace = cell.left.node := by
  rw [node, Node.collapseInPlace, cell.isPlainBlock.open']
  rfl

theorem border_eq : cell.border = Gfm.alignmentBorder cell.tag := by
  let align := Text.lower (cell.tag.textOf "align")
  show (alignmentBorders.lookup align).getD _ = if align == "left".toList then _
    else if align == "right".toList then _ else if align == "center".toList then _ else _
  rw [alignmentBorders, List.lookup_cons, List.lookup_cons, List.lookup_cons, List.lookup_nil]
  cases align == "left".toList <;> cases align == "right".toList <;>
    cases align == "center".toList <;> rfl

theorem cellsBecome (address : Address) (index : Nat) (cells : List TextCell) :
    CellsBecome address index (cells.map left) (cells.map fun cell => Text.normal cell.text) := by
  induction cells generalizing index with
  | nil => exact .nil index
  | cons cell rest ih =>
      obtain ⟨after, collapsed⟩ := exists_collapseBetween_text cell.kind cell.seen
      have made : (Registry.builtIn true).insideOf (address ++ [index]) cell.left.tag []
          cell.left.children = .ok ⟨Text.normal cell.text ++ [], []⟩ := by
        rw [left, collapsed]
        rfl
      have become := CellsBecome.cons made (ih (index + 1))
      rwa [List.append_nil] at become

end TextCell

/-! ## Rows -/

theorem Gfm.isLine_tableLine {cells : List Text} (single : ∀ cell ∈ cells, '\n' ∉ cell) :
    Text.IsLine (tableLine cells) where
  single := by
    rw [← List.count_eq_zero, count_feed_tableLine]
    exact List.sum_eq_zero (by simpa [List.count_eq_zero] using single)
  seen := by
    have bar : Text.isBlank '|' = false := by decide
    rw [tableLine, Text.isAllBlank_cons, bar, Bool.false_and]

theorem Gfm.endsSeen_tableLine (cells : List Text) : Text.EndsSeen (tableLine cells) := by
  have bar : Text.isBlank '|' = false := by decide
  rcases List.eq_nil_or_concat' cells with rfl | ⟨front, last, rfl⟩
  · exact Text.endsSeen_snoc bar []
  · have shape : tableLine (front ++ [last]) =
        (tableLine front ++ (' ' :: last ++ [' '])) ++ ['|'] := by
      simp [tableLine, closedCell]
    rw [shape]
    exact Text.endsSeen_snoc bar _

namespace TextRow

variable (row : TextRow)

theorem isPlainBlock : row.tag.IsPlainBlock := by
  have parts : ∀ name ∈ ["tr"], name ∈ partNames := by decide
  exact Tag.isPlainBlock_of_mem (parts _ row.named)

/-- What is fit to be a line of a table. -/
theorem of_mem_lines {inHead : Bool} {line : Text} (member : line ∈ row.lines inHead) :
    Text.IsLine line ∧ Text.EndsSeen line ∧ line.head? = some '|' := by
  have contents : Text.IsLine
      (Gfm.tableLine (row.items.map fun cell => Text.normal cell.text)) := by
    refine Gfm.isLine_tableLine fun text listed => ?_
    obtain ⟨cell, -, rfl⟩ := List.mem_map.1 listed
    exact Text.not_mem_feed_normal cell.text
  have borders : Text.IsLine (Gfm.tableLine (row.items.map TextCell.border)) := by
    refine Gfm.isLine_tableLine fun text listed => ?_
    obtain ⟨cell, -, rfl⟩ := List.mem_map.1 listed
    rw [cell.border_eq]
    have clean : ∀ border ∈ [":--".toList, "--:".toList, ":-:".toList, "---".toList],
        '\n' ∉ border := by decide
    exact clean _ (Gfm.alignmentBorder_mem cell.tag)
  rw [lines, List.mem_cons] at member
  rcases member with rfl | below
  · exact ⟨contents, Gfm.endsSeen_tableLine _, rfl⟩
  · cases inHead with
    | false => cases below
    | true =>
        obtain rfl := List.mem_singleton.1 below
        exact ⟨borders, Gfm.endsSeen_tableLine _, rfl⟩

/-- Only the cells are left of a row. -/
theorem collapseInPlace_node : row.node.collapseInPlace =
    .element row.tag ((row.items.map TextCell.left).map TableCell.node) := by
  rw [Filled.node, Node.collapseInPlace_spaced row.isPlainBlock row.spaced
    fun cell _ => cell.isPlainBlock.block, List.map_map]
  exact congrArg _ (List.map_congr_left fun cell _ => cell.collapseInPlace_node)

theorem borderLine_cells : Gfm.borderLine (row.items.map TextCell.left) =
    Gfm.tableLine (row.items.map TextCell.border) := by
  rw [Gfm.borderLine, List.map_map]
  exact congrArg _ (List.map_congr_left fun cell _ => cell.border_eq.symm)

/-- A row becomes its lines, each behind a line feed. -/
theorem markdownOf_collapseInPlace (address : Address) (parent : Tag) (before after : List Node) :
    (Registry.builtIn true).markdownOf address (some ⟨parent, before, after⟩)
        row.node.collapseInPlace =
      .ok (Text.behindFeeds (row.lines (parent.kind == "thead"))) := by
  let contents := row.items.map fun cell => Text.normal cell.text
  let cells := row.items.map TextCell.left
  let position : Position :=
    { address := address, node := .element row.tag (cells.map TableCell.node),
      surroundings := some ⟨parent, before, after⟩ }
  have named : row.tag.kind = "tr" := List.mem_singleton.1 row.named
  have kinds : ∀ cell ∈ cells, cell.tag.kind ∈ ["th", "td"] := by
    intro cell listed
    obtain ⟨original, -, rfl⟩ := List.mem_map.1 listed
    exact original.named
  have seen : ∀ content ∈ contents, Text.isAllBlank content = false := by
    intro content listed
    obtain ⟨cell, -, rfl⟩ := List.mem_map.1 listed
    exact (Text.isAllBlank_normal cell.text).trans cell.seen
  have some : contents ≠ [] := by simpa [contents] using row.some
  obtain ⟨first, listed⟩ := List.exists_mem_of_ne_nil contents some
  have made := @Registry.markdownHere_row position row.tag cells contents rfl named
    (TextCell.cellsBecome address 0 row.items) kinds
    (Gfm.isAllBlank_rowLine ⟨first, listed, seen first listed⟩)
  rw [row.collapseInPlace_node]
  refine made.trans ?_
  rw [Gfm.rowLine_of_shown some seen, row.borderLine_cells, TextRow.lines]
  show Except.ok ('\n' :: (_ ++ if parent.kind = "thead" then _ else _)) = _
  by_cases head : parent.kind = "thead"
  · simp [head, contents, Text.behindFeeds]
  · simp [head, contents, Text.behindFeeds]

end TextRow

/-! ## Groups of rows -/

namespace Registry

variable {position : Position} {replacements : Replacements}

theorem exists_find_rowGroup (kind : position.node.kind ∈ ["thead", "tbody", "tfoot"]) :
    ∃ choice, (builtIn true).find position replacements = .ok (some choice) ∧
      choice.rendering = fun content _ _ => .ok (Gfm.tableSection content) :=
  exists_find_gfm kind 6 rfl (by decide) (by decide) (Filter.selects_oneOf_iff.2 kind) rfl

theorem exists_find_table (kind : position.node.kind = "table") :
    ∃ choice, (builtIn true).find position replacements = .ok (some choice) ∧
      choice.rendering = fun content _ _ => .ok (Base.paragraphs content) :=
  exists_find_gfm (List.mem_singleton.2 kind) 5 rfl (by decide) (by decide)
    (Filter.selects_exact_iff.2 kind) rfl

end Registry

namespace RowGroup

variable (group : RowGroup)

theorem isPlainBlock : group.tag.IsPlainBlock := by
  have parts : ∀ name ∈ ["thead", "tbody", "tfoot"], name ∈ partNames := by decide
  exact Tag.isPlainBlock_of_mem (parts _ group.named)

theorem of_mem_lines {line : Text} (member : line ∈ group.lines) :
    Text.IsLine line ∧ Text.EndsSeen line ∧ line.head? = some '|' := by
  obtain ⟨row, -, inRow⟩ := List.mem_flatMap.1 member
  exact row.of_mem_lines inRow

theorem lines_ne_nil : group.lines ≠ [] := by
  obtain ⟨row, listed⟩ := List.exists_mem_of_ne_nil _ group.some
  exact List.ne_nil_of_mem (List.mem_flatMap.2 ⟨row, listed, List.mem_cons_self⟩)

theorem markdownOf_collapseInPlace (address : Address) (surroundings : Option Surroundings) :
    (Registry.builtIn true).markdownOf address surroundings group.node.collapseInPlace =
      .ok (Text.behindFeeds group.lines) := by
  have whole := Text.behindFeeds_flatMap (TextRow.lines (group.tag.kind == "thead")) group.items
  obtain ⟨position, replacements, -, -, made⟩ :=
    Registry.exists_markdownOf_spaced group.isPlainBlock group.spaced
      (fun row _ => (TextRow.isPlainBlock row).block) address surroundings
      (fun place row _ front after _ =>
        TextRow.markdownOf_collapseInPlace row (address ++ [place]) group.tag front after)
      (whole ▸ Text.isAllBlank_behindFeeds group.lines_ne_nil fun line member =>
        (group.of_mem_lines member).1)
      (fun position replacements kind => Registry.exists_find_rowGroup (kind ▸ group.named))
  rw [Filled.node, made, ← whole]
  rfl

end RowGroup

/-! ## Tables -/

namespace TextTable

variable (table : TextTable)

theorem isPlainBlock : table.tag.IsPlainBlock := by
  have parts : ∀ name ∈ ["table"], name ∈ partNames := by decide
  exact Tag.isPlainBlock_of_mem (parts _ table.named)

theorem areWholeLines : Text.AreWholeLines table.lines := by
  have fit {line : Text} (member : line ∈ table.lines) :
      Text.IsLine line ∧ Text.EndsSeen line ∧ line.head? = some '|' := by
    obtain ⟨group, -, inGroup⟩ := List.mem_flatMap.1 member
    exact RowGroup.of_mem_lines group inGroup
  refine ⟨?_, fun line member => (fit member).1, fun line member first opens => ?_,
    fun line member => (fit (List.mem_of_getLast? member)).2.1⟩
  · obtain ⟨group, listed⟩ := List.exists_mem_of_ne_nil _ table.some
    obtain ⟨line, inGroup⟩ := List.exists_mem_of_ne_nil _ (RowGroup.lines_ne_nil group)
    exact List.ne_nil_of_mem (List.mem_flatMap.2 ⟨group, listed, inGroup⟩)
  · rw [(fit (List.mem_of_head? member)).2.2] at opens
    cases opens
    rfl

theorem markdownOf_collapseInPlace (address : Address) (surroundings : Option Surroundings) :
    (Registry.builtIn true).markdownOf address surroundings table.node.collapseInPlace =
      .ok (Base.paragraphs (Text.behindFeeds table.lines)) := by
  have whole := Text.behindFeeds_flatMap RowGroup.lines table.items
  obtain ⟨position, replacements, -, -, made⟩ :=
    Registry.exists_markdownOf_spaced table.isPlainBlock table.spaced
      (fun group _ => (RowGroup.isPlainBlock group).block) address surroundings
      (fun place group _ front after _ =>
        RowGroup.markdownOf_collapseInPlace group (address ++ [place])
          (some ⟨table.tag, front, after⟩))
      (whole ▸ Text.isAllBlank_behindFeeds table.areWholeLines.some table.areWholeLines.isLine)
      (fun position replacements kind =>
        Registry.exists_find_table (kind.trans (List.mem_singleton.1 table.named)))
  rw [Filled.node, made, ← whole]
  rfl

end TextTable

namespace Document

/-- A table that is alone in a body outside of preformatted elements becomes its lines and no
other ones. -/
theorem table_lines {document : Document} {body : Position} (found : document.body? = some body)
    (open' : ¬ document.InPreformatted body.address) (table : TextTable)
    (alone : AreSpaced body.node.children [table.node]) :
    ∃ conversion, document.convert { gfm := true } [] = .ok conversion ∧
      Text.lines conversion.markdown = table.lines := by
  have isBlock : table.node.isBlock = true := (TextTable.isPlainBlock table).block
  obtain ⟨conversion, converted, markdown⟩ :=
    exists_convert_of_alone found open' isBlock alone
      fun address tag before after _ => TextTable.markdownOf_collapseInPlace table address
        (some ⟨tag, before, after⟩)
  have whole := TextTable.areWholeLines table
  have feed : Base.paragraphs (Text.behindFeeds table.lines) =
      '\n' :: Base.paragraphs (Text.joinWith ['\n'] table.lines) := by
    rw [Text.behindFeeds_of_some whole.some]
    rfl
  refine ⟨conversion, converted, ?_⟩
  rw [markdown, feed, Text.cleanUp_cons_of_isLineSpacing rfl, whole.lines_cleanUp]

section Sample

def centredCell : TextCell where
  tag := { name := "TH", attributes := [{ name := "align", value := .single "Center".toList }] }
  kind := .plain
  text := "\ta\n b ".toList
  named := by decide
  seen := by decide

def bareCell : TextCell where
  tag := plainTag "td"
  kind := .plain
  text := "c".toList
  named := by decide
  seen := by decide

def mixedRow : TextRow where
  tag := plainTag "tr"
  children := [words "\n", centredCell.node, words "\t", bareCell.node, words "\r\n"]
  items := [centredCell, bareCell]
  named := by decide
  some := List.cons_ne_nil _ _
  spaced := ⟨rfl, by decide⟩

def bareRow : TextRow where
  tag := plainTag "tr"
  children := [bareCell.node]
  items := [bareCell]
  named := by decide
  some := List.cons_ne_nil _ _
  spaced := ⟨rfl, by decide⟩

def mixedHead : RowGroup where
  tag := plainTag "thead"
  children := [words " ", mixedRow.node]
  items := [mixedRow]
  named := by decide
  some := List.cons_ne_nil _ _
  spaced := ⟨rfl, by decide⟩

def mixedBody : RowGroup where
  tag := plainTag "tbody"
  children := [mixedRow.node, words " ", bareRow.node]
  items := [mixedRow, bareRow]
  named := by decide
  some := List.cons_ne_nil _ _
  spaced := ⟨rfl, by decide⟩

def mixedTable : TextTable where
  tag := plainTag "table"
  children := [words "\n", mixedHead.node, mixedBody.node, words " \n"]
  items := [mixedHead, mixedBody]
  named := by decide
  some := List.cons_ne_nil _ _
  spaced := ⟨rfl, by decide⟩

theorem mixedTable_lines :
    ∃ body conversion, (pageOf [words "\n", mixedTable.node]).body? = some body ∧
      ¬ (pageOf [words "\n", mixedTable.node]).InPreformatted body.address ∧
      AreSpaced body.node.children [mixedTable.node] ∧
      (pageOf [words "\n", mixedTable.node]).convert { gfm := true } [] = .ok conversion ∧
      Text.lines conversion.markdown =
        ["| a b | c |", "| :-: | --- |", "| a b | c |", "| c |"].map String.toList := by
  obtain ⟨body, found, -, shape, open'⟩ :=
    @Frame.exists_body? bareFrame (plainTag "body") [words "\n", mixedTable.node] rfl
  have alone : AreSpaced body.node.children [mixedTable.node] := by
    rw [shape]
    exact ⟨rfl, by decide⟩
  obtain ⟨conversion, converted, lines⟩ := table_lines found open' mixedTable alone
  exact ⟨body, conversion, found, open', alone, converted, lines⟩

/-- A table with one cell, with some white space before it. -/
def looseTable (before : String) : Node :=
  .element (plainTag "table") [.element (plainTag "tbody") [.element (plainTag "tr")
    [words before, .element (plainTag "td") [words "a"]]]]

/-- White space that is not collapsed comes first in the row, so the cell has no bar before it: a
form feed, and inside of a preformatted element a line end. -/
theorem looseTable_loses_bar :
    (∃ conversion, (pageOf [looseTable "\x0c"]).convert { gfm := true } [] = .ok conversion ∧
      Text.lines conversion.markdown = ["\x0c a |".toList]) ∧
    (∃ conversion,
      (ofNodes [.element (plainTag "pre") [.element (plainTag "body") [looseTable "\n"]]]).convert
        { gfm := true } [] = .ok conversion ∧
      Text.lines conversion.markdown = [" a |".toList]) ∧
    "| a |".toList ∉ ["\x0c a |".toList, " a |".toList] :=
  ⟨exists_convert_of_toOption (by decide +kernel), exists_convert_of_toOption (by decide +kernel),
    by decide⟩

end Sample

end Document

end PageMark
