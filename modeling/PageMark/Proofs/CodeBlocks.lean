import PageMark.Proofs.BlankLines
import PageMark.Proofs.Openings
import PageMark.Proofs.Pages

/-!
# Blocks of code

The Markdown of a page with one block of code is the code with its lines closed
up, between fences or behind margins.  So the code is reproduced as it is exactly
if its blank lines are empty and none of them are next to each other.
-/

namespace PageMark

namespace Text

/-! ## Texts with their lines closed up -/

theorem joinWith_lines (text : Text) : joinWith ['\n'] (lines text) = text :=
  joinWith_parts '\n' text

theorem lines_joinWith {items : List Text} (some : items ≠ [])
    (single : ∀ item ∈ items, '\n' ∉ item) : lines (joinWith ['\n'] items) = items := by
  induction items with
  | nil => exact absurd rfl some
  | cons first rest ih =>
      have own := lines_of_not_mem (single first List.mem_cons_self)
      cases rest with
      | nil => exact own
      | cons next others =>
          have later := ih (by simp) fun item member => single item (List.mem_cons_of_mem _ member)
          rw [joinWith_cons first (by simp), List.append_assoc, List.singleton_append,
            lines_append_break, own, later]
          rfl

theorem not_mem_of_mem_lines {text line : Text} (member : line ∈ lines text) : '\n' ∉ line := by
  induction text generalizing line with
  | nil =>
      obtain rfl : line = [] := by simpa [lines, parts] using member
      exact List.not_mem_nil
  | cons character rest ih =>
      by_cases feed : character = '\n'
      · subst feed
        rcases List.mem_cons.1 (show line ∈ [] :: lines rest from member) with rfl | later
        · exact List.not_mem_nil
        · exact ih later
      · obtain ⟨first, others, whole⟩ := exists_lines rest
        rw [lines_cons_of_ne feed whole] at member
        rcases List.mem_cons.1 member with rfl | later
        · have single := ih (whole ▸ List.mem_cons_self)
          exact List.not_mem_cons_of_ne_of_not_mem (Ne.symm feed) single
        · exact ih (whole ▸ List.mem_cons_of_mem _ later)

theorem mem_closeUp {items : List Text} {line : Text} (member : line ∈ closeUp items) :
    line = [] ∨ line ∈ items := by
  obtain ⟨other, own, rfl⟩ := List.mem_map.1 ((List.destutter_sublist _ _).subset member)
  rw [emptied]
  split
  · exact .inl rfl
  · exact .inr own

theorem closeUp_ne_nil {items : List Text} (some : items ≠ []) : closeUp items ≠ [] := by
  rw [closeUp, Ne, List.destutter_eq_nil]
  simpa using some

/-- The text with its lines closed up. -/
def closedUp (text : Text) : Text :=
  joinWith ['\n'] (closeUp (lines text))

theorem lines_closedUp (text : Text) : lines (closedUp text) = closeUp (lines text) := by
  refine lines_joinWith (closeUp_ne_nil (parts_ne_nil '\n' text)) fun line member => ?_
  rcases mem_closeUp member with rfl | own
  · exact List.not_mem_nil
  · exact not_mem_of_mem_lines own

theorem closedUp_eq_self_iff {text : Text} :
    closedUp text = text ↔
      (∀ line ∈ lines text, isAllBlank line = true → line = []) ∧
        (lines text).IsChain NotBothEmpty := by
  rw [← closeUp_eq_self_iff]
  constructor
  · intro same
    rw [← lines_closedUp, same]
  · intro same
    rw [closedUp, same, joinWith_lines]

/-! ## Margins -/

section Margins

variable (margin : Text)

/-- A line that is not empty, moved to the right. -/
def indented (line : Text) : Text :=
  if line = [] then [] else margin ++ line

theorem drop_indented (line : Text) : (indented margin line).drop margin.length = line := by
  rw [indented]
  split
  · simp [*]
  · exact List.drop_left

theorem lines_indentLines (single : '\n' ∉ margin) (text : Text) :
    lines (margin ++ indentLines margin text) = (lines text).map (margin ++ ·) := by
  induction text with
  | nil => exact (lines_of_not_mem (by simpa [indentLines] using single)).trans rfl
  | cons character rest ih =>
      by_cases feed : character = '\n'
      · subst feed
        rw [indentLines, lines_append_break, lines_of_not_mem single, ih]
        exact congrArg (· :: _) (List.append_nil margin).symm
      · obtain ⟨first, others, whole⟩ := exists_lines rest
        obtain ⟨first', others', whole'⟩ := exists_lines (indentLines margin rest)
        rw [whole, lines_append_of_not_mem single whole', List.map_cons] at ih
        obtain ⟨same, rfl⟩ := List.cons.inj ih
        obtain rfl := List.append_cancel_left same
        have shape : indentLines margin (character :: rest) =
            character :: indentLines margin rest := by
          simp [indentLines]
        rw [shape, lines_cons_of_ne feed whole,
          lines_append_of_not_mem single (lines_cons_of_ne feed whole')]
        rfl

variable {margin}

theorem prefix_indented {line : Text} (some : indented margin line ≠ []) :
    margin <+: indented margin line := by
  rw [indented] at some ⊢
  split at some
  · exact absurd rfl some
  · next other =>
      rw [if_neg other]
      exact List.prefix_append margin line

theorem emptied_append (blank : isAllBlank margin = true) (line : Text) :
    emptied (margin ++ line) = indented margin (emptied line) := by
  cases seen : isAllBlank line with
  | true => rw [emptied_of_blank seen, emptied_of_blank (by rw [isAllBlank_append, blank, seen]; rfl),
      indented, if_pos rfl]
  | false => rw [emptied_of_shown seen, emptied_of_shown (by rw [isAllBlank_append, blank, seen]; rfl),
      indented, if_neg (ne_nil_of_shown seen)]

/-- Closing up lines behind a margin leaves the margin of those that are not empty. -/
theorem closeUp_map_append (blank : isAllBlank margin = true) (items : List Text) :
    closeUp (items.map (margin ++ ·)) = (closeUp items).map (indented margin) := by
  have apart : ∀ above below, NotBothEmpty above below ↔
      NotBothEmpty (indented margin above) (indented margin below) := by
    have empty (line : Text) : indented margin line = [] ↔ line = [] := by
      rw [indented]
      split
      · simp [*]
      · simp [*]
    intro above below
    rw [NotBothEmpty, NotBothEmpty, Ne, Ne, Ne, Ne, empty, empty]
  rw [closeUp, closeUp, List.map_destutter fun above _ below _ => apart above below, List.map_map,
    List.map_map]
  exact congrArg _ (List.map_congr_left fun line _ => emptied_append blank line)

end Margins

/-! ## Cleaning up a block -/

theorem EndsSeen.dropTrailing_eq {text tail : Text} (ends : EndsSeen text)
    (blank : isAllBlank tail = true) : dropTrailing isBlank (text ++ tail) = text := by
  rw [dropTrailing_append_of_all fun character member => List.all_eq_true.1 blank character member]
  cases text using List.reverseRecOn with
  | nil => rfl
  | append_singleton front last =>
      exact dropTrailing_snoc_of_not (ends last (by simp)) front

/-- Cleaning up a block of its own takes off the empty lines around it. -/
theorem lines_cleanUp_paragraphs {first : Char} {rest : Text}
    (kept : isLineSpacing first = false) (starts : StartsSeen (first :: rest))
    (ends : EndsSeen (first :: rest)) :
    lines (cleanUp (Base.paragraphs (first :: rest))) = closeUp (lines (first :: rest)) := by
  have opened : (Base.paragraphs (first :: rest)).dropWhile isLineSpacing =
      (first :: rest) ++ "\n\n".toList := by
    have feed : isLineSpacing '\n' = true := rfl
    simp [Base.paragraphs, List.dropWhile, feed, kept]
  rw [cleanUp_eq_settle, stripEdges_eq, opened, ends.dropTrailing_eq rfl, lines_settle starts ends]

theorem endsSeen_snoc {last : Char} (visible : isBlank last = false) (front : Text) :
    EndsSeen (front ++ [last]) := by
  intro other member
  obtain rfl : last = other := by simpa using member
  exact visible

theorem EndsSeen.append_indentLines {text : Text} (ends : EndsSeen text)
    (seen : isAllBlank text = false) (margin : Text) :
    EndsSeen (margin ++ indentLines margin text) := by
  cases text using List.reverseRecOn with
  | nil => cases seen
  | append_singleton front last =>
      have visible : isBlank last = false := ends last (by simp)
      have kept : indentLines margin [last] = [last] := by
        simp [indentLines, ne_break_of_visible visible]
      rw [indentLines_append, kept, ← List.append_assoc]
      exact endsSeen_snoc visible _

/-- Code between fences is closed up as if there were no fences. -/
theorem cleanUp_fence (code : Text) :
    cleanUp (Gfm.fence [] code) = "```\n".toList ++ closedUp code ++ "\n```".toList := by
  let inner := '`' :: (['`', '`'] ++ '\n' :: (code ++ '\n' :: "```".toList))
  have shape : Gfm.fence [] code = Base.paragraphs inner := by
    show "\n\n```".toList ++ [] ++ '\n' :: code ++ ("\n```".toList ++ "\n\n".toList) =
      "\n\n```".toList ++ '\n' :: (code ++ "\n```".toList) ++ "\n\n".toList
    simp only [List.append_assoc, List.cons_append, List.nil_append]
  have whole : lines inner = "```".toList :: (lines code ++ ["```".toList]) := by
    rw [lines_cons_of_ne (by decide) (lines_append_break _ _), lines_append_break]
    rfl
  have endsSeen : EndsSeen inner := by
    have snoc : inner = ("```\n".toList ++ (code ++ "\n``".toList)) ++ ['`'] := by
      rw [List.append_assoc, List.append_assoc]
      rfl
    rw [snoc]
    exact endsSeen_snoc rfl _
  have cleaned := lines_cleanUp_paragraphs rfl
    ⟨[], '`', _, rfl, List.not_mem_nil, rfl, rfl⟩ endsSeen
  rw [← shape, whole, closeUp_cons rfl, closeUp_append_cons rfl] at cleaned
  have some : closeUp (lines code) ≠ [] := closeUp_ne_nil (parts_ne_nil '\n' code)
  rw [← joinWith_lines (cleanUp _), cleaned, joinWith_cons _ (by simp),
    show closeUp [] = [] from rfl, joinWith_snoc some]
  show _ = ("```".toList ++ ['\n']) ++ closedUp code ++ (['\n'] ++ "```".toList)
  simp only [closedUp, List.append_assoc]

/-- Code behind margins is closed up, and lines that are empty have no margin. -/
theorem lines_cleanUp_indentLines {code : Text} (seen : isAllBlank code = false)
    (starts : ∀ first ∈ code.head?, isBlank first = false) (ends : EndsSeen code) :
    lines (cleanUp (Base.paragraphs (Base.listMargin ++ indentLines Base.listMargin code))) =
      (closeUp (lines code)).map (indented Base.listMargin) := by
  have single : '\n' ∉ Base.listMargin := by decide
  have startsSeen : StartsSeen (Base.listMargin ++ indentLines Base.listMargin code) := by
    cases code with
    | nil => cases seen
    | cons first rest =>
        have visible := starts first rfl
        refine ⟨Base.listMargin, first, indentLines Base.listMargin rest, ?_, single, rfl, visible⟩
        simp [indentLines, ne_break_of_visible visible]
  rw [← closeUp_map_append rfl, ← lines_indentLines _ single]
  exact @lines_cleanUp_paragraphs ' ' _ rfl startsSeen
    (ends.append_indentLines seen Base.listMargin)

end Text

/-! ## The rules for code -/

namespace Registry

variable {position : Position}

/-- The rule that is first for a block of code. -/
theorem exists_find_codeBlock (gfm : Bool) (replacements : Replacements)
    (block : Base.isCodeBlock position = true) :
    ∃ choice, (builtIn gfm).find position replacements = .ok (some choice) ∧
      choice.rendering = fun content position _ =>
        (if gfm then Gfm.fencedCode else Base.codeBlock) content position := by
  have kind : position.node.kind = "pre" := by
    rw [Base.isCodeBlock, Bool.and_eq_true, beq_iff_eq] at block
    exact block.1
  have selects := (@Filter.selects_when_iff position replacements _).2 block
  have rejects : ∀ converter ∈ Gfm.rules.take 7 ++ Base.rules.take 9,
      converter.filter.selects position replacements = .ok false := by
    intro converter member
    simp only [Gfm.rules, Base.rules, List.take_succ_cons, List.take_zero, List.mem_append,
      List.mem_cons, List.not_mem_nil, or_false] at member
    rcases member with (rfl | rfl | rfl | rfl | rfl | rfl | rfl) | rfl | rfl | rfl | rfl | rfl |
      rfl | rfl | rfl | rfl
    all_goals
      simp [Filter.selects, Base.when, kind, Gfm.isTaskCheckbox, Base.isInlineCode, Base.isLink]
  cases gfm with
  | true =>
      exact find_of_first 7 rfl (fun other member => rejects other (List.mem_append_left _ member))
        selects rfl
  | false =>
      exact find_of_first 9 rfl (fun other member => rejects other (List.mem_append_right _ member))
        selects rfl

/-- Code that is not inline keeps its markup. -/
theorem exists_find_code (gfm : Bool) (replacements : Replacements)
    (kind : position.node.kind = "code") (block : Base.isInlineCode position = false) :
    ∃ choice, (builtIn gfm).find position replacements = .ok (some choice) ∧
      choice.rendering = fun content position _ => .ok (Base.inlineMarkup content position) := by
  have rejects : ∀ converter ∈ Gfm.rules ++ Base.rules.take 15,
      converter.filter.selects position replacements = .ok false := by
    intro converter member
    simp only [Gfm.rules, Base.rules, List.take_succ_cons, List.take_zero, List.mem_append,
      List.mem_cons, List.not_mem_nil, or_false] at member
    have noBlock : isBlockName "code" = false := rfl
    rcases member with (rfl | rfl | rfl | rfl | rfl | rfl | rfl | rfl | rfl | rfl) | rfl | rfl |
      rfl | rfl | rfl | rfl | rfl | rfl | rfl | rfl | rfl | rfl | rfl | rfl | rfl
    all_goals
      simp [Filter.selects, Base.when, kind, block, Gfm.isTaskCheckbox, Base.isCodeBlock,
        Gfm.isHighlightedPre, Gfm.isHighlightWrapper, Base.isLink, Node.isBlock, noBlock]
  have selects : (Base.when fun _ => true).selects position replacements = .ok true := rfl
  cases gfm with
  | true => exact find_of_first 25 rfl rejects selects rfl
  | false =>
      exact find_of_first 15 rfl (fun other member => rejects other (List.mem_append_right _ member))
        selects rfl

end Registry

/-! ## Pages with a block of code -/

def preTag (attributes : List Attribute) : Tag where
  name := "pre"
  attributes := attributes

def codeTag (attributes : List Attribute) : Tag where
  name := "code"
  attributes := attributes

@[simp] theorem kind_preTag (attributes : List Attribute) : (preTag attributes).kind = "pre" :=
  (rfl : Text.lowerName "pre" = "pre")

@[simp] theorem kind_codeTag (attributes : List Attribute) : (codeTag attributes).kind = "code" :=
  (rfl : Text.lowerName "code" = "code")

/-- A preformatted element with code in it and nothing else. -/
def codeBlockNode (attributes codeAttributes : List Attribute) (code : Text) : Node :=
  .element (preTag attributes) [.element (codeTag codeAttributes) [.text .plain code]]

/-- The Markdown of a block of code before it is cleaned up. -/
def Document.codeMarkdown (gfm : Bool) (code : Text) : Text :=
  if gfm then Gfm.fence [] code
  else Base.paragraphs (Base.listMargin ++ Text.indentLines Base.listMargin code)

/-- An element in a preformatted element that holds it and nothing else. -/
def onlyChildOf (pre : Tag) : Surroundings where
  parent := pre
  before := []
  after := []

theorem isAllBlank_around (flanking : Flanking) {text : Text}
    (seen : Text.isAllBlank text = false) : Text.isAllBlank (flanking.around text) = false := by
  rw [Flanking.around, Text.isAllBlank_append, Text.isAllBlank_append, seen, Bool.and_false,
    Bool.false_and]

namespace Registry

variable {text : Text} (seen : Text.isAllBlank text = false)

include seen

/-- The code by itself becomes something to see. -/
theorem exists_markdownOf_code (gfm : Bool) (address : Address)
    (attributes codeAttributes : List Attribute) :
    ∃ markdown, (builtIn gfm).markdownOf address (some (onlyChildOf (preTag attributes)))
        (.element (codeTag codeAttributes) [.text .plain text]) = .ok markdown ∧
      Text.isAllBlank markdown = false := by
  let position : Position :=
    { address := address, node := .element (codeTag codeAttributes) [.text .plain text],
      surroundings := some (onlyChildOf (preTag attributes)) }
  have block : Base.isInlineCode position = false := by
    simp [Base.isInlineCode, position, onlyChildOf, Position.parentKind, Base.isOnlyChild,
      Position.previousSibling?, Position.nextSibling?]
  obtain ⟨choice, found, rendering⟩ := @exists_find_code position gfm
    (Inside.table ⟨text ++ [], []⟩ address) (kind_codeTag _) block
  have shown : position.node.isBlank (text ++ []) = false := by
    rw [Node.isBlank, List.append_nil, seen, Bool.and_false]
  let own := (codeTag codeAttributes).around (position.givenContent (text ++ []))
  refine ⟨position.flanking.around own, ?_, ?_⟩
  · rw [markdownOf, insideOf, insideOf, ok_bind, pure_eq_ok, ok_bind]
    show finish _ position ⟨text ++ [], []⟩ = _
    rw [finish, shown, found, ok_bind]
    dsimp only
    rw [rendering]
    rfl
  · obtain ⟨rest, opened⟩ : ∃ rest, own = '<' :: rest := Tag.exists_around _ _
    exact isAllBlank_around _ (by rw [opened]; rfl)

/-- A block of code shows the text of the code. -/
theorem markdownOf_codeBlock (gfm : Bool) (address : Address)
    (surroundings : Option Surroundings) (attributes codeAttributes : List Attribute) :
    (builtIn gfm).markdownOf address surroundings (codeBlockNode attributes codeAttributes text) =
      .ok (Document.codeMarkdown gfm text) := by
  let code : Node := .element (codeTag codeAttributes) [.text .plain text]
  let position : Position :=
    { address := address, node := .element (preTag attributes) [code],
      surroundings := surroundings }
  have kind : position.node.kind = "pre" := kind_preTag attributes
  have first : Base.firstChild? position = some code := rfl
  have block : Base.isCodeBlock position = true := by
    rw [Base.isCodeBlock, kind, first, Option.any_some,
      show code.kind = "code" from kind_codeTag codeAttributes]
    rfl
  have textContent : code.textContent = text := List.append_nil text
  obtain ⟨inner, made, innerSeen⟩ :=
    exists_markdownOf_code seen gfm (address ++ [0]) attributes codeAttributes
  obtain ⟨choice, found, rendering⟩ :=
    exists_find_codeBlock gfm (Inside.table ⟨inner ++ [], [inner]⟩ address) block
  have shown : position.node.isBlank (inner ++ []) = false := by
    rw [Node.isBlank, List.append_nil, innerSeen, Bool.and_false]
  have inside : (builtIn gfm).insideOf address (preTag attributes) [] [code] =
      .ok ⟨inner ++ [], [inner]⟩ := by
    rw [insideOf]
    show (builtIn gfm).markdownOf (address ++ [0]) (some (onlyChildOf (preTag attributes))) _ >>=
      _ = _
    rw [made]
    rfl
  have plain (markdown : Text) : position.flanking.around markdown = markdown := by
    rw [Position.flanking, show position.node.isBlock = true by rw [Node.isBlock, kind]; rfl]
    exact List.append_nil markdown
  have rendered (given : Text) : (if gfm then Gfm.fencedCode else Base.codeBlock) given position =
      .ok (Document.codeMarkdown gfm text) := by
    have read (missing : Failure) : Base.firstChildText missing position = .ok text := by
      rw [Base.firstChildText, first, ← textContent]
    cases gfm with
    | true =>
        show Gfm.fencedCode given position = _
        rw [Gfm.fencedCode, read]
        rfl
    | false =>
        show Base.codeBlock given position = _
        rw [Base.codeBlock, read]
        rfl
  rw [codeBlockNode, markdownOf, inside, ok_bind]
  show finish _ position _ = _
  rw [finish, shown, found, ok_bind]
  dsimp only
  rw [rendering]
  dsimp only
  rw [rendered, ok_bind, pure_eq_ok, plain]
  exact if_neg Bool.false_ne_true

end Registry

namespace Document

/-- A page with a block of code, and nothing else. -/
def codeBlockPage (attributes codeAttributes : List Attribute) (code : Text) : Document :=
  pageOf [codeBlockNode attributes codeAttributes code]

theorem exists_convert_codeBlockPage (gfm : Bool) (attributes codeAttributes : List Attribute)
    {code : Text} (seen : Text.isAllBlank code = false) :
    ∃ conversion,
      (codeBlockPage attributes codeAttributes code).convert { gfm := gfm } [] = .ok conversion ∧
      conversion.markdown = Text.cleanUp (codeMarkdown gfm code) := by
  let block := codeBlockNode attributes codeAttributes code
  have preformatted : (preTag attributes).isPreformatted = true := by simp [Tag.isPreformatted]
  have collapsed : collapsedBody [block] = [block] := by
    simp [collapsedBody, collapseBetween, squeezeAll, settleAll, Node.squeezeFrom,
      Node.settleBefore, block, codeBlockNode, preformatted]
  have inside : (Registry.builtIn gfm).insideOf [0, 0] (plainTag "body") [] (collapsedBody [block]) =
      .ok ⟨codeMarkdown gfm code ++ [], [codeMarkdown gfm code]⟩ := by
    have made := Registry.markdownOf_codeBlock seen gfm [0, 0, 0]
      (some { parent := plainTag "body", before := [], after := [] }) attributes codeAttributes
    rw [codeBlockNode] at made
    rw [collapsed, show block = .element _ _ from rfl, Registry.insideOf]
    show (Registry.builtIn gfm).markdownOf [0, 0, 0] _ _ >>= _ = _
    rw [made]
    rfl
  obtain ⟨conversion, converted, markdown⟩ := exists_convert_pageOf inside
  exact ⟨conversion, converted, by rw [markdown, List.append_nil]⟩

/-- With fences the code is there with its lines closed up.  Without them the lines that are
not empty have a margin of four spaces, and without their margins they are the lines of the
code, closed up.  So the code is reproduced as it is exactly if all its blank lines are empty
and no two of them are next to each other. -/
theorem code_closed_up (attributes codeAttributes : List Attribute) {code : Text}
    (seen : Text.isAllBlank code = false)
    (starts : ∀ first ∈ code.head?, Text.isBlank first = false) (ends : Text.EndsSeen code) :
    (∃ conversion,
      (codeBlockPage attributes codeAttributes code).convert { gfm := true } [] = .ok conversion ∧
      conversion.markdown = "```\n".toList ++ Text.closedUp code ++ "\n```".toList) ∧
    (∃ conversion,
      (codeBlockPage attributes codeAttributes code).convert { gfm := false } [] = .ok conversion ∧
      (∀ line ∈ Text.lines conversion.markdown, line ≠ [] → Base.listMargin <+: line) ∧
      Text.joinWith ['\n'] ((Text.lines conversion.markdown).map (List.drop 4)) =
        Text.closedUp code) ∧
    (Text.closedUp code = code ↔
      (∀ line ∈ Text.lines code, Text.isAllBlank line = true → line = []) ∧
        (Text.lines code).IsChain Text.NotBothEmpty) := by
  refine ⟨?_, ?_, Text.closedUp_eq_self_iff⟩
  · obtain ⟨conversion, converted, markdown⟩ :=
      exists_convert_codeBlockPage true attributes codeAttributes seen
    exact ⟨conversion, converted, markdown.trans (Text.cleanUp_fence code)⟩
  · obtain ⟨conversion, converted, markdown⟩ :=
      exists_convert_codeBlockPage false attributes codeAttributes seen
    have whole : Text.lines conversion.markdown =
        (Text.closeUp (Text.lines code)).map (Text.indented Base.listMargin) := by
      rw [markdown]
      exact Text.lines_cleanUp_indentLines seen starts ends
    refine ⟨conversion, converted, ?_, ?_⟩
    · intro line member some
      rw [whole] at member
      obtain ⟨own, -, rfl⟩ := List.mem_map.1 member
      exact Text.prefix_indented some
    · rw [whole, List.map_map, Text.closedUp]
      refine congrArg _ ((List.map_congr_left fun line _ => ?_).trans (List.map_id _))
      exact Text.drop_indented Base.listMargin line

section Spaced

def spacedCode : Text :=
  "a\n\n\nb".toList

theorem startsSeen_spacedCode : ∀ first ∈ spacedCode.head?, Text.isBlank first = false := by
  intro first member
  obtain rfl : 'a' = first := Option.some.inj member
  rfl

theorem endsSeen_spacedCode : Text.EndsSeen spacedCode := by
  intro last member
  obtain rfl : 'b' = last := Option.some.inj member
  rfl

theorem spacedCode_closed_up :
    Text.isAllBlank spacedCode = false ∧
      (∀ first ∈ spacedCode.head?, Text.isBlank first = false) ∧ Text.EndsSeen spacedCode ∧
      (∃ conversion, (codeBlockPage [] [] spacedCode).convert { gfm := true } [] = .ok conversion ∧
        conversion.markdown = "```\na\n\nb\n```".toList) := by
  have seen : Text.isAllBlank spacedCode = false := by decide
  obtain ⟨⟨conversion, converted, markdown⟩, -, -⟩ :=
    code_closed_up [] [] seen startsSeen_spacedCode endsSeen_spacedCode
  exact ⟨seen, startsSeen_spacedCode, endsSeen_spacedCode, conversion, converted,
    markdown.trans (by decide)⟩

/-- Of two empty lines next to each other in the code one is lost, between fences and behind
margins. -/
theorem spacedCode_loses_a_line :
    (Text.isAllBlank spacedCode = false ∧
      (∀ first ∈ spacedCode.head?, Text.isBlank first = false) ∧ Text.EndsSeen spacedCode ∧
      '\r' ∉ spacedCode ∧ ∀ line ∈ Text.lines spacedCode, ¬ "```".toList <+: line) ∧
    ((codeBlockPage [] [] spacedCode).convert { gfm := true } []).toOption.map Conversion.markdown ≠
      some ("```\n".toList ++ spacedCode ++ "\n```".toList) ∧
    ((codeBlockPage [] [] spacedCode).convert { gfm := false } []).toOption.map (fun conversion =>
        Text.joinWith ['\n'] ((Text.lines conversion.markdown).map (List.drop 4))) ≠
      some (Text.joinWith ['\n'] ((Text.lines spacedCode).map Text.emptied)) := by
  exact ⟨⟨by decide, startsSeen_spacedCode, endsSeen_spacedCode, by decide, by decide⟩,
    by decide +kernel, by decide +kernel⟩

end Spaced

end Document

end PageMark
