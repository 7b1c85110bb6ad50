import PageMark.Proofs.Legible
import PageMark.Proofs.Locality

/-!
# Rules that keep text

A rule keeps the text of an element if the visible characters of the element are
in what it renders, in their order, whenever they are in the content that it
gets.  All rules that are there without any definitions do so.
-/

namespace PageMark

open scoped List

/-! ## Shapes of rules -/

namespace Position

/-- All that can be seen in a node, whatever becomes of it. -/
def shown (position : Position) : Text :=
  Text.visible (wholeTextOf position.node.children)

/-- A rendering gets what can be seen in the element: in the content, and in the
replacements of the children if no text stands between them. -/
structure Receives (position : Position) (given : Text) (replacements : Replacements) :
    Prop where
  legible : Legible [position.node]
  content : position.shown <+ Text.visible given
  items : Text.visible (directTextOf position.node.children) = [] → ∀ items,
    replacements.itemsAt position = .ok items → position.shown <+ Text.visible items.flatten

/-- Nothing can be seen in void elements. -/
theorem Receives.shown_of_isVoid {position : Position} {given : Text}
    {replacements : Replacements} (receives : position.Receives given replacements)
    (isVoid : position.node.isVoid = true) : position.shown = [] :=
  receives.legible.showsText.void isVoid

end Position

namespace Converter

/-- What the converter makes of an element has all that can be seen in it. -/
def KeepsText (converter : Converter) : Prop :=
  ∀ rendering, converter.rendering = some rendering → ∀ given position replacements text,
    converter.filter.selects position replacements = .ok true →
    position.Receives given replacements →
    rendering given position replacements = .ok text → position.shown <+ Text.visible text

variable {filter : Filter}

theorem KeepsText.of_node {render : Text → Position → Text}
    (kept : ∀ given position, given <+ render given position) :
    KeepsText { filter := filter, rendering := Base.ofNode render } := by
  rintro _ ⟨⟩ given position replacements _ - receives ⟨⟩
  exact receives.content.trans (Text.visible_sublist_visible (kept given position))

theorem KeepsText.of_content {render : Text → Text}
    (kept : ∀ given, Text.visible given <+ Text.visible (render given)) :
    KeepsText { filter := filter, rendering := Base.ofContent render } := by
  rintro _ ⟨⟩ given position replacements _ - receives ⟨⟩
  exact receives.content.trans (kept given)

theorem KeepsText.of_part {render : Text → Position → Except Failure Text}
    (kept : ∀ given position text, render given position = .ok text → given <+ text) :
    KeepsText { filter := filter, rendering := Base.ofPart render } := by
  rintro _ ⟨⟩ given position replacements text - receives rendered
  exact receives.content.trans (Text.visible_sublist_visible (kept given position text rendered))

/-- A rule for void elements has nothing to keep. -/
theorem KeepsText.of_void {rendering : Option Rendering}
    (void : ∀ position replacements, filter.selects position replacements = .ok true →
      position.node.isVoid = true) :
    KeepsText { filter := filter, rendering := rendering } := by
  intro _ _ given position replacements text selected receives _
  rw [receives.shown_of_isVoid (void position replacements selected)]
  exact List.nil_sublist _

end Converter

/-- A name of void elements selects void elements only. -/
theorem Filter.isVoid_of_exact {name : String} (void : isVoidName name = true)
    {position : Position} {replacements : Replacements}
    (selected : (exact name).selects position replacements = .ok true) :
    position.node.isVoid = true := by
  rw [Node.isVoid, selects_exact_iff.1 selected]
  exact void

/-- Content is put between the two tags of an element that is not void. -/
theorem Tag.sublist_around {tag : Tag} (notVoid : tag.isVoid = false) (content : Text) :
    content <+ tag.around content := by
  have occurs : Text.containsPattern ['>', '<'] tag.shell = true := by
    have shell : tag.shell = ('<' :: tag.heading) ++ ('>' :: tag.closing) := by
      simp [Tag.shell, notVoid, Tag.opening]
    rw [shell]
    exact Text.containsPattern_append_right _ (by simp [Tag.closing, Text.containsPattern])
  refine List.Sublist.trans ?_ (Text.sublist_replaceFirst occurs)
  exact (List.sublist_append_left _ _).cons _

/-! ## The rules for plain Markdown -/

namespace Base

theorem sublist_around {left content right : Text} : content <+ left ++ content ++ right :=
  (List.infix_append left content right).sublist

theorem sublist_paragraphs (content : Text) : content <+ paragraphs content :=
  sublist_around

theorem visible_paragraphs (content : Text) :
    Text.visible content <+ Text.visible (paragraphs content) :=
  Text.visible_sublist_visible (sublist_paragraphs content)

theorem visible_emphasis (content : Text) :
    Text.visible content <+ Text.visible (emphasis content) :=
  Text.visible_sublist_visible ((List.sublist_append_left content _).cons _)

theorem visible_strong (content : Text) :
    Text.visible content <+ Text.visible (strong content) :=
  Text.visible_sublist_visible sublist_around

theorem visible_inlineCode (content : Text) :
    Text.visible content <+ Text.visible (inlineCode content) :=
  Text.visible_sublist_visible ((List.sublist_append_left content _).cons _)

theorem sublist_heading {given text : Text} {position : Position}
    (rendered : heading given position = .ok text) : given <+ text := by
  rw [heading] at rendered
  obtain ⟨level, -, ⟨⟩⟩ := bind_eq_ok_iff.1 rendered
  refine List.Sublist.trans ?_ (sublist_paragraphs _)
  exact (List.sublist_cons_self _ _).trans (List.sublist_append_right _ _)

theorem sublist_link (given : Text) (position : Position) : given <+ link given position := by
  rw [link, List.append_assoc, List.append_assoc, List.append_assoc]
  exact (List.sublist_append_left _ _).cons _

theorem visible_blockquote (given : Text) :
    Text.visible given <+ Text.visible (blockquote given) := by
  refine List.Sublist.trans ?_ (visible_paragraphs _)
  rw [Text.visible_append, ← Text.visible_trimSpacing given, ← Text.visible_capBreaks]
  exact (Text.visible_sublist_visible (Text.sublist_indentLines _ _)).trans
    (List.sublist_append_right _ _)

variable {position : Position}

theorem isVoid_tagOf (position : Position) : (tagOf position).isVoid = position.node.isVoid := by
  rw [tagOf, Node.isVoid, Tag.isVoid]
  cases position.node with
  | text kind content => rfl
  | mark kind content => rfl
  | element tag children => rfl

/-- Markup may lose the content of void elements. -/
theorem keepsText_of_markup {filter : Filter} {render : Text → Position → Text}
    (kept : ∀ given position, (tagOf position).isVoid = false → given <+ render given position) :
    Converter.KeepsText { filter := filter, rendering := ofNode render } := by
  rintro _ ⟨⟩ given position replacements _ - receives ⟨⟩
  cases void : position.node.isVoid with
  | true =>
      rw [receives.shown_of_isVoid void]
      exact List.nil_sublist _
  | false =>
      rw [← isVoid_tagOf] at void
      exact receives.content.trans (Text.visible_sublist_visible (kept given position void))

/-- The code of a block is all that can be seen in the block. -/
theorem shown_sublist_code {missing : Failure} {code : Text} (legible : Legible [position.node])
    (block : isCodeBlock position = true)
    (found : firstChildText missing position = .ok code) :
    position.shown <+ Text.visible code := by
  obtain ⟨address, node, surroundings⟩ := position
  rw [isCodeBlock, Bool.and_eq_true, Option.any_eq_true] at block
  obtain ⟨isPre, child, first, isCode⟩ := block
  rw [firstChildText, first] at found
  cases found
  cases node with
  | text kind content => cases first
  | mark kind content => cases first
  | element tag children =>
      obtain ⟨rest, rfl⟩ := List.head?_eq_some_iff.1 first
      have isPre' : tag.kind = "pre" := beq_iff_eq.1 isPre
      have isCode' : child.kind = "code" := beq_iff_eq.1 isCode
      have others : Text.visible (wholeTextOf rest) = [] :=
        legible.showsText.code isPre' child rfl isCode'
      rw [Position.shown, Node.children, wholeTextOf, Text.visible_append, others, List.append_nil]
      cases child with
      | text kind content => exact absurd isCode' (by simp [Node.kind])
      | mark kind content => exact absurd isCode' (by simp [Node.kind])
      | element own inner =>
          have plain := legible.inside.head.inside.plain
          have name : own.kind = "code" := isCode'
          exact visible_textContentOf (by rw [name]; decide) plain

theorem codeBlock_keepsText {filter : Filter}
    (blocks : ∀ position replacements, filter.selects position replacements = .ok true →
      isCodeBlock position = true) :
    Converter.KeepsText { filter := filter, rendering := ofPart codeBlock } := by
  rintro _ ⟨⟩ given position replacements text selected receives rendered
  obtain ⟨code, found, ⟨⟩⟩ := bind_eq_ok_iff.1 rendered
  apply (shown_sublist_code receives.legible (blocks _ _ selected) found).trans
  refine Text.visible_sublist_visible (List.Sublist.trans ?_ (sublist_paragraphs _))
  exact (Text.sublist_indentLines _ _).trans (List.sublist_append_right _ _)

theorem listItem_keepsText {filter : Filter} :
    Converter.KeepsText { filter := filter, rendering := some listItem } := by
  rintro _ ⟨⟩ given position replacements text - receives rendered
  obtain ⟨mark, -, ⟨⟩⟩ := bind_eq_ok_iff.1 rendered
  apply receives.content.trans
  rw [Text.visible_append, ← Text.visible_dropWhile (fun _ => id) given]
  exact (Text.visible_sublist_visible (Text.sublist_indentLines _ _)).trans
    (List.sublist_append_right _ _)

/-- A list has the text of its items, and nothing can be seen between them. -/
theorem list_keepsText {filter : Filter}
    (lists : ∀ position replacements, filter.selects position replacements = .ok true →
      position.node.kind = "ul" ∨ position.node.kind = "ol") :
    Converter.KeepsText { filter := filter, rendering := some list } := by
  rintro _ ⟨⟩ given position replacements text selected receives rendered
  obtain ⟨items, made, rendered⟩ := bind_eq_ok_iff.1 rendered
  have between := receives.legible.showsText.list (lists _ _ selected)
  refine (receives.items between items made).trans (Text.visible_sublist_visible ?_)
  have joined := Text.sublist_joinWith ['\n'] items
  split at rendered
  · cases rendered
    exact joined.trans (List.sublist_cons_self _ _)
  · cases rendered
    exact joined.trans (sublist_paragraphs _)

theorem keepsText_of_mem {converter : Converter} (member : converter ∈ rules) :
    converter.KeepsText := by
  simp only [rules, List.mem_cons, List.not_mem_nil, or_false] at member
  rcases member with rfl | rfl | rfl | rfl | rfl | rfl | rfl | rfl | rfl | rfl | rfl | rfl | rfl |
    rfl | rfl | rfl
  · exact .of_content visible_paragraphs
  · exact .of_void fun _ _ => Filter.isVoid_of_exact (by decide)
  · exact .of_part fun _ _ _ => sublist_heading
  · exact .of_void fun _ _ => Filter.isVoid_of_exact (by decide)
  · exact .of_content visible_emphasis
  · exact .of_content visible_strong
  · exact .of_content visible_inlineCode
  · exact .of_node sublist_link
  · exact .of_void fun _ _ => Filter.isVoid_of_exact (by decide)
  · exact codeBlock_keepsText fun _ _ => Filter.selects_when_iff.1
  · exact .of_content visible_blockquote
  · exact listItem_keepsText
  · exact list_keepsText fun _ _ selected => by simpa using Filter.selects_oneOf_iff.1 selected
  · exact .of_content visible_paragraphs
  · exact keepsText_of_markup fun given _ notVoid =>
      (Tag.sublist_around notVoid given).trans (sublist_paragraphs _)
  · exact keepsText_of_markup fun given _ notVoid => Tag.sublist_around notVoid given

end Base

/-! ## The rules of GitHub Flavored Markdown -/

namespace Gfm

open Base

theorem visible_strikethrough (content : Text) :
    Text.visible content <+ Text.visible (strikethrough content) :=
  Text.visible_sublist_visible sublist_around

theorem sublist_tableCell {given text : Text} {position : Position}
    (rendered : tableCell given position = .ok text) : given <+ text := by
  obtain ⟨place, -, ⟨⟩⟩ := bind_eq_ok_iff.1 rendered
  exact sublist_around

theorem sublist_tableRow {given text : Text} {position : Position}
    (rendered : tableRow given position = .ok text) : given <+ text := by
  obtain ⟨border, -, ⟨⟩⟩ := bind_eq_ok_iff.1 rendered
  exact (List.sublist_append_left given _).cons _

theorem sublist_fence (language code : Text) : code <+ fence language code := by
  have inner : '\n' :: code <+ fence language code := sublist_around
  exact (List.sublist_cons_self _ _).trans inner

theorem fencedCode_keepsText {filter : Filter}
    (blocks : ∀ position replacements, filter.selects position replacements = .ok true →
      isCodeBlock position = true) :
    Converter.KeepsText { filter := filter, rendering := ofPart fencedCode } := by
  rintro _ ⟨⟩ given position replacements text selected receives rendered
  obtain ⟨code, found, ⟨⟩⟩ := bind_eq_ok_iff.1 rendered
  apply (shown_sublist_code receives.legible (blocks _ _ selected) found).trans
  exact Text.visible_sublist_visible (sublist_fence [] code)

/-- Highlighted code is the text content of the element. -/
theorem highlightedPre_keepsText {filter : Filter}
    (blocks : ∀ position replacements, filter.selects position replacements = .ok true →
      position.node.kind = "pre") :
    Converter.KeepsText { filter := filter, rendering := ofPart highlightedPre } := by
  rintro _ ⟨⟩ given position replacements text selected receives rendered
  have isPre := blocks _ _ selected
  have content : position.shown <+ Text.visible position.node.textContent := by
    obtain ⟨address, node, surroundings⟩ := position
    cases node with
    | text kind content => exact absurd isPre (by simp [Node.kind])
    | mark kind content => exact absurd isPre (by simp [Node.kind])
    | element tag children =>
        have name : tag.kind = "pre" := isPre
        exact visible_textContentOf (by rw [name]; decide) receives.legible.inside.plain
  have code : highlightedPre given position = .ok text := rendered
  rw [highlightedPre] at code
  split at code
  · cases code
    exact content.trans (Text.visible_sublist_visible (sublist_fence _ _))
  · cases code

theorem keepsText_of_mem {converter : Converter} (member : converter ∈ rules) :
    converter.KeepsText := by
  simp only [rules, List.mem_cons, List.not_mem_nil, or_false] at member
  rcases member with rfl | rfl | rfl | rfl | rfl | rfl | rfl | rfl | rfl | rfl
  · exact .of_void fun _ _ => Filter.isVoid_of_exact (by decide)
  · exact .of_content visible_strikethrough
  · apply Converter.KeepsText.of_void
    intro position _ selected
    have isInput : position.node.kind = "input" := by
      have checkbox := Filter.selects_when_iff.1 selected
      simp only [isTaskCheckbox, Bool.and_eq_true, beq_iff_eq] at checkbox
      exact checkbox.1.1
    rw [Node.isVoid, isInput]
    decide
  · exact .of_part fun _ _ _ => sublist_tableCell
  · exact .of_part fun _ _ _ => sublist_tableRow
  · exact .of_content visible_paragraphs
  · exact .of_content fun _ => .refl _
  · exact fencedCode_keepsText fun _ _ => Filter.selects_when_iff.1
  · apply highlightedPre_keepsText
    intro position _ selected
    have highlighted := Filter.selects_when_iff.1 selected
    simp only [isHighlightedPre, Bool.and_eq_true, beq_iff_eq] at highlighted
    exact highlighted.1.1
  · exact .of_content visible_paragraphs

end Gfm

end PageMark
