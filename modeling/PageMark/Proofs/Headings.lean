import PageMark.Proofs.Emphasis
import PageMark.Proofs.ItemNumbers

/-!
# The line of a heading

A heading becomes its marks and its content.  If no block is in it, there are line feeds in the
content for line breaks, and those of attributes that are written; other ones only in a
preformatted element, where they are those of the texts.
-/

namespace PageMark

/-! ## Headings -/

/-- The elements that are headings, with the number of their marks. -/
def headingLevels : List (String × Nat) :=
  [("h1", 1), ("h2", 2), ("h3", 3), ("h4", 4), ("h5", 5), ("h6", 6)]

/-- The marks and the content, with an empty line around them. -/
def headingText (level : Nat) (content : Text) : Text :=
  "\n\n".toList ++ List.replicate level '#' ++ ' ' :: content ++ "\n\n".toList

section Headings

variable {name : String} {level : Nat} (listed : (name, level) ∈ headingLevels)

include listed

theorem headingLevel_eq : Base.headingLevel name = .ok level := by
  simp only [headingLevels, List.mem_cons, Prod.mk.injEq, List.not_mem_nil, or_false] at listed
  rcases listed with ⟨rfl, rfl⟩ | ⟨rfl, rfl⟩ | ⟨rfl, rfl⟩ | ⟨rfl, rfl⟩ | ⟨rfl, rfl⟩ | ⟨rfl, rfl⟩
  all_goals rfl

theorem isPlainBlock_of_heading {tag : Tag} (named : tag.kind = name) : tag.IsPlainBlock := by
  have facts : ∀ entry ∈ headingLevels, isBlockName entry.1 = true ∧
      isVoidName entry.1 = false ∧ entry.1 ≠ "pre" ∧ entry.1 ≠ "a" := by
    decide
  exact Tag.isPlainBlock_of_kind named (facts _ listed)

theorem Registry.exists_find_heading (gfm : Bool) {position : Position}
    (replacements : Replacements) (kind : position.node.kind = name) :
    ∃ choice, (builtIn gfm).find position replacements = .ok (some choice) ∧
      choice.rendering = fun content position _ => Base.heading content position := by
  have named : position.node.kind ∈ ["h1", "h2", "h3", "h4", "h5", "h6"] := by
    have all : headingLevels.map Prod.fst = ["h1", "h2", "h3", "h4", "h5", "h6"] := rfl
    rw [kind, ← all]
    exact List.mem_map.2 ⟨(name, level), listed, rfl⟩
  exact exists_find_base named 2 gfm rfl (by decide) (by decide)
    (Filter.selects_oneOf_iff.2 named) rfl

/-- A heading that is not blank becomes its marks and its content. -/
theorem Registry.markdownHere_heading {gfm : Bool} {position : Position} {tag : Tag}
    {children : List Node} {inside : Inside} (shape : position.node = .element tag children)
    (named : tag.kind = name) (made : (builtIn gfm).insideHere position = .ok inside)
    (seen : Text.isAllBlank inside.content = false) :
    (builtIn gfm).markdownHere position = .ok (headingText level inside.content) := by
  have kind : position.node.kind = name := by
    rw [shape]
    exact named
  have found := exists_find_heading listed gfm (inside.table position.address) kind
  rw [markdownHere_of_isPlainBlock (isPlainBlock_of_heading listed named) shape made seen found,
    Base.heading, kind, headingLevel_eq listed]
  simp [headingText, Base.paragraphs]

end Headings

namespace Document

variable {document : Document} {gfm : Bool} {heading : Position} {tag : Tag} {children : List Node}

/-- The content of an element without blocks has at most the line feeds that are written for the
elements in it, and if it is preformatted those of its texts. -/
theorem exists_insideHere_inline (placed : document.elementAt? heading.address = some heading)
    (shape : heading.node = .element tag children) (open' : tag.kind ≠ "pre")
    (inline : HaveNoBlocks children) :
    ∃ left rest inside, document.collapse.elementAt? heading.address = some left ∧
      left.node = .element tag rest ∧ (Registry.builtIn gfm).insideHere left = .ok inside ∧
      (document.InPreformatted heading.address →
        inside.content.count '\n' ≤ (wholeTextOf children).count '\n' + feedsWritten gfm children) ∧
      (¬ document.InPreformatted heading.address →
        inside.content.count '\n' ≤ feedsWritten gfm children) := by
  obtain ⟨own, inner, left, rest, shape', placed', shapeLeft, within, without⟩ :=
    exists_collapse_elementAt? placed
  obtain ⟨rfl, rfl⟩ := Node.element.inj (shape.symm.trans shape')
  have thinned : Thinned children rest := by
    by_cases preformatted : document.InPreformatted heading.address
    · exact within preformatted ▸ .refl children
    · obtain ⟨gap, edge, rfl⟩ := without preformatted
      exact thinned_collapseBetween _ _ children
  have inlineRest := inline.of_thinned thinned
  obtain ⟨inside, made, few⟩ :=
    @Registry.exists_insideOf_inline gfm left.address tag rest open' inlineRest
  have made' : (Registry.builtIn gfm).insideHere left = .ok inside := by
    rw [Registry.insideHere, shapeLeft]
    exact made
  have most : inside.content.count '\n' ≤ (wholeTextOf rest).count '\n' +
      feedsWritten gfm children := by
    rw [feedsWritten, ← thinned.addedIn_inlineAdded gfm]
    exact few '\n' (.inr rfl)
  refine ⟨left, rest, inside, placed', shapeLeft, made', fun preformatted => ?_, fun outside => ?_⟩
  · rwa [within preformatted] at most
  · obtain ⟨gap, edge, collapsed⟩ := without outside
    have spaces : HaveSpacesOnly rest := collapsed ▸ haveSpacesOnly_collapseBetween _ _ children
    rwa [List.count_eq_zero_of_not_mem (not_mem_feed rest inlineRest spaces), Nat.zero_add] at most

/-- A heading without blocks in it that is not blank becomes its marks and its content, wherever it
stands.  The only line feeds in the content are those that are written for line breaks and other
elements, and in preformatted elements those of the texts. -/
theorem heading_line (placed : document.elementAt? heading.address = some heading)
    (shape : heading.node = .element tag children) {level : Nat}
    (listed : (tag.kind, level) ∈ headingLevels) (inline : HaveNoBlocks children) :
    ∃ content, document.contentAt? gfm heading.address = some content ∧
      (document.InPreformatted heading.address →
        content.count '\n' ≤ (wholeTextOf children).count '\n' + feedsWritten gfm children) ∧
      (¬ document.InPreformatted heading.address →
        content.count '\n' ≤ feedsWritten gfm children) ∧
      (Text.isAllBlank content = false →
        document.markdownAt? gfm heading.address = some (headingText level content) ∧
        ∀ conversion body, document.convert { gfm := gfm } [] = .ok conversion →
          document.body? = some body → document.HasBelow body.address heading.address →
            conversion.replacements.find? heading.address = some (headingText level content)) := by
  have open' : tag.kind ≠ "pre" := fun preformatted =>
    absurd (preformatted ▸ listed) (by simp [headingLevels])
  obtain ⟨left, rest, inside, placed', shapeLeft, made, within, without⟩ :=
    @exists_insideHere_inline _ gfm _ _ _ placed shape open' inline
  refine ⟨inside.content, contentAt?_eq placed' made, within, without, fun seen => ?_⟩
  have makes := Registry.markdownHere_heading listed shapeLeft rfl made seen
  exact ⟨markdownAt?_eq placed' makes, fun conversion body converted found below =>
    find?_eq_of_convert placed' converted found below makes⟩

section Sample

/-- A page with a heading. -/
def titledPage (name : String) (children : List Node) : Document :=
  pageOf [.element (plainTag name) children]

/-- Texts with a line feed between them, emphasis, code, an image and an unknown element. -/
def mixedHeading : List Node :=
  [words "a\n", .element (plainTag "b") [words "b", .element (plainTag "code") [words "c"]],
    words "\n", emptyElement "img" [("alt", "d"), ("src", "e"), ("class", "f\ng")],
    .element (plainTag "span") [words " h"]]

/-- The heading of this page. -/
def mixedPosition : Position :=
  .child [0, 0] (plainTag "body") [] (.element (plainTag "H2") mixedHeading) []

theorem mixedHeading_line :
    (titledPage "H2" mixedHeading).elementAt? mixedPosition.address = some mixedPosition ∧
      HaveNoBlocks mixedHeading ∧
      ¬ (titledPage "H2" mixedHeading).InPreformatted mixedPosition.address ∧
      ∃ content, (titledPage "H2" mixedHeading).contentAt? true [0, 0, 0] = some content ∧
        '\n' ∉ content ∧
        (titledPage "H2" mixedHeading).markdownAt? true [0, 0, 0] =
          some "\n\n## a **b`c`** ![d](e) <span>h</span>\n\n".toList := by
  have placed : (titledPage "H2" mixedHeading).elementAt? mixedPosition.address =
      some mixedPosition := rfl
  have inline : HaveNoBlocks mixedHeading := by decide +kernel
  obtain ⟨body, -, address, -, outside⟩ := @Frame.exists_body? bareFrame (plainTag "body")
    [.element (plainTag "H2") mixedHeading] rfl
  have open' : ¬ (titledPage "H2" mixedHeading).InPreformatted mixedPosition.address := by
    have inBody : ¬ (titledPage "H2" mixedHeading).InPreformatted [0, 0] := by
      rw [address] at outside
      exact outside
    intro formatted
    rcases (inPreformatted_snoc_iff placed rfl).1 formatted with above | own
    · exact inBody above
    · exact absurd own (by decide)
  have none : feedsWritten true mixedHeading = 0 := by decide +kernel
  obtain ⟨content, known, -, few, makes⟩ := @heading_line (titledPage "H2" mixedHeading) true
    mixedPosition (plainTag "H2") mixedHeading placed rfl 2 (by decide) inline
  have written : (titledPage "H2" mixedHeading).contentAt? true mixedPosition.address =
      some "a **b`c`** ![d](e) <span>h</span>".toList := by
    decide +kernel
  cases known.symm.trans written
  have single := few open'
  rw [none, Nat.le_zero, List.count_eq_zero] at single
  exact ⟨placed, inline, open', _, known, single, (makes (by decide)).1.trans (by decide)⟩

/-- Line feeds get into headings: of a line break, of text that is preformatted and of what is said
with an image. -/
theorem headings_break :
    (∃ conversion, (titledPage "h1" [words "a", emptyElement "br" [], words "b"]).convert {} [] =
        .ok conversion ∧
      conversion.replacements.find? [0, 0, 0] = some "\n\n# a  \nb\n\n".toList) ∧
    (∃ conversion, (titledPage "pre" [.element (plainTag "h1") [words "a\nb"]]).convert {} [] =
        .ok conversion ∧
      conversion.replacements.find? [0, 0, 0, 0] = some "\n\n# a\nb\n\n".toList) ∧
    ∃ conversion, (titledPage "h1" [emptyElement "img" [("alt", "a\nb"), ("src", "x")]]).convert
        {} [] = .ok conversion ∧
      conversion.replacements.find? [0, 0, 0] = some "\n\n# ![a\nb](x)\n\n".toList :=
  ⟨exists_convert_of_toOption (by decide +kernel), exists_convert_of_toOption (by decide +kernel),
    exists_convert_of_toOption (by decide +kernel)⟩

end Sample

end Document

end PageMark
