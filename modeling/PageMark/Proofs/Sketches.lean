import PageMark.Proofs.InlineCharacters
import PageMark.Proofs.ItemLines
import PageMark.Proofs.Openings
import PageMark.Proofs.Pages

/-!
# Where items can begin

The sketch of a tree has its texts, a line feed where an element begins or ends a
line, a mark for whatever an element writes around its content, and the spaces at the
edges of an inline element's own markup.  A line of the Markdown that begins like an
item of an ordered list is then a line of the sketch, unless the tree has items or
preformatted elements: nothing that is trimmed, put around, escaped or cleaned up on
the way makes one.
-/

namespace PageMark

open Text

/-! ## Sketches of trees -/

/-- The mark that stands for all others. -/
def sketchMark : Char := '*'

/-- How an element's Markdown stands among the lines. -/
inductive LineForm where
  /-- The end of a line. -/
  | lineBreak
  /-- The Markdown of each child on lines of its own. -/
  | list
  /-- Lines that all begin with a mark. -/
  | closed
  /-- Lines of which the first begins with a mark. -/
  | headed
  /-- Lines of its own. -/
  | block
  /-- The content as it is. -/
  | bare
  /-- A new line. -/
  | row
  /-- A part of a row. -/
  | cell
  /-- The content between marks. -/
  | enclosed
  | link
  | image
  /-- The content between the element's tags. -/
  | markup
deriving DecidableEq, Repr

/-- The names of the elements that have a rule of their own. -/
def namedForms (gfm : Bool) : List (List String × LineForm) :=
  (if gfm then
      [(["th", "td"], .cell), (["tr"], .row), (["table"], .block),
        (["thead", "tbody", "tfoot"], .bare), (["del", "s", "strike"], .enclosed)]
    else []) ++
    [(["br"], .lineBreak), (["ul", "ol"], .list), (["blockquote", "hr"], .closed),
      (["h1", "h2", "h3", "h4", "h5", "h6"], .headed),
      (["p", "div", "section", "article", "main", "header", "footer"], .block),
      (["em", "i", "strong", "b", "code"], .enclosed), (["img"], .image)]

/-- Other elements are kept as markup. -/
def lineFormOf (gfm : Bool) (name : String) : LineForm :=
  (((namedForms gfm).find? fun entry => entry.1.contains name).map Prod.snd).getD .markup

namespace Tag

/-- An anchor with an address is a link. -/
def lineForm (gfm : Bool) (tag : Tag) : LineForm :=
  if tag.kind = "a" ∧ (tag.textOf "href").isEmpty = false then .link
  else lineFormOf gfm tag.kind

/-- The sketch of an element by the sketches of its children.  What is written of a tag's
attributes stays; `first` tells that the element is the first child. -/
def sketch (gfm first : Bool) (tag : Tag) (inside : Inside) : Text :=
  match tag.lineForm gfm with
  | .lineBreak => if gfm then ['\n'] else "  \n".toList
  | .list => '\n' :: (joinWith ['\n'] inside.items ++ ['\n'])
  | .closed => '\n' :: ([sketchMark] ++ ['\n'])
  | .headed => '\n' :: (([sketchMark] ++ inside.content) ++ ['\n'])
  | .block => '\n' :: (inside.content ++ ['\n'])
  | .bare => inside.content
  | .row => '\n' :: inside.content
  | .cell => (if first then [sketchMark] else []) ++ ' ' :: (inside.content ++ [' ', sketchMark])
  | .enclosed => [sketchMark] ++ inside.content ++ [sketchMark]
  | .link =>
      ['['] ++ inside.content ++ [']'] ++ '(' :: (tag.textOf "href" ++ Base.titlePart tag ++ [')'])
  | .image =>
      if (tag.textOf "src").isEmpty then []
      else "![".toList ++ tag.textOf "alt" ++ "](".toList ++ tag.textOf "src" ++
        Base.titlePart tag ++ [')']
  | .markup =>
      if tag.isBlock then '\n' :: (tag.around inside.content ++ ['\n'])
      else tag.around inside.content

end Tag

/-- A space for spacing at each edge of an inline element's own markup, whatever stands beside
the element. -/
def Node.ownFlanking (node : Node) : Flanking :=
  if node.isBlock then Flanking.none
  else
    { leading := startsWithSpacing node.innerMarkup
      trailing := endsWithSpacing node.innerMarkup }

mutual

/-- The sketch of a node, which is the first child or not. -/
def Node.sketch (gfm first : Bool) : Node → Text
  | .element tag children =>
      let inside := sketchIn gfm true children
      if (Node.element tag children).isBlank inside.content then []
      else (Node.element tag children).ownFlanking.around (tag.sketch gfm first inside)
  | .text _ content => content
  | .mark _ _ => []

/-- What the sketches of these children make; `first` tells that there are no children before
them. -/
def sketchIn (gfm first : Bool) : List Node → Inside
  | [] => Inside.empty
  | .text _ content :: rest => (sketchIn gfm false rest).addText content
  | .mark _ _ :: rest => sketchIn gfm false rest
  | .element tag children :: rest =>
      (sketchIn gfm false rest).addItem (Node.sketch gfm first (.element tag children))

end

/-- The sketch of a body with these nodes. -/
def sketchOf (gfm : Bool) (nodes : List Node) : Text :=
  (sketchIn gfm true nodes).content

/-- Neither an item nor preformatted, and, as in every page, empty if it is an image. -/
structure Node.KeepsLines (node : Node) : Prop where
  noItem : node.kind ≠ "li"
  notPreformatted : node.kind ≠ "pre"
  emptyImage : node.kind = "img" → node.children = []

instance (node : Node) : Decidable node.KeepsLines :=
  decidable_of_iff
    (node.kind ≠ "li" ∧ node.kind ≠ "pre" ∧ (node.kind = "img" → node.children = []))
    ⟨fun facts => ⟨facts.1, facts.2.1, facts.2.2⟩,
      fun keeps => ⟨keeps.noItem, keeps.notPreformatted, keeps.emptyImage⟩⟩

structure Inside.IsCoveredBy (inside sketch : Inside) : Prop where
  content : inside.content.IsCoveredBy sketch.content
  items : List.Forall₂ Text.IsCoveredBy inside.items sketch.items

/-! ## Texts that rules make -/

theorem isMarkup_sketchMark : IsMarkup [sketchMark] :=
  ⟨sketchMark, [], rfl, by decide, by decide⟩

namespace Text

namespace IsCoveredBy

variable {content sketch : Text}

/-- Empty lines around are as good as line ends. -/
theorem paragraphs (covered : IsCoveredBy content sketch) :
    IsCoveredBy (Base.paragraphs content) ('\n' :: (sketch ++ ['\n'])) := by
  have feeds : IsCoveredBy "\n\n".toList ['\n'] := by
    refine ⟨fun state => ?_, rfl⟩
    cases state <;> decide
  exact (feeds.append covered).append feeds

theorem of_isMarkup {front front' : Text} (isMarkup : IsMarkup front)
    (isMarkup' : IsMarkup front') : IsCoveredBy front front' where
  states state := by
    rw [LineState.after_of_isMarkup isMarkup, LineState.after_of_isMarkup isMarkup']
  blank := isMarkup.isAllBlank.trans isMarkup'.isAllBlank.symm

/-- All lines of a quotation begin with a mark. -/
theorem quoted (content : Text) :
    IsCoveredBy (Base.quoteMargin ++ indentLines Base.quoteMargin content) [sketchMark] := by
  have margin : IsMarkup Base.quoteMargin := ⟨'>', [' '], rfl, by decide, by decide⟩
  have stays (state : LineState) :
      state.marked.after (indentLines Base.quoteMargin content) = state.marked := by
    induction content generalizing state with
    | nil => rfl
    | cons character rest ih =>
        by_cases feed : character = '\n'
        · have same : (state.marked.next '\n').marked = state.marked := by
            cases state <;> rfl
          rw [feed, indentLines, LineState.after_cons, LineState.after_append,
            LineState.after_of_isMarkup margin, ih, same]
        · rw [indentLines, LineState.after_cons, LineState.next_marked feed, ih]
          exact feed
  refine ⟨fun state => ?_, ?_⟩
  · rw [LineState.after_append, LineState.after_of_isMarkup margin, stays,
      LineState.after_of_isMarkup isMarkup_sketchMark]
  · rw [isAllBlank_append, margin.isAllBlank, isMarkup_sketchMark.isAllBlank, Bool.false_and]

end IsCoveredBy

end Text

/-! ## Rules -/

/-- What is made of the element at a position is covered by this sketch, also with spaces around
it. -/
structure Position.Fits (position : Position) (text sketch : Text) : Prop where
  covered : text.IsCoveredBy sketch
  takesSpaces : position.node.isBlock = false → position.node.children ≠ [] → text.TakesSpaces

/-- A block is not padded. -/
theorem Position.Fits.of_isBlock {position : Position} {text sketch : Text}
    (block : position.node.isBlock = true) (covered : text.IsCoveredBy sketch) :
    position.Fits text sketch where
  covered := covered
  takesSpaces inline := by
    rw [block] at inline
    cases inline

theorem Position.Fits.of_isMark {position : Position} {text sketch front rest : Text}
    {first last : Char} (begins : text = first :: rest) (opens : IsMark first)
    (ends : text = front ++ [last]) (closes : IsMark last) (covered : text.IsCoveredBy sketch) :
    position.Fits text sketch where
  covered := covered
  takesSpaces _ _ := takesSpaces_of_isMark begins opens ends closes

/-- Spaces are left out where there are some beside the element, and none are added. -/
theorem Text.IsCoveredBy.around {text sketch : Text} (covered : text.IsCoveredBy sketch)
    (takes : text.TakesSpaces) {flanking own : Flanking}
    (leads : flanking.leading = true → own.leading = true)
    (trails : flanking.trailing = true → own.trailing = true) :
    (flanking.around text).IsCoveredBy (own.around sketch) where
  states state := by
    have start : (state.after (Flanking.space flanking.leading)).after text ≤
        (state.after (Flanking.space own.leading)).after sketch := by
      refine le_trans ?_ (covered.states _)
      cases given : flanking.leading with
      | true =>
          rw [leads given]
      | false =>
          cases own.leading with
          | true => exact takes.before state
          | false => exact le_refl _
    simp only [Flanking.around, LineState.after_append]
    cases given : flanking.trailing with
    | true =>
        rw [trails given]
        exact LineState.after_mono _ start
    | false =>
        cases own.trailing with
        | true => exact (takes.behind _).trans (LineState.next_mono ' ' start)
        | false => exact start
  blank := by
    have space (present : Bool) : isAllBlank (Flanking.space present) = true := by
      cases present <;> rfl
    simp [Flanking.around, isAllBlank_append, space, covered.blank]

theorem Flanking.around_none (text : Text) : Flanking.none.around text = text :=
  List.append_nil text

/-- An element is padded where its own markup has spacing, or not at all. -/
theorem Position.Fits.around {position : Position} {text sketch : Text}
    (fits : position.Fits text sketch) :
    (position.flanking.around text).IsCoveredBy (position.node.ownFlanking.around sketch) := by
  rw [Position.flanking, Node.ownFlanking]
  cases block : position.node.isBlock with
  | true =>
      rw [if_pos rfl, if_pos rfl, Flanking.around_none, Flanking.around_none]
      exact fits.covered
  | false =>
      by_cases empty : position.node.children = []
      · have none : position.node.innerMarkup = [] := by
          cases shape : position.node with
          | element tag children =>
              rw [shape] at empty
              rw [show children = [] from empty]
              rfl
          | text kind content => rfl
          | mark kind content => rfl
        simpa [none, startsWithSpacing, endsWithSpacing, Flanking.around, Flanking.space] using
          fits.covered
      · refine fits.covered.around (fits.takesSpaces block empty) ?_ ?_
        · exact fun leading => (Bool.and_eq_true_iff.1 leading).1
        · exact fun trailing => (Bool.and_eq_true_iff.1 trailing).1

theorem isMarkup_replicate {character : Char} (isMark : IsMark character) (count : Nat) :
    IsMarkup (List.replicate (count + 1) character) := by
  refine isMark.isMarkup fun member => ?_
  rw [← List.eq_of_mem_replicate member] at isMark
  exact absurd isMark (by decide)

section Forms

variable {gfm first : Bool} {position : Position} {tag : Tag} {content given : Text}
  {sketch : Inside} (contents : content.IsCoveredBy sketch.content)

/-- Lines of its own. -/
theorem fits_paragraphs {text inner : Text} (block : position.node.isBlock = true)
    (form : tag.sketch gfm first sketch = '\n' :: (inner ++ ['\n']))
    (covered : text.IsCoveredBy inner) :
    position.Fits (Base.paragraphs text) (tag.sketch gfm first sketch) :=
  .of_isBlock block (form ▸ covered.paragraphs)

include contents

/-- The content between as many marks on both sides. -/
theorem fits_enclosed {character : Char} (isMark : IsMark character) (count : Nat)
    (form : tag.lineForm gfm = .enclosed) (kept : given = content ∨ given = trimSpacing content) :
    position.Fits (List.replicate (count + 1) character ++ given ++
      List.replicate (count + 1) character) (tag.sketch gfm first sketch) := by
  have isMarkup := isMarkup_replicate isMark count
  have covered := contents.enclose kept isMarkup isMarkup isMarkup_sketchMark isMarkup_sketchMark
  have ends : List.replicate (count + 1) character ++ given ++
      List.replicate (count + 1) character =
        List.replicate (count + 1) character ++ given ++ List.replicate count character ++
          [character] := by
    simp [List.replicate_succ']
  rw [Tag.sketch, form]
  exact .of_isMark rfl isMark ends isMark covered

theorem fits_link (form : tag.lineForm gfm = .link)
    (kept : given = content ∨ given = trimSpacing content) (own : Base.tagOf position = tag) :
    position.Fits (Base.link given position) (tag.sketch gfm first sketch) := by
  have opens : IsMarkup ['['] := ⟨'[', [], rfl, by decide, by decide⟩
  have closes : IsMarkup [']'] := ⟨']', [], rfl, by decide, by decide⟩
  have covered := (contents.enclose kept opens closes opens closes).append
    (.refl ('(' :: (tag.textOf "href" ++ Base.titlePart tag ++ [')'])))
  have whole : Base.link given position = ['['] ++ given ++ [']'] ++
      '(' :: (tag.textOf "href" ++ Base.titlePart tag ++ [')']) := by
    simp [Base.link, own]
  have ends : Base.link given position = ('[' :: given ++ "](".toList ++ tag.textOf "href" ++
      Base.titlePart tag) ++ [')'] := by
    rw [Base.link, own]
  rw [Tag.sketch, form]
  refine .of_isMark rfl (by decide) ends (by decide) ?_
  rw [whole]
  exact covered

theorem fits_cell {place : Nat} (block : position.node.isBlock = true)
    (form : tag.lineForm gfm = .cell) (opens : place = 0 ↔ first = true) :
    position.Fits (Gfm.cell place content) (tag.sketch gfm first sketch) := by
  have bar : IsCoveredBy ['|'] [sketchMark] :=
    .of_isMarkup ⟨'|', [], rfl, by decide, by decide⟩ isMarkup_sketchMark
  have space : IsCoveredBy [' '] [' '] := .refl _
  refine .of_isBlock block ?_
  rw [Tag.sketch, form, Gfm.cell, List.append_assoc]
  dsimp only
  by_cases start : place = 0
  · rw [if_pos start, if_pos (opens.1 start)]
    exact (bar.append space).append (contents.append (space.append bar))
  · rw [if_neg start, if_neg fun isFirst => start (opens.2 isFirst)]
    exact space.append (contents.append (space.append bar))

/-- What is under a row is no item and leads to none. -/
theorem fits_row {border : Text} (block : position.node.isBlock = true)
    (form : tag.lineForm gfm = .row) (seen : isAllBlank content = false)
    (inside : border ≠ [] → LineState.margin.after border = .inside) :
    position.Fits ('\n' :: content ++ if border.isEmpty then [] else '\n' :: border)
      (tag.sketch gfm first sketch) := by
  have row : IsCoveredBy ('\n' :: content) ('\n' :: sketch.content) :=
    (IsCoveredBy.refl ['\n']).append contents
  rw [Tag.sketch, form]
  refine .of_isBlock block ⟨fun state => ?_, ?_⟩
  · have below := row.states state
    rw [LineState.after_append]
    by_cases none : border = []
    · rw [none]
      exact below
    · have rest : border.isEmpty = false := by simpa using none
      rw [rest, if_neg (by decide), LineState.after_cons, LineState.next_break]
      split
      · next found =>
          rw [found] at below
          rw [LineState.after_item]
          exact below
      · rw [inside none]
        exact LineState.inside_le _
  · rw [isAllBlank_append, row.blank.symm, isAllBlank_cons, seen, Bool.and_false, Bool.false_and]

end Forms

/-- A border has bars and dashes from its beginning on. -/
theorem Gfm.after_borderCells {addresses : List (Option Address)} {address : Address} {index : Nat}
    {nodes : List Node} {border : Text}
    (made : borderCells addresses address index nodes = .ok border) (some : border ≠ [])
    {state : LineState} (early : state = .margin ∨ state = .inside) :
    state.after border = .inside := by
  have cells (place : Nat) (tag : Tag) {state : LineState}
      (early : state = .margin ∨ state = .inside) :
      state.after (cell place (alignmentBorder tag)) = .inside := by
    rw [cell, alignmentBorder]
    rcases early with rfl | rfl
    all_goals
      split
      all_goals
        split
        · rfl
        · split
          · rfl
          · split <;> rfl
  fun_induction borderCells addresses address index nodes generalizing border state with
  | case1 index =>
      cases made
      exact absurd rfl some
  | case2 index tag children rest ih =>
      obtain ⟨place, -, made⟩ := bind_eq_ok_iff.1 made
      obtain ⟨others, later, made⟩ := bind_eq_ok_iff.1 made
      cases made
      rw [LineState.after_append, cells place tag early]
      by_cases none : others = []
      · rw [none]
        rfl
      · exact ih later none (.inr rfl)
  | case3 index node rest _ ih => exact ih made some early

/-- A text without the pattern is kept, and in any other one the replacement has one place. -/
theorem Text.replaceFirst_cases {pattern : Text} (some : pattern ≠ []) (text : Text) :
    (∀ replacement, replaceFirst pattern replacement text = text) ∨
      ∃ front back, text = front ++ (pattern ++ back) ∧
        ∀ replacement, replaceFirst pattern replacement text = front ++ (replacement ++ back) := by
  induction text with
  | nil => exact .inl fun _ => if_neg some
  | cons character rest ih =>
      simp only [replaceFirst]
      by_cases found : pattern.isPrefixOf (character :: rest) = true
      · obtain ⟨back, whole⟩ := List.isPrefixOf_iff_prefix.1 found
        refine .inr ⟨[], back, whole.symm, fun replacement => ?_⟩
        rw [if_pos found, ← whole, List.drop_left]
        rfl
      · simp only [if_neg found]
        rcases ih with kept | ⟨front, back, rfl, replaced⟩
        · exact .inl fun replacement => by rw [kept]
        · exact .inr ⟨character :: front, back, rfl, fun replacement => by rw [replaced]; rfl⟩

theorem Tag.exists_shell_end (tag : Tag) : ∃ front, tag.shell = front ++ ['>'] := by
  rw [Tag.shell]
  split
  · exact ⟨'<' :: tag.heading ++ ['/'], by simp [selfClosing]⟩
  · exact ⟨tag.opening ++ '<' :: '/' :: tag.name.toList, by simp [closing]⟩

/-- Markup around a content begins and ends with brackets. -/
theorem Tag.exists_around_end (tag : Tag) (content : Text) :
    ∃ front last, tag.around content = front ++ [last] ∧ IsMark last := by
  obtain ⟨front, closed⟩ := tag.exists_shell_end
  rcases replaceFirst_cases (List.cons_ne_nil '>' ['<']) tag.shell with
    kept | ⟨left, back, whole, replaced⟩
  · exact ⟨front, '>', by rw [around, kept, closed], by decide⟩
  · rw [around, replaced]
    rcases List.eq_nil_or_concat' back with rfl | ⟨others, last, rfl⟩
    · exact ⟨left ++ '>' :: content, '<', by simp, by decide⟩
    · have same : last = '>' := by
        rw [closed, ← List.append_assoc, ← List.append_assoc] at whole
        exact (List.singleton_inj.1 (List.append_inj_right' whole rfl)).symm
      exact ⟨left ++ ('>' :: content ++ ['<'] ++ others), last, by simp, by rw [same]; decide⟩

theorem Tag.covered_around (tag : Tag) {content sketch given : Text}
    (contents : content.IsCoveredBy sketch) (kept : given = content ∨ given = trimSpacing content) :
    (tag.around given).IsCoveredBy (tag.around sketch) := by
  have opens : IsMarkup ['>'] := ⟨'>', [], rfl, by decide, by decide⟩
  have closes : IsMarkup ['<'] := ⟨'<', [], rfl, by decide, by decide⟩
  have enclosed := contents.enclose kept opens closes opens closes
  rw [around, around]
  rcases replaceFirst_cases (List.cons_ne_nil '>' ['<']) tag.shell with
    same | ⟨front, back, -, replaced⟩
  · rw [same, same]
    exact .refl _
  · rw [replaced, replaced]
    exact (IsCoveredBy.refl front).append (enclosed.append (.refl back))

theorem fits_inlineMarkup {gfm first : Bool} {position : Position} {tag : Tag}
    {content given : Text} {sketch : Inside} (form : tag.lineForm gfm = .markup)
    (inline : tag.isBlock = false) (own : Base.tagOf position = tag)
    (contents : content.IsCoveredBy sketch.content)
    (kept : given = content ∨ given = trimSpacing content) :
    position.Fits (Base.inlineMarkup given position) (tag.sketch gfm first sketch) := by
  obtain ⟨rest, begins⟩ := tag.exists_around given
  obtain ⟨front, last, ends, closes⟩ := tag.exists_around_end given
  rw [Tag.sketch, form, Base.inlineMarkup, own]
  dsimp only
  rw [if_neg (by simp [inline])]
  exact .of_isMark begins (by decide) ends closes (tag.covered_around contents kept)

theorem fits_image {gfm first : Bool} {position : Position} {tag : Tag} {given : Text}
    {sketch : Inside} (form : tag.lineForm gfm = .image) (own : Base.tagOf position = tag)
    (empty : position.node.children = []) :
    position.Fits (Base.image given position) (tag.sketch gfm first sketch) := by
  have same : Base.image given position = tag.sketch gfm first sketch := by
    rw [Tag.sketch, form, Base.image, own]
  rw [same]
  exact ⟨.refl _, fun _ some => absurd empty some⟩

section Rules

variable {gfm first : Bool} {position : Position} {tag : Tag} {children : List Node}
  {replacements : Replacements} {items : List Text} {content given text : Text} {sketch : Inside}
  (shape : position.node = .element tag children) (keeps : position.node.KeepsLines)
  (outer : position.parentKind ≠ "li") (listed : replacements.itemsAt position = .ok items)
  (contents : content.IsCoveredBy sketch.content)
  (texts : List.Forall₂ Text.IsCoveredBy items sketch.items)
  (kept : given = content ∨ position.node.isBlock = false ∧ given = trimSpacing content)

include shape in
theorem lineForm_of_mem (gfm : Bool) {names : List String} (named : position.node.kind ∈ names)
    (form : LineForm) (all : ∀ name ∈ names, name ≠ "a" ∧ lineFormOf gfm name = form) :
    tag.lineForm gfm = form := by
  rw [shape] at named
  obtain ⟨noAnchor, known⟩ := all _ named
  rw [Tag.lineForm, if_neg fun link => noAnchor link.1]
  exact known

include shape kept in
/-- Blocks are given their content as it is. -/
theorem block_of_mem (gfm : Bool) {names : List String} (named : position.node.kind ∈ names)
    (form : LineForm)
    (all : ∀ name ∈ names, isBlockName name = true ∧ name ≠ "a" ∧ lineFormOf gfm name = form) :
    position.node.isBlock = true ∧ given = content ∧ tag.lineForm gfm = form := by
  have block : position.node.isBlock = true := (all _ named).1
  refine ⟨block, kept.resolve_right fun inline => ?_, ?_⟩
  · rw [block] at inline
    exact absurd inline.1 (by decide)
  · exact lineForm_of_mem shape gfm named form fun name member => (all name member).2

include shape keeps outer listed contents texts kept

/-- Line breaks are left out, as their rules differ. -/
theorem Base.fits_of_mem {converter : Converter} (member : converter ∈ Base.rules.take 14)
    (noBreak : position.node.kind ≠ "br")
    (selects : converter.filter.selects position replacements = .ok true) {rendering : Rendering}
    (known : converter.rendering = some rendering)
    (made : rendering given position replacements = .ok text) :
    position.Fits text (tag.sketch gfm first sketch) := by
  have own := Base.tagOf_of_element shape
  have trimmed := kept.imp_right And.right
  simp only [Base.rules, List.take_succ_cons, List.take_zero, List.mem_cons, List.not_mem_nil,
    or_false] at member
  rcases member with rfl | rfl | rfl | rfl | rfl | rfl | rfl | rfl | rfl | rfl | rfl | rfl | rfl |
    rfl
  all_goals cases known
  · -- paragraphs
    have named := List.mem_singleton.2 (Filter.selects_exact_iff.1 selects)
    obtain ⟨block, rfl, form⟩ :=
      block_of_mem shape kept gfm named .block (by cases gfm <;> decide)
    cases made
    exact fits_paragraphs block (by rw [Tag.sketch, form]) contents
  · exact absurd (Filter.selects_exact_iff.1 selects) noBreak
  · -- headings
    have named := Filter.selects_oneOf_iff.1 selects
    obtain ⟨block, rfl, form⟩ :=
      block_of_mem shape kept gfm named .headed (by cases gfm <;> decide)
    obtain ⟨level, read⟩ : ∃ level, headingLevel position.node.kind = .ok (level + 1) := by
      simp only [List.mem_cons, List.not_mem_nil, or_false] at named
      rcases named with named | named | named | named | named | named
      all_goals
        rw [named]
        exact ⟨_, rfl⟩
    obtain ⟨_, read', made⟩ := bind_eq_ok_iff.1 made
    obtain rfl := Except.ok.inj (read.symm.trans read')
    cases made
    have marks : IsMarkup (List.replicate (level + 1) '#' ++ [' ']) := by
      obtain ⟨_, rest, whole, isMark, single⟩ :=
        isMarkup_replicate (show IsMark '#' by decide) level
      exact ⟨_, rest ++ [' '], by rw [whole]; rfl, isMark, by simpa using single⟩
    have covered := (IsCoveredBy.of_isMarkup marks isMarkup_sketchMark).append contents
    rw [List.append_assoc] at covered
    exact fits_paragraphs block (by rw [Tag.sketch, form]) covered
  · -- thematic breaks
    have named := List.mem_singleton.2 (Filter.selects_exact_iff.1 selects)
    obtain ⟨block, -, form⟩ := block_of_mem shape kept gfm named .closed (by cases gfm <;> decide)
    cases made
    exact fits_paragraphs block (by rw [Tag.sketch, form])
      (.of_isMarkup ⟨'*', " * *".toList, rfl, by decide, by decide⟩ isMarkup_sketchMark)
  · have form := lineForm_of_mem shape gfm (Filter.selects_oneOf_iff.1 selects) .enclosed
      (by cases gfm <;> decide)
    cases made
    exact fits_enclosed contents (by decide) 0 form trimmed
  · have form := lineForm_of_mem shape gfm (Filter.selects_oneOf_iff.1 selects) .enclosed
      (by cases gfm <;> decide)
    cases made
    exact fits_enclosed contents (by decide) 1 form trimmed
  · have code := Filter.selects_when_iff.1 selects
    rw [isInlineCode, Bool.and_eq_true, beq_iff_eq] at code
    have form := lineForm_of_mem shape gfm (List.mem_singleton.2 code.1) .enclosed
      (by cases gfm <;> decide)
    cases made
    exact fits_enclosed contents (by decide) 0 form trimmed
  · have link := Filter.selects_when_iff.1 selects
    rw [isLink, own, shape, Bool.and_eq_true, beq_iff_eq, Bool.not_eq_true'] at link
    cases made
    exact fits_link contents (if_pos link) trimmed own
  · have named := Filter.selects_exact_iff.1 selects
    have form := lineForm_of_mem shape gfm (List.mem_singleton.2 named) .image
      (by cases gfm <;> decide)
    cases made
    exact fits_image form own (keeps.emptyImage named)
  · have block := Filter.selects_when_iff.1 selects
    rw [isCodeBlock, Bool.and_eq_true, beq_iff_eq] at block
    exact absurd block.1 keeps.notPreformatted
  · -- quotations
    have named := List.mem_singleton.2 (Filter.selects_exact_iff.1 selects)
    obtain ⟨block, -, form⟩ := block_of_mem shape kept gfm named .closed (by cases gfm <;> decide)
    cases made
    exact fits_paragraphs block (by rw [Tag.sketch, form]) (.quoted _)
  · exact absurd (Filter.selects_exact_iff.1 selects) keeps.noItem
  · -- lists
    have named := Filter.selects_oneOf_iff.1 selects
    obtain ⟨block, -, form⟩ := block_of_mem shape kept gfm named .list (by cases gfm <;> decide)
    obtain ⟨_, listed', made⟩ := bind_eq_ok_iff.1 made
    obtain rfl := Except.ok.inj (listed.symm.trans listed')
    rw [if_neg (by simpa using outer)] at made
    cases made
    exact fits_paragraphs block (by rw [Tag.sketch, form]) (.joinWith _ texts)
  · have named := Filter.selects_oneOf_iff.1 selects
    obtain ⟨block, rfl, form⟩ := block_of_mem shape kept gfm named .block (by cases gfm <;> decide)
    cases made
    exact fits_paragraphs block (by rw [Tag.sketch, form]) contents

omit listed texts in
/-- The rules for tables and struck text; `first` tells that the element is the first child. -/
theorem Gfm.fits_of_mem {converter : Converter} (member : converter ∈ Gfm.rules)
    (noBreak : position.node.kind ≠ "br") (seen : position.node.isBlank content = false)
    (placed : ∃ place, position.place tag.name = .ok place ∧ (place = 0 ↔ first = true))
    (selects : converter.filter.selects position replacements = .ok true) {rendering : Rendering}
    (known : converter.rendering = some rendering)
    (made : rendering given position replacements = .ok text) :
    position.Fits text (tag.sketch true first sketch) := by
  have own := Base.tagOf_of_element shape
  have trimmed := kept.imp_right And.right
  simp only [Gfm.rules, List.mem_cons, List.not_mem_nil, or_false] at member
  rcases member with rfl | rfl | rfl | rfl | rfl | rfl | rfl | rfl | rfl | rfl
  all_goals cases known
  · exact absurd (Filter.selects_exact_iff.1 selects) noBreak
  · have form := lineForm_of_mem shape true (Filter.selects_oneOf_iff.1 selects) .enclosed
      (by decide)
    cases made
    exact fits_enclosed contents (by decide) 1 form trimmed
  · have box := Filter.selects_when_iff.1 selects
    rw [isTaskCheckbox, Bool.and_eq_true, beq_iff_eq] at box
    exact absurd box.2 outer
  · -- cells
    obtain ⟨block, rfl, form⟩ :=
      block_of_mem shape kept true (Filter.selects_oneOf_iff.1 selects) .cell (by decide)
    obtain ⟨place, found, opens⟩ := placed
    obtain ⟨_, found', made⟩ := bind_eq_ok_iff.1 made
    rw [own, found] at found'
    cases found'
    cases made
    exact fits_cell contents block form opens
  · -- rows
    have named := Filter.selects_exact_iff.1 selects
    obtain ⟨block, rfl, form⟩ :=
      block_of_mem shape kept true (List.mem_singleton.2 named) .row (by decide)
    have solid : position.node.isVoid = false := by
      rw [Node.isVoid, named]
      rfl
    have shown : isAllBlank given = false := by
      simpa [Node.isBlank, solid, named] using seen
    obtain ⟨border, bordered, made⟩ := bind_eq_ok_iff.1 made
    cases made
    refine fits_row contents block form shown fun some => ?_
    rw [rowBorder] at bordered
    split at bordered
    · exact after_borderCells bordered some (.inl rfl)
    · cases bordered
      exact absurd rfl some
  · have named := List.mem_singleton.2 (Filter.selects_exact_iff.1 selects)
    obtain ⟨block, rfl, form⟩ := block_of_mem shape kept true named .block (by decide)
    cases made
    exact fits_paragraphs block (by rw [Tag.sketch, form]) contents
  · obtain ⟨block, rfl, form⟩ :=
      block_of_mem shape kept true (Filter.selects_oneOf_iff.1 selects) .bare (by decide)
    cases made
    exact .of_isBlock block (by rw [Tag.sketch, form]; exact contents)
  · have block := Filter.selects_when_iff.1 selects
    rw [Base.isCodeBlock, Bool.and_eq_true, beq_iff_eq] at block
    exact absurd block.1 keeps.notPreformatted
  · have highlighted := Filter.selects_when_iff.1 selects
    simp only [isHighlightedPre, Bool.and_eq_true, beq_iff_eq] at highlighted
    exact absurd highlighted.1.1 keeps.notPreformatted
  · have wrapper := Filter.selects_when_iff.1 selects
    rw [isHighlightWrapper, Bool.and_eq_true, beq_iff_eq] at wrapper
    obtain ⟨block, rfl, form⟩ :=
      block_of_mem shape kept true (List.mem_singleton.2 wrapper.1) .block (by decide)
    cases made
    exact fits_paragraphs block (by rw [Tag.sketch, form]) contents

end Rules

end PageMark
