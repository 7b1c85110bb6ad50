import PageMark.Proofs.Emphasis
import PageMark.Proofs.Failures
import PageMark.Proofs.Thinning

/-!
# Bars and line feeds in inline Markdown

The rules for inline elements add a line feed for each line break, and what they write of tags.  So
what inline content becomes has no other bars and line feeds than these and those of its texts.
-/

namespace PageMark

/-- Bars and line feeds, of which tables are laid out. -/
def IsLayout (character : Char) : Prop :=
  character = '|' ∨ character = '\n'

theorem IsLayout.not_mem {character : Char} (layout : IsLayout character) {text : Text}
    (clean : '|' ∉ text ∧ '\n' ∉ text) : character ∉ text := by
  rcases layout with rfl | rfl
  · exact clean.1
  · exact clean.2

theorem Text.count_replaceFirst_le (character : Char) (pattern replacement text : Text) :
    (replaceFirst pattern replacement text).count character ≤
      replacement.count character + text.count character := by
  induction text with
  | nil =>
      rw [replaceFirst]
      split <;> simp
  | cons own rest ih =>
      rw [replaceFirst]
      split
      · rw [List.count_append]
        exact Nat.add_le_add_left ((List.drop_sublist _ _).count_le _) _
      · rw [List.count_cons, List.count_cons]
        omega

/-! ## What is added for inline elements -/

/-- One for a line break. -/
def Node.breaks (node : Node) : Nat :=
  if node.kind = "br" then 1 else 0

/-- What this many line breaks add to the count of a character. -/
def feeds (breaks : Nat) (character : Char) : Nat :=
  breaks * ['\n'].count character

/-- The inline elements of whose tags nothing is written. -/
def bareNames (gfm : Bool) : List String :=
  "br" :: "code" :: (delimiters gfm).map Prod.fst

/-- What is written of the tag of an inline element: an address and what is said with it, or the
tag if there is no rule for such elements. -/
def Tag.writtenParts (gfm : Bool) (tag : Tag) : List Text :=
  if tag.kind ∈ bareNames gfm then []
  else if tag.kind = "img" then
    if (tag.textOf "src").isEmpty then []
    else [tag.textOf "alt", tag.textOf "src", tag.textOf "title"]
  else if tag.kind = "a" ∧ (tag.textOf "href").isEmpty = false then
    [tag.textOf "href", tag.textOf "title"]
  else [tag.shell]

/-- How many of a character the rules for inline elements add for this node. -/
def Node.inlineAdded (gfm : Bool) (node : Node) (character : Char) : Nat :=
  feeds node.breaks character +
    match node with
    | .element tag _ => (tag.writtenParts gfm).flatten.count character
    | _ => 0

/-- How many of a character are added for the nodes among these and below them. -/
def addedIn (added : Node → Char → Nat) (nodes : List Node) (character : Char) : Nat :=
  ((nodesWithin nodes).map (added · character)).sum

/-- How many line feeds are written for these nodes and those below them, apart from their texts. -/
def feedsWritten (gfm : Bool) (nodes : List Node) : Nat :=
  addedIn (Node.inlineAdded gfm) nodes '\n'

/-- How many bars are written for them. -/
def barsWritten (gfm : Bool) (nodes : List Node) : Nat :=
  addedIn (Node.inlineAdded gfm) nodes '|'

theorem Tag.writtenParts_of_link {tag : Tag} (gfm : Bool) (anchor : tag.kind = "a")
    (addressed : (tag.textOf "href").isEmpty = false) :
    tag.writtenParts gfm = [tag.textOf "href", tag.textOf "title"] := by
  have marked : "a" ∉ bareNames gfm := by cases gfm <;> decide
  have other : ¬ "a" = "img" := by decide
  rw [writtenParts, anchor, if_neg marked, if_neg other, if_pos ⟨rfl, addressed⟩]

theorem Tag.writtenParts_of_image {tag : Tag} (gfm : Bool) (image : tag.kind = "img") :
    tag.writtenParts gfm = if (tag.textOf "src").isEmpty then []
      else [tag.textOf "alt", tag.textOf "src", tag.textOf "title"] := by
  have marked : "img" ∉ bareNames gfm := by cases gfm <;> decide
  rw [writtenParts, image, if_neg marked, if_pos rfl]

theorem count_titlePart {character : Char} (layout : IsLayout character) (tag : Tag) :
    (Base.titlePart tag).count character = (tag.textOf "title").count character := by
  have quotes : character ∉ [' ', '"'] := layout.not_mem (by decide)
  simp only [List.mem_cons, List.not_mem_nil, or_false, not_or] at quotes
  rw [Base.titlePart]
  split
  · next empty => rw [List.isEmpty_iff.1 empty]
  · simp [Ne.symm quotes.1, Ne.symm quotes.2]

/-! ## Rules for nodes within a line -/

/-- The rule makes no more bars and line feeds than it is given, and those of a line break. -/
def Converter.AddsBreaksOnly (converter : Converter) (position : Position) : Prop :=
  ∀ replacements, converter.filter.selects position replacements = .ok true →
    ∀ rendering, converter.rendering = some rendering →
      ∀ given text, rendering given position replacements = .ok text →
        ∀ character, IsLayout character →
          text.count character ≤ given.count character + feeds position.node.breaks character

namespace Converter.AddsBreaksOnly

variable {position : Position}

/-- Rules for blocks select nothing within a line. -/
theorem of_block {converter : Converter} (inline : position.node.isBlock = false)
    (selectsBlocks : ∀ replacements, converter.filter.selects position replacements = .ok true →
      position.node.isBlock = true) : converter.AddsBreaksOnly position := by
  intro replacements selected
  rw [selectsBlocks replacements selected] at inline
  cases inline

theorem of_exact {name : String} {rendering : Option Rendering}
    (inline : position.node.isBlock = false) (block : isBlockName name = true) :
    Converter.AddsBreaksOnly { filter := .exact name, rendering := rendering } position := by
  refine of_block inline fun replacements selected => ?_
  rw [Node.isBlock, Filter.selects_exact_iff.1 selected]
  exact block

theorem of_oneOf {names : List String} {rendering : Option Rendering}
    (inline : position.node.isBlock = false) (blocks : ∀ name ∈ names, isBlockName name = true) :
    Converter.AddsBreaksOnly { filter := .oneOf names, rendering := rendering } position :=
  of_block inline fun _ selected => blocks _ (Filter.selects_oneOf_iff.1 selected)

theorem of_content {filter : Filter} {render : Text → Text}
    (spares : ∀ given character, IsLayout character →
      (render given).count character = given.count character) :
    Converter.AddsBreaksOnly { filter := filter, rendering := Base.ofContent render } position := by
  rintro replacements - _ ⟨⟩ given _ ⟨⟩ character layout
  rw [spares given character layout]
  exact Nat.le_add_right _ _

theorem of_lineBreak {render : Text → Text}
    (single : ∀ given character, IsLayout character →
      (render given).count character = ['\n'].count character) :
    Converter.AddsBreaksOnly { filter := .exact "br", rendering := Base.ofContent render }
      position := by
  rintro replacements selected _ ⟨⟩ given _ ⟨⟩ character layout
  have kind : position.node.kind = "br" := Filter.selects_exact_iff.1 selected
  rw [single given character layout, Node.breaks, if_pos kind, feeds, Nat.one_mul]
  exact Nat.le_add_left _ _

theorem of_preformatted {holds : Position → Bool} {rendering : Option Rendering}
    (inline : position.node.isBlock = false)
    (selectsPre : holds position = true → position.node.kind = "pre") :
    Converter.AddsBreaksOnly { filter := Base.when holds, rendering := rendering } position := by
  refine of_block inline fun replacements selected => ?_
  rw [Node.isBlock, selectsPre (Filter.selects_when_iff.1 selected)]
  rfl

end Converter.AddsBreaksOnly

section Rules

variable {position : Position} (inline : position.node.isBlock = false)

include inline

open Converter.AddsBreaksOnly in
theorem Gfm.addsBreaksOnly_of_mem {converter : Converter} (member : converter ∈ Gfm.rules) :
    converter.AddsBreaksOnly position := by
  simp only [Gfm.rules, List.mem_cons, List.not_mem_nil, or_false] at member
  rcases member with rfl | rfl | rfl | rfl | rfl | rfl | rfl | rfl | rfl | rfl
  · exact of_lineBreak fun _ _ _ => rfl
  · refine of_content fun given character layout => ?_
    have tildes : character ≠ '~' := by rcases layout with rfl | rfl <;> decide
    simp [Gfm.strikethrough, Ne.symm tildes]
  · rintro replacements - _ ⟨⟩ given _ ⟨⟩ character layout
    rw [Gfm.taskCheckbox]
    have none : ∀ mark : Text, '|' ∉ mark ∧ '\n' ∉ mark → mark.count character ≤
        given.count character + feeds position.node.breaks character := by
      intro mark clean
      rw [List.count_eq_zero_of_not_mem (layout.not_mem clean)]
      exact Nat.zero_le _
    split
    · exact none _ (by decide)
    · exact none _ (by decide)
  · exact of_oneOf inline (by decide)
  · exact of_exact inline (by decide)
  · exact of_exact inline (by decide)
  · exact of_oneOf inline (by decide)
  · refine of_preformatted inline fun block => ?_
    rw [Base.isCodeBlock, Bool.and_eq_true, beq_iff_eq] at block
    exact block.1
  · refine of_preformatted inline fun highlighted => ?_
    simp only [Gfm.isHighlightedPre, Bool.and_eq_true, beq_iff_eq] at highlighted
    exact highlighted.1.1
  · refine of_block inline fun replacements selected => ?_
    have wrapper := Filter.selects_when_iff.1 selected
    rw [Gfm.isHighlightWrapper, Bool.and_eq_true, beq_iff_eq] at wrapper
    rw [Node.isBlock, wrapper.1]
    rfl

open Converter.AddsBreaksOnly in
theorem Base.addsBreaksOnly_of_mem_front {converter : Converter}
    (member : converter ∈ Base.rules.take 6) : converter.AddsBreaksOnly position := by
  simp only [Base.rules, List.take_succ_cons, List.take_zero, List.mem_cons, List.not_mem_nil,
    or_false] at member
  rcases member with rfl | rfl | rfl | rfl | rfl | rfl
  · exact of_exact inline (by decide)
  · exact of_lineBreak fun _ character layout => by rcases layout with rfl | rfl <;> rfl
  · exact of_oneOf inline (by decide)
  · exact of_exact inline (by decide)
  · refine of_content fun given character layout => ?_
    have line : character ≠ '_' := by rcases layout with rfl | rfl <;> decide
    simp [Base.emphasis, Ne.symm line]
  · refine of_content fun given character layout => ?_
    have star : character ≠ '*' := by rcases layout with rfl | rfl <;> decide
    simp [Base.strong, Ne.symm star]

end Rules

theorem count_around {character : Char} (layout : IsLayout character) (flanking : Flanking)
    (text : Text) : (flanking.around text).count character = text.count character := by
  have other : character ∉ [' '] := layout.not_mem (by decide)
  have none (present : Bool) : (Flanking.space present).count character = 0 := by
    cases present with
    | false => rfl
    | true => exact List.count_eq_zero_of_not_mem other
  simp [Flanking.around, none]

theorem count_givenContent_le (position : Position) (content : Text) (character : Char) :
    (position.givenContent content).count character ≤ content.count character := by
  rw [Position.givenContent]
  split
  · rw [Text.trimSpacing, Text.dropTrailing, List.count_reverse]
    refine ((List.dropWhile_sublist _).count_le _).trans ?_
    rw [List.count_reverse]
    exact (List.dropWhile_sublist _).count_le _
  · exact Nat.le_refl _

namespace Registry

variable {position : Position} {replacements : Replacements} {choice : Choice}

/-- If one of the first rules takes an element, one of them is found for it. -/
theorem exists_mem_of_front {gfm : Bool} {front back : List Converter}
    (split : (builtIn gfm).converters = front ++ back)
    (selected : ∃ converter ∈ front, converter.filter.selects position replacements = .ok true)
    (found : (builtIn gfm).find position replacements = .ok (some choice)) :
    ∃ converter ∈ front, converter.filter.selects position replacements = .ok true ∧
      converter.rendering = some choice.rendering := by
  obtain ⟨first, found'⟩ := exists_findFrom (fun converter member =>
    @answers_of_mem_builtIn _ _ gfm _ (split ▸ List.mem_append_left _ member)) selected 0
  have same := @findFrom_append_of_found _ _ _ back _ _ found'
  rw [← split] at same
  rw [find, same] at found
  cases found
  exact mem_of_findFrom found'

/-- What a rule adds is all that is added: the content is trimmed, and spaces are put around. -/
theorem count_finish_le_of_rendering {gfm : Bool} {inside : Inside} {text : Text}
    (done : (builtIn gfm).finish position inside = .ok text) {character : Char}
    (layout : IsLayout character) {added : Nat}
    (adds : ∀ choice,
      (builtIn gfm).find position (inside.table position.address) = .ok (some choice) →
        ∀ given own, choice.rendering given position (inside.table position.address) = .ok own →
          own.count character ≤ given.count character + added) :
    text.count character ≤ inside.content.count character + added := by
  rw [finish] at done
  split at done
  · cases done
    exact Nat.zero_le _
  · obtain ⟨found, looked, done⟩ := bind_eq_ok_iff.1 done
    cases found with
    | none => cases done
    | some choice =>
        obtain ⟨own, rendered, done⟩ := bind_eq_ok_iff.1 done
        cases done
        rw [count_around layout]
        exact (adds choice looked _ _ rendered).trans
          (Nat.add_le_add_right (count_givenContent_le position _ character) _)

end Registry

/-! ### All rules -/

section Rules

variable {gfm : Bool} {position : Position} {tag : Tag} {children : List Node}
  (shape : position.node = .element tag children)

include shape

theorem Node.inlineAdded_eq (character : Char) :
    position.node.inlineAdded gfm character = feeds position.node.breaks character +
      (tag.writtenParts gfm).flatten.count character := by
  rw [shape]
  rfl

theorem Converter.AddsBreaksOnly.count_le {converter : Converter}
    (adds : converter.AddsBreaksOnly position) {replacements : Replacements}
    (selected : converter.filter.selects position replacements = .ok true) {rendering : Rendering}
    (known : converter.rendering = some rendering) {given text : Text}
    (rendered : rendering given position replacements = .ok text) {character : Char}
    (layout : IsLayout character) :
    text.count character ≤ given.count character + position.node.inlineAdded gfm character := by
  have most := adds _ selected _ known _ _ rendered character layout
  rw [Node.inlineAdded_eq shape]
  omega

/-- The rules up to the one for images are those for inline elements and some for blocks. -/
theorem Base.count_le_of_mem_front (inline : position.node.isBlock = false) {converter : Converter}
    (member : converter ∈ Gfm.rules ++ Base.rules.take 9) {replacements : Replacements}
    (selected : converter.filter.selects position replacements = .ok true) {rendering : Rendering}
    (known : converter.rendering = some rendering) {given text : Text}
    (rendered : rendering given position replacements = .ok text) {character : Char}
    (layout : IsLayout character) :
    text.count character ≤ given.count character + position.node.inlineAdded gfm character := by
  have split : Base.rules.take 9 = Base.rules.take 6 ++ (Base.rules.take 9).drop 6 := rfl
  rw [split] at member
  rcases List.mem_append.1 member with inGfm | inBase
  · exact (Gfm.addsBreaksOnly_of_mem inline inGfm).count_le shape selected known rendered layout
  rcases List.mem_append.1 inBase with inFront | inBack
  · exact (Base.addsBreaksOnly_of_mem_front inline inFront).count_le shape selected known rendered
      layout
  simp only [Base.rules, List.take_succ_cons, List.take_zero, List.drop_succ_cons, List.drop_zero,
    List.mem_cons, List.not_mem_nil, or_false] at inBack
  have own := Base.tagOf_of_element shape
  rw [Node.inlineAdded_eq shape]
  rcases inBack with rfl | rfl | rfl
  · cases known
    cases rendered
    have tick : character ≠ '`' := by rcases layout with rfl | rfl <;> decide
    simp [Base.inlineCode, Ne.symm tick]
  · cases known
    cases rendered
    have isLink := Filter.selects_when_iff.1 selected
    rw [Base.isLink, own, shape, Bool.and_eq_true, beq_iff_eq, Bool.not_eq_true'] at isLink
    have brackets : character ∉ ['[', ']', '(', ')'] := layout.not_mem (by decide)
    simp only [List.mem_cons, List.not_mem_nil, or_false, not_or] at brackets
    rw [Tag.writtenParts_of_link gfm isLink.1 isLink.2, Base.link, own]
    simp [count_titlePart layout, Ne.symm brackets.1, Ne.symm brackets.2.1,
      Ne.symm brackets.2.2.1, Ne.symm brackets.2.2.2]
  · cases known
    cases rendered
    have isImage : tag.kind = "img" := by
      have named := Filter.selects_exact_iff.1 selected
      rwa [shape] at named
    have marks : character ∉ ['!', '[', ']', '(', ')'] := layout.not_mem (by decide)
    simp only [List.mem_cons, List.not_mem_nil, or_false, not_or] at marks
    rw [Tag.writtenParts_of_image gfm isImage, Base.image, own]
    split
    · exact Nat.zero_le _
    · simp [count_titlePart layout, Ne.symm marks.1, Ne.symm marks.2.1, Ne.symm marks.2.2.1,
        Ne.symm marks.2.2.2.1, Ne.symm marks.2.2.2.2]
      omega

open Converter.AddsBreaksOnly in
/-- The other rules are for blocks, but for the last one, which writes tags. -/
theorem Base.count_le_of_mem_back (inline : position.node.isBlock = false)
    (parts : tag.writtenParts gfm = [tag.shell]) {converter : Converter}
    (member : converter ∈ Base.rules.drop 9) {replacements : Replacements}
    (selected : converter.filter.selects position replacements = .ok true) {rendering : Rendering}
    (known : converter.rendering = some rendering) {given text : Text}
    (rendered : rendering given position replacements = .ok text) {character : Char}
    (layout : IsLayout character) :
    text.count character ≤ given.count character + position.node.inlineAdded gfm character := by
  have ofBlock (adds : converter.AddsBreaksOnly position) :
      text.count character ≤ given.count character + position.node.inlineAdded gfm character :=
    adds.count_le shape selected known rendered layout
  simp only [Base.rules, List.drop_succ_cons, List.drop_zero, List.mem_cons, List.not_mem_nil,
    or_false] at member
  rcases member with rfl | rfl | rfl | rfl | rfl | rfl | rfl
  · refine ofBlock (of_preformatted inline fun block => ?_)
    rw [Base.isCodeBlock, Bool.and_eq_true, beq_iff_eq] at block
    exact block.1
  · exact ofBlock (of_exact inline (by decide))
  · exact ofBlock (of_exact inline (by decide))
  · exact ofBlock (of_oneOf inline (by decide))
  · exact ofBlock (of_oneOf inline (by decide))
  · exact ofBlock (of_block inline fun _ block => Filter.selects_when_iff.1 block)
  · cases known
    cases rendered
    have brackets : character ∉ ['<', '>'] := layout.not_mem (by decide)
    simp only [List.mem_cons, List.not_mem_nil, or_false, not_or] at brackets
    have whole :=
      Text.count_replaceFirst_le character ['>', '<'] ('>' :: given ++ ['<']) tag.shell
    have inner : ('>' :: given ++ ['<']).count character = given.count character := by
      simp [Ne.symm brackets.1, Ne.symm brackets.2]
    have own := Base.tagOf_of_element shape
    rw [Node.inlineAdded_eq shape, parts, Base.inlineMarkup, own, Tag.around,
      List.flatten_singleton]
    omega

/-- What is not written from its parts is an element for which one of these rules is there. -/
theorem exists_selects_of_writtenParts (outside : position.parentKind ≠ "pre")
    (replacements : Replacements) (parts : tag.writtenParts gfm ≠ [tag.shell]) :
    ∃ converter ∈ (if gfm then Gfm.rules else []) ++ Base.rules.take 9,
      converter.filter.selects position replacements = .ok true := by
  have inBase (index : Nat) (within : index < (Base.rules.take 9).length)
      (selects : (Base.rules.take 9)[index].filter.selects position replacements = .ok true) :
      ∃ converter ∈ (if gfm then Gfm.rules else []) ++ Base.rules.take 9,
        converter.filter.selects position replacements = .ok true :=
    ⟨_, List.mem_append_right _ (List.getElem_mem within), selects⟩
  have kind : position.node.kind = tag.kind := by
    rw [shape]
    rfl
  rw [Tag.writtenParts] at parts
  split at parts
  · next bare =>
      have names : tag.kind = "br" ∨ tag.kind = "code" ∨ tag.kind ∈ ["em", "i"] ∨
          tag.kind ∈ ["strong", "b"] ∨ (gfm = true ∧ tag.kind ∈ ["del", "s", "strike"]) := by
        cases gfm <;> simpa [bareNames, delimiters, or_assoc] using bare
      rw [← kind] at names
      rcases names with lineBreak | code | emphasized | strong | ⟨rfl, struck⟩
      · exact inBase 1 (by decide) (Filter.selects_exact_iff.2 lineBreak)
      · refine inBase 6 (by decide) (Filter.selects_when_iff.2 ?_)
        rw [Base.isInlineCode, code, beq_eq_false_iff_ne.2 outside]
        rfl
      · exact inBase 4 (by decide) (Filter.selects_oneOf_iff.2 emphasized)
      · exact inBase 5 (by decide) (Filter.selects_oneOf_iff.2 strong)
      · exact ⟨Gfm.rules[1], by simp [Gfm.rules], Filter.selects_oneOf_iff.2 struck⟩
  split at parts
  · next image => exact inBase 8 (by decide) (Filter.selects_exact_iff.2 (kind.trans image))
  split at parts
  · next link =>
      refine inBase 7 (by decide) (Filter.selects_when_iff.2 ?_)
      rw [Base.isLink, Base.tagOf, kind, link.1, shape]
      simp [Node.tag?, link.2]
  · exact absurd rfl parts

theorem Registry.count_finish_inline_le (inline : position.node.isBlock = false)
    (outside : position.parentKind ≠ "pre") {inside : Inside} {text : Text}
    (done : (builtIn gfm).finish position inside = .ok text) {character : Char}
    (layout : IsLayout character) :
    text.count character ≤
      inside.content.count character + position.node.inlineAdded gfm character := by
  refine count_finish_le_of_rendering done layout fun choice found given own rendered => ?_
  have split : (builtIn gfm).converters =
      ((if gfm then Gfm.rules else []) ++ Base.rules.take 9) ++ Base.rules.drop 9 := by
    cases gfm <;> rfl
  have ofFront {converter : Converter}
      (member : converter ∈ (if gfm then Gfm.rules else []) ++ Base.rules.take 9) :
      converter ∈ Gfm.rules ++ Base.rules.take 9 := by
    cases gfm with
    | false => exact List.mem_append_right _ member
    | true => exact member
  by_cases special : ∃ converter ∈ (if gfm then Gfm.rules else []) ++ Base.rules.take 9,
      converter.filter.selects position (inside.table position.address) = .ok true
  · obtain ⟨converter, member, selected, known⟩ := exists_mem_of_front split special found
    exact Base.count_le_of_mem_front shape inline (ofFront member) selected known rendered layout
  · obtain ⟨converter, member, selected, known⟩ := mem_of_findFrom found
    have parts : tag.writtenParts gfm = [tag.shell] := by
      by_contra other
      exact special (exists_selects_of_writtenParts shape outside _ other)
    rw [split] at member
    rcases List.mem_append.1 member with inFront | inBack
    · exact absurd ⟨converter, inFront, selected⟩ special
    · exact Base.count_le_of_mem_back shape inline parts inBack selected known rendered layout

end Rules

/-! ## Recursion -/

theorem mem_nodesWithin_self (node : Node) : node ∈ nodesWithin [node] := by
  cases node <;> exact List.mem_cons_self

theorem nodesWithin_subset_of_mem {node : Node} {nodes : List Node} (member : node ∈ nodes) :
    nodesWithin [node] ⊆ nodesWithin nodes := by
  obtain ⟨before, after, rfl⟩ := List.append_of_mem member
  clear member
  induction before with
  | nil => simp [nodesWithin]
  | cons first rest ih => exact fun other inside => List.mem_append_right _ (ih inside)

theorem nodesWithin_subset_element (tag : Tag) (children : List Node) :
    nodesWithin children ⊆ nodesWithin [.element tag children] := by
  simp [nodesWithin, Node.withDescendants]

theorem addedIn_cons (added : Node → Char → Nat) (node : Node) (rest : List Node)
    (character : Char) :
    addedIn added (node :: rest) character =
      addedIn added [node] character + addedIn added rest character := by
  simp [addedIn, nodesWithin]

theorem addedIn_element (added : Node → Char → Nat) (tag : Tag) (children : List Node)
    (character : Char) :
    addedIn added [.element tag children] character =
      added (.element tag children) character + addedIn added children character := by
  simp [addedIn, nodesWithin, Node.withDescendants]

/-- What holds of all texts and marks, and of elements by their tags, holds after collapsing. -/
theorem Thinned.forall_nodesWithin {before after : List Node} (thinned : Thinned before after)
    {holds : Node → Prop} (text : ∀ kind content, holds (.text kind content))
    (mark : ∀ kind content, holds (.mark kind content))
    (byTag : ∀ tag children inner, holds (.element tag children) → holds (.element tag inner))
    (all : ∀ node ∈ nodesWithin before, holds node) : ∀ node ∈ nodesWithin after, holds node := by
  intro node member
  obtain ⟨original, found, same⟩ := thinned.exists_original member
  have own := all original found
  cases same with
  | text _ _ _ => exact text _ _
  | mark _ => exact mark _ _
  | blankText _ further => cases further
  | droppedMark further => cases further
  | element _ _ _ => exact byTag _ _ _ own

/-- What is added for elements by their tags is the same after collapsing. -/
theorem Thinned.addedIn_eq {before after : List Node} (thinned : Thinned before after)
    {added : Node → Char → Nat} {character : Char}
    (noText : ∀ kind content, added (.text kind content) character = 0)
    (noMark : ∀ kind content, added (.mark kind content) character = 0)
    (byTag : ∀ tag children inner,
      added (.element tag children) character = added (.element tag inner) character) :
    addedIn added after character = addedIn added before character := by
  have text (kind : TextKind) (content : Text) (rest : List Node) :
      addedIn added (.text kind content :: rest) character = addedIn added rest character := by
    simp [addedIn, nodesWithin, Node.withDescendants, noText]
  have mark (kind : MarkKind) (content : Text) (rest : List Node) :
      addedIn added (.mark kind content :: rest) character = addedIn added rest character := by
    simp [addedIn, nodesWithin, Node.withDescendants, noMark]
  induction thinned with
  | nil => rfl
  | text _ _ _ ih => rw [text, text, ih]
  | blankText _ _ ih => rw [text, ih]
  | mark _ ih => rw [mark, mark, ih]
  | droppedMark _ ih => rw [mark, ih]
  | @element tag children inner _ _ _ _ _ ihInside ih =>
      rw [addedIn_cons, addedIn_element, ihInside, ih, addedIn_cons _ (.element _ children),
        addedIn_element, byTag tag children inner]

/-- The count of a character in what these nodes become is at most this. -/
def boundOf (added : Node → Char → Nat) (nodes : List Node) (character : Char) : Nat :=
  (wholeTextOf nodes).count character + addedIn added nodes character

theorem boundOf_cons (added : Node → Char → Nat) (node : Node) (rest : List Node)
    (character : Char) :
    boundOf added (node :: rest) character =
      boundOf added [node] character + boundOf added rest character := by
  rw [boundOf, boundOf, boundOf, addedIn_cons]
  simp only [wholeTextOf, List.append_nil, List.count_append]
  omega

theorem boundOf_element (added : Node → Char → Nat) (tag : Tag) (children : List Node)
    (character : Char) :
    boundOf added [.element tag children] character =
      boundOf added children character + added (.element tag children) character := by
  rw [boundOf, boundOf, addedIn_element]
  simp only [wholeTextOf, Node.wholeText, List.append_nil]
  omega

namespace Registry

/-- The elements that fit below a parent of some kind are no blocks, and what they become has no
more of the counted characters than their content and what is added for them. -/
structure AddsAtMost (gfm : Bool) (counted : Char → Prop) (added : Node → Char → Nat)
    (fits : String → Node → Prop) : Prop where
  inline : ∀ {parent node}, fits parent node → node.isBlock = false
  below : ∀ {parent tag children}, fits parent (.element tag children) →
    ∀ child ∈ children, fits tag.kind child
  finish : ∀ {position tag children inside text}, position.node = .element tag children →
    fits position.parentKind position.node → (builtIn gfm).finish position inside = .ok text →
      ∀ character, counted character →
        text.count character ≤ inside.content.count character + added position.node character

section Recursion

variable {gfm : Bool} {counted : Char → Prop} {added : Node → Char → Nat}
  {fits : String → Node → Prop}

mutual

theorem AddsAtMost.exists_markdownOf (bound : AddsAtMost gfm counted added fits)
    {address : Address} {parent : Tag} {before after : List Node} :
    (node : Node) → fits parent.kind node → node.isElement = true → ∃ text,
      (builtIn gfm).markdownOf (address ++ [elementCount before]) (some ⟨parent, before, after⟩)
        node = .ok text ∧
        ∀ character, counted character → text.count character ≤ boundOf added [node] character
  | .text _ _, _, isElement => by cases isElement
  | .mark _ _, _, isElement => by cases isElement
  | .element tag children, fit, _ => by
      let position := Position.child address parent before (.element tag children) after
      obtain ⟨inside, made, few⟩ :=
        @AddsAtMost.exists_insideOf bound position.address tag [] children (bound.below fit)
      cases done : (builtIn gfm).finish position inside with
      | error failure =>
          have isChild : position.IsChild := ⟨address, parent, before, _, after, rfl, rfl⟩
          obtain ⟨item, -, -⟩ := (finish_eq_error_iff isChild made).1 done
          have inline : position.node.isBlock = false := bound.inline fit
          rw [Node.isBlock, item] at inline
          exact absurd inline (by decide)
      | ok text =>
          refine ⟨text, ?_, fun character isCounted => ?_⟩
          · rw [markdownOf]
            show (insideOf _ position.address tag [] children >>= _) = _
            rw [made]
            exact done
          · rw [boundOf_element]
            exact (@AddsAtMost.finish _ _ _ _ bound position _ _ _ _ rfl fit done character isCounted).trans
              (Nat.add_le_add_right (few character isCounted) _)

/-- Nodes that fit become a text with no more of the counted characters than their texts have and
than are added for the elements. -/
theorem AddsAtMost.exists_insideOf (bound : AddsAtMost gfm counted added fits)
    {address : Address} {tag : Tag} {before : List Node} :
    (nodes : List Node) → (∀ node ∈ nodes, fits tag.kind node) → ∃ inside,
      (builtIn gfm).insideOf address tag before nodes = .ok inside ∧
        ∀ character, counted character →
          inside.content.count character ≤ boundOf added nodes character
  | [], _ => ⟨Inside.empty, rfl, fun _ _ => Nat.zero_le _⟩
  | .text kind content :: rest, fit => by
      obtain ⟨others, made, few⟩ :=
        @AddsAtMost.exists_insideOf bound address tag (before ++ [Node.text kind content]) rest
          (List.forall_mem_cons.1 fit).2
      refine ⟨others.addText content, by rw [insideOf, made]; rfl, fun character isCounted => ?_⟩
      rw [boundOf_cons, Inside.addText, List.count_append]
      refine Nat.add_le_add ?_ (few character isCounted)
      simp [boundOf, wholeTextOf, Node.wholeText]
  | .mark kind content :: rest, fit => by
      obtain ⟨others, made, few⟩ :=
        @AddsAtMost.exists_insideOf bound address tag (before ++ [Node.mark kind content]) rest
          (List.forall_mem_cons.1 fit).2
      refine ⟨others, by rw [insideOf, made], fun character isCounted => ?_⟩
      rw [boundOf_cons]
      exact (few character isCounted).trans (Nat.le_add_left _ _)
  | .element own inner :: rest, fit => by
      obtain ⟨first, makes, few⟩ := @AddsAtMost.exists_markdownOf bound address tag before rest
        (.element own inner) (List.forall_mem_cons.1 fit).1 rfl
      obtain ⟨others, made, few'⟩ :=
        @AddsAtMost.exists_insideOf bound address tag (before ++ [Node.element own inner]) rest
          (List.forall_mem_cons.1 fit).2
      refine ⟨others.addItem first, by rw [insideOf, makes, ok_bind, made]; rfl,
        fun character isCounted => ?_⟩
      rw [boundOf_cons, Inside.addItem, List.count_append]
      exact Nat.add_le_add (few character isCounted) (few' character isCounted)

end

end Recursion

end Registry

/-- No element among these nodes and below them is a block. -/
def HaveNoBlocks (nodes : List Node) : Prop :=
  ∀ node ∈ nodesWithin nodes, node.isBlock = false

instance (nodes : List Node) : Decidable (HaveNoBlocks nodes) :=
  inferInstanceAs (Decidable (∀ node ∈ nodesWithin nodes, node.isBlock = false))

namespace HaveNoBlocks

theorem of_subset {part nodes : List Node} (inline : HaveNoBlocks nodes)
    (subset : nodesWithin part ⊆ nodesWithin nodes) : HaveNoBlocks part :=
  fun other inside => inline other (subset inside)

theorem tail {node : Node} {rest : List Node} (inline : HaveNoBlocks (node :: rest)) :
    HaveNoBlocks rest :=
  fun other inside => inline other (List.mem_append_right _ inside)

theorem inside {tag : Tag} {children rest : List Node}
    (inline : HaveNoBlocks (.element tag children :: rest)) :
    tag.isBlock = false ∧ HaveNoBlocks children := by
  have first := inline.of_subset (nodesWithin_subset_of_mem List.mem_cons_self)
  exact ⟨first (.element tag children) (mem_nodesWithin_self _),
    first.of_subset (nodesWithin_subset_element tag children)⟩

end HaveNoBlocks

/-- Elements that are no blocks and are in none that is preformatted add what is written of them. -/
theorem Registry.addsAtMost_inline (gfm : Bool) :
    AddsAtMost gfm IsLayout (Node.inlineAdded gfm)
      fun parent node => parent ≠ "pre" ∧ HaveNoBlocks [node] where
  inline := fun {_ node} fit => fit.2 node (mem_nodesWithin_self node)
  below := by
    intro parent tag children fit child member
    obtain ⟨inline, inner⟩ := fit.2.inside
    refine ⟨fun preformatted => ?_, inner.of_subset (nodesWithin_subset_of_mem member)⟩
    rw [Tag.isBlock, preformatted] at inline
    cases inline
  finish := fun shape fit done _ layout =>
    count_finish_inline_le shape (fit.2 _ (mem_nodesWithin_self _)) fit.1 done layout

theorem HaveNoBlocks.of_thinned {before after : List Node} (inline : HaveNoBlocks before)
    (thinned : Thinned before after) : HaveNoBlocks after :=
  thinned.forall_nodesWithin (fun _ _ => rfl) (fun _ _ => rfl) (fun _ _ _ own => own) inline

theorem Thinned.addedIn_inlineAdded {before after : List Node} (thinned : Thinned before after)
    (gfm : Bool) (character : Char) :
    addedIn (Node.inlineAdded gfm) after character =
      addedIn (Node.inlineAdded gfm) before character := by
  have noBreak : feeds (if "" = "br" then 1 else 0) character = 0 := by simp [feeds]
  exact thinned.addedIn_eq (fun _ _ => noBreak) (fun _ _ => noBreak) fun _ _ _ => rfl

/-- Nodes without blocks become a text with no more bars and line feeds than their texts have and
than are written for them. -/
theorem Registry.exists_insideOf_inline (gfm : Bool) {address : Address} {tag : Tag}
    {nodes : List Node} (open' : tag.kind ≠ "pre") (inline : HaveNoBlocks nodes) :
    ∃ inside, (builtIn gfm).insideOf address tag [] nodes = .ok inside ∧
      ∀ character, IsLayout character →
        inside.content.count character ≤ boundOf (Node.inlineAdded gfm) nodes character :=
  @AddsAtMost.exists_insideOf _ _ _ _ (addsAtMost_inline gfm) address tag [] nodes
    fun _ member => ⟨open', inline.of_subset (nodesWithin_subset_of_mem member)⟩

end PageMark
