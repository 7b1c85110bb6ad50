import PageMark.Proofs.Outlines

/-!
# The lines of a quotation

A quotation holds paragraphs and quotations.  It becomes the lines of these, with an empty line
between two of them, and a mark in front of every line.  So in front of a paragraph there is a mark
for each quotation around it.
-/

namespace PageMark

namespace Text

/-! ## Texts without spacing at their edges -/

/-- From something to see up to something to see. -/
structure IsClosed (text : Text) : Prop where
  some : text ≠ []
  starts : ∀ first ∈ text.head?, isBlank first = false
  ends : EndsSeen text

theorem not_isSpacing_of_not_isBlank {character : Char} (visible : isBlank character = false) :
    isSpacing character = false := by
  rw [Bool.eq_false_iff]
  intro spacing
  rw [isBlank_of_isSpacing spacing] at visible
  cases visible

namespace IsClosed

variable {text : Text} (closed : IsClosed text)

include closed

/-- Trimming takes off the spacing around the text and nothing else. -/
theorem trimSpacing_eq {front back : Text} (inFront : ∀ character ∈ front, isSpacing character)
    (inBack : ∀ character ∈ back, isSpacing character) :
    trimSpacing (front ++ text ++ back) = text := by
  obtain ⟨first, rest, rfl⟩ := List.exists_cons_of_ne_nil closed.some
  have starts := not_isSpacing_of_not_isBlank (closed.starts first rfl)
  have opened : (front ++ (first :: rest) ++ back).dropWhile isSpacing = first :: rest ++ back := by
    rw [List.append_assoc, List.dropWhile_append_of_pos inFront, List.cons_append,
      List.dropWhile_cons_of_neg (by simp [starts])]
  rw [trimSpacing, opened, dropTrailing_append_of_all inBack]
  obtain ⟨others, last, whole⟩ := (List.eq_nil_or_concat' (first :: rest)).resolve_left
    (List.cons_ne_nil _ _)
  have ends := not_isSpacing_of_not_isBlank (closed.ends last (by rw [whole]; simp))
  rw [whole, dropTrailing, List.reverse_append, List.reverse_singleton, List.singleton_append,
    List.dropWhile_cons_of_neg (by simp [ends])]
  simp

end IsClosed

theorem isClosed_joinWith {separator : Text} {texts : List Text} (some : texts ≠ [])
    (closed : ∀ text ∈ texts, IsClosed text) : IsClosed (joinWith separator texts) := by
  induction texts with
  | nil => exact absurd rfl some
  | cons first rest ih =>
      rw [List.forall_mem_cons] at closed
      by_cases single : rest = []
      · subst single
        exact closed.1
      · have below := ih single closed.2
        obtain ⟨character, others, rfl⟩ := List.exists_cons_of_ne_nil closed.1.some
        rw [joinWith_cons _ single]
        exact ⟨List.cons_ne_nil _ _, fun _ opens => closed.1.starts _ opens,
          below.ends.append below.some _⟩

theorem AreWholeLines.isClosed {lines : List Text} (whole : AreWholeLines lines) :
    IsClosed (joinWith ['\n'] lines) := by
  obtain ⟨first, rest, shape, visible⟩ := whole.exists_joinWith
  refine ⟨shape ▸ List.cons_ne_nil _ _, fun other opens => ?_, whole.endsSeen_joinWith⟩
  rw [shape] at opens
  cases opens
  exact visible

/-! ## Parts with an empty line between them -/

/-- The lines of several parts, with one empty line between two of them. -/
def partedLines (parts : List (List Text)) : List Text :=
  [[]].intercalate parts

theorem partedLines_cons (first : List Text) {rest : List (List Text)} (some : rest ≠ []) :
    partedLines (first :: rest) = first ++ [] :: partedLines rest := by
  obtain ⟨next, others, rfl⟩ := List.exists_cons_of_ne_nil some
  rw [partedLines, List.intercalate_cons_cons, List.append_assoc]
  rfl

theorem exists_partedLines_snoc (front : List (List Text)) (last : List Text) :
    ∃ above, partedLines (front ++ [last]) = above ++ last := by
  induction front with
  | nil => exact ⟨[], List.intercalate_singleton⟩
  | cons first rest ih =>
      obtain ⟨above, whole⟩ := ih
      rw [List.cons_append, partedLines_cons first (List.concat_ne_nil _ _), whole]
      exact ⟨first ++ [] :: above, by simp⟩

theorem mem_partedLines {parts : List (List Text)} {line : Text}
    (member : line ∈ partedLines parts) : line = [] ∨ ∃ part ∈ parts, line ∈ part := by
  induction parts with
  | nil => cases member
  | cons first rest ih =>
      by_cases single : rest = []
      · subst single
        exact .inr ⟨first, List.mem_cons_self, by simpa [partedLines] using member⟩
      · rw [partedLines_cons first single, List.mem_append, List.mem_cons] at member
        rcases member with own | empty | later
        · exact .inr ⟨first, List.mem_cons_self, own⟩
        · exact .inl empty
        · exact (ih later).imp_right fun ⟨part, listed, inPart⟩ =>
            ⟨part, List.mem_cons_of_mem _ listed, inPart⟩

theorem partedLines_ne_nil {parts : List (List Text)} (some : parts ≠ [])
    (filled : ∀ part ∈ parts, part ≠ []) : partedLines parts ≠ [] := by
  obtain ⟨front, last, rfl⟩ := (List.eq_nil_or_concat' parts).resolve_left some
  obtain ⟨above, whole⟩ := exists_partedLines_snoc front last
  rw [whole]
  exact List.append_ne_nil_of_right_ne_nil _ (filled last (by simp))

theorem map_partedLines (change : Text → Text) (parts : List (List Text)) :
    (partedLines parts).map change = [change []].intercalate (parts.map (List.map change)) := by
  induction parts with
  | nil => rfl
  | cons first rest ih =>
      cases rest with
      | nil => simp [partedLines]
      | cons next others =>
          rw [partedLines_cons first (List.cons_ne_nil _ _), List.map_append, List.map_cons, ih]
          simp only [List.map_cons, List.intercalate_cons_cons, List.append_assoc,
            List.singleton_append]

/-- Joined parts stand two line feeds apart. -/
theorem joinWith_partedLines {parts : List (List Text)} (filled : ∀ part ∈ parts, part ≠ []) :
    joinWith ['\n'] (partedLines parts) = joinWith ['\n', '\n'] (parts.map (joinWith ['\n'])) := by
  induction parts with
  | nil => rfl
  | cons first rest ih =>
      rw [List.forall_mem_cons] at filled
      by_cases single : rest = []
      · subst single
        simp [partedLines, joinWith]
      · obtain ⟨line, lines, rfl⟩ := List.exists_cons_of_ne_nil filled.1
        have below : rest.map (joinWith ['\n']) ≠ [] := by simpa using single
        rw [partedLines_cons _ single, List.map_cons, joinWith_cons _ below, ← ih filled.2,
          joinWith_cons_eq line, List.cons_append, joinWith_cons_eq, behindFeeds_append,
          behindFeeds_cons, behindFeeds_of_some (partedLines_ne_nil single filled.2)]
        simp

/-- Capping stops at a line with something in it. -/
theorem capBreaksAfter_line_append {line : Text} (isLine : IsLine line) (count : Nat)
    (below : Text) : capBreaksAfter count (line ++ below) = line ++ capBreaksAfter 0 below := by
  obtain ⟨first, rest, rfl⟩ := List.exists_cons_of_ne_nil (ne_nil_of_shown isLine.seen)
  have single := isLine.single
  rw [List.mem_cons, not_or] at single
  have own := capBreaksAfter_append_cons (Ne.symm single.1) count [] (rest ++ below)
  rw [capBreaks_append_of_not_mem single.2] at own
  exact own

theorem capBreaksAfter_joinWith_append {lines : List Text} (some : lines ≠ [])
    (isLine : ∀ line ∈ lines, IsLine line) (count : Nat) (below : Text) :
    capBreaksAfter count (joinWith ['\n'] lines ++ below) =
      joinWith ['\n'] lines ++ capBreaksAfter 0 below := by
  induction lines generalizing count with
  | nil => exact absurd rfl some
  | cons first rest ih =>
      rw [List.forall_mem_cons] at isLine
      by_cases single : rest = []
      · subst single
        exact capBreaksAfter_line_append isLine.1 count below
      · have later := ih single isLine.2 1
        have feed : ∀ text : Text, capBreaksAfter 0 ('\n' :: text) = '\n' :: capBreaksAfter 1 text :=
          fun _ => rfl
        rw [joinWith_cons first single, List.append_assoc, List.append_assoc,
          capBreaksAfter_line_append isLine.1, List.singleton_append, feed, later]
        simp

/-- Of the four line feeds between two parts two are left. -/
theorem capBreaksAfter_joinWith_parts {parts : List (List Text)}
    (whole : ∀ part ∈ parts, AreWholeLines part) (count : Nat) :
    capBreaksAfter count (joinWith ['\n', '\n', '\n', '\n'] (parts.map (joinWith ['\n']))) =
      joinWith ['\n', '\n'] (parts.map (joinWith ['\n'])) := by
  induction parts generalizing count with
  | nil => rfl
  | cons first rest ih =>
      rw [List.forall_mem_cons] at whole
      by_cases single : rest = []
      · subst single
        have alone := capBreaksAfter_joinWith_append whole.1.some whole.1.isLine count []
        simpa [joinWith, capBreaksAfter] using alone
      · have below : rest.map (joinWith ['\n']) ≠ [] := by simpa using single
        have feeds : ∀ text : Text, capBreaksAfter 0 (['\n', '\n', '\n', '\n'] ++ text) =
            ['\n', '\n'] ++ capBreaksAfter 2 text := fun _ => rfl
        rw [List.map_cons, joinWith_cons _ below, joinWith_cons _ below, List.append_assoc,
          capBreaksAfter_joinWith_append whole.1.some whole.1.isLine, feeds, ih whole.2,
          List.append_assoc]

theorem flatten_paragraphs {texts : List Text} (some : texts ≠ []) :
    (texts.map Base.paragraphs).flatten =
      Base.paragraphs (joinWith ['\n', '\n', '\n', '\n'] texts) := by
  induction texts with
  | nil => exact absurd rfl some
  | cons first rest ih =>
      by_cases single : rest = []
      · subst single
        simp [joinWith]
      · rw [List.map_cons, List.flatten_cons, ih single, joinWith_cons _ single]
        simp [Base.paragraphs]

/-! ## Marks -/

/-- A margin behind every line feed, and one in front, is a margin in front of every line. -/
theorem append_indentLines_joinWith {margin : Text} {lines : List Text} (some : lines ≠ [])
    (single : ∀ line ∈ lines, '\n' ∉ line) :
    margin ++ indentLines margin (joinWith ['\n'] lines) =
      joinWith ['\n'] (lines.map (margin ++ ·)) := by
  obtain ⟨first, rest, rfl⟩ := List.exists_cons_of_ne_nil some
  rw [List.forall_mem_cons] at single
  rw [joinWith_cons_eq, indentLines_append, indentLines_of_not_mem single.1,
    indentLines_behindFeeds single.2, List.map_cons, joinWith_cons_eq, List.append_assoc]

/-- A quotation puts a mark in front of each line of its parts. -/
theorem blockquote_parts {parts : List (List Text)} (some : parts ≠ [])
    (whole : ∀ part ∈ parts, AreWholeLines part) :
    Base.blockquote ((parts.map (joinWith ['\n'])).map Base.paragraphs).flatten =
      Base.paragraphs (joinWith ['\n'] ((partedLines parts).map (Base.quoteMargin ++ ·))) := by
  have texts : parts.map (joinWith ['\n']) ≠ [] := by simpa using some
  have filled : ∀ part ∈ parts, part ≠ [] := fun part member => (whole part member).some
  have closed : IsClosed (joinWith ['\n', '\n', '\n', '\n'] (parts.map (joinWith ['\n']))) := by
    refine isClosed_joinWith texts fun text member => ?_
    obtain ⟨part, listed, rfl⟩ := List.mem_map.1 member
    exact (whole part listed).isClosed
  have feeds : ∀ character ∈ ['\n', '\n'], isSpacing character = true :=
    List.forall_mem_cons.2 ⟨rfl, List.forall_mem_singleton.2 rfl⟩
  have single : ∀ line ∈ partedLines parts, '\n' ∉ line := by
    intro line member
    rcases mem_partedLines member with rfl | ⟨part, listed, inPart⟩
    · exact List.not_mem_nil
    · exact ((whole part listed).isLine line inPart).single
  have trimmed : trimSpacing ((parts.map (joinWith ['\n'])).map Base.paragraphs).flatten =
      joinWith ['\n', '\n', '\n', '\n'] (parts.map (joinWith ['\n'])) := by
    rw [flatten_paragraphs texts]
    exact closed.trimSpacing_eq feeds feeds
  rw [Base.blockquote, trimmed, capBreaks, capBreaksAfter_joinWith_parts whole,
    ← joinWith_partedLines filled,
    append_indentLines_joinWith (partedLines_ne_nil some filled) single]

/-- Behind marks whole lines are whole lines, and so are the empty lines between parts. -/
theorem areWholeLines_quoted {parts : List (List Text)} (some : parts ≠ [])
    (whole : ∀ part ∈ parts, AreWholeLines part) :
    AreWholeLines ((partedLines parts).map (Base.quoteMargin ++ ·)) where
  some := by simpa using partedLines_ne_nil some fun part member => (whole part member).some
  isLine := by
    intro line member
    obtain ⟨own, inParts, rfl⟩ := List.mem_map.1 member
    refine ⟨?_, rfl⟩
    rcases mem_partedLines inParts with rfl | ⟨part, listed, inPart⟩
    · decide
    · have single := ((whole part listed).isLine own inPart).single
      rw [List.mem_append, not_or]
      exact ⟨by decide, single⟩
  starts := by
    intro line member first opens
    obtain ⟨own, -, rfl⟩ := List.mem_map.1 (List.mem_of_mem_head? member)
    cases opens
    rfl
  ends := by
    intro line member
    obtain ⟨front, last, rfl⟩ := (List.eq_nil_or_concat' parts).resolve_left some
    have lastWhole := whole last (by simp)
    obtain ⟨above, shape⟩ := exists_partedLines_snoc front last
    obtain ⟨others, final, rfl⟩ := (List.eq_nil_or_concat' last).resolve_left lastWhole.some
    have line' : Base.quoteMargin ++ final = line := by
      rw [shape, ← List.append_assoc, List.map_append, List.map_singleton,
        List.getLast?_concat] at member
      exact Option.some.inj member
    have ends := lastWhole.ends final (by simp)
    have isLine := lastWhole.isLine final (by simp)
    exact line' ▸ ends.append (ne_nil_of_shown isLine.seen) _

end Text

/-! ## Quotations with paragraphs -/

/-- What a quotation holds: a paragraph with its text, or a quotation with its parts. -/
inductive QuotedPart where
  | paragraph (tag : Tag) (texts : List Node) (text : Text)
  | quotation (tag : Tag) (children : List Node) (parts : List QuotedPart)

namespace QuotedPart

def node : QuotedPart → Node
  | .paragraph tag texts _ => .element tag texts
  | .quotation tag children _ => .element tag children

def isQuotation : QuotedPart → Bool
  | .paragraph _ _ _ => false
  | .quotation _ _ _ => true

/-- A paragraph has a text with spacing around it, a quotation has parts with spacing between
them. -/
inductive IsSound : QuotedPart → Prop
  | paragraph {tag : Tag} {texts : List Node} {text : Text} (named : tag.kind = "p")
      (areTexts : ∀ node ∈ texts, node.isText = true)
      (padded : Text.IsPadded (wholeTextOf texts) text) (isText : text.IsItemText) :
      IsSound (.paragraph tag texts text)
  | quotation {tag : Tag} {children : List Node} {parts : List QuotedPart}
      (named : tag.kind = "blockquote") (filled : parts ≠ [])
      (spaced : AreSpaced children (parts.map node)) (sound : ∀ part ∈ parts, IsSound part) :
      IsSound (.quotation tag children parts)

/-! ### Their lines -/

mutual

/-- The lines of a paragraph or quotation: its text, or the lines of its parts, which an empty line
separates, with a mark in front of every line. -/
def lines : QuotedPart → List Text
  | .paragraph _ _ text => [text]
  | .quotation _ _ parts => (Text.partedLines (linesOfEach parts)).map (Base.quoteMargin ++ ·)

def linesOfEach : List QuotedPart → List (List Text)
  | [] => []
  | part :: rest => part.lines :: linesOfEach rest

end

theorem linesOfEach_eq (parts : List QuotedPart) : linesOfEach parts = parts.map lines := by
  induction parts with
  | nil => rfl
  | cons part rest ih => rw [linesOfEach, ih, List.map_cons]

/-- The marks of this many quotations. -/
def marks (depth : Nat) : Text :=
  (List.replicate depth Base.quoteMargin).flatten

theorem marks_succ (depth : Nat) : marks (depth + 1) = marks depth ++ Base.quoteMargin := by
  rw [marks, List.replicate_succ', List.flatten_append, List.flatten_singleton]
  rfl

mutual

/-- The lines of a paragraph or quotation with this many quotations around it. -/
def linesAt (depth : Nat) : QuotedPart → List Text
  | .paragraph _ _ text => [marks depth ++ text]
  | .quotation _ _ parts => [marks (depth + 1)].intercalate (linesOfEachAt (depth + 1) parts)

def linesOfEachAt (depth : Nat) : List QuotedPart → List (List Text)
  | [] => []
  | part :: rest => part.linesAt depth :: linesOfEachAt depth rest

end

mutual

/-- A mark in front of every line for each quotation around a part. -/
theorem linesAt_eq (depth : Nat) : (part : QuotedPart) →
    part.linesAt depth = part.lines.map (marks depth ++ ·)
  | .paragraph _ _ text => rfl
  | .quotation _ _ parts => by
      have marked := Text.map_partedLines (marks (depth + 1) ++ ·) (linesOfEach parts)
      simp only [List.append_nil] at marked
      rw [linesAt, lines, linesOfEachAt_eq (depth + 1) parts, ← marked, marks_succ, List.map_map]
      simp [Function.comp_def]

theorem linesOfEachAt_eq (depth : Nat) : (parts : List QuotedPart) →
    linesOfEachAt depth parts = (linesOfEach parts).map (List.map (marks depth ++ ·))
  | [] => rfl
  | part :: rest => by
      rw [linesOfEachAt, linesOfEach, List.map_cons, part.linesAt_eq depth,
        linesOfEachAt_eq depth rest]

end

namespace IsSound

variable {part : QuotedPart} (sound : part.IsSound)

include sound

theorem areWholeLines : Text.AreWholeLines part.lines := by
  induction sound with
  | @paragraph _ _ text _ _ _ isText =>
      have isLine : Text.IsLine text := ⟨isText.not_mem, isText.isAllBlank_eq⟩
      exact ⟨List.cons_ne_nil _ _, List.forall_mem_singleton.2 isLine,
        fun line opens => by cases opens; exact isText.starts,
        fun line last => by cases last; exact isText.ends⟩
  | @quotation _ _ parts _ filled _ _ ih =>
      rw [lines, linesOfEach_eq]
      refine Text.areWholeLines_quoted (by simpa using filled) fun own member => ?_
      obtain ⟨part, listed, rfl⟩ := List.mem_map.1 member
      exact ih part listed

/-- Every line of a quotation has a mark in front. -/
theorem margin_prefix (isQuotation : part.isQuotation = true) :
    ∀ line ∈ part.lines, Base.quoteMargin <+: line := by
  cases sound with
  | paragraph _ _ _ _ => cases isQuotation
  | quotation _ _ _ _ =>
      intro line member
      obtain ⟨own, -, rfl⟩ := List.mem_map.1 member
      exact List.prefix_append _ own

/-! ### Rendering -/

theorem isPlainBlock {tag : Tag} {children : List Node} (shape : part.node = .element tag children) :
    tag.IsPlainBlock := by
  cases sound with
  | paragraph named _ _ _ => cases shape; exact Tag.isPlainBlock_of_kind named (by decide)
  | quotation named _ _ _ => cases shape; exact Tag.isPlainBlock_of_kind named (by decide)

theorem isBlock : part.node.isBlock = true := by
  cases part with
  | paragraph tag texts text => exact (sound.isPlainBlock rfl).block
  | quotation tag children parts => exact (sound.isPlainBlock rfl).block

end IsSound

/-- Wherever it is, the part becomes its lines there, with an empty line around them. -/
def IsRendered (gfm : Bool) (part : QuotedPart) : Prop :=
  ∀ (address : Address) (surroundings : Option Surroundings),
    (Registry.builtIn gfm).markdownOf address surroundings part.node.collapseInPlace =
      .ok (Base.paragraphs (Text.joinWith ['\n'] part.lines))

section Rendered

variable {gfm : Bool} {tag : Tag}

/-- Of a paragraph its text is left, without the spacing around it. -/
theorem isRendered_paragraph {texts : List Node} {text : Text}
    (sound : (paragraph tag texts text).IsSound) : (paragraph tag texts text).IsRendered gfm := by
  intro address surroundings
  have plain := sound.isPlainBlock rfl
  cases sound with
  | paragraph named areTexts padded isText =>
      let left := collapseBetween .atBoundary .boundary texts
      let position : Position :=
        { address := address, node := .element tag left, surroundings := surroundings }
      have kind : position.node.kind = "p" := named
      have collapsed : (Node.element tag texts).collapseInPlace = .element tag left := by
        rw [Node.collapseInPlace, plain.open', if_neg Bool.false_ne_true]
      have leftTexts : ∀ node ∈ left, node.isText = true :=
        (thinned_collapseBetween _ _ texts).isText_of_mem areTexts
      have whole : wholeTextOf left = text := by
        rw [wholeTextOf_collapseBetween (areInline_of_texts areTexts)]
        exact isText.normal_eq_of_isPadded padded
      have nothing : (Registry.builtIn gfm).insideOf address tag ([] ++ left) [] =
          .ok (.ofItems []) := rfl
      have inside := Registry.insideOf_texts leftTexts nothing
      rw [List.append_nil, whole] at inside
      have content : ((Inside.ofItems []).addText text).content = text := List.append_nil text
      have made := @Registry.markdownHere_of_isPlainBlock (Registry.builtIn gfm) position tag left _
        (fun content _ _ => .ok (Base.paragraphs content)) plain rfl inside
        (content.symm ▸ isText.isAllBlank_eq)
        (Registry.exists_find_base (List.mem_singleton.2 kind) 0 gfm rfl (by decide) (by decide)
          (Filter.selects_exact_iff.2 kind) rfl)
      rw [node, collapsed, lines]
      exact made.trans (congrArg (Except.ok ∘ Base.paragraphs) content)

theorem isRendered_quotation {children : List Node} {parts : List QuotedPart}
    (sound : (quotation tag children parts).IsSound)
    (rendered : ∀ part ∈ parts, part.IsRendered gfm) :
    (quotation tag children parts).IsRendered gfm := by
  intro address surroundings
  have plain := sound.isPlainBlock rfl
  cases sound with
  | quotation named filled spaced inner =>
      have made : ∀ place part, parts[place]? = some part → ∀ front after,
          elementCount front = place →
          (Registry.builtIn gfm).markdownOf (address ++ [place]) (some ⟨tag, front, after⟩)
            part.node.collapseInPlace =
              .ok (Base.paragraphs (Text.joinWith ['\n'] part.lines)) :=
        fun _ part listed _ _ _ => rendered part (List.mem_of_getElem? listed) _ _
      have flat : (parts.mapIdx fun _ part => Base.paragraphs (Text.joinWith ['\n'] part.lines)) =
          ((linesOfEach parts).map (Text.joinWith ['\n'])).map Base.paragraphs := by
        rw [linesOfEach_eq, List.map_map, List.map_map]
        exact List.ext_getElem (by simp) (by simp)
      have whole : ∀ part ∈ linesOfEach parts, Text.AreWholeLines part := by
        rw [linesOfEach_eq]
        exact List.forall_mem_map.2 fun part member => (inner part member).areWholeLines
      have some' : linesOfEach parts ≠ [] := by
        rw [linesOfEach_eq]
        simpa using filled
      have quoted := Text.blockquote_parts some' whole
      have seen : Text.isAllBlank
          (parts.mapIdx fun _ part =>
            Base.paragraphs (Text.joinWith ['\n'] part.lines)).flatten = false := by
        obtain ⟨part, others, rfl⟩ := List.exists_cons_of_ne_nil filled
        obtain ⟨first, rest, shape, visible⟩ :=
          (inner part List.mem_cons_self).areWholeLines.exists_joinWith
        rw [List.mapIdx_cons, List.flatten_cons, shape]
        simp [Text.isAllBlank_append, Text.isAllBlank_cons, Base.paragraphs, visible]
      obtain ⟨_, _, -, -, finished⟩ :=
        Registry.exists_markdownOf_spaced plain spaced (fun part member => (inner part member).isBlock)
          address surroundings made seen fun position replacements kind =>
            Registry.exists_find_base (List.mem_singleton.2 (kind.trans named)) 10 gfm rfl
              (by decide) (by decide) (Filter.selects_exact_iff.2 (kind.trans named)) rfl
      rw [node, finished, flat, quoted, lines]

/-- The induction is on what a quotation holds. -/
theorem IsSound.isRendered {part : QuotedPart} (sound : part.IsSound) : part.IsRendered gfm := by
  induction sound with
  | paragraph named areTexts padded isText =>
      exact isRendered_paragraph (.paragraph named areTexts padded isText)
  | quotation named filled spaced inner ih =>
      exact isRendered_quotation (.quotation named filled spaced inner) ih

end Rendered

end QuotedPart

/-! ## Documents -/

namespace Document

/-- A quotation that is alone in a body outside of preformatted elements becomes its lines and no
other ones.  In front of each line there is a mark for every quotation around what it is of. -/
theorem quotation_lines {document : Document} {gfm : Bool} {body : Position}
    (found : document.body? = some body) (open' : ¬ document.InPreformatted body.address)
    {quotation : QuotedPart} (sound : quotation.IsSound) (isQuotation : quotation.isQuotation = true)
    (alone : AreSpaced body.node.children [quotation.node]) :
    (∃ conversion, document.convert { gfm := gfm } [] = .ok conversion ∧
      Text.lines conversion.markdown = quotation.lines) ∧
    quotation.lines = quotation.linesAt 0 ∧
    ∀ line ∈ quotation.lines, Base.quoteMargin <+: line := by
  have atTop : quotation.linesAt 0 = quotation.lines :=
    (quotation.linesAt_eq 0).trans (List.map_id' quotation.lines)
  refine ⟨?_, atTop.symm, sound.margin_prefix isQuotation⟩
  obtain ⟨conversion, converted, markdown⟩ :=
    exists_convert_of_alone found open' sound.isBlock alone fun _ _ _ _ _ => sound.isRendered _ _
  refine ⟨conversion, converted, ?_⟩
  rw [markdown, sound.areWholeLines.lines_cleanUp]

section Sample

/-- A paragraph with this text. -/
def quotedText (content : String) (text : Text) : QuotedPart :=
  .paragraph (plainTag "p") [words content] text

def innerParts : List QuotedPart :=
  [quotedText "b" ['b'], .quotation (plainTag "blockquote") [words "\n", (quotedText "c" ['c']).node]
    [quotedText "c" ['c']]]

def nestedQuotation : QuotedPart :=
  let parts := [quotedText "\n a b\t" "a b".toList,
    .quotation (plainTag "BLOCKQUOTE") (innerParts.map QuotedPart.node) innerParts,
    quotedText "d" ['d']]
  .quotation (plainTag "blockquote") (words "\r\n" :: parts.map QuotedPart.node) parts

theorem nestedQuotation_isSound : nestedQuotation.IsSound := by
  have whole (content : String) : wholeTextOf [words content] = content.toList := List.append_nil _
  have lone {content : String} {letter : Char} (shape : content.toList = [letter])
      (visible : Text.isBlank letter = false) (same : Text.squeezeAfter true [letter] = [letter]) :
      (quotedText content [letter]).IsSound :=
    .paragraph rfl (List.forall_mem_singleton.2 rfl)
      ⟨[], [], (whole content).trans shape, List.forall_mem_nil _⟩
      ⟨List.cons_ne_nil _ _, fun _ first => by cases first; exact visible,
        Text.endsSeen_snoc visible [], same ▸ Text.isSqueezed_squeezeAfter true _⟩
  have several : (quotedText "\n a b\t" "a b".toList).IsSound :=
    .paragraph rfl (List.forall_mem_singleton.2 rfl)
      ⟨['\n', ' '], ['\t'], whole "\n a b\t", List.all_eq_true.1 rfl⟩
      ⟨List.cons_ne_nil _ _, fun _ first => by cases first; rfl,
        Text.endsSeen_snoc (by decide) ['a', ' '],
        Text.isSqueezed_squeezeAfter true ['a', ' ', 'b']⟩
  have innermost : (QuotedPart.quotation (plainTag "blockquote")
      [words "\n", (quotedText "c" ['c']).node] [quotedText "c" ['c']]).IsSound :=
    .quotation rfl (List.cons_ne_nil _ _) ⟨rfl, by decide⟩
      (List.forall_mem_singleton.2 (lone rfl (by decide) rfl))
  have inner : (QuotedPart.quotation (plainTag "BLOCKQUOTE") (innerParts.map QuotedPart.node)
      innerParts).IsSound :=
    .quotation rfl (List.cons_ne_nil _ _) ⟨rfl, by decide⟩
      (List.forall_mem_cons.2 ⟨lone rfl (by decide) rfl, List.forall_mem_singleton.2 innermost⟩)
  exact .quotation rfl (List.cons_ne_nil _ _) ⟨rfl, by decide⟩ (List.forall_mem_cons.2
    ⟨several, List.forall_mem_cons.2 ⟨inner, List.forall_mem_singleton.2 (lone rfl (by decide) rfl)⟩⟩)

theorem nestedQuotation_lines :
    ∃ body conversion, (pageOf [words "\n", nestedQuotation.node]).body? = some body ∧
      ¬ (pageOf [words "\n", nestedQuotation.node]).InPreformatted body.address ∧
      nestedQuotation.IsSound ∧ nestedQuotation.isQuotation = true ∧
      AreSpaced body.node.children [nestedQuotation.node] ∧
      (pageOf [words "\n", nestedQuotation.node]).convert { gfm := true } [] = .ok conversion ∧
      Text.lines conversion.markdown =
        ["> a b", "> ", "> > b", "> > ", "> > > c", "> ", "> d"].map String.toList := by
  obtain ⟨body, found, -, shape, open'⟩ :=
    @Frame.exists_body? bareFrame (plainTag "body") [words "\n", nestedQuotation.node] rfl
  have alone : AreSpaced body.node.children [nestedQuotation.node] := by
    rw [shape]
    exact ⟨rfl, by decide⟩
  obtain ⟨⟨conversion, converted, lines⟩, -⟩ :=
    @quotation_lines _ true _ found open' _ nestedQuotation_isSound rfl alone
  exact ⟨body, conversion, found, open', nestedQuotation_isSound, rfl, alone, converted, lines⟩

/-- A quotation with some white space between its paragraphs. -/
def looseQuotation (between : String) : QuotedPart :=
  let parts := [quotedText "a" ['a'], quotedText "b" ['b']]
  .quotation (plainTag "blockquote")
    [(quotedText "a" ['a']).node, words between, (quotedText "b" ['b']).node] parts

/-- White space that is not collapsed gets a line of its own: a form feed, and inside of a
preformatted element a space. -/
theorem looseQuotation_keeps_spacing :
    (∃ conversion, (pageOf [(looseQuotation "\x0c").node]).convert {} [] = .ok conversion ∧
      Text.lines conversion.markdown =
        ["> a", "> ", "> \x0c", "> ", "> b"].map String.toList) ∧
    (∃ conversion,
      (ofNodes [.element (plainTag "pre") [.element (plainTag "body")
        [(looseQuotation " ").node]]]).convert {} [] = .ok conversion ∧
      Text.lines conversion.markdown = ["> a", "> ", ">  ", "> ", "> b"].map String.toList) ∧
    (looseQuotation "\x0c").lines = ["> a", "> ", "> b"].map String.toList ∧
    (looseQuotation " ").lines = ["> a", "> ", "> b"].map String.toList :=
  ⟨exists_convert_of_toOption (by decide +kernel), exists_convert_of_toOption (by decide +kernel),
    rfl, rfl⟩

end Sample

end Document

end PageMark
