import Mathlib.Data.List.DropRight
import PageMark.Conversion.Process
import PageMark.Proofs.CollapsedBody
import PageMark.Proofs.Words

/-!
# Inline text

A tree of texts and inline elements has one stretch, so collapsing between
boundaries makes its text normal.  Spacing at an edge of the markup of such nodes
is that of the text up to the next element.
-/

namespace PageMark

/-! ## Trees of texts and inline elements -/

mutual

/-- A text, or an inline element that is not void, with nothing else below it. -/
def Node.isInline : Node → Bool
  | .text _ _ => true
  | .mark _ _ => false
  | .element tag children => !tag.isBlock && !tag.isVoid && areInline children

def areInline : List Node → Bool
  | [] => true
  | node :: rest => node.isInline && areInline rest

end

theorem Node.isInline_element_iff {tag : Tag} {children : List Node} :
    (Node.element tag children).isInline = true ↔
      tag.isBlock = false ∧ tag.isVoid = false ∧ areInline children = true := by
  simp [isInline, and_assoc]

theorem Tag.separation_of_inline {tag : Tag} (inline : tag.isBlock = false)
    (notVoid : tag.isVoid = false) : tag.separation = .none := by
  have noBreak : (tag.kind == "br") = false := by
    rw [beq_eq_false_iff_ne]
    intro named
    rw [isVoid, named] at notVoid
    cases notVoid
  simp [separation, inline, notVoid, noBreak]

theorem Tag.isPreformatted_of_inline {tag : Tag} (inline : tag.isBlock = false) :
    tag.isPreformatted = false := by
  rw [isPreformatted, beq_eq_false_iff_ne]
  intro named
  rw [isBlock, named] at inline
  cases inline

theorem Thinned.areInline {before after : List Node} (thinned : Thinned before after)
    (inline : areInline before = true) : areInline after = true := by
  induction thinned with
  | nil => rfl
  | text _ _ _ ih => exact ih inline
  | blankText _ _ ih => exact ih inline
  | mark _ _ => cases inline
  | droppedMark _ _ => cases inline
  | element _ _ _ ihInside ih =>
      simp only [PageMark.areInline, Bool.and_eq_true, Node.isInline_element_iff] at inline ⊢
      exact ⟨⟨inline.1.1, inline.1.2.1, ihInside inline.1.2.2⟩, ih inline.2⟩

/-! ## The one stretch -/

theorem textAlong_append (left right : List Landmark) :
    textAlong (left ++ right) = textAlong left ++ textAlong right := by
  induction left with
  | nil => rfl
  | cons landmark rest ih => cases landmark <;> simp [textAlong, ih]

/-- Nothing but texts is met on the way, and they are all texts there are. -/
structure OnlyTexts (landmarks : List Landmark) (text : Text) : Prop where
  along : textAlong landmarks = text
  texts : ∀ landmark ∈ landmarks, ∃ content, landmark = .text content

theorem OnlyTexts.append {left right : List Landmark} {text text' : Text}
    (texts : OnlyTexts left text) (texts' : OnlyTexts right text') :
    OnlyTexts (left ++ right) (text ++ text') where
  along := by rw [textAlong_append, texts.along, texts'.along]
  texts landmark member := by
    rcases List.mem_append.1 member with inLeft | inRight
    · exact texts.texts landmark inLeft
    · exact texts'.texts landmark inRight

theorem OnlyTexts.stretches_eq {landmarks : List Landmark} {text : Text}
    (texts : OnlyTexts landmarks text) : stretches landmarks = [landmarks] := by
  have all := texts.texts
  clear texts
  induction landmarks with
  | nil => rfl
  | cons landmark rest ih =>
      obtain ⟨content, rfl⟩ := all landmark List.mem_cons_self
      rw [stretches, ih fun other member => all other (List.mem_cons_of_mem _ member)]
      · rfl
      · exact Landmark.noConfusion

mutual

theorem Node.onlyTexts_landmarks : (node : Node) → node.isInline = true →
    OnlyTexts node.landmarks node.wholeText
  | .text _ content, _ => ⟨List.append_nil content, by simp [Node.landmarks]⟩
  | .mark _ _, inline => by cases inline
  | .element tag children, inline => by
      obtain ⟨notBlock, notVoid, inside⟩ := Node.isInline_element_iff.1 inline
      have landmarks : (Node.element tag children).landmarks = landmarksOf children := by
        simp [Node.landmarks, Tag.isPreformatted_of_inline notBlock,
          Tag.separation_of_inline notBlock notVoid, Separation.landmarks]
      rw [landmarks, Node.wholeText]
      exact onlyTexts_landmarksOf children inside

theorem onlyTexts_landmarksOf : (nodes : List Node) → areInline nodes = true →
    OnlyTexts (landmarksOf nodes) (wholeTextOf nodes)
  | [], _ => ⟨rfl, fun _ member => by cases member⟩
  | node :: rest, inline => by
      rw [areInline, Bool.and_eq_true] at inline
      exact (Node.onlyTexts_landmarks node inline.1).append (onlyTexts_landmarksOf rest inline.2)

end

/-- Between boundaries the text of inline nodes becomes normal. -/
theorem wholeTextOf_collapseBetween {nodes : List Node} (inline : areInline nodes = true) :
    wholeTextOf (collapseBetween .atBoundary .boundary nodes) =
      Text.normal (wholeTextOf nodes) := by
  have before := onlyTexts_landmarksOf nodes inline
  have thinned := thinned_collapseBetween .atBoundary .boundary nodes
  have after := onlyTexts_landmarksOf _ (thinned.areInline inline)
  have normal : NormalStretches nodes (collapseBetween .atBoundary .boundary nodes) :=
    normalStretches_collapseBetween Edge.noConfusion nodes
  rw [NormalStretches, before.stretches_eq, after.stretches_eq, List.forall₂_cons] at normal
  rw [← after.along, ← before.along]
  refine (normal.1 fun void => ?_).1
  obtain ⟨content, shape⟩ := before.texts _ void
  cases shape

/-- Collapsing leaves the body inline, with the same words before the white space at
its end, and unless it is preformatted without line feeds and with single spaces. -/
theorem Document.exists_collapse_inlineBody? {document : Document} {body : Position}
    (found : document.body? = some body) (inline : areInline body.node.children = true)
    (plain : document.InPreformatted body.address →
      Text.HasPlainLines (wholeTextOf body.node.children)) :
    ∃ tag left children, document.collapse.body? = some left ∧
      left.node = .element tag children ∧ areInline children = true ∧
      (document.InPreformatted body.address → children = body.node.children) ∧
      (¬ document.InPreformatted body.address → Text.IsSqueezed (wholeTextOf children)) ∧
      Text.HasPlainLines (wholeTextOf children) ∧
      Text.wordsOf (Text.dropTrailing Text.isBlank (wholeTextOf children)) =
        Text.wordsOf (Text.dropTrailing Text.isBlank (wholeTextOf body.node.children)) := by
  obtain ⟨tag, children, left, rest, shape, again, shapeLeft, inside, outside⟩ :=
    exists_collapse_body? found
  rw [shape, Node.children] at inline plain ⊢
  refine ⟨tag, left, rest, again, shapeLeft, ?_⟩
  by_cases preformatted : document.InPreformatted body.address
  · rw [inside preformatted]
    exact ⟨inline, fun _ => rfl, fun open' => absurd preformatted open', plain preformatted, rfl⟩
  · rw [outside preformatted, wholeTextOf_collapseBetween inline]
    exact ⟨(thinned_collapseBetween _ _ children).areInline inline,
      fun inside => absurd inside preformatted, fun _ => Text.isSqueezed_normal _,
      Text.hasPlainLines_normal _, Text.wordsOf_dropTrailing_normal _⟩

/-! ## Spacing at the edges of markup -/

theorem startsWithSpacing_escapeChar (character : Char) (rest : Text) :
    Text.startsWithSpacing (escapeChar character ++ rest) = Text.isSpacing character := by
  rw [escapeChar.eq_def]
  split <;> rfl

theorem endsWithSpacing_escapeChar (before : Text) (character : Char) :
    Text.endsWithSpacing (before ++ escapeChar character) = Text.isSpacing character := by
  rw [escapeChar.eq_def]
  split <;> simp [Text.endsWithSpacing, Text.startsWithSpacing] <;> rfl

theorem escapeMarkup_append (left right : Text) :
    escapeMarkup (left ++ right) = escapeMarkup left ++ escapeMarkup right :=
  List.flatMap_append

theorem eq_nil_of_markupIn_text {parent : String} {kind : TextKind} {content : Text}
    (noMarkup : (Node.text kind content).markupIn parent = []) : content = [] := by
  cases content with
  | nil => rfl
  | cons first others =>
      rw [Node.markupIn] at noMarkup
      split at noMarkup
      · cases noMarkup
      · rw [escapeMarkup, List.flatMap_cons, List.append_eq_nil_iff, escapeChar.eq_def] at noMarkup
        split at noMarkup <;> cases noMarkup.1

theorem startsWithSpacing_markupIn_text (parent : String) (kind : TextKind) {content : Text}
    (nonempty : content ≠ []) (rest : Text) :
    Text.startsWithSpacing ((Node.text kind content).markupIn parent ++ rest) =
      Text.startsWithSpacing content := by
  obtain ⟨first, others, rfl⟩ := List.exists_cons_of_ne_nil nonempty
  rw [Node.markupIn]
  split
  · rfl
  · rw [escapeMarkup, List.flatMap_cons, List.append_assoc, startsWithSpacing_escapeChar]
    rfl

theorem endsWithSpacing_markupIn_text (parent : String) (kind : TextKind) (content : Text) :
    Text.endsWithSpacing ((Node.text kind content).markupIn parent) =
      Text.endsWithSpacing content := by
  rw [Node.markupIn]
  split
  · rfl
  · rcases List.eq_nil_or_concat' content with rfl | ⟨others, last, rfl⟩
    · rfl
    · have single : escapeMarkup [last] = escapeChar last := List.append_nil _
      rw [escapeMarkup_append, single, endsWithSpacing_escapeChar, Text.endsWithSpacing_snoc]

theorem exists_markup_element (parent : String) (tag : Tag) (children : List Node) :
    ∃ inner, (Node.element tag children).markupIn parent = '<' :: (inner ++ ['>']) := by
  rw [Node.markupIn]
  split
  · exact ⟨tag.heading ++ ['/'], by simp [Tag.selfClosing]⟩
  · exact ⟨tag.heading ++ '>' :: (markupOfAll tag.name children ++ '<' :: '/' :: tag.name.toList),
      by simp [Tag.opening, Tag.closing]⟩

theorem markupIn_emptyText (parent : String) (kind : TextKind) :
    (Node.text kind []).markupIn parent = [] := by
  rw [Node.markupIn]
  split <;> rfl

theorem markupOfAll_append (parent : String) (left right : List Node) :
    markupOfAll parent (left ++ right) = markupOfAll parent left ++ markupOfAll parent right := by
  induction left with
  | nil => rfl
  | cons node rest ih =>
      rw [List.cons_append, markupOfAll, markupOfAll, ih, List.append_assoc]

/-! ## Texts at the edges -/

theorem wholeTextOf_append (left right : List Node) :
    wholeTextOf (left ++ right) = wholeTextOf left ++ wholeTextOf right := by
  induction left with
  | nil => rfl
  | cons node rest ih =>
      rw [List.cons_append, wholeTextOf, wholeTextOf, ih, List.append_assoc]

theorem areInline_append {left right : List Node} :
    areInline (left ++ right) = (areInline left && areInline right) := by
  induction left with
  | nil => rfl
  | cons node rest ih => rw [List.cons_append, areInline, areInline, ih, Bool.and_assoc]

/-- The text before the first element. -/
def textInFront (nodes : List Node) : Text :=
  wholeTextOf (nodes.takeWhile fun node => !node.isElement)

/-- The text behind the last element. -/
def textAtEnd (nodes : List Node) : Text :=
  wholeTextOf (nodes.rtakeWhile fun node => !node.isElement)

/-- Spacing at the start of the markup is that of the text before the first element. -/
theorem startsWithSpacing_markupOfAll (parent : String) {nodes : List Node}
    (inline : areInline nodes = true) :
    Text.startsWithSpacing (markupOfAll parent nodes) =
      Text.startsWithSpacing (textInFront nodes) := by
  induction nodes with
  | nil => rfl
  | cons node rest ih =>
      rw [areInline, Bool.and_eq_true] at inline
      cases node with
      | mark kind content => cases inline.1
      | element own children =>
          obtain ⟨inner, shape⟩ := exists_markup_element parent own children
          rw [markupOfAll, shape]
          rfl
      | text kind content =>
          have front : textInFront (.text kind content :: rest) = content ++ textInFront rest := rfl
          rw [markupOfAll, front]
          by_cases nothing : content = []
          · subst nothing
            rw [markupIn_emptyText]
            exact ih inline.2
          · rw [startsWithSpacing_markupIn_text parent kind nothing,
              Text.startsWithSpacing_append _ nothing]

/-- Spacing at the end likewise. -/
theorem endsWithSpacing_markupOfAll (parent : String) {nodes : List Node}
    (inline : areInline nodes = true) :
    Text.endsWithSpacing (markupOfAll parent nodes) =
      Text.endsWithSpacing (textAtEnd nodes) := by
  induction nodes using List.reverseRecOn with
  | nil => rfl
  | append_singleton front node ih =>
      rw [areInline_append, Bool.and_eq_true, areInline, areInline, Bool.and_true] at inline
      have markup : markupOfAll parent (front ++ [node]) =
          markupOfAll parent front ++ node.markupIn parent := by
        rw [markupOfAll_append, markupOfAll, markupOfAll, List.append_nil]
      rw [markup]
      cases node with
      | mark kind content => cases inline.2
      | element own children =>
          obtain ⟨inner, shape⟩ := exists_markup_element parent own children
          have none : textAtEnd (front ++ [Node.element own children]) = [] := by
            rw [textAtEnd, List.rtakeWhile_concat_neg]
            · rfl
            · exact Bool.false_ne_true
          rw [none, shape, ← List.cons_append, ← List.append_assoc, Text.endsWithSpacing_snoc]
          rfl
      | text kind content =>
          have back : textAtEnd (front ++ [Node.text kind content]) =
              textAtEnd front ++ content := by
            rw [textAtEnd, List.rtakeWhile_concat_pos _ _ _ rfl, wholeTextOf_append, textAtEnd]
            exact congrArg _ (List.append_nil content)
          rw [back]
          by_cases nothing : content = []
          · subst nothing
            rw [markupIn_emptyText, List.append_nil, List.append_nil]
            exact ih inline.1
          · have written := fun none => nothing (@eq_nil_of_markupIn_text parent kind content none)
            rw [Text.endsWithSpacing_append _ written, Text.endsWithSpacing_append _ nothing,
              endsWithSpacing_markupIn_text]

end PageMark
