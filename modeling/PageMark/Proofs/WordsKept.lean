import PageMark.Proofs.KeptText
import PageMark.Proofs.ProcessingOrder

/-!
# Words of inline text

With a converter that gives every element's content back, what becomes of an
element is its text, up to runs of spacing: trimming takes spacing off and
padding puts a space in its place.  What is left out stands in blank elements, or
at the edge of elements with spacing of their own at the other edge only.
-/

namespace PageMark

/-! ## Giving the content back -/

/-- The converter selects every element and returns its content unchanged. -/
structure Converter.IsEcho (converter : Converter) : Prop where
  selects : ∀ position replacements, position.node.isElement = true →
    converter.filter.selects position replacements = .ok true
  renders : ∃ rendering, converter.rendering = some rendering ∧
    ∀ given position replacements, position.node.isElement = true →
      rendering given position replacements = .ok given

/-- Everything is selected, and its content is the only piece of the template. -/
def Definition.echo : Definition :=
  .value (.mapping [(filterKey.toList, .condition (.constant true)),
    (replacementKey.toList, .template { pieces := [.content] })])

theorem Definition.exists_isEcho :
    ∃ converter, echo.toConverter = .ok converter ∧ converter.IsEcho := by
  refine ⟨_, rfl, fun _ _ _ => rfl, _, rfl, fun given position replacements _ => ?_⟩
  have one : [Piece.content].mapM (Piece.render given position replacements) = .ok [given] := rfl
  rw [Template.toRendering, one, ok_bind]
  simp

namespace Registry

def echo : Registry where
  converters := [{
    filter := .predicate fun _ _ => .ok true
    rendering := some fun given _ _ => .ok given }]

theorem isLocal_echo : echo.IsLocal := by
  intro converter member
  rw [List.mem_singleton.1 member]
  exact .of_constant (fun _ _ _ => rfl) fun _ _ _ _ => rfl

theorem finish_echo (position : Position) (inside : Inside) :
    echo.finish position inside =
      .ok (if position.node.isBlank inside.content then []
        else position.flanking.around (position.givenContent inside.content)) := by
  rw [finish]
  split <;> rfl

/-! ### The first converter echoes -/

variable {converter : Converter} {rest : List Converter}

theorem markdownAt_of_isEcho (isEcho : converter.IsEcho) {position : Position}
    (isElement : position.node.isElement = true) (replacements : Replacements) :
    markdownAt { converters := converter :: rest } position replacements =
      echo.markdownAt position replacements := by
  obtain ⟨rendering, known, renders⟩ := isEcho.renders
  have found : find { converters := converter :: rest } position replacements =
      .ok (some { index := 0, rendering := rendering }) := by
    rw [find, findFrom, isEcho.selects position replacements isElement, ok_bind, if_pos rfl, known]
    rfl
  rw [markdownAt, markdownAt, found]
  simp only [ok_bind, renders _ position replacements isElement]
  rfl

theorem process_of_isEcho (isEcho : converter.IsEcho) (position : Position)
    (replacements : Replacements) :
    process { converters := converter :: rest } position replacements =
      echo.process position replacements := by
  cases shape : position.node with
  | text kind content => simp only [process, shape]
  | mark kind content => simp only [process, shape]
  | element tag children =>
      have isElement : position.node.isElement = true := by
        rw [shape]
        rfl
      simp only [process, shape, markdownAt_of_isEcho isEcho isElement]

theorem processEach_of_isEcho (isEcho : converter.IsEcho) (document : Document)
    (order : List Address) (replacements : Replacements) :
    processEach { converters := converter :: rest } document order replacements =
      echo.processEach document order replacements := by
  induction order generalizing replacements with
  | nil => rfl
  | cons address later ih =>
      rw [processEach, processEach]
      cases document.elementAt? address with
      | none => exact ih replacements
      | some position =>
          dsimp only
          rw [process_of_isEcho isEcho]
          cases echo.process position replacements with
          | error failure => rfl
          | ok made => exact ih made.2

end Registry

/-- The converters after the first never come into play. -/
theorem Document.convert_of_isEcho {definition : Definition} {converter : Converter}
    (built : definition.toConverter = .ok converter) (isEcho : converter.IsEcho)
    (flavor : Flavor) {document : Document} {body : Position}
    (found : document.collapse.body? = some body) :
    document.convert flavor [definition] =
      Registry.echo.convertBelow document.collapse body := by
  have registry : Registry.build flavor [definition] =
      .ok { converters := converter :: flavor.rules } := by
    simp only [Registry.build, List.mapM_cons, built, List.mapM_nil]
    rfl
  rw [convert, convertCollapsed, found]
  dsimp only
  rw [registry, ok_bind, Registry.convertBelow, Registry.convertBelow, Registry.processBelow,
    Registry.processBelow, Registry.processEach_of_isEcho isEcho]

/-- The Markdown is the cleaned content of the body, by recursion over the tree. -/
theorem Document.exists_convert_of_isEcho {definition : Definition} {converter : Converter}
    (built : definition.toConverter = .ok converter) (isEcho : converter.IsEcho)
    (flavor : Flavor) {document : Document} {body : Position}
    (found : document.collapse.body? = some body) {inside : Inside}
    (made : Registry.echo.insideHere body = .ok inside) :
    ∃ conversion, document.convert flavor [definition] = .ok conversion ∧
      conversion.markdown = Text.cleanUp inside.content := by
  have outcome := Registry.isLocal_echo.toOption_convertBelow (elementAt?_of_body? found)
  rw [made, ← convert_of_isEcho built isEcho flavor found] at outcome
  cases converted : document.convert flavor [definition] with
  | error failure => simp [converted, Except.toOption] at outcome
  | ok conversion => exact ⟨conversion, rfl, by simpa [converted, Except.toOption] using outcome⟩

/-! ## What becomes of a text -/

/-- Alike to what is kept of a text, and made of the characters of the whole text and
spaces. -/
structure Text.Renders (markdown kept whole : Text) : Prop where
  alike : Text.Alike markdown kept
  mem : ∀ character ∈ markdown, character ∈ whole ∨ character = ' '

namespace Text.Renders

variable {markdown markdown' kept kept' whole whole' : Text}

theorem refl (text : Text) : Renders text text text :=
  ⟨.refl text, fun _ => .inl⟩

theorem append (renders : Renders markdown kept whole)
    (renders' : Renders markdown' kept' whole') :
    Renders (markdown ++ markdown') (kept ++ kept') (whole ++ whole') where
  alike := renders.alike.append renders'.alike
  mem character member := by
    rcases List.mem_append.1 member with inFront | inBack
    · exact (renders.mem character inFront).imp (List.mem_append_left whole') id
    · exact (renders'.mem character inBack).imp (List.mem_append_right whole) id

theorem hasPlainLines (renders : Renders markdown kept whole) (plain : whole.HasPlainLines) :
    markdown.HasPlainLines := by
  rcases plain with noBreak | spacing
  · refine .inl fun member => ?_
    rcases renders.mem _ member with inText | space
    · exact noBreak inText
    · cases space
  · refine .inr fun character member isBlank => ?_
    rcases renders.mem character member with inText | rfl
    · exact spacing character inText isBlank
    · rfl

end Text.Renders

theorem Text.trimSpacing_subset (text : Text) : trimSpacing text ⊆ text := by
  obtain ⟨tail, whole, -⟩ := exists_dropped isSpacing (text.dropWhile isSpacing)
  intro character member
  exact (List.dropWhile_sublist _).mem (whole ▸ List.mem_append_left tail member)

/-- Trimming and padding leave what the padding keeps. -/
theorem Position.renders_around {position : Position} {leading trailing : Bool}
    {content kept whole : Text}
    (flanking : position.flanking = { leading := leading, trailing := trailing })
    (starts : leading = true → kept.startsWithSpacing = true)
    (ends : trailing = true → kept.endsWithSpacing = true)
    (renders : Text.Renders content kept whole) :
    Text.Renders (position.flanking.around (position.givenContent content))
      (kept.keptBetween leading trailing) whole := by
  rw [← renders.alike.startsWithSpacing] at starts
  rw [← renders.alike.endsWithSpacing] at ends
  rw [givenContent, flanking]
  refine ⟨?_, fun character member => ?_⟩
  · exact (Flanking.alike_around starts ends).trans (renders.alike.keptBetween leading trailing)
  · rcases Flanking.mem_around member with inText | space
    · refine renders.mem character ?_
      split at inText
      · exact Text.trimSpacing_subset content inText
      · exact inText
    · exact .inr space

theorem Node.isBlank_of_isInline {tag : Tag} {children : List Node}
    (inline : (Node.element tag children).isInline = true) {content : Text}
    (same : Text.isAllBlank content = Text.isAllBlank (wholeTextOf children)) :
    (Node.element tag children).isBlank content = isLeftOut tag children := by
  have notVoid : (Node.element tag children).isVoid = false :=
    (Node.isInline_element_iff.1 inline).2.1
  rw [isBlank, notVoid, same]
  rfl

/-! ## Recursion over the tree -/

namespace Registry

section

variable {preformatted : Bool}

mutual

theorem renders_of_markdownOf {address : Address} {tag : Tag} {before after : List Node}
    (inlineBefore : areInline before = true) (inlineAfter : areInline after = true) :
    (node : Node) → node.isInline = true → node.isElement = true →
      (preformatted = false → Text.IsSqueezed (wholeTextOf (before ++ node :: after))) →
      ∃ text, echo.markdownOf address
          (some { parent := tag, before := before, after := after }) node = .ok text ∧
        Text.Renders text (node.keptText preformatted before.getLast? after.head?) node.wholeText
  | .text _ _, _, isElement, _ => by cases isElement
  | .mark _ _, _, isElement, _ => by cases isElement
  | .element own children, inline, _, squeezed => by
      have inlineInside := (Node.isInline_element_iff.1 inline).2.2
      have squeezedInside (open' : preformatted = false) :
          Text.IsSqueezed (wholeTextOf ([] ++ children)) := by
        refine (squeezed open').mono ⟨wholeTextOf before, wholeTextOf after, ?_⟩
        simp [wholeTextOf_append, wholeTextOf, Node.wholeText]
      obtain ⟨inside, made, renders⟩ :=
        renders_of_insideOf [] rfl children inlineInside squeezedInside
      have padding := @flanking_eq preformatted address tag own before children after inline
        inlineBefore inlineAfter squeezed
      rw [markdownOf, made, ok_bind, finish_echo]
      refine ⟨_, rfl, ?_⟩
      -- the converter sees the content, the text that is kept is defined by the whole text
      have blank : Text.isAllBlank inside.content = Text.isAllBlank (wholeTextOf children) := by
        rw [renders.alike.isAllBlank, isAllBlank_keptTextOf]
      dsimp only
      rw [Node.isBlank_of_isInline inline blank, Node.keptText, Node.wholeText]
      split
      · exact ⟨.refl [], fun _ member => absurd member List.not_mem_nil⟩
      · refine Position.renders_around padding (fun starts => ?_) (fun ends => ?_) renders
        · rw [hasSpacedStart, Bool.and_eq_true] at starts
          exact (startsWithSpacing_of_textInFront preformatted none starts.1).2
        · rw [hasSpacedEnd, Bool.and_eq_true] at ends
          exact (endsWithSpacing_of_textAtEnd preformatted none ends.1).2

theorem renders_of_insideOf {address : Address} {tag : Tag} (before : List Node)
    (inlineBefore : areInline before = true) :
    (children : List Node) → areInline children = true →
      (preformatted = false → Text.IsSqueezed (wholeTextOf (before ++ children))) →
      ∃ inside, echo.insideOf address tag before children = .ok inside ∧
        Text.Renders inside.content (keptTextOf preformatted before.getLast? children)
          (wholeTextOf children)
  | [], _, _ => ⟨Inside.empty, rfl, .refl []⟩
  | node :: rest, inline, squeezed => by
      have inlineNode := inline
      rw [areInline, Bool.and_eq_true] at inlineNode
      have inlineFront : areInline (before ++ [node]) = true := by
        rw [areInline_append, inlineBefore, areInline, inlineNode.1]
        rfl
      have squeezedRest (open' : preformatted = false) :
          Text.IsSqueezed (wholeTextOf (before ++ [node] ++ rest)) := by
        rw [List.append_assoc]
        exact squeezed open'
      obtain ⟨others, made, renders⟩ :=
        renders_of_insideOf (before ++ [node]) inlineFront rest inlineNode.2 squeezedRest
      rw [List.getLast?_concat] at renders
      cases node with
      | text kind content =>
          rw [insideOf, made]
          exact ⟨_, rfl, (Text.Renders.refl content).append renders⟩
      | mark kind content => cases inlineNode.1
      | element own inner =>
          obtain ⟨first, madeFirst, rendersFirst⟩ := renders_of_markdownOf inlineBefore
            inlineNode.2 (.element own inner) inlineNode.1 rfl squeezed
          rw [insideOf, madeFirst, ok_bind, made]
          exact ⟨_, rfl, rendersFirst.append renders⟩

end

end

end Registry

namespace Document

/-- With a converter that echoes every element, the Markdown of a body with nothing but
inline text has the words of the text that is kept of the collapsed body, up to white space
at the end.  They are the words of the text of the body, unless some of it is lost: in a blank
element, or at an edge of an element with spacing of its own at the other edge only. -/
theorem words_kept {document : Document} (flavor : Flavor) {definition : Definition}
    {converter : Converter} {body : Position} (built : definition.toConverter = .ok converter)
    (isEcho : converter.IsEcho) (found : document.body? = some body)
    (inline : areInline body.node.children = true)
    (plain : document.InPreformatted body.address →
      Text.HasPlainLines (wholeTextOf body.node.children)) :
    ∃ left conversion, document.collapse.body? = some left ∧
      document.convert flavor [definition] = .ok conversion ∧
      ∀ preformatted : Bool, (preformatted = true ↔ document.InPreformatted body.address) →
        Text.wordsOf conversion.markdown =
          Text.wordsOf (Text.dropTrailing Text.isBlank
            (keptTextOf preformatted none left.node.children)) ∧
        (areKept preformatted none left.node.children = true →
          Text.wordsOf conversion.markdown =
            Text.wordsOf (Text.dropTrailing Text.isBlank (wholeTextOf body.node.children))) := by
  obtain ⟨tag, left, children, again, shape, inlineLeft, -, squeezed, plainLeft, words⟩ :=
    exists_collapse_inlineBody? found inline plain
  have madeHere (preformatted : Bool)
      (told : preformatted = false → ¬ document.InPreformatted body.address) :
      ∃ inside, Registry.echo.insideHere left = .ok inside ∧
        Text.Renders inside.content (keptTextOf preformatted none children)
          (wholeTextOf children) := by
    simp only [Registry.insideHere, shape]
    exact Registry.renders_of_insideOf [] rfl children inlineLeft fun outside =>
      squeezed (told outside)
  obtain ⟨inside, made, -⟩ := madeHere true Bool.noConfusion
  obtain ⟨conversion, converted, markdown⟩ :=
    exists_convert_of_isEcho built isEcho flavor again made
  refine ⟨left, conversion, again, converted, fun preformatted told => ?_⟩
  obtain ⟨inside', made', renders⟩ := madeHere preformatted fun outside within => by
    rw [told.2 within] at outside
    cases outside
  cases made.symm.trans made'
  have same : Text.wordsOf conversion.markdown = Text.wordsOf (Text.dropTrailing Text.isBlank
      (keptTextOf preformatted none children)) := by
    rw [markdown, Text.wordsOf_cleanUp (renders.hasPlainLines plainLeft)]
    exact (renders.alike.dropTrailing fun _ => Text.isBlank_of_isSpacing).wordsOf
  rw [shape, Node.children]
  refine ⟨same, fun nothingLost => ?_⟩
  rw [same, keptTextOf_eq children nothingLost, words]

/-- Spacing inside of elements, between them and around a blank one. -/
def spacedText : List Node :=
  let tag (name : String) : Tag := { name := name, attributes := [] }
  let words (content : String) : Node := .text .plain content.toList
  [words "one\t", .element (tag "em") [words " two &", .element (tag "strong") [words " three "]],
    .element (tag "i") [words "\t"], .element (tag "a") [words " "],
    .element (tag "code") [words "four "], words " five\r"]

def spacedBody : Position :=
  .child [] rootTag [] (.element { name := "body", attributes := [] } spacedText) []

theorem isSome_collapse_body?_spacedBody :
    (ofNodes [spacedBody.node]).collapse.body?.isSome = true := by
  decide +kernel

theorem spacedBody_words_kept :
    (ofNodes [spacedBody.node]).body? = some spacedBody ∧ areInline spacedText = true ∧
      ¬ (ofNodes [spacedBody.node]).InPreformatted spacedBody.address ∧
      ∃ conversion, (ofNodes [spacedBody.node]).convert {} [.echo] = .ok conversion ∧
        Text.wordsOf conversion.markdown =
          ["one", "two", "&", "three", "four", "five"].map String.toList := by
  have found : (ofNodes [spacedBody.node]).body? = some spacedBody := rfl
  have again := (Option.some_get isSome_collapse_body?_spacedBody).symm
  obtain ⟨converter, built, isEcho⟩ := Definition.exists_isEcho
  have inline : areInline spacedText = true := by decide +kernel
  have placed : (ofNodes [spacedBody.node]).elementAt? ([] ++ [0]) = some spacedBody := rfl
  have open' : ¬ (ofNodes [spacedBody.node]).InPreformatted spacedBody.address := by
    intro within
    rcases (inPreformatted_snoc_iff placed rfl).1 within with above | own
    · exact not_inPreformatted_nil _ above
    · exact absurd own (by decide)
  obtain ⟨left, conversion, again', converted, words⟩ :=
    words_kept {} built isEcho found inline (fun _ => .inl (by decide +kernel))
  obtain rfl := Option.some.inj (again.symm.trans again')
  have outside : false = true ↔ (ofNodes [spacedBody.node]).InPreformatted spacedBody.address :=
    ⟨Bool.noConfusion, fun within => absurd within open'⟩
  exact ⟨found, inline, open', conversion, converted,
    ((words false outside).2 (by decide +kernel)).trans (by decide +kernel)⟩

/-- Pages with inline text of which words are joined or lost: around a blank element, by an
element with spacing of its own on one side only, next to an element with text that it does not
show, between elements of preformatted text, at the end, and on a blank line. -/
def lossyPages : List (List Node) :=
  let tag (name : String) : Tag := { name := name, attributes := [] }
  let words (content : String) : Node := .text .plain content.toList
  [[.element (tag "body") [words "a", .element (tag "em") [words " "], words "b"]],
    [.element (tag "body")
      [words "a", .element (tag "em") [words " b", .element (tag "i") [words "c "]], words "d"]],
    [.element (tag "body")
      [.element (tag "ruby") [words "x ", .element (tag "rt") [.text .rubyText "ann".toList]],
        .element (tag "em") [words " b "], words "c"]],
    [.element (tag "pre")
      [.element (tag "body")
        [words "x", .element (tag "i") [words " a "], .element (tag "em") [words " b "],
          words "y"]]],
    [.element (tag "body") [words "a\u00a0"]],
    [.element (tag "pre") [.element (tag "body") [words "a\n\u00a0\nb"]]]]

theorem lossyPages_lose_words :
    ∃ converter, Definition.echo.toConverter = .ok converter ∧ converter.IsEcho ∧
      ∀ page ∈ lossyPages, ∃ body conversion, (ofNodes page).body? = some body ∧
        areInline body.node.children = true ∧
        (ofNodes page).convert {} [.echo] = .ok conversion ∧
        Text.wordsOf conversion.markdown ≠ Text.wordsOf (wholeTextOf body.node.children) := by
  obtain ⟨converter, built, isEcho⟩ := Definition.exists_isEcho
  refine ⟨converter, built, isEcho, fun page member => ?_⟩
  have differ : ∀ page ∈ lossyPages,
      ((ofNodes page).body?.bind fun body =>
        ((ofNodes page).convert {} [.echo]).toOption.map fun conversion =>
          areInline body.node.children &&
            Text.wordsOf conversion.markdown != Text.wordsOf (wholeTextOf body.node.children)) =
        some true := by
    decide +kernel
  obtain ⟨body, found, outcome⟩ := Option.bind_eq_some_iff.1 (differ page member)
  cases converted : (ofNodes page).convert {} [.echo] with
  | error failure => simp [converted, Except.toOption] at outcome
  | ok conversion =>
      rw [converted] at outcome
      obtain ⟨inline, lost⟩ := Bool.and_eq_true_iff.1 (Option.some.inj outcome)
      exact ⟨body, conversion, found, inline, rfl, bne_iff_ne.1 lost⟩

end Document

end PageMark
