import PageMark.Proofs.Openings
import PageMark.Proofs.Pages
import PageMark.Proofs.WordsKept

/-!
# Padding adds nothing

With a converter that gives every element's content back, inline text comes out
with some of its white space gone.  A space that is put around an element stands
for spacing that was trimmed off, so nothing is added; only where spacing has not
been collapsed may a tab or a line end come back as a space.
-/

namespace PageMark

open scoped List

namespace Text

/-! ## Texts with less white space -/

/-- `left` is the text without some of its white space, and with spaces for some of its
spacing. -/
inductive Respaced : Text → Text → Prop
  | nil : Respaced [] []
  | kept (character : Char) {text left : Text} (further : Respaced text left) :
      Respaced (character :: text) (character :: left)
  | dropped {character : Char} {text left : Text} (blank : isBlank character = true)
      (further : Respaced text left) : Respaced (character :: text) left
  | spaced {character : Char} {text left : Text} (spacing : isSpacing character = true)
      (further : Respaced text left) : Respaced (character :: text) (' ' :: left)

namespace Respaced

variable {text text' left left' rest : Text}

theorem refl (text : Text) : Respaced text text := by
  induction text with
  | nil => exact .nil
  | cons character rest ih => exact .kept character ih

theorem append (respaced : Respaced text left) (respaced' : Respaced text' left') :
    Respaced (text ++ text') (left ++ left') := by
  induction respaced with
  | nil => exact respaced'
  | kept character _ ih => exact .kept character ih
  | dropped blank _ ih => exact .dropped blank ih
  | spaced spacing _ ih => exact .spaced spacing ih

theorem trans (respaced : Respaced text left) (respaced' : Respaced left rest) :
    Respaced text rest := by
  induction respaced generalizing rest with
  | nil => exact respaced'
  | dropped blank _ ih => exact .dropped blank (ih respaced')
  | kept character _ ih =>
      cases respaced' with
      | kept _ further => exact .kept character (ih further)
      | dropped blank further => exact .dropped blank (ih further)
      | spaced spacing further => exact .spaced spacing (ih further)
  | spaced spacing _ ih =>
      cases respaced' with
      | kept _ further => exact .spaced spacing (ih further)
      | dropped _ further => exact .dropped (isBlank_of_isSpacing spacing) (ih further)
      | spaced _ further => exact .spaced spacing (ih further)

/-- What cannot be seen may go altogether. -/
theorem of_blank (blank : isAllBlank text = true) : Respaced text [] := by
  induction text with
  | nil => exact .nil
  | cons character rest ih =>
      rw [isAllBlank_cons, Bool.and_eq_true] at blank
      exact .dropped blank.1 (ih blank.2)

/-- A part with the same visible characters has lost white space only. -/
theorem of_sublist (part : left <+ text) (same : visible left = visible text) :
    Respaced text left := by
  induction part with
  | slnil => exact .nil
  | @cons_cons left text character part ih =>
      rw [visible_cons character left, visible_cons character text] at same
      exact .kept character (ih (List.append_cancel_left same))
  | @cons left text character part ih =>
      cases blank : isBlank character with
      | true =>
          rw [visible_cons_of_blank blank] at same
          exact .dropped blank (ih same)
      | false =>
          have fewer := (visible_sublist_visible part).length_le
          have more : visible (character :: text) = character :: visible text := by
            simp [visible, blank]
          rw [same, more, List.length_cons] at fewer
          exact absurd fewer (Nat.not_succ_le_self _)

theorem visible_eq (respaced : Respaced text left) : visible left = visible text := by
  induction respaced with
  | nil => rfl
  | kept character _ ih => rw [visible_cons, ih, ← visible_cons]
  | dropped blank _ ih => rw [ih, visible_cons_of_blank blank]
  | spaced spacing _ ih =>
      rw [visible_cons_of_blank rfl, ih, visible_cons_of_blank (isBlank_of_isSpacing spacing)]

/-- Where all spacing is spaces, nothing is replaced. -/
theorem sublist (respaced : Respaced text left) (spaces : text.HasSpacesOnly) : left <+ text := by
  induction respaced with
  | nil => exact .slnil
  | kept character _ ih =>
      exact (ih (spaces.mono (List.subset_cons_self _ _))).cons_cons character
  | dropped _ _ ih => exact (ih (spaces.mono (List.subset_cons_self _ _))).cons _
  | spaced spacing _ ih =>
      rw [spaces _ List.mem_cons_self spacing]
      exact (ih (spaces.mono (List.subset_cons_self _ _))).cons_cons ' '

/-! ### Side by side -/

/-- Where all white space is spacing, none of it comes to the front. -/
theorem startsWithSpacing (respaced : Respaced text left)
    (spacing : ∀ character ∈ text, isBlank character = true → isSpacing character = true)
    (solid : Text.startsWithSpacing text = false) : Text.startsWithSpacing left = false := by
  cases respaced with
  | nil => rfl
  | kept _ _ => exact solid
  | dropped blank _ =>
      exact Bool.noConfusion (solid.symm.trans (spacing _ List.mem_cons_self blank))
  | spaced other _ => exact Bool.noConfusion (solid.symm.trans other)

/-- Behind spacing the text goes on with something else, and so does what is left of it. -/
theorem isChain_cons (respaced : Respaced text left)
    (spacing : ∀ character ∈ text, isBlank character = true → isSpacing character = true)
    {first first' : Char} (single : (first :: text).IsChain Apart) (chain : left.IsChain Apart)
    (same : isSpacing first' = isSpacing first) : (first' :: left).IsChain Apart := by
  refine List.isChain_cons.2 ⟨fun next member => ?_, chain⟩
  cases own : isSpacing first with
  | false => exact .inl (same.trans own)
  | true =>
      have solid : Text.startsWithSpacing text = false := by
        cases text with
        | nil => rfl
        | cons second others =>
            have apart := (List.isChain_cons_cons.1 single).1
            exact apart.resolve_left (by rw [own]; exact Bool.noConfusion)
      have starts := respaced.startsWithSpacing spacing solid
      cases left with
      | nil => cases member
      | cons second others =>
          cases member
          exact .inr starts

/-- Where all white space is spacing, and nowhere two characters of it side by side, it stays
so. -/
theorem isChain (respaced : Respaced text left)
    (spacing : ∀ character ∈ text, isBlank character = true → isSpacing character = true)
    (single : text.IsChain Apart) : left.IsChain Apart := by
  induction respaced with
  | nil => exact .nil
  | kept character further ih =>
      obtain ⟨-, spacing'⟩ := List.forall_mem_cons.1 spacing
      exact further.isChain_cons spacing' single (ih spacing' single.tail) rfl
  | dropped _ _ ih => exact ih (List.forall_mem_cons.1 spacing).2 single.tail
  | spaced own further ih =>
      obtain ⟨-, spacing'⟩ := List.forall_mem_cons.1 spacing
      exact further.isChain_cons spacing' single (ih spacing' single.tail) own.symm

end Respaced

/-! ## Cleaning up -/

theorem sublist_capBreaksAfter (count : Nat) (text : Text) : capBreaksAfter count text <+ text := by
  fun_induction capBreaksAfter count text with
  | case1 count => exact .slnil
  | case2 count rest fits ih => exact ih.cons_cons '\n'
  | case3 count rest full ih => exact ih.cons '\n'
  | case4 count character rest other ih => exact ih.cons_cons character

theorem sublist_settleRun (run : Text) : settleRun run <+ run := by
  by_cases feed : '\n' ∈ run
  · obtain ⟨front, rest, rfl, noFront⟩ := List.eq_append_cons_of_mem feed
    by_cases further : '\n' ∈ rest
    · obtain ⟨middle, back, rfl, noBack⟩ := exists_last_break further
      rw [settleRun_between noFront noBack]
      exact (List.Sublist.refl front).append
        ((List.sublist_append_right middle ('\n' :: back)).cons_cons '\n')
    · rw [settleRun_single noFront further]
  · rw [settleRun_of_not_mem feed]

theorem sublist_settleRuns (run text : Text) : settleRuns run text <+ run.reverse ++ text := by
  induction text generalizing run with
  | nil =>
      rw [settleRuns, List.append_nil]
      exact sublist_settleRun run.reverse
  | cons character rest ih =>
      rw [settleRuns]
      split
      · have further := ih (character :: run)
        rwa [List.reverse_cons, List.append_assoc, List.singleton_append] at further
      · exact (sublist_settleRun run.reverse).append ((ih []).cons_cons character)

theorem sublist_stripEdges (text : Text) : stripEdges text <+ text := by
  obtain ⟨tail, whole, -⟩ := exists_dropped isBlank (text.dropWhile isLineSpacing)
  have front : stripEdges text <+ text.dropWhile isLineSpacing := by
    conv_rhs => rw [whole]
    exact List.sublist_append_left _ tail
  exact front.trans (List.dropWhile_sublist _)

theorem sublist_cleanUp (text : Text) : cleanUp text <+ text :=
  calc cleanUp text <+ emptyBlankLines (stripEdges text) := sublist_capBreaksAfter 0 _
    _ <+ stripEdges text := sublist_settleRuns [] _
    _ <+ text := sublist_stripEdges text

theorem respaced_cleanUp (text : Text) : Respaced text (cleanUp text) :=
  .of_sublist (sublist_cleanUp text) (visible_cleanUp text)

end Text

/-! ## Trimming and padding -/

namespace Flanking

open Text

theorem all_isSpacing_space (present : Bool) : (space present).all isSpacing = true := by
  cases present <;> rfl

/-- A margin is gone, or has come to one space. -/
theorem respaced_space {present : Bool} {margin : Text} (alike : Alike (space present) margin) :
    Respaced margin (space present) := by
  have all : ∀ character ∈ margin, isSpacing character = true := by
    have same := alike.all_isSpacing
    rw [all_isSpacing_space] at same
    exact List.all_eq_true.1 same.symm
  have blank {text : Text} (part : ∀ character ∈ text, isSpacing character = true) :
      isAllBlank text = true :=
    List.all_eq_true.2 fun character member => isBlank_of_isSpacing (part character member)
  cases present with
  | false => exact .of_blank (blank all)
  | true =>
      cases margin with
      | nil => exact absurd alike.startsWithSpacing (by decide)
      | cons first rest =>
          rw [List.forall_mem_cons] at all
          exact .spaced all.1 (.of_blank (blank all.2))

/-- A text that is not all spacing, trimmed and padded on no side where it has no spacing. -/
theorem respaced_around {flanking : Flanking} {text : Text} (seen : text.all isSpacing = false)
    (leading : flanking.leading = true → text.startsWithSpacing = true)
    (trailing : flanking.trailing = true → text.endsWithSpacing = true) :
    Respaced text (flanking.around (if flanking.isSome then trimSpacing text else text)) := by
  by_cases padded : flanking.isSome = true
  · obtain ⟨front, back, whole, -, -, before, behind⟩ := exists_margins seen
    -- on a side that is not padded the margin goes
    have margin {present : Bool} {own : Bool} {margin : Text} (known : present = true → own = true)
        (alike : Alike (space own) margin) : Respaced margin (space present) := by
      cases present with
      | true =>
          rw [known rfl] at alike
          exact respaced_space alike
      | false =>
          have all := List.all_eq_true.1 (all_isSpacing_space own)
          exact .trans (respaced_space alike) (.of_blank (List.all_eq_true.2
            fun character member => isBlank_of_isSpacing (all character member)))
    rw [if_pos padded, around]
    conv_lhs => rw [whole]
    exact ((margin leading before).append (.refl _)).append (margin trailing behind)
  · rw [if_neg padded, around_of_not_isSome padded]
    exact .refl text

end Flanking

/-! ## Recursion over the tree -/

/-- Every anchor among these nodes and below them has something to see in it. -/
def HaveSeenAnchors (nodes : List Node) : Prop :=
  ∀ node ∈ nodesWithin nodes, node.kind = "a" → Text.isAllBlank node.wholeText = false

namespace HaveSeenAnchors

theorem of_subset {nodes part : List Node} (anchors : HaveSeenAnchors nodes)
    (subset : nodesWithin part ⊆ nodesWithin nodes) : HaveSeenAnchors part :=
  fun node member => anchors node (subset member)

theorem head {node : Node} {rest : List Node} (anchors : HaveSeenAnchors (node :: rest)) :
    HaveSeenAnchors [node] :=
  anchors.of_subset (by simp [nodesWithin])

theorem tail {node : Node} {rest : List Node} (anchors : HaveSeenAnchors (node :: rest)) :
    HaveSeenAnchors rest :=
  anchors.of_subset (List.subset_append_right _ _)

theorem inside {tag : Tag} {children : List Node}
    (anchors : HaveSeenAnchors [.element tag children]) : HaveSeenAnchors children :=
  anchors.of_subset (by simp [nodesWithin, Node.withDescendants])

theorem own {tag : Tag} {children : List Node}
    (anchors : HaveSeenAnchors [.element tag children]) (anchor : tag.kind = "a") :
    Text.isAllBlank (wholeTextOf children) = false :=
  anchors (.element tag children) (by simp [nodesWithin, Node.withDescendants]) anchor

theorem of_thinned {before after : List Node} (thinned : Thinned before after)
    (anchors : HaveSeenAnchors before) : HaveSeenAnchors after := by
  intro node member anchor
  obtain ⟨original, found, same⟩ := thinned.exists_original member
  have whole : node.kind = original.kind := by
    cases same with
    | text _ _ _ => rfl
    | blankText _ further => cases further
    | mark _ => rfl
    | droppedMark further => cases further
    | element _ _ _ => rfl
  have shown := same.visible_wholeTextOf
  rw [wholeTextOf, wholeTextOf, wholeTextOf, wholeTextOf, List.append_nil, List.append_nil] at shown
  rw [Text.isAllBlank_eq_of_visible shown]
  exact anchors original found (whole ▸ anchor)

end HaveSeenAnchors

/-- What is given back of an inline element is its content with less white space. -/
theorem Position.respaced_around {position : Position} {tag : Tag} {children : List Node}
    {content whole : Text} (shape : position.node = .element tag children)
    (inline : (Node.element tag children).isInline = true)
    (seen : Text.isAllBlank content = false)
    (renders : Text.Renders content (keptTextOf true none children) whole) :
    Text.Respaced content (position.flanking.around (position.givenContent content)) := by
  have padding := flanking_of_isInline shape inline
  have leading (padded : position.flanking.leading = true) :
      content.startsWithSpacing = true := by
    rw [padding, Bool.and_eq_true] at padded
    rw [renders.alike.startsWithSpacing]
    exact (startsWithSpacing_of_textInFront true none padded.1).2
  have trailing (padded : position.flanking.trailing = true) : content.endsWithSpacing = true := by
    rw [padding, Bool.and_eq_true] at padded
    rw [renders.alike.endsWithSpacing]
    exact (endsWithSpacing_of_textAtEnd true none padded.1).2
  refine Flanking.respaced_around ?_ leading trailing
  rw [Bool.eq_false_iff]
  intro all
  rw [Bool.eq_false_iff] at seen
  exact seen (List.all_eq_true.2 fun character member =>
    Text.isBlank_of_isSpacing (List.all_eq_true.1 all character member))

namespace Registry

mutual

theorem respaced_of_markdownOf {address : Address} {surroundings : Option Surroundings} :
    (node : Node) → {text : Text} → node.isInline = true → HaveSeenAnchors [node] →
      echo.markdownOf address surroundings node = .ok text → Text.Respaced node.wholeText text
  | .text _ _, _, _, _, made => by cases made
  | .mark _ _, _, _, _, made => by cases made
  | .element tag children, text, inline, anchors, made => by
      obtain ⟨-, notVoid, inlineInside⟩ := Node.isInline_element_iff.1 inline
      obtain ⟨inside, madeInside, finished⟩ := bind_eq_ok_iff.1 made
      have respaced := respaced_of_insideOf [] children inlineInside anchors.inside madeInside
      obtain ⟨inside', again, renders⟩ := @renders_of_insideOf true address tag [] rfl children
        inlineInside Bool.noConfusion
      obtain rfl := Except.ok.inj (madeInside.symm.trans again)
      rw [finish_echo] at finished
      obtain rfl := Except.ok.inj finished
      rw [Node.wholeText]
      split
      · next blank =>
          rw [Node.isBlank, Bool.and_eq_true] at blank
          exact respaced.trans (.of_blank blank.2)
      · next shown =>
          have seen : Text.isAllBlank inside.content = false := by
            rw [Bool.eq_false_iff]
            intro blank
            have anchor : tag.kind = "a" := by
              rw [Node.isBlank, blank, Bool.and_true, Node.isVoid] at shown
              simpa [Node.kind, show isVoidName tag.kind = false from notVoid] using shown
            rw [Text.isAllBlank_eq_of_visible respaced.visible_eq, anchors.own anchor] at blank
            cases blank
          exact respaced.trans (Position.respaced_around rfl inline seen renders)

theorem respaced_of_insideOf {address : Address} {tag : Tag} (before : List Node) :
    (children : List Node) → {inside : Inside} → areInline children = true →
      HaveSeenAnchors children → echo.insideOf address tag before children = .ok inside →
        Text.Respaced (wholeTextOf children) inside.content
  | [], _, _, _, made => by
      cases made
      exact .nil
  | .text kind content :: rest, inside, inline, anchors, made => by
      rw [areInline, Bool.and_eq_true] at inline
      obtain ⟨others, madeOthers, ⟨⟩⟩ := bind_eq_ok_iff.1 made
      exact (Text.Respaced.refl content).append
        (respaced_of_insideOf _ rest inline.2 anchors.tail madeOthers)
  | .mark kind content :: rest, _, inline, _, _ => by cases inline
  | .element own inner :: rest, inside, inline, anchors, made => by
      rw [areInline, Bool.and_eq_true] at inline
      obtain ⟨first, madeFirst, made⟩ := bind_eq_ok_iff.1 made
      obtain ⟨others, madeOthers, ⟨⟩⟩ := bind_eq_ok_iff.1 made
      exact (respaced_of_markdownOf (.element own inner) inline.1 anchors.head madeFirst).append
        (respaced_of_insideOf _ rest inline.2 anchors.tail madeOthers)

end

end Registry

theorem Text.hasSpacesOnly_normal (text : Text) : (normal text).HasSpacesOnly := by
  rw [normal_eq]
  exact (HasSpacesOnly.squeezeAfter true text).shorten_edge .boundary

namespace Document

/-- With a converter that echoes every element, a body with nothing but inline text, and with
something to see in every anchor, becomes the text of the collapsed body without some of its white
space.  A tab or a line end can come back as a space, but only inside of preformatted elements;
elsewhere nothing is added, and spacing is nowhere doubled if there is no other white space. -/
theorem padding_adds_nothing {document : Document} (flavor : Flavor) {definition : Definition}
    {converter : Converter} {body : Position} (built : definition.toConverter = .ok converter)
    (isEcho : converter.IsEcho) (found : document.body? = some body)
    (inline : areInline body.node.children = true)
    (anchors : HaveSeenAnchors body.node.children) :
    ∃ left conversion, document.collapse.body? = some left ∧
      document.convert flavor [definition] = .ok conversion ∧
      Text.Respaced (wholeTextOf left.node.children) conversion.markdown ∧
      (¬ document.InPreformatted body.address →
        conversion.markdown <+ wholeTextOf left.node.children ∧
        Text.visible conversion.markdown = Text.visible (wholeTextOf left.node.children) ∧
        ((∀ character ∈ wholeTextOf left.node.children,
            Text.isBlank character = true → Text.isSpacing character = true) →
          conversion.markdown.IsChain Text.Apart)) := by
  obtain ⟨tag, children, left, rest, shape, again, shapeLeft, within, outside⟩ :=
    exists_collapse_body? found
  rw [shape, Node.children] at inline anchors
  have thinned : Thinned children rest := by
    by_cases preformatted : document.InPreformatted body.address
    · rw [within preformatted]
      exact .refl children
    · rw [outside preformatted]
      exact thinned_collapseBetween _ _ children
  have inlineLeft := thinned.areInline inline
  obtain ⟨inside, made, -⟩ := @Registry.renders_of_insideOf true left.address tag [] rfl rest
    inlineLeft Bool.noConfusion
  have madeHere : Registry.echo.insideHere left = .ok inside := by
    simp only [Registry.insideHere, shapeLeft]
    exact made
  obtain ⟨conversion, converted, markdown⟩ :=
    exists_convert_of_isEcho built isEcho flavor again madeHere
  have respaced : Text.Respaced (wholeTextOf rest) conversion.markdown := by
    rw [markdown]
    exact (Registry.respaced_of_insideOf [] rest inlineLeft (anchors.of_thinned thinned) made).trans
      (Text.respaced_cleanUp inside.content)
  refine ⟨left, conversion, again, converted, ?_⟩
  rw [shapeLeft, Node.children]
  refine ⟨respaced, fun open' => ?_⟩
  have normal : wholeTextOf rest = Text.normal (wholeTextOf children) := by
    rw [outside open', wholeTextOf_collapseBetween inline]
  refine ⟨respaced.sublist ?_, respaced.visible_eq, fun spacing => respaced.isChain spacing ?_⟩
  · rw [normal]
    exact Text.hasSpacesOnly_normal _
  · rw [normal]
    exact (Text.isNormal_normal _).single

/-- Spaces that stand at both ends of an element, at the end of one in another, and in an anchor. -/
def paddedNodes : List Node :=
  [words "one",
    .element (plainTag "em") [words " two", .element (plainTag "strong") [words " three "]],
    words " ", .element (plainTag "a") [words "\tfour "], .element (plainTag "i") [words "five"]]

theorem paddedNodes_add_nothing :
    ∃ body left conversion, (pageOf paddedNodes).body? = some body ∧
      areInline body.node.children = true ∧ HaveSeenAnchors body.node.children ∧
      ¬ (pageOf paddedNodes).InPreformatted body.address ∧
      (pageOf paddedNodes).collapse.body? = some left ∧
      (pageOf paddedNodes).convert {} [.echo] = .ok conversion ∧
      conversion.markdown <+ wholeTextOf left.node.children ∧
      conversion.markdown.IsChain Text.Apart := by
  obtain ⟨body, found, -, shape, open'⟩ :=
    @Frame.exists_body? bareFrame (plainTag "body") paddedNodes rfl
  obtain ⟨converter, built, isEcho⟩ := Definition.exists_isEcho
  have inline : areInline body.node.children = true := by
    rw [shape]
    decide +kernel
  have anchors : HaveSeenAnchors body.node.children := by
    rw [shape]
    have seen : ∀ node ∈ nodesWithin paddedNodes,
        node.kind = "a" → Text.isAllBlank node.wholeText = false := by
      decide +kernel
    exact seen
  obtain ⟨left, conversion, again, converted, -, outside⟩ :=
    padding_adds_nothing {} built isEcho found inline anchors
  obtain ⟨part, -, chain⟩ := outside open'
  refine ⟨body, left, conversion, found, inline, anchors, open', again, converted, part, chain ?_⟩
  have spacing : (((pageOf paddedNodes).collapse.body?.map fun left =>
      wholeTextOf left.node.children).getD []).all (fun character =>
        !Text.isBlank character || Text.isSpacing character) = true := by
    decide +kernel
  rw [show (pageOf paddedNodes).collapse.body? = some left from again] at spacing
  intro character member blank
  have own := List.all_eq_true.1 spacing character member
  rw [blank] at own
  exact own

/-- Inside of a preformatted element a line end at the edge of an element becomes a space. -/
def preformattedPage : List Node :=
  [.element (plainTag "pre")
    [.element (plainTag "body") [words "a", .element (plainTag "em") [words "\nx"]]]]

theorem preformattedPage_adds_space :
    ∃ converter, Definition.echo.toConverter = .ok converter ∧ converter.IsEcho ∧
      ∃ body left conversion, (ofNodes preformattedPage).body? = some body ∧
        areInline body.node.children = true ∧ HaveSeenAnchors body.node.children ∧
        (ofNodes preformattedPage).collapse.body? = some left ∧
        (ofNodes preformattedPage).convert {} [.echo] = .ok conversion ∧
        wholeTextOf left.node.children = "a\nx".toList ∧
        conversion.markdown = "a x".toList ∧ ¬ "a x".toList <+ "a\nx".toList := by
  obtain ⟨converter, built, isEcho⟩ := Definition.exists_isEcho
  refine ⟨converter, built, isEcho, ?_⟩
  have values : ((ofNodes preformattedPage).body?.bind fun body =>
      (ofNodes preformattedPage).collapse.body?.bind fun left =>
        ((ofNodes preformattedPage).convert {} [.echo]).toOption.map fun conversion =>
          (areInline body.node.children,
            (nodesWithin body.node.children).all fun node => node.kind != "a",
            wholeTextOf left.node.children, conversion.markdown)) =
      some (true, true, "a\nx".toList, "a x".toList) := by
    decide +kernel
  obtain ⟨body, found, values⟩ := Option.bind_eq_some_iff.1 values
  obtain ⟨left, again, values⟩ := Option.bind_eq_some_iff.1 values
  cases converted : (ofNodes preformattedPage).convert {} [.echo] with
  | error failure => simp [converted, Except.toOption] at values
  | ok conversion =>
      rw [converted] at values
      simp only [Except.toOption, Option.map_some, Option.some.injEq, Prod.mk.injEq] at values
      obtain ⟨inline, noAnchor, whole, markdown⟩ := values
      refine ⟨body, left, conversion, found, inline, fun node member anchor => ?_, again, rfl,
        whole, markdown, by decide⟩
      exact absurd anchor (by simpa using List.all_eq_true.1 noAnchor node member)

end Document

end PageMark
