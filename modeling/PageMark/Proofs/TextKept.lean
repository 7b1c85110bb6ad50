import PageMark.Proofs.KeepingText
import PageMark.Proofs.ProcessingOrder

/-!
# No text is lost

By recursion over the tree the Markdown of a legible element has all that can be
seen in the element.  Collapsing before and cleaning up after change blanks only,
so the visible characters below the body are in the Markdown, in their order.
-/

namespace PageMark

open scoped List

/-! ## Recursion over the tree -/

/-- What the children become has all that can be seen in them. -/
structure Inside.Shows (inside : Inside) (children : List Node) : Prop where
  content : Text.visible (wholeTextOf children) <+ Text.visible inside.content
  items : Text.visible (directTextOf children) = [] →
    Text.visible (wholeTextOf children) <+ Text.visible inside.items.flatten

namespace Registry

/-- Finishing an element keeps what can be seen in it. -/
theorem sublist_of_finish {gfm : Bool} {position : Position} {inside : Inside} {text : Text}
    (legible : Legible [position.node]) (shows : inside.Shows position.node.children)
    (made : (builtIn gfm).insideHere position = .ok inside)
    (finished : (builtIn gfm).finish position inside = .ok text) :
    position.shown <+ Text.visible text := by
  rw [finish] at finished
  split at finished
  · next blank =>
      cases finished
      rw [Node.isBlank, Bool.and_eq_true] at blank
      have nothing := shows.content
      rwa [Text.visible_eq_nil_iff.2 blank.2] at nothing
  · obtain ⟨choice?, found, finished⟩ := bind_eq_ok_iff.1 finished
    cases choice? with
    | none => cases finished
    | some choice =>
        obtain ⟨own, rendered, ⟨⟩⟩ := bind_eq_ok_iff.1 finished
        obtain ⟨converter, member, selects, rendering⟩ := mem_of_findFrom found
        have keeps : converter.KeepsText := by
          rcases mem_builtIn member with inGfm | inBase
          · exact Gfm.keepsText_of_mem inGfm
          · exact Base.keepsText_of_mem inBase
        have receives : position.Receives (position.givenContent inside.content)
            (inside.table position.address) := by
          refine ⟨legible, ?_, fun between items known => ?_⟩
          · rw [Position.givenContent]
            split
            · rw [Text.visible_trimSpacing]
              exact shows.content
            · exact shows.content
          · rw [itemsAt_table made] at known
            cases known
            exact shows.items between
        apply (keeps _ rendering _ _ _ _ selects receives rendered).trans
        exact Text.visible_sublist_visible Base.sublist_around

mutual

theorem sublist_of_markdownOf {gfm : Bool} {address : Address}
    {surroundings : Option Surroundings} : (node : Node) → {text : Text} → Legible [node] →
    (builtIn gfm).markdownOf address surroundings node = .ok text →
      Text.visible node.wholeText <+ Text.visible text
  | .text _ _, _, _, made => by cases made
  | .mark _ _, _, _, made => by cases made
  | .element tag children, text, legible, made => by
      obtain ⟨inside, madeInside, finished⟩ := bind_eq_ok_iff.1 made
      have shows := shows_of_insideOf children legible.inside madeInside
      let position : Position :=
        { address := address, node := .element tag children, surroundings := surroundings }
      have madeHere : (builtIn gfm).insideHere position = .ok inside := madeInside
      exact sublist_of_finish legible shows madeHere finished

theorem shows_of_insideOf {gfm : Bool} {address : Address} {tag : Tag} {before : List Node} :
    (children : List Node) → {inside : Inside} → Legible children →
    (builtIn gfm).insideOf address tag before children = .ok inside → inside.Shows children
  | [], _, _, made => by
      cases made
      exact ⟨.refl _, fun _ => .refl _⟩
  | .text kind content :: rest, inside, legible, made => by
      obtain ⟨others, madeOthers, ⟨⟩⟩ := bind_eq_ok_iff.1 made
      have shows := shows_of_insideOf rest legible.tail madeOthers
      constructor
      · simp only [wholeTextOf, Node.wholeText, Inside.addText, Text.visible_append]
        exact (List.Sublist.refl _).append shows.content
      · intro between
        simp only [directTextOf, Text.visible_append, List.append_eq_nil_iff] at between
        simp only [wholeTextOf, Node.wholeText, Text.visible_append, between.1, List.nil_append]
        exact shows.items between.2
  | .mark kind content :: rest, inside, legible, made => by
      have shows := shows_of_insideOf rest legible.tail made
      exact ⟨shows.content, shows.items⟩
  | .element own inner :: rest, inside, legible, made => by
      obtain ⟨first, madeFirst, made⟩ := bind_eq_ok_iff.1 made
      obtain ⟨others, madeOthers, ⟨⟩⟩ := bind_eq_ok_iff.1 made
      have shows := shows_of_insideOf rest legible.tail madeOthers
      have kept := sublist_of_markdownOf (.element own inner) legible.head madeFirst
      constructor
      · simp only [wholeTextOf, Inside.addItem, Text.visible_append]
        exact kept.append shows.content
      · intro between
        simp only [wholeTextOf, Inside.addItem, List.flatten_cons, Text.visible_append]
        exact kept.append (shows.items between)

end

end Registry

namespace Document

/-- If nothing visible below the body stands where text is left out, every visible
character below the body is in the Markdown, in the order of the document. -/
theorem visible_text_kept (nodes : List Node) (gfm : Bool) {body : Position}
    {conversion : Conversion} (found : (ofNodes nodes).body? = some body)
    (shows : ∀ node ∈ nodesWithin body.node.children, node.ShowsText)
    (running : (ofNodes nodes).InContainer body.address →
      Text.visible (wholeTextOf body.node.children) = [])
    (converted : (ofNodes nodes).convert { gfm := gfm } [] = .ok conversion) :
    Text.visible (wholeTextOf body.node.children) <+ conversion.markdown := by
  by_cases outside : (ofNodes nodes).InContainer body.address
  · rw [running outside]
    exact List.nil_sublist _
  · obtain ⟨tag, kind, inner, shape, plain⟩ := exists_nodesWithKind (elementAt?_of_body? found)
    obtain rfl := plain outside
    obtain ⟨left, tag', children, rest, found', shape', shapeLeft, thinned⟩ :=
      exists_body?_collapse found
    rw [shape, Node.element.injEq] at shape'
    obtain ⟨-, rfl⟩ := shape'
    rw [shape, Node.children] at shows ⊢
    have legible : Legible (nodesWithKind .plain inner) :=
      ⟨shows, showsPlain_nodesWithKind inner fun node member => (shows node member).container⟩
    have outcome := toOption_convert (ofNodes nodes) gfm
    rw [converted, treeMarkdown, found'] at outcome
    obtain ⟨inside, made, markdown⟩ : ∃ inside,
        (Registry.builtIn gfm).insideHere left = .ok inside ∧
          conversion.markdown = Text.cleanUp inside.content := by
      cases made : (Registry.builtIn gfm).insideHere left with
      | error failure => simp [made, Except.toOption] at outcome
      | ok inside => exact ⟨inside, rfl, by simpa [made, Except.toOption] using outcome⟩
    rw [Registry.insideHere, shapeLeft] at made
    have kept := (Registry.shows_of_insideOf rest (legible.of_thinned thinned) made).content
    rw [thinned.visible_wholeTextOf] at kept
    rw [markdown]
    refine List.Sublist.trans ?_ (Text.visible_sublist _)
    rw [Text.visible_cleanUp]
    exact kept

/-- A list with an item that is blank, code with a mark beside it, and a script. -/
def mixedPage : List Node :=
  let tag (name : String) : Tag := { name := name, attributes := [] }
  let words (content : String) : Node := .text .plain content.toList
  [.element (tag "body")
    [.element (tag "ul")
      [words "\n ", .element (tag "li") [words " one "], .element (tag "li") [words " "]],
    .element (tag "pre") [.element (tag "code") [words "two\n  2"], .mark .comment "no".toList],
    words "three ", .element (tag "script") []]]

theorem isSome_body?_mixedPage : (ofNodes mixedPage).body?.isSome = true := by
  decide +kernel

theorem mixedPage_text_kept :
    ∃ body conversion, (ofNodes mixedPage).body? = some body ∧
      (ofNodes mixedPage).convert { gfm := true } [] = .ok conversion ∧
      Text.visible (wholeTextOf body.node.children) = "onetwo2three".toList ∧
      Text.visible (wholeTextOf body.node.children) <+ conversion.markdown := by
  have succeeds : ((ofNodes mixedPage).convert { gfm := true } []).toOption.isSome = true := by
    decide +kernel
  have found := (Option.some_get isSome_body?_mixedPage).symm
  cases converted : (ofNodes mixedPage).convert { gfm := true } [] with
  | error failure =>
      rw [converted] at succeeds
      cases succeeds
  | ok conversion =>
      refine ⟨_, conversion, found, rfl, by decide +kernel, ?_⟩
      exact visible_text_kept mixedPage true found (by decide +kernel) (by decide +kernel) converted

end Document

end PageMark
