import PageMark.Proofs.BlockMargins
import PageMark.Proofs.Neighbours
import PageMark.Proofs.Pages

/-!
# Delimiters next to their text

The rules for emphasis and for struck text put delimiters around the content they are
given.  Spacing of the element's own text at its edge is outside of the delimiters; inside
there is only what a child element puts at the edge of an element that is not padded.
-/

namespace PageMark

open Text

/-! ## The edges of an element's children -/

def Node.isEmptyText : Node → Bool
  | .text _ content => content.isEmpty
  | _ => false

/-- Something else than a text comes first, but for empty texts. -/
def OpenOtherwise (nodes : List Node) : Prop :=
  ∃ node ∈ (nodes.filter (!·.isEmptyText)).head?, node.isText = false

/-- Something else than a text comes last, but for empty texts. -/
def CloseOtherwise (nodes : List Node) : Prop :=
  ∃ node ∈ (nodes.filter (!·.isEmptyText)).getLast?, node.isText = false

section Edges

variable {replacements : Replacements} {address : Address} {index : Nat} {nodes : List Node}
  {content : Text}

/-- Spacing at the start of the content is that of a text, which is met first and comes first in
the markup, unless something else than a text comes first. -/
theorem spacing_first (parent : String)
    (known : replacements.contentFrom address index nodes = .ok content)
    (spacing : startsWithSpacing content = true) (other : ¬ OpenOtherwise nodes) :
    startsWithSpacing (markupOfAll parent nodes) = true ∧
      ∀ behind, ∃ right, firstText (landmarksOf nodes ++ behind) = some right ∧
        right.startsWithSpacing = true := by
  induction nodes generalizing content with
  | nil =>
      cases known
      cases spacing
  | cons node rest ih =>
      cases node with
      | mark kind words => exact absurd ⟨_, rfl, rfl⟩ other
      | element tag children => exact absurd ⟨_, rfl, rfl⟩ other
      | text kind words =>
          obtain ⟨others, later, ⟨⟩⟩ := bind_eq_ok_iff.1 known
          by_cases nothing : words = []
          · subst nothing
            rw [markupOfAll, markupIn_emptyText]
            exact ih later spacing other
          · rw [startsWithSpacing_append _ nothing] at spacing
            refine ⟨?_, fun behind => ⟨words, ?_, spacing⟩⟩
            · rwa [markupOfAll, startsWithSpacing_markupIn_text _ _ nothing]
            · exact if_neg (by simpa using nothing)

/-- Spacing at the end likewise. -/
theorem spacing_last (parent : String)
    (known : replacements.contentFrom address index nodes = .ok content)
    (spacing : endsWithSpacing content = true) (other : ¬ CloseOtherwise nodes) :
    endsWithSpacing (markupOfAll parent nodes) = true ∧
      ∀ last, ∃ left, lastText last (landmarksOf nodes) = some left ∧
        left.endsWithSpacing = true := by
  -- from the back, as empty texts at the end leave the edge to the text before them
  induction nodes using List.reverseRecOn generalizing content with
  | nil =>
      cases known
      cases spacing
  | append_singleton front node ih =>
      rw [Replacements.contentFrom_append] at known
      obtain ⟨first, before, known⟩ := bind_eq_ok_iff.1 known
      obtain ⟨others, behind, ⟨⟩⟩ := bind_eq_ok_iff.1 known
      have last (shown : node.isEmptyText = false) :
          ((front ++ [node]).filter (!·.isEmptyText)).getLast? = some node := by
        simp [shown]
      cases node with
      | mark kind words => exact absurd ⟨_, last rfl, rfl⟩ other
      | element tag children => exact absurd ⟨_, last rfl, rfl⟩ other
      | text kind words =>
          obtain rfl : others = words ++ [] := (Except.ok.inj behind).symm
          rw [List.append_nil] at spacing
          have markup : markupOfAll parent (front ++ [Node.text kind words]) =
              markupOfAll parent front ++ (Node.text kind words).markupIn parent := by
            rw [markupOfAll_append, markupOfAll, markupOfAll, List.append_nil]
          have met (last : Option Text) :
              lastText last (landmarksOf (front ++ [Node.text kind words])) =
                if words.isEmpty then lastText last (landmarksOf front) else some words := by
            rw [landmarksOf_append, lastText_append]
            rfl
          by_cases nothing : words = []
          · subst nothing
            rw [List.append_nil] at spacing
            rw [markup, markupIn_emptyText, List.append_nil]
            have same : (front ++ [Node.text kind []]).filter (!·.isEmptyText) =
                front.filter (!·.isEmptyText) := by
              simp [Node.isEmptyText]
            rw [CloseOtherwise, same] at other
            simp only [met]
            exact ih before spacing other
          · rw [endsWithSpacing_append _ nothing] at spacing
            refine ⟨?_, fun last => ⟨words, ?_, spacing⟩⟩
            · have written := fun none => nothing (@eq_nil_of_markupIn_text parent kind words none)
              rw [markup, endsWithSpacing_append _ written, endsWithSpacing_markupIn_text]
              exact spacing
            · rw [met, if_neg (by simpa using nothing)]

end Edges

/-! ## What a rule is given -/

/-- Where spacing at the edges of what the rule for an inline element is given comes from, when this
is the content of the element. -/
structure Document.HugsText (document : Document) (position : Position) (content given : Text) :
    Prop where
  /-- Of a padded element the content is trimmed. -/
  padded : position.flanking.isSome = true →
    startsWithSpacing given = false ∧ endsWithSpacing given = false
  unpadded : position.flanking.isSome = false → given = content
  /-- Outside of preformatted elements, and not behind an inline void element, it is not that of a
  text at the edge. -/
  start : ∀ onWay, landmarksTo document.nodes position.address = some onWay →
    endsBehindVoid false onWay = false →
    (∀ sibling ∈ position.previousSibling?, sibling.IsPlainNeighbour) →
    startsWithSpacing given = true → OpenOtherwise position.node.children
  finish : ∀ onWay, landmarksTo document.nodes position.address = some onWay →
    endsBehindVoid false (onWay ++ landmarksOf position.node.children) = false →
    (∀ sibling ∈ position.nextSibling?, sibling.IsPlainNeighbour) →
    endsWithSpacing given = true → CloseOtherwise position.node.children

section Given

variable {document : Document} {position : Position} {replacements : Replacements} {content : Text}
  {tag : Tag} {children : List Node} {onWay : List Landmark}

/-- Where nothing is trimmed, spacing at an edge of the markup is supplied by the sibling. -/
theorem Position.supplied_of_unpadded (inline : position.node.isBlock = false)
    (unpadded : position.flanking.isSome = false) :
    (startsWithSpacing position.node.innerMarkup = true → position.hasSpaceBefore = true) ∧
      (endsWithSpacing position.node.innerMarkup = true → position.hasSpaceAfter = true) := by
  rw [flanking, inline, if_neg Bool.false_ne_true, Flanking.isSome,
    Bool.or_eq_false_iff] at unpadded
  constructor
  · intro spacing
    simpa [spacing] using unpadded.1
  · intro spacing
    simpa [spacing] using unpadded.2

section Inline

variable (placed : document.collapse.elementAt? position.address = some position)
  (below : position.address ≠ []) (shape : position.node = .element tag children)
  (inline : tag.isBlock = false) (separation : tag.separation = .none)
  (known : replacements.contentAt position = .ok content)
  (met : landmarksTo document.collapse.nodes position.address = some onWay)
  (unpadded : position.flanking.isSome = false)

include placed below shape inline separation known met unpadded

theorem openOtherwise_of_unpadded (openWay : endsBehindVoid false onWay = false)
    (plain : ∀ sibling ∈ position.previousSibling?, sibling.IsPlainNeighbour)
    (spacing : startsWithSpacing content = true) : OpenOtherwise children := by
  by_contra other
  rw [Replacements.contentAt, shape] at known
  obtain ⟨starts, first⟩ := spacing_first tag.name known spacing other
  have supplied : position.hasSpaceBefore = true :=
    (position.supplied_of_unpadded (shape ▸ inline) unpadded).1 (shape ▸ starts)
  obtain ⟨parent, front, back, around, behind, surroundings, rfl, whole⟩ :=
    Document.exists_sides placed below shape separation met
  obtain ⟨left, ends, spacingLeft⟩ :=
    position.exists_lastText_of_hasSpaceBefore surroundings supplied plain (lastText none around)
  rw [← lastText_append] at ends
  obtain ⟨right, starts, spacingRight⟩ := first (landmarksOf back ++ behind)
  rw [Document.not_spaced whole openWay ends starts spacingLeft] at spacingRight
  cases spacingRight

theorem closeOtherwise_of_unpadded
    (openWay : endsBehindVoid false (onWay ++ landmarksOf children) = false)
    (plain : ∀ sibling ∈ position.nextSibling?, sibling.IsPlainNeighbour)
    (spacing : endsWithSpacing content = true) : CloseOtherwise children := by
  by_contra other
  rw [Replacements.contentAt, shape] at known
  obtain ⟨ends, last⟩ := spacing_last tag.name known spacing other
  have supplied : position.hasSpaceAfter = true :=
    (position.supplied_of_unpadded (shape ▸ inline) unpadded).2 (shape ▸ ends)
  obtain ⟨parent, front, back, around, behind, surroundings, rfl, whole⟩ :=
    Document.exists_sides placed below shape separation met
  -- the children now belong to what comes before the joint
  rw [← List.append_assoc] at whole
  obtain ⟨right, starts, spacingRight⟩ :=
    position.exists_firstText_of_hasSpaceAfter surroundings supplied plain behind
  obtain ⟨left, ends, spacingLeft⟩ := last (lastText none (around ++ landmarksOf front))
  rw [← lastText_append] at ends
  rw [Document.not_spaced whole openWay ends starts spacingLeft] at spacingRight
  cases spacingRight

end Inline

/-- Of an inline element that is not void. -/
theorem hugsText_of_inline (placed : document.collapse.elementAt? position.address = some position)
    (below : position.address ≠ []) (shape : position.node = .element tag children)
    (inline : tag.isBlock = false) (separation : tag.separation = .none)
    (known : replacements.contentAt position = .ok content) :
    document.collapse.HugsText position content (position.givenContent content) := by
  have whole : position.node.children = children := by rw [shape]; rfl
  cases trimmed : position.flanking.isSome with
  | true =>
      have given : position.givenContent content = trimSpacing content := if_pos trimmed
      have starts := startsWithSpacing_trimSpacing content
      have ends := endsWithSpacing_trimSpacing content
      rw [given]
      refine ⟨fun _ => ⟨starts, ends⟩, fun unpadded => ?_, fun _ _ _ _ spacing => ?_,
        fun _ _ _ _ spacing => ?_⟩
      · rw [trimmed] at unpadded
        cases unpadded
      · rw [starts] at spacing
        cases spacing
      · rw [ends] at spacing
        cases spacing
  | false =>
      have given : position.givenContent content = content :=
        if_neg (by rw [trimmed]; exact Bool.false_ne_true)
      rw [given]
      refine ⟨fun padded => ?_, fun _ => rfl, fun onWay met openWay plain spacing => ?_,
        fun onWay met openWay plain spacing => ?_⟩
      · rw [trimmed] at padded
        cases padded
      · rw [whole]
        exact openOtherwise_of_unpadded placed below shape inline separation known met trimmed
          openWay plain spacing
      · rw [whole] at openWay ⊢
        exact closeOtherwise_of_unpadded placed below shape inline separation known met trimmed
          openWay plain spacing

end Given

/-! ## The rules with delimiters -/

/-- The kinds of elements that are rendered between two delimiters, with these. -/
def delimiters (gfm : Bool) : List (String × Text) :=
  [("em", "_".toList), ("i", "_".toList), ("strong", "**".toList), ("b", "**".toList)] ++
    if gfm then [("del", "~~".toList), ("s", "~~".toList), ("strike", "~~".toList)] else []

/-- These are inline elements, and neither void nor anchors. -/
theorem facts_of_mem_delimiters {gfm : Bool} {kind : String} {delimiter : Text}
    (listed : (kind, delimiter) ∈ delimiters gfm) :
    isBlockName kind = false ∧ isVoidName kind = false ∧ kind ≠ "br" ∧ kind ≠ "a" ∧
      kind ≠ Document.rootTag.kind := by
  have facts : ∀ entry ∈ delimiters true, isBlockName entry.1 = false ∧
      isVoidName entry.1 = false ∧ entry.1 ≠ "br" ∧ entry.1 ≠ "a" ∧
        entry.1 ≠ Document.rootTag.kind := by
    decide
  refine facts (kind, delimiter) ?_
  rcases List.mem_append.1 listed with base | struck
  · exact List.mem_append_left _ base
  · cases gfm with
    | true => exact List.mem_append_right _ struck
    | false => cases struck

namespace Registry

theorem exists_find_delimited {gfm : Bool} {position : Position} (replacements : Replacements)
    {delimiter : Text} (listed : (position.node.kind, delimiter) ∈ delimiters gfm) :
    ∃ choice, (builtIn gfm).find position replacements = .ok (some choice) ∧
      choice.rendering = fun content _ _ => .ok (delimiter ++ content ++ delimiter) := by
  rcases List.mem_append.1 listed with base | struck
  · have known : (position.node.kind ∈ ["em", "i"] ∧ delimiter = "_".toList) ∨
        (position.node.kind ∈ ["strong", "b"] ∧ delimiter = "**".toList) := by
      simp only [List.mem_cons, Prod.mk.injEq, List.not_mem_nil, or_false] at base ⊢
      tauto
    obtain ⟨kind, rfl⟩ | ⟨kind, rfl⟩ := known
    · exact exists_find_base kind 4 gfm rfl (by decide) (by decide)
        (Filter.selects_oneOf_iff.2 kind) rfl
    · exact exists_find_base kind 5 gfm rfl (by decide) (by decide)
        (Filter.selects_oneOf_iff.2 kind) rfl
  · cases gfm with
    | false => cases struck
    | true =>
        have known : position.node.kind ∈ ["del", "s", "strike"] ∧ delimiter = "~~".toList := by
          simp only [if_true, List.mem_cons, Prod.mk.injEq, List.not_mem_nil, or_false] at struck ⊢
          tauto
        obtain ⟨kind, rfl⟩ := known
        exact exists_find_gfm kind 1 rfl (by decide) (by decide)
          (Filter.selects_oneOf_iff.2 kind) rfl

end Registry

/-- What a rule with delimiters makes of an element, unless it is left out as blank. -/
theorem Registry.markdownAt_delimited {gfm : Bool} {position : Position}
    {replacements : Replacements} {delimiter content : Text}
    (listed : (position.node.kind, delimiter) ∈ delimiters gfm)
    (known : replacements.contentAt position = .ok content) :
    (builtIn gfm).markdownAt position replacements =
      .ok (if isAllBlank content then [] else position.flanking.around
        (delimiter ++ position.givenContent content ++ delimiter)) := by
  obtain ⟨-, solid, -, noAnchor, -⟩ := facts_of_mem_delimiters listed
  obtain ⟨choice, found, rendering⟩ := exists_find_delimited replacements listed
  have blank : position.node.isBlank content = isAllBlank content := by
    simp [Node.isBlank, Node.isVoid, solid, noAnchor]
  rw [markdownAt, known, ok_bind, blank, found, ok_bind]
  dsimp only
  rw [rendering]
  split <;> rfl

namespace Document

/-- In every run over the elements below a position, also in one that fails, an element whose rule
puts delimiters around its content has its padding outside of these, and hugs its text. -/
theorem delimiters_hug_text {document : Document} {gfm : Bool} {top position : Position}
    {table : Replacements} {outcome : Option Failure} {delimiter own : Text}
    (run : (Registry.builtIn gfm).processBelow document.collapse top Replacements.empty =
      (table, outcome))
    (placed : document.collapse.elementAt? position.address = some position)
    (listed : (position.node.kind, delimiter) ∈ delimiters gfm)
    (recorded : table.find? position.address = some own) :
    ∃ content, table.contentAt position = .ok content ∧
      own = (if isAllBlank content then []
        else position.flanking.around (delimiter ++ position.givenContent content ++ delimiter)) ∧
      document.collapse.HugsText position content (position.givenContent content) := by
  have makes := (Registry.builtIn gfm).makesInTurn_processBelow document.collapse top
  rw [run] at makes
  obtain ⟨again, earlier, placed', made, part⟩ := makes _ own recorded
  obtain rfl : again = position := Option.some.inj (placed'.symm.trans placed)
  obtain ⟨content, known, -⟩ := bind_eq_ok_iff.1 made
  obtain ⟨inline, solid, noBreak, -, noRoot⟩ := facts_of_mem_delimiters listed
  rw [Registry.markdownAt_delimited listed known] at made
  obtain ⟨tag, children, shape⟩ := exists_element_of_elementAt? placed
  rw [shape, Node.kind] at inline solid noBreak noRoot
  have separation : tag.separation = .none := by
    simp [Tag.separation, Tag.isBlock, Tag.isVoid, inline, solid, noBreak]
  have below : again.address ≠ [] := by
    intro atTop
    rw [atTop] at placed
    cases placed
    cases shape
    exact noRoot rfl
  refine ⟨content, part.contentAt_eq known, (Except.ok.inj made).symm, ?_⟩
  exact hugsText_of_inline placed below shape inline separation (part.contentAt_eq known)

/-- Emphasis with spacing at both ends, and some more in it. -/
def paddedEmphasis : Document :=
  pageOf [words "a", .element (plainTag "em")
    [words " b", .element (plainTag "i") [words " c"], words " "], words "d"]

theorem paddedEmphasis_hugs_text :
    ∃ top position table outcome content, paddedEmphasis.body? = some top ∧
      (Registry.builtIn true).processBelow paddedEmphasis.collapse top Replacements.empty =
        (table, outcome) ∧
      paddedEmphasis.collapse.elementAt? position.address = some position ∧
      (position.node.kind, "_".toList) ∈ delimiters true ∧
      table.find? position.address = some " _b _c__ ".toList ∧
      table.contentAt position = .ok content ∧
      paddedEmphasis.collapse.HugsText position content (position.givenContent content) := by
  have values : (paddedEmphasis.body?.bind fun top =>
      (paddedEmphasis.collapse.elementAt? [0, 0, 0]).map fun position =>
        (position.node.kind, ((Registry.builtIn true).processBelow paddedEmphasis.collapse top
          Replacements.empty).1.find? [0, 0, 0])) = some ("em", some " _b _c__ ".toList) := by
    decide +kernel
  obtain ⟨top, found, values⟩ := Option.bind_eq_some_iff.1 values
  obtain ⟨position, placed, values⟩ := Option.map_eq_some_iff.1 values
  obtain ⟨kind, recorded⟩ := Prod.mk.inj values
  have address := address_of_elementAt? placed
  rw [← address] at placed recorded
  have listed : (position.node.kind, "_".toList) ∈ delimiters true := by
    rw [kind]
    decide
  obtain ⟨content, known, -, hugs⟩ := delimiters_hug_text rfl placed listed recorded
  exact ⟨top, position, _, _, content, found, rfl, placed, listed, recorded, known, hugs⟩

/-- A page with emphasis around these nodes. -/
def emphasisPage (children : List Node) : Document :=
  pageOf [words "a", .element (plainTag "em") children]

/-- What the children put at the edge of an element that is not padded is between the delimiters:
the space in front of an inner element, a line break, and a text behind an element of which nothing
is left. -/
theorem emphasisPage_keeps_spacing :
    ((emphasisPage [.element (plainTag "i") [words " x"]]).convert {} []).toOption.map
        (fun conversion => (conversion.markdown, conversion.replacements.find? [0, 0, 0])) =
      some ("a_ _x__".toList, some ("_".toList ++ " _x_".toList ++ "_".toList)) ∧
    ((emphasisPage [words "x", .element (plainTag "br") []]).convert {} []).toOption.map
        (fun conversion => (conversion.markdown, conversion.replacements.find? [0, 0, 0])) =
      some ("a_x  \n_".toList, some ("_".toList ++ "x  \n".toList ++ "_".toList)) ∧
    ((emphasisPage [.element (plainTag "span") [], words " x"]).convert {} []).toOption.map
        (fun conversion => (conversion.markdown, conversion.replacements.find? [0, 0, 0])) =
      some ("a_ x_".toList, some ("_".toList ++ " x".toList ++ "_".toList)) ∧
    startsWithSpacing " _x_".toList = true ∧ endsWithSpacing "x  \n".toList = true ∧
      startsWithSpacing " x".toList = true := by
  decide +kernel

end Document

end PageMark
