import Mathlib.Data.List.Infix
import PageMark.Proofs.Thinning

/-!
# Legible nodes

Text is left out in known places only: directly in a list, beside the code of a
preformatted element, in a void element, and inside elements whose text is not
running text.  Nodes are legible if nothing visible stands in such a place.
-/

namespace PageMark

open scoped List

/-! ## Where text is shown -/

/-- The kind that a node gives to the texts inside it. -/
def Node.container? (node : Node) : Option TextKind :=
  node.tag?.bind fun tag => TextKind.ofContainer? tag.name

/-- The places where the rules would leave text out have none. -/
structure Node.ShowsText (node : Node) : Prop where
  list : node.kind = "ul" ∨ node.kind = "ol" → Text.visible (directTextOf node.children) = []
  code : node.kind = "pre" → ∀ first ∈ node.children.head?, first.kind = "code" →
    Text.visible (wholeTextOf node.children.tail) = []
  void : node.isVoid = true → Text.visible (wholeTextOf node.children) = []
  container : node.container?.isSome = true → Text.visible (wholeTextOf node.children) = []

namespace Node.ShowsText

instance (node : Node) : Decidable node.ShowsText :=
  decidable_of_iff
    ((node.kind = "ul" ∨ node.kind = "ol" → Text.visible (directTextOf node.children) = []) ∧
      (node.kind = "pre" → ∀ first ∈ node.children.head?, first.kind = "code" →
        Text.visible (wholeTextOf node.children.tail) = []) ∧
      (node.isVoid = true → Text.visible (wholeTextOf node.children) = []) ∧
      (node.container?.isSome = true → Text.visible (wholeTextOf node.children) = []))
    ⟨fun ⟨list, code, void, container⟩ => ⟨list, code, void, container⟩,
      fun shows => ⟨shows.list, shows.code, shows.void, shows.container⟩⟩

/-- Texts and marks have no children to lose. -/
theorem of_childless {node : Node} (childless : node.children = []) : node.ShowsText := by
  constructor <;> simp [childless, directTextOf, wholeTextOf]

theorem of_thinned {original node : Node} (shows : original.ShowsText)
    (thinned : Thinned [original] [node]) : node.ShowsText := by
  cases thinned with
  | text _ _ _ => exact of_childless rfl
  | mark _ => exact of_childless rfl
  | blankText _ further => cases further
  | droppedMark further => cases further
  | element passedOver inside _ =>
      have same := inside.visible_wholeTextOf
      refine ⟨fun isList => ?_, fun isPre => ?_, fun isVoid => ?_, fun isContainer => ?_⟩
      · exact inside.visible_directTextOf.trans (shows.list isList)
      · rw [passedOver (beq_iff_eq.2 isPre)]
        exact shows.code isPre
      · exact same.trans (shows.void isVoid)
      · exact same.trans (shows.container isContainer)

end Node.ShowsText

/-- Nothing visible would be left out of these nodes. -/
structure Legible (nodes : List Node) : Prop where
  shows : ∀ node ∈ nodesWithin nodes, node.ShowsText
  plain : ShowsPlain nodes

namespace Legible

theorem mono {part whole : List Node} (legible : Legible whole)
    (within : nodesWithin part ⊆ nodesWithin whole) : Legible part where
  shows := fun node member => legible.shows node (within member)
  plain := fun kind content member => legible.plain kind content (within member)

theorem head {node : Node} {rest : List Node} (legible : Legible (node :: rest)) :
    Legible [node] :=
  legible.mono (by simp [nodesWithin])

theorem tail {node : Node} {rest : List Node} (legible : Legible (node :: rest)) :
    Legible rest :=
  legible.mono (List.subset_append_right _ _)

theorem inside {tag : Tag} {children : List Node} (legible : Legible [.element tag children]) :
    Legible children :=
  legible.mono (by simp [nodesWithin, Node.withDescendants])

theorem showsText {node : Node} (legible : Legible [node]) : node.ShowsText := by
  apply legible.shows node
  cases node <;> simp [nodesWithin, Node.withDescendants]

theorem of_thinned {before after : List Node} (legible : Legible before)
    (thinned : Thinned before after) : Legible after where
  plain := thinned.showsPlain legible.plain
  shows := by
    intro node member
    obtain ⟨original, found, same⟩ := thinned.exists_original member
    exact (legible.shows original found).of_thinned same

end Legible

/-! ## Text content -/

mutual

/-- Plain texts count for the text content. -/
theorem visible_textsOf : (node : Node) → ShowsPlain [node] →
    Text.visible node.wholeText <+ Text.visible (node.textsOf none)
  | .text kind content, plain => by
      rcases showsPlain_text_iff.1 plain with blank | rfl
      · rw [Node.wholeText, blank]
        exact List.nil_sublist _
      · exact List.Sublist.refl _
  | .mark kind content, _ => List.nil_sublist _
  | .element tag children, plain => visible_textsOfAll children (showsPlain_element_iff.1 plain)

theorem visible_textsOfAll : (nodes : List Node) → ShowsPlain nodes →
    Text.visible (wholeTextOf nodes) <+ Text.visible (textsOfAll none nodes)
  | [], _ => List.Sublist.refl _
  | node :: rest, plain => by
      obtain ⟨first, others⟩ := showsPlain_cons_iff.1 plain
      rw [wholeTextOf, textsOfAll, Text.visible_append, Text.visible_append]
      exact (visible_textsOf node first).append (visible_textsOfAll rest others)

end

theorem TextKind.ofContainer?_eq_none {tag : Tag}
    (other : tag.kind ∉ ["script", "style", "template", "rt", "rp"]) :
    ofContainer? tag.name = none := by
  have named : ∀ name, tag.name = name → Text.lowerName name ∉
      ["script", "style", "template", "rt", "rp"] := by
    rintro _ rfl
    exact other
  unfold ofContainer?
  split
  · next same => exact absurd (by decide) (named _ same)
  · next same => exact absurd (by decide) (named _ same)
  · next same => exact absurd (by decide) (named _ same)
  · next same => exact absurd (by decide) (named _ same)
  · next same => exact absurd (by decide) (named _ same)
  · rfl

/-- The text content of an element has all that can be seen in it. -/
theorem visible_textContentOf {tag : Tag} {children : List Node}
    (other : tag.kind ∉ ["script", "style", "template", "rt", "rp"]) (plain : ShowsPlain children) :
    Text.visible (wholeTextOf children) <+ Text.visible (textContentOf tag children) := by
  rw [textContentOf, TextKind.ofContainer?_eq_none other]
  exact visible_textsOfAll children plain

/-! ## Text outside of the running text -/

theorem nodesWithKind_eq_map (kind : TextKind) (nodes : List Node) :
    nodesWithKind kind nodes = nodes.map (Node.withKind kind) := by
  induction nodes with
  | nil => rfl
  | cons node rest ih => rw [nodesWithKind, List.map_cons, ih]

/-- Each text is a part of all the text. -/
theorem sublist_wholeTextOf : (nodes : List Node) → {kind : TextKind} → {content : Text} →
    .text kind content ∈ nodesWithin nodes → content <+ wholeTextOf nodes
  | .text _ _ :: rest, _, _, member => by
      rcases List.mem_cons.1 member with same | others
      · cases same
        exact List.sublist_append_left _ _
      · exact (sublist_wholeTextOf rest others).trans (List.sublist_append_right _ _)
  | .mark _ _ :: rest, _, _, member => by
      rcases List.mem_cons.1 member with same | others
      · cases same
      · exact sublist_wholeTextOf rest others
  | .element _ children :: rest, _, _, member => by
      rcases List.mem_append.1 member with inside | others
      · rcases List.mem_cons.1 inside with same | below
        · cases same
        · exact (sublist_wholeTextOf children below).trans (List.sublist_append_left _ _)
      · exact (sublist_wholeTextOf rest others).trans (List.sublist_append_right _ _)

/-- Where nothing can be seen, all is plain. -/
theorem showsPlain_of_blank {nodes : List Node} (blank : Text.visible (wholeTextOf nodes) = []) :
    ShowsPlain nodes := by
  intro kind content member
  have part := Text.visible_sublist_visible (sublist_wholeTextOf nodes member)
  rw [blank, List.sublist_nil] at part
  exact .inl part

/-- Texts that no element gives a kind to are plain. -/
theorem showsPlain_nodesWithKind : (nodes : List Node) →
    (∀ node ∈ nodesWithin (nodesWithKind .plain nodes), node.container?.isSome = true →
      Text.visible (wholeTextOf node.children) = []) →
    ShowsPlain (nodesWithKind .plain nodes)
  | [], _ => fun _ _ member => by cases member
  | node :: rest, empty => by
      have others := showsPlain_nodesWithKind rest fun other inRest =>
        empty other (List.mem_append_right _ inRest)
      refine showsPlain_cons_iff.2 ⟨?_, others⟩
      cases node with
      | text kind content => exact showsPlain_text_iff.2 (.inr rfl)
      | mark kind content => exact showsPlain_mark kind content
      | element tag inner =>
          apply showsPlain_element_iff.2
          have own := empty _ (List.mem_append_left _ List.mem_cons_self)
          cases container : TextKind.ofContainer? tag.name with
          | none =>
              apply showsPlain_nodesWithKind inner
              intro other inInner
              apply empty other
              refine List.mem_append_left _ (List.mem_cons_of_mem _ ?_)
              rw [container]
              exact inInner
          | some kind =>
              rw [container] at own
              apply showsPlain_of_blank
              apply own
              simp [Node.container?, Node.tag?, container]

namespace Document

/-- The element at this address, or one around it, gives its texts a kind. -/
def InContainer (document : Document) (address : Address) : Prop :=
  ∃ above position, above <+: address ∧ document.elementAt? above = some position ∧
    position.node.container?.isSome = true

instance (document : Document) (address : Address) : Decidable (document.InContainer address) :=
  decidable_of_iff
    (∃ above ∈ address.inits, ∃ position ∈ document.elementAt? above,
      position.node.container?.isSome = true)
    ⟨fun ⟨above, isAbove, position, placed, isContainer⟩ =>
        ⟨above, position, (List.mem_inits _ _).1 isAbove, placed, isContainer⟩,
      fun ⟨above, position, isAbove, placed, isContainer⟩ =>
        ⟨above, (List.mem_inits _ _).2 isAbove, position, placed, isContainer⟩⟩

/-- Inside of no such element, a text without one below is plain. -/
theorem exists_nodesWithKind {nodes : List Node} {address : Address} {position : Position}
    (placed : (ofNodes nodes).elementAt? address = some position) :
    ∃ tag kind inner, position.node = .element tag (nodesWithKind kind inner) ∧
      (¬ (ofNodes nodes).InContainer address → kind = .plain) := by
  induction address using List.reverseRecOn generalizing position with
  | nil =>
      cases placed
      exact ⟨rootTag, .plain, nodes, rfl, fun _ => rfl⟩
  | append_singleton address index ih =>
      obtain ⟨parent, tag, before, node, after, above, shape, isElement, -, rfl⟩ :=
        elementAt?_snoc_iff.1 placed
      obtain ⟨tag', kind, inner, shape', plain⟩ := ih above
      rw [shape', Node.element.injEq, nodesWithKind_eq_map] at shape
      have member : node ∈ inner.map (Node.withKind kind) := by
        rw [shape.2]
        exact List.mem_append_right _ List.mem_cons_self
      obtain ⟨raw, -, rfl⟩ := List.mem_map.1 member
      cases raw with
      | text rawKind content => cases isElement
      | mark rawKind content => cases isElement
      | element own content =>
          refine ⟨own, _, content, rfl, fun outside => ?_⟩
          have parentPlain := plain fun inside => outside <| by
            obtain ⟨place, position, isAbove, rest⟩ := inside
            exact ⟨place, position, isAbove.trans (List.prefix_append _ _), rest⟩
          cases container : TextKind.ofContainer? own.name with
          | none => exact parentPlain
          | some _ =>
              refine absurd ⟨_, _, List.prefix_rfl, placed, ?_⟩ outside
              simp [Position.child, Node.withKind, Node.container?, Node.tag?, container]

end Document

end PageMark
