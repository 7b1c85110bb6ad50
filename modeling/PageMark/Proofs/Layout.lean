import PageMark.Proofs.BlockByBlock
import PageMark.Proofs.CodeBlocks

/-!
# Blocks with spacing between them

Spacing between blocks goes when they are collapsed, so what is left is the blocks,
each collapsed by itself.  A block that is alone in the body becomes its lines, and if
all of them have something to see, cleaning up leaves them as they are.
-/

namespace PageMark

namespace Text

/-! ## Lines with something to see -/

theorem closeUp_of_seen {lines : List Text} (seen : ∀ line ∈ lines, isAllBlank line = false) :
    closeUp lines = lines := by
  induction lines with
  | nil => rfl
  | cons first rest ih =>
      rw [List.forall_mem_cons] at seen
      rw [closeUp_cons seen.1, ih seen.2]

theorem cleanUp_cons_of_isLineSpacing {first : Char} (stripped : isLineSpacing first = true)
    (rest : Text) : cleanUp (first :: rest) = cleanUp rest := by
  rw [cleanUp_eq_settle, cleanUp_eq_settle, stripEdges_eq, stripEdges_eq,
    List.dropWhile_cons_of_pos stripped]

/-- Lines with something to see, the first one from its beginning and the last one up to its
end. -/
structure AreWholeLines (lines : List Text) : Prop where
  some : lines ≠ []
  isLine : ∀ line ∈ lines, IsLine line
  starts : ∀ line ∈ lines.head?, ∀ first ∈ line.head?, isBlank first = false
  ends : ∀ line ∈ lines.getLast?, EndsSeen line

theorem EndsSeen.append {text : Text} (ends : EndsSeen text) (some : text ≠ []) (front : Text) :
    EndsSeen (front ++ text) := by
  intro last member
  obtain ⟨others, final, rfl⟩ := (List.eq_nil_or_concat' text).resolve_left some
  rw [← List.append_assoc, List.getLast?_concat] at member
  exact ends last (by rwa [List.getLast?_concat])

namespace AreWholeLines

variable {lines : List Text} (whole : AreWholeLines lines)

include whole

theorem endsSeen_joinWith : EndsSeen (joinWith ['\n'] lines) := by
  obtain ⟨front, last, rfl⟩ := (List.eq_nil_or_concat' lines).resolve_left whole.some
  have ends := whole.ends last (by simp)
  by_cases single : front = []
  · subst single
    exact ends
  · rw [joinWith_snoc single]
    exact ends.append (ne_nil_of_shown (whole.isLine last (by simp)).seen) _

theorem exists_joinWith : ∃ first rest, joinWith ['\n'] lines = first :: rest ∧
    isBlank first = false := by
  cases lines with
  | nil => exact absurd rfl whole.some
  | cons line others =>
      obtain ⟨first, inner, rfl⟩ :=
        List.exists_cons_of_ne_nil (ne_nil_of_shown (whole.isLine line List.mem_cons_self).seen)
      have visible := whole.starts _ rfl first rfl
      by_cases single : others = []
      · subst single
        exact ⟨first, inner, rfl, visible⟩
      · exact ⟨first, _, joinWith_cons (first :: inner) single, visible⟩

/-- Cleaning up leaves the lines of a block that stands alone. -/
theorem lines_cleanUp : Text.lines (cleanUp (Base.paragraphs (joinWith ['\n'] lines))) = lines := by
  obtain ⟨first, rest, shape, visible⟩ := whole.exists_joinWith
  have kept : isLineSpacing first = false := by
    rw [Bool.eq_false_iff]
    intro stripped
    rw [isBlank_of_isLineSpacing stripped] at visible
    cases visible
  have ends := whole.endsSeen_joinWith
  rw [shape] at ends
  rw [shape, lines_cleanUp_paragraphs kept ⟨[], first, rest, rfl, List.not_mem_nil, rfl, visible⟩
    ends, ← shape, lines_joinWith whole.some fun line member => (whole.isLine line member).single,
    closeUp_of_seen fun line member => (whole.isLine line member).seen]

end AreWholeLines

/-! ## Lines behind line feeds -/

/-- Every line with a line feed before it. -/
def behindFeeds (lines : List Text) : Text :=
  lines.flatMap fun line => '\n' :: line

theorem behindFeeds_cons (first : Text) (rest : List Text) :
    behindFeeds (first :: rest) = '\n' :: first ++ behindFeeds rest :=
  List.flatMap_cons

theorem behindFeeds_append (left right : List Text) :
    behindFeeds (left ++ right) = behindFeeds left ++ behindFeeds right :=
  List.flatMap_append

theorem joinWith_cons_eq (first : Text) (rest : List Text) :
    joinWith ['\n'] (first :: rest) = first ++ behindFeeds rest := by
  induction rest generalizing first with
  | nil => exact (List.append_nil first).symm
  | cons next others ih =>
      rw [joinWith_cons first (List.cons_ne_nil _ _), ih, behindFeeds_cons]
      simp

theorem behindFeeds_of_some {lines : List Text} (some : lines ≠ []) :
    behindFeeds lines = '\n' :: joinWith ['\n'] lines := by
  obtain ⟨first, rest, rfl⟩ := List.exists_cons_of_ne_nil some
  rw [joinWith_cons_eq, behindFeeds_cons]
  rfl

theorem behindFeeds_flatten {parts : List (List Text)} (some : ∀ part ∈ parts, part ≠ []) :
    behindFeeds (parts.map (joinWith ['\n'])) = behindFeeds parts.flatten := by
  induction parts with
  | nil => rfl
  | cons part rest ih =>
      rw [List.forall_mem_cons] at some
      rw [List.map_cons, behindFeeds_cons, ih some.2, List.flatten_cons, behindFeeds_append,
        behindFeeds_of_some some.1]

/-- Lines are joined in parts. -/
theorem joinWith_flatten {parts : List (List Text)} (some : ∀ part ∈ parts, part ≠ []) :
    joinWith ['\n'] (parts.map (joinWith ['\n'])) = joinWith ['\n'] parts.flatten := by
  cases parts with
  | nil => rfl
  | cons part rest =>
      rw [List.forall_mem_cons] at some
      obtain ⟨first, others, rfl⟩ := List.exists_cons_of_ne_nil some.1
      rw [List.map_cons, joinWith_cons_eq, behindFeeds_flatten some.2, joinWith_cons_eq,
        List.flatten_cons, List.cons_append, joinWith_cons_eq, behindFeeds_append,
        List.append_assoc]

/-- The lines of several parts. -/
theorem behindFeeds_flatMap {α : Type} (lines : α → List Text) (items : List α) :
    behindFeeds (items.flatMap lines) =
      (items.mapIdx fun _ item => behindFeeds (lines item)).flatten := by
  rw [behindFeeds, List.flatMap_assoc, List.flatMap_def]
  exact congrArg _ (List.ext_getElem (by simp) (by simp [behindFeeds]))

theorem isAllBlank_behindFeeds {lines : List Text} (some : lines ≠ [])
    (isLine : ∀ line ∈ lines, IsLine line) : isAllBlank (behindFeeds lines) = false := by
  obtain ⟨first, rest, rfl⟩ := List.exists_cons_of_ne_nil some
  rw [behindFeeds_cons, isAllBlank_append, isAllBlank_cons, (isLine first List.mem_cons_self).seen,
    Bool.and_false, Bool.false_and]

end Text

/-! ## Collapsing -/

/-- These elements, and nothing but spacing and marks around them. -/
structure AreSpaced (nodes elements : List Node) : Prop where
  elements : nodes.filter Node.isElement = elements
  spacing : ∀ node ∈ nodes, node.isText = true → Text.solid node.wholeText = []

/-- At a boundary spacing goes, and marks go anyway. -/
theorem squeezeAll_filter_isElement {nodes : List Node}
    (blocks : ∀ tag children, Node.element tag children ∈ nodes → tag.isBlock = true)
    (spacing : ∀ kind content, .text kind content ∈ nodes → Text.solid content = []) :
    squeezeAll .atBoundary (nodes.filter Node.isElement) = squeezeAll .atBoundary nodes := by
  induction nodes with
  | nil => rfl
  | cons node rest ih =>
      replace ih := ih (fun tag children member => blocks tag children (.tail _ member))
        (fun kind content member => spacing kind content (.tail _ member))
      cases node with
      | text kind content =>
          have nothing : Gap.atBoundary.shorten content = [] := by
            rw [Gap.shorten_eq]
            exact Text.squeezeAfter_eq_nil (Text.solid_eq_nil_iff.1
              (spacing kind content List.mem_cons_self))
          rw [squeezeAll, Node.squeezeFrom, nothing]
          exact ih
      | mark kind content => exact ih
      | element tag children =>
          have separation : tag.separation = .boundary := by
            rw [Tag.separation, blocks tag children List.mem_cons_self]
            rfl
          have left : ((Node.element tag children).squeezeFrom .atBoundary).1 = .atBoundary := by
            rw [Node.squeezeFrom, separation]
            split <;> rfl
          rw [List.filter_cons_of_pos rfl, squeezeAll, squeezeAll, left, ih]

namespace AreSpaced

variable {nodes elements : List Node} (spaced : AreSpaced nodes elements)
  (blocks : ∀ node ∈ elements, node.isBlock = true)

include spaced blocks

/-- Of blocks with spacing between them each one is collapsed by itself, and the spacing goes. -/
theorem collapseBetween_eq (edge : Edge) :
    collapseBetween .atBoundary edge nodes = elements.map Node.collapseInPlace := by
  have blocks' : ∀ tag children, Node.element tag children ∈ nodes → tag.isBlock = true := by
    intro tag children member
    have kept : Node.element tag children ∈ nodes.filter Node.isElement :=
      List.mem_filter.2 ⟨member, rfl⟩
    rw [spaced.elements] at kept
    exact blocks (.element tag children) kept
  rw [← collapseBetween_of_blocks blocks .atBoundary edge, collapseBetween, collapseBetween,
    ← squeezeAll_filter_isElement blocks' fun kind content member =>
      spaced.spacing (.text kind content) member rfl, spaced.elements]

end AreSpaced

/-! ## Rendering -/

/-- Children that are all elements become these texts. -/
def Inside.ofItems (items : List Text) : Inside where
  content := items.flatten
  items := items

namespace Registry

/-- A block that is neither void nor an anchor is rendered from its content as it is. -/
theorem finish_block {registry : Registry} {position : Position} {inside : Inside}
    {choice : Choice} (block : position.node.isBlock = true)
    (solid : position.node.isVoid = false) (noAnchor : position.node.kind ≠ "a")
    (found : registry.find position (inside.table position.address) = .ok (some choice)) :
    registry.finish position inside =
      if Text.isAllBlank inside.content then .ok []
      else choice.rendering inside.content position (inside.table position.address) := by
  have blank : position.node.isBlank inside.content = Text.isAllBlank inside.content := by
    simp [Node.isBlank, solid, noAnchor]
  have flanking : position.flanking = Flanking.none := by rw [Position.flanking, if_pos block]
  have given : position.givenContent inside.content = inside.content := by
    rw [Position.givenContent, flanking]
    rfl
  rw [finish, blank, found, ok_bind, given, flanking]
  split
  · rfl
  · dsimp only
    cases choice.rendering inside.content position (inside.table position.address) with
    | error failure => rfl
    | ok text =>
        rw [ok_bind, pure_eq_ok]
        exact congrArg _ (List.append_nil text)

/-- Element children become texts that depend on their places among themselves. -/
theorem insideOf_map {registry : Registry} {address : Address} {tag : Tag} {α : Type}
    {items : List α} {node : α → Node} {text : Nat → α → Text} {before : List Node}
    (made : ∀ place item, items[place]? = some item → ∀ front after,
      elementCount front = elementCount before + place →
        registry.markdownOf (address ++ [elementCount front]) (some ⟨tag, front, after⟩)
          (node item) = .ok (text place item)) :
    registry.insideOf address tag before (items.map node) =
      .ok (.ofItems (items.mapIdx text)) := by
  -- the first item joins the nodes before, so what becomes of the others is counted from the next
  -- place on
  induction items generalizing before text with
  | nil => rfl
  | cons item rest ih =>
      have first := made 0 item rfl before (rest.map node) rfl
      cases shape : node item with
      | text kind content => rw [shape] at first; cases first
      | mark kind content => rw [shape] at first; cases first
      | element own inner =>
          have others := @ih (fun place => text (place + 1)) (before ++ [Node.element own inner])
            fun place other listed front after counted =>
              made (place + 1) other listed front after (by
                rw [counted, elementCount_snoc_element, Nat.add_assoc, Nat.add_comm 1 place])
          rw [shape] at first
          rw [List.map_cons, shape, insideOf, first, ok_bind, others, List.mapIdx_cons]
          rfl

end Registry

/-! ### Plain blocks -/

/-- A block that is neither preformatted nor void nor an anchor. -/
structure Tag.IsPlainBlock (tag : Tag) : Prop where
  block : tag.isBlock = true
  open' : tag.isPreformatted = false
  solid : tag.isVoid = false
  noAnchor : tag.kind ≠ "a"

/-- The parts of lists and tables. -/
def partNames : List String :=
  ["ul", "ol", "li", "table", "thead", "tbody", "tfoot", "tr", "th", "td"]

theorem Tag.isPlainBlock_of_kind {tag : Tag} {name : String} (named : tag.kind = name)
    (facts : isBlockName name = true ∧ isVoidName name = false ∧ name ≠ "pre" ∧ name ≠ "a") :
    tag.IsPlainBlock := by
  subst named
  obtain ⟨block, solid, other, noAnchor⟩ := facts
  exact ⟨block, beq_eq_false_iff_ne.2 other, solid, noAnchor⟩

theorem Tag.isPlainBlock_of_mem {tag : Tag} (named : tag.kind ∈ partNames) : tag.IsPlainBlock := by
  have facts : ∀ name ∈ partNames, isBlockName name = true ∧ isVoidName name = false ∧
      name ≠ "pre" ∧ name ≠ "a" := by
    decide
  exact isPlainBlock_of_kind rfl (facts _ named)

/-- A plain block with something to see in it becomes what its rule makes of its content. -/
theorem Registry.markdownHere_of_isPlainBlock {registry : Registry} {position : Position}
    {tag : Tag} {children : List Node} {inside : Inside} {rendering : Rendering}
    (plain : tag.IsPlainBlock) (shape : position.node = .element tag children)
    (made : registry.insideHere position = .ok inside)
    (seen : Text.isAllBlank inside.content = false)
    (found : ∃ choice,
      registry.find position (inside.table position.address) = .ok (some choice) ∧
        choice.rendering = rendering) :
    registry.markdownHere position =
      rendering inside.content position (inside.table position.address) := by
  obtain ⟨choice, first, rfl⟩ := found
  have block : position.node.isBlock = true := shape ▸ plain.block
  have solid : position.node.isVoid = false := shape ▸ plain.solid
  have noAnchor : position.node.kind ≠ "a" := shape ▸ plain.noAnchor
  have shown : ¬ Text.isAllBlank inside.content = true := by
    rw [seen]
    exact Bool.false_ne_true
  rw [markdownHere_eq_finish made, finish_block block solid noAnchor first, if_neg shown]

section Spaced

variable {tag : Tag} {nodes : List Node} {α : Type} {items : List α} {node : α → Node}
  (plain : tag.IsPlainBlock) (spaced : AreSpaced nodes (items.map node))
  (blocks : ∀ item ∈ items, (node item).isBlock = true)

include plain spaced blocks

theorem Node.collapseInPlace_spaced : (Node.element tag nodes).collapseInPlace =
    .element tag (items.map fun item => (node item).collapseInPlace) := by
  have inner : ∀ child ∈ items.map node, child.isBlock = true := by
    intro child member
    obtain ⟨item, listed, rfl⟩ := List.mem_map.1 member
    exact blocks item listed
  rw [Node.collapseInPlace, plain.open', if_neg Bool.false_ne_true,
    spaced.collapseBetween_eq inner, List.map_map]
  rfl

/-- What a plain block becomes with nothing but blocks and spacing in it. -/
theorem Registry.exists_markdownOf_spaced {registry : Registry} (address : Address)
    (surroundings : Option Surroundings) {text : Nat → α → Text}
    (made : ∀ place item, items[place]? = some item → ∀ front after, elementCount front = place →
      registry.markdownOf (address ++ [place]) (some ⟨tag, front, after⟩)
        (node item).collapseInPlace = .ok (text place item))
    (seen : Text.isAllBlank (items.mapIdx text).flatten = false) {rendering : Rendering}
    (found : ∀ position replacements, position.node.kind = tag.kind →
      ∃ choice, registry.find position replacements = .ok (some choice) ∧
        choice.rendering = rendering) :
    ∃ position replacements, position.surroundings = surroundings ∧
      replacements.childTexts position.address 0 position.node.children =
        .ok (items.mapIdx text) ∧
      registry.markdownOf address surroundings (Node.element tag nodes).collapseInPlace =
        rendering (items.mapIdx text).flatten position replacements := by
  let children := items.map fun item => (node item).collapseInPlace
  let position : Position :=
    { address := address, node := .element tag children, surroundings := surroundings }
  have inside : registry.insideHere position = .ok (.ofItems (items.mapIdx text)) := by
    refine insideOf_map fun place item listed front after counted => ?_
    have counted' : elementCount front = place := counted.trans (Nat.zero_add place)
    rw [counted']
    exact made place item listed front after counted'
  have rendered := @markdownHere_of_isPlainBlock registry position tag children _ rendering plain
    rfl inside seen (found position ((Inside.ofItems (items.mapIdx text)).table address) rfl)
  refine ⟨position, (Inside.ofItems (items.mapIdx text)).table address, rfl, itemsAt_table inside,
    ?_⟩
  rw [Node.collapseInPlace_spaced plain spaced blocks]
  exact rendered

end Spaced

/-! ## A block of its own -/

namespace Document

variable {document : Document} {body : Position}

/-- A block that is alone in the body is what the document is converted to. -/
theorem exists_convert_of_alone {gfm : Bool} (found : document.body? = some body)
    (open' : ¬ document.InPreformatted body.address) {block : Node} (isBlock : block.isBlock = true)
    (alone : AreSpaced body.node.children [block]) {text : Text}
    (made : ∀ address tag before after, tag.kind = "body" →
      (Registry.builtIn gfm).markdownOf address (some ⟨tag, before, after⟩) block.collapseInPlace =
        .ok text) :
    ∃ conversion, document.convert { gfm := gfm } [] = .ok conversion ∧
      conversion.markdown = Text.cleanUp text := by
  obtain ⟨tag, children, shape, named⟩ := exists_name_body? found
  rw [shape, Node.children] at alone
  have collapsed : collapsedBody children = [block].map Node.collapseInPlace :=
    alone.collapseBetween_eq (List.forall_mem_singleton.2 isBlock) .boundary
  have inside : (Registry.builtIn gfm).insideOf body.address tag [] (collapsedBody children) =
      .ok (.ofItems ([block].mapIdx fun _ _ => text)) := by
    rw [collapsed]
    refine Registry.insideOf_map fun place item listed front after _ => ?_
    obtain rfl : item = block := List.mem_singleton.1 (List.mem_of_getElem? listed)
    exact made _ tag front after (Tag.kind_of_body named)
  obtain ⟨conversion, converted, markdown⟩ := exists_convert_of_insideOf found open' shape inside
  refine ⟨conversion, converted, ?_⟩
  rw [markdown]
  exact congrArg Text.cleanUp (List.append_nil text)

end Document

end PageMark
