import PageMark.Proofs.EagerChecks
import PageMark.Proofs.Relocation

/-!
# Runs below a moved element

Two documents may have the same element at different places.  A run below the one
and a run below the other go alike, as long as the converters act alike at
corresponding places: the tables correspond at each step, and the Markdown or the
failure in the end is the same.
-/

namespace PageMark

/-! ## Going down from an element -/

namespace Node

/-- The element below `node` at these steps.  Addresses count from `node`, and `node`
itself has no surroundings. -/
def positionBelow? (node : Node) (steps : Address) : Option Position :=
  Position.descendWith Position.splitAtElement
    { address := [], node := node, surroundings := none } steps

end Node

namespace Position

theorem descendWith_under {split : Nat → List Node → Option (List Node × Node × List Node)}
    {top : Address} (position : Position) (steps : Address) :
    (position.under top).descendWith split steps =
      (position.descendWith split steps).map (under top) := by
  induction steps generalizing position with
  | nil => rfl
  | cons index rest ih =>
      rw [descendWith, descendWith, node_under]
      cases position.node with
      | text kind content => rfl
      | mark kind content => rfl
      | element tag children =>
          cases found : split index children with
          | none => simp only [found, Option.map_none]
          | some parts =>
              obtain ⟨before, node, after⟩ := parts
              have moved : child (position.under top).address tag before node after =
                  (child position.address tag before node after).under top := by
                simp [child, under]
              simp only [found, moved, ih]

theorem address_of_descendWith {position found : Position} {steps : Address}
    (leads : position.descendWith splitAtElement steps = some found) :
    found.address = position.address ++ steps := by
  induction steps generalizing position with
  | nil =>
      cases leads
      exact (List.append_nil _).symm
  | cons index rest ih =>
      rw [descendWith] at leads
      split at leads
      · split at leads
        · rename_i split
          obtain ⟨-, -, count⟩ := splitAtElement_eq_some_iff.1 split
          rw [ih leads, child, count, List.append_assoc]
          rfl
        · cases leads
      · cases leads

/-- What is below an element does not depend on what is around it. -/
theorem descendWith_of_node {split : Nat → List Node → Option (List Node × Node × List Node)}
    {position other : Position} (node : position.node = other.node)
    (address : position.address = other.address) {steps : Address} (inside : steps ≠ []) :
    position.descendWith split steps = other.descendWith split steps := by
  cases steps with
  | nil => exact absurd rfl inside
  | cons index rest => rw [descendWith, descendWith, node, address]

end Position

namespace Document

theorem elementAt?_append_under {document : Document} {top : Position}
    (placed : document.elementAt? top.address = some top) {steps : Address}
    (inside : steps ≠ []) :
    document.elementAt? (top.address ++ steps) =
      (top.node.positionBelow? steps).map (Position.under top.address) := by
  have placed' : (Position.ofDocument document).descendWith Position.splitAtElement top.address =
      some top := placed
  rw [elementAt?, Position.descendWith_append, placed', Option.bind_some, Node.positionBelow?,
    ← Position.descendWith_under]
  refine Position.descendWith_of_node ?_ ?_ inside
  · rfl
  · exact (List.append_nil top.address).symm

end Document

/-! ## Level order -/

theorem childEntries_under (top address : Address) (index : Nat) (nodes : List Node) :
    childEntries (top ++ address) index nodes =
      (childEntries address index nodes).map fun entry => (top ++ entry.1, entry.2) := by
  induction nodes generalizing index with
  | nil => rfl
  | cons node rest ih =>
      rw [childEntries, childEntries]
      split
      · rw [ih, List.map_cons, List.append_assoc]
      · exact ih index

theorem drainQueue_under (top : Address) (fuel : Nat) (queue : List (Address × Node)) :
    drainQueue fuel (queue.map fun entry => (top ++ entry.1, entry.2)) =
      (drainQueue fuel queue).map fun entry => (top ++ entry.1, entry.2) := by
  induction fuel generalizing queue with
  | zero => rfl
  | succ fuel ih =>
      cases queue with
      | nil => rfl
      | cons entry rest =>
          rw [List.map_cons, drainQueue, drainQueue, childEntries_under, ← List.map_append, ih,
            List.map_cons]

theorem Node.levelOrder_under (top : Address) (node : Node) :
    node.levelOrder top = (node.levelOrder []).map (top ++ ·) := by
  have moved := drainQueue_under top node.elementTotal [([], node)]
  rw [List.map_singleton, List.append_nil] at moved
  rw [levelOrder, levelEntries, moved, levelOrder, levelEntries, ← List.map_drop, List.map_map,
    List.map_map]
  rfl

/-! ## Two runs -/

namespace Registry

/-- The converters of both registries act alike on everything below `node`, of which the one
run has a copy at `top` and the other one at `top'`. -/
def ActsAlikeBelow (registry registry' : Registry) (node : Node) (top top' : Address) : Prop :=
  ∀ steps position replacements, steps ≠ [] → node.positionBelow? steps = some position →
    registry.ActsLike registry'
      { position := position.under top, replacements := Replacements.under top replacements }
      { position := position.under top', replacements := Replacements.under top' replacements }

variable {registry registry' : Registry} {document document' : Document} {top top' : Position}

/-- One element is converted alike. -/
theorem exists_process_under {position : Position} {replacements : Replacements}
    {top top' : Address}
    (actsLike : registry.ActsLike registry'
      { position := position.under top, replacements := replacements.under top }
      { position := position.under top', replacements := replacements.under top' }) :
    ∃ outcome : Except Failure (Text × Replacements),
      registry.process (position.under top) (replacements.under top) =
        outcome.map (Prod.map id (Replacements.under top)) ∧
      registry'.process (position.under top') (replacements.under top') =
        outcome.map (Prod.map id (Replacements.under top')) := by
  have same : registry'.markdownAt (position.under top') (replacements.under top') =
      registry.markdownAt (position.under top) (replacements.under top) := by
    rw [markdownAt_eq_rendered, markdownAt_eq_rendered, Replacements.contentAt_under,
      Replacements.contentAt_under]
    refine congrArg _ (funext fun content => ?_)
    exact (actsLike.rendered_eq rfl rfl content).symm
  rw [process, process, same, Position.node_under, Position.node_under]
  cases position.node with
  | text kind content => exact ⟨.error .notAnElement, rfl, rfl⟩
  | mark kind content => exact ⟨.error .notAnElement, rfl, rfl⟩
  | element tag children =>
      cases registry.markdownAt (position.under top) (replacements.under top) with
      | error failure => exact ⟨.error failure, rfl, rfl⟩
      | ok text =>
          have recorded (place : Address) :
              (replacements.under place).record (position.under place).address tag.name text =
                (replacements.record position.address tag.name text).map
                  (Replacements.under place) :=
            Replacements.record_under place replacements position.address tag.name text
          refine ⟨(replacements.record position.address tag.name text).map fun later =>
            (text, later), ?_, ?_⟩
          · dsimp only
            rw [ok_bind, recorded]
            cases replacements.record position.address tag.name text <;> rfl
          · dsimp only
            rw [ok_bind, recorded]
            cases replacements.record position.address tag.name text <;> rfl

/-- The two runs go alike, element by element, to the same end. -/
theorem exists_processEach_under
    (placed : document.elementAt? top.address = some top)
    (placed' : document'.elementAt? top'.address = some top') (node : top.node = top'.node)
    (alike : registry.ActsAlikeBelow registry' top.node top.address top'.address)
    {order : List Address} (inside : ∀ steps ∈ order, steps ≠ [])
    (replacements : Replacements) :
    ∃ (later : Replacements) (outcome : Option Failure),
      registry.processEach document (order.map (top.address ++ ·))
        (replacements.under top.address) = (later.under top.address, outcome) ∧
      registry'.processEach document' (order.map (top'.address ++ ·))
        (replacements.under top'.address) = (later.under top'.address, outcome) := by
  induction order generalizing replacements with
  | nil => exact ⟨replacements, none, rfl, rfl⟩
  | cons steps rest ih =>
      have others := ih fun other member => inside other (List.mem_cons_of_mem _ member)
      have own := inside steps List.mem_cons_self
      rw [List.map_cons, List.map_cons, processEach, processEach,
        Document.elementAt?_append_under placed own,
        Document.elementAt?_append_under placed' own, ← node]
      cases found : top.node.positionBelow? steps with
      | none => exact others replacements
      | some position =>
          obtain ⟨outcome, here, there⟩ :=
            exists_process_under (alike steps position replacements own found)
          simp only [Option.map_some, here, there]
          cases outcome with
          | error failure => exact ⟨replacements, some failure, rfl, rfl⟩
          | ok made => exact others made.2

/-- The Markdown or the failure is the same. -/
theorem markdown_convertBelow_congr
    (placed : document.elementAt? top.address = some top)
    (placed' : document'.elementAt? top'.address = some top') (node : top.node = top'.node)
    (alike : registry.ActsAlikeBelow registry' top.node top.address top'.address) :
    (registry.convertBelow document top).map Conversion.markdown =
      (registry'.convertBelow document' top').map Conversion.markdown := by
  have inside : ∀ steps ∈ (top.node.levelOrder []).reverse, steps ≠ [] := by
    obtain ⟨tag, children, shape⟩ := Document.exists_element_of_elementAt? placed
    intro steps member
    rw [List.mem_reverse, shape, Node.levelOrder] at member
    obtain ⟨entry, listed, rfl⟩ := List.mem_map.1 member
    obtain ⟨longer, nonempty, same, -⟩ := Node.mem_levelEntries_iff.1 listed
    rw [same]
    exact nonempty
  obtain ⟨later, outcome, here, there⟩ :=
    exists_processEach_under placed placed' node alike inside Replacements.empty
  rw [List.map_reverse, ← Node.levelOrder_under] at here there
  rw [node] at there
  have content (place : Position) :
      (later.under place.address).contentAt place = later.contentOf [] place.node := by
    rw [Replacements.contentAt]
    cases place.node with
    | text kind words => rfl
    | mark kind words => rfl
    | element tag children =>
        have moved := Replacements.contentFrom_under place.address later [] 0 children
        rw [List.append_nil] at moved
        exact moved
  have run : registry.processBelow document top Replacements.empty =
      (later.under top.address, outcome) := here
  have run' : registry'.processBelow document' top' Replacements.empty =
      (later.under top'.address, outcome) := there
  rw [convertBelow, convertBelow, run, run']
  cases outcome with
  | some failure => rfl
  | none =>
      dsimp only
      rw [content, content, node]
      cases later.contentOf [] top'.node <;> rfl

end Registry

/-! ## Registries of which both runs have a copy -/

/-- On everything below `node` the converter does the same whether `node` stands at `top` or
at `top'`: it looks at nothing but what belongs to `node`. -/
def Converter.ActsAlikeBelow (converter : Converter) (node : Node) (top top' : Address) : Prop :=
  ∀ steps position replacements, steps ≠ [] → node.positionBelow? steps = some position →
    converter.ActsLike converter
      { position := position.under top, replacements := Replacements.under top replacements }
      { position := position.under top', replacements := Replacements.under top' replacements }

theorem Converter.IsRelocatable.actsAlikeBelow {converter : Converter}
    (isRelocatable : converter.IsRelocatable) (node : Node) (top top' : Address) :
    converter.ActsAlikeBelow node top top' := by
  intro steps position replacements inside found
  let sight : Sight := { position := position, replacements := replacements }
  have below : sight.position.address ≠ [] := by
    rw [show sight.position.address = steps from Position.address_of_descendWith found]
    exact inside
  exact (isRelocatable top sight below).trans (isRelocatable top' sight below).symm

namespace Registry

/-- The rules that come with the library and those written as data never look further. -/
theorem actsAlikeBelow_build {flavor : Flavor} {definitions : List Definition}
    {registry : Registry} (built : Registry.build flavor definitions = .ok registry) {node : Node}
    {top top' : Address} (alike : ∀ converter, .converter converter ∈ definitions →
      converter.ActsAlikeBelow node top top') :
    registry.ActsAlikeBelow registry node top top' := by
  obtain ⟨converters, made, built⟩ := bind_eq_ok_iff.1 built
  cases built
  have each : ∀ converter ∈ converters ++ flavor.rules,
      converter.ActsAlikeBelow node top top' := by
    intro converter member
    rcases List.mem_append.1 member with given | rule
    · obtain ⟨definition, listed, found⟩ := mem_of_mapM made given
      cases definition with
      | value value => exact (Definition.isRelocatable_of_value found).actsAlikeBelow node top top'
      | converter other =>
          cases found
          exact alike converter listed
    · rcases List.mem_append.1 rule with inGfm | inBase
      · cases gfm : flavor.gfm with
        | false =>
            rw [gfm] at inGfm
            cases inGfm
        | true =>
            rw [gfm] at inGfm
            exact (Gfm.isRelocatable_of_mem inGfm).actsAlikeBelow node top top'
      · cases base : flavor.base with
        | false =>
            rw [base] at inBase
            cases inBase
        | true =>
            rw [base] at inBase
            exact (Base.isRelocatable_of_mem inBase).actsAlikeBelow node top top'
  intro steps position replacements inside found
  exact List.forall₂_same.2 fun converter member =>
    each converter member steps position replacements inside found

end Registry

end PageMark
