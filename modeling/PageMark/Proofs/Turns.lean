import Mathlib.Data.List.Nodup
import PageMark.Proofs.ProcessingOrder

/-!
# When converters are called

An element is due when every element below it has a replacement and it has none
itself.  Whatever the converters are, predicates and renderings are called for
elements that are due and for no others, and the table grows by one element at a
time until it has each element below the body once.
-/

namespace PageMark

/-! ## Elements that are due -/

namespace Replacements

/-- The elements with a replacement, the latest first. -/
def addresses (replacements : Replacements) : List Address :=
  replacements.entries.map Prod.fst

theorem has_iff_mem_addresses {replacements : Replacements} {address : Address} :
    replacements.has address = true ↔ address ∈ replacements.addresses := by
  rw [has, find?, Option.isSome_map, List.find?_isSome, addresses, List.mem_map]
  constructor
  · rintro ⟨entry, member, same⟩
    exact ⟨entry, member, by simpa using same⟩
  · rintro ⟨entry, member, rfl⟩
    exact ⟨entry, member, by simp⟩

/-- An element among children and the others before and after it, once the first
child is looked at. -/
theorem coversAll_cons_iff {replacements : Replacements} {address : Address} {index : Nat}
    {first : Node} {rest : List Node} :
    replacements.coversAll address index (first :: rest) = true ↔
      (first.isElement = true → replacements.has (address ++ [index]) = true ∧
        replacements.coversBelow (address ++ [index]) first = true) ∧
      replacements.coversAll address (index + elementCount [first]) rest = true := by
  cases first with
  | text kind content => simp [coversAll, Node.isElement, elementCount, elementsAmong]
  | mark kind content => simp [coversAll, Node.isElement, elementCount, elementsAmong]
  | element tag children => simp [coversAll, Node.isElement, elementCount, elementsAmong, and_assoc]

mutual

/-- The table covers what is below a node if it has every longer address that
leads to an element. -/
theorem coversBelow_iff (replacements : Replacements) (address : Address) : (node : Node) →
    (replacements.coversBelow address node = true ↔ ∀ steps, steps ≠ [] →
      (node.elementBelow? steps).isSome = true → replacements.has (address ++ steps) = true)
  | .element tag children => by
      rw [coversBelow, coversAll_iff replacements address 0 children]
      constructor
      · intro covers steps nonempty isSome
        cases steps with
        | nil => exact absurd rfl nonempty
        | cons index steps =>
            obtain ⟨found, leads⟩ := Option.isSome_iff_exists.1 isSome
            obtain ⟨before, child, after, shape, isElement, rfl, inner⟩ :=
              Node.elementBelow?_cons_iff.1 leads
            have known := covers before child after shape isElement steps (by rw [inner]; rfl)
            rwa [Nat.zero_add] at known
      · intro covers before child after shape isElement steps isSome
        obtain ⟨found, inner⟩ := Option.isSome_iff_exists.1 isSome
        have leads : (Node.element tag children).elementBelow? (elementCount before :: steps) =
            some found :=
          Node.elementBelow?_cons_iff.2 ⟨before, child, after, shape, isElement, rfl, inner⟩
        have known := covers (elementCount before :: steps) (by simp) (by rw [leads]; rfl)
        rwa [Nat.zero_add]
  | .text kind content => by
      simp only [coversBelow, true_iff]
      intro steps nonempty isSome
      rw [Node.elementBelow?_of_childless rfl nonempty] at isSome
      cases isSome
  | .mark kind content => by
      simp only [coversBelow, true_iff]
      intro steps nonempty isSome
      rw [Node.elementBelow?_of_childless rfl nonempty] at isSome
      cases isSome

theorem coversAll_iff (replacements : Replacements) (address : Address) (index : Nat) :
    (children : List Node) →
    (replacements.coversAll address index children = true ↔
      ∀ before node after, children = before ++ node :: after → node.isElement = true →
        ∀ steps, (node.elementBelow? steps).isSome = true →
          replacements.has (address ++ (index + elementCount before) :: steps) = true)
  | [] => by simp [coversAll]
  | first :: rest => by
      rw [coversAll_cons_iff, coversBelow_iff replacements _ first,
        coversAll_iff replacements address _ rest]
      constructor
      · rintro ⟨own, others⟩ before node after shape isElement steps isSome
        cases before with
        | nil =>
            cases shape
            obtain ⟨has, below⟩ := own isElement
            cases steps with
            | nil => exact has
            | cons step steps =>
                have known := below (step :: steps) (by simp) isSome
                simpa [elementCount, elementsAmong] using known
        | cons head tail =>
            cases shape
            have known := others tail node after rfl isElement steps isSome
            rwa [Nat.add_assoc, ← elementCount_append] at known
      · intro covers
        constructor
        · intro isElement
          have own := covers [] first rest rfl isElement
          refine ⟨own [] rfl, fun steps _ isSome => ?_⟩
          simpa [elementCount, elementsAmong] using own steps isSome
        · intro before node after shape isElement steps isSome
          have shape' : first :: rest = (first :: before) ++ node :: after := by rw [shape]; rfl
          have known := covers (first :: before) node after shape' isElement steps isSome
          rwa [Nat.add_assoc, ← elementCount_append]

end

end Replacements

/-- All elements below have a replacement, and the element itself has none. -/
def Position.isDue (position : Position) (replacements : Replacements) : Bool :=
  replacements.coversBelow position.address position.node &&
    !replacements.has position.address

/-- Having its turn in an order from the bottom up, an element is due. -/
theorem Document.BottomUp.isDue {document : Document} {top address : Address}
    {order done rest : List Address} (bottomUp : document.BottomUp top order)
    (split : order = done ++ address :: rest) {replacements : Replacements}
    (filled : replacements.addresses = done.reverse) {position : Position}
    (placed : document.elementAt? address = some position) :
    position.isDue replacements = true := by
  have known : ∀ other, replacements.has other = true ↔ other ∈ done := by
    intro other
    rw [Replacements.has_iff_mem_addresses, filled, List.mem_reverse]
  rw [Position.isDue, Document.address_of_elementAt? placed, Bool.and_eq_true]
  constructor
  · rw [Replacements.coversBelow_iff]
    intro steps nonempty isSome
    rw [← Document.map_node_elementAt?_append placed, Option.isSome_map] at isSome
    exact (known _).2
      (bottomUp.mem_done split ⟨isSome, List.prefix_append _ _, by simpa using nonempty⟩)
  · have fresh : ¬ replacements.has address = true := by
      rw [known]
      exact bottomUp.not_mem_done split
    simpa using fresh

/-! ## Guards -/

/-- A predicate that fails with `alarm` where it may not be called. -/
def Filter.guarded (may : Position → Replacements → Bool) (alarm : Failure) : Filter → Filter
  | .predicate holds => .predicate fun position replacements =>
      if may position replacements then holds position replacements else .error alarm
  | filter => filter

def Rendering.guarded (may : Position → Replacements → Bool) (alarm : Failure)
    (rendering : Rendering) : Rendering :=
  fun given position replacements =>
    if may position replacements then rendering given position replacements else .error alarm

def Converter.guarded (may : Position → Replacements → Bool) (alarm : Failure)
    (converter : Converter) : Converter where
  filter := converter.filter.guarded may alarm
  rendering := converter.rendering.map (Rendering.guarded may alarm)

def Choice.guarded (may : Position → Replacements → Bool) (alarm : Failure)
    (choice : Choice) : Choice where
  index := choice.index
  rendering := choice.rendering.guarded may alarm

/-- The same converters with a guard before each predicate and each rendering. -/
def Registry.guarded (may : Position → Replacements → Bool) (alarm : Failure)
    (registry : Registry) : Registry where
  converters := registry.converters.map (Converter.guarded may alarm)

section Guards

variable {may : Position → Replacements → Bool} {alarm : Failure} {position : Position}
  {replacements : Replacements}

theorem Filter.selects_guarded (allowed : may position replacements = true) (filter : Filter) :
    (filter.guarded may alarm).selects position replacements =
      filter.selects position replacements := by
  cases filter with
  | exact name => rfl
  | oneOf names => rfl
  | predicate holds => simp [guarded, selects, allowed]

namespace Registry

/-- Of the guarded converters the same one is found. -/
theorem findFrom_guarded (allowed : may position replacements = true) (index : Nat)
    (converters : List Converter) :
    findFrom position replacements index (converters.map (Converter.guarded may alarm)) =
      (findFrom position replacements index converters).map
        (Option.map (Choice.guarded may alarm)) := by
  induction converters generalizing index with
  | nil => rfl
  | cons converter rest ih =>
      rw [List.map_cons, findFrom, findFrom, Converter.guarded,
        Filter.selects_guarded allowed]
      cases converter.filter.selects position replacements with
      | error failure => rfl
      | ok selected =>
          cases selected with
          | false => exact ih (index + 1)
          | true => cases converter.rendering <;> rfl

theorem markdownAt_guarded (registry : Registry) (allowed : may position replacements = true) :
    (registry.guarded may alarm).markdownAt position replacements =
      registry.markdownAt position replacements := by
  have found : (registry.guarded may alarm).find position replacements =
      (registry.find position replacements).map (Option.map (Choice.guarded may alarm)) :=
    findFrom_guarded allowed 0 registry.converters
  rw [markdownAt, markdownAt, found]
  refine congrArg _ (funext fun content => ?_)
  split
  · rfl
  · cases registry.find position replacements with
    | error failure => rfl
    | ok choice? =>
        cases choice? with
        | none => rfl
        | some choice => simp [Except.map, Choice.guarded, Rendering.guarded, allowed]

theorem process_guarded (registry : Registry) (allowed : may position replacements = true) :
    (registry.guarded may alarm).process position replacements =
      registry.process position replacements := by
  rw [process, process, markdownAt_guarded registry allowed]

end Registry

end Guards

/-! ## The table -/

namespace Registry

variable {registry : Registry} {document : Document}

/-- Processing an element adds its replacement and changes nothing else. -/
theorem addresses_of_process {position : Position} {replacements later : Replacements}
    {text : Text} (done : registry.process position replacements = .ok (text, later)) :
    later.addresses = position.address :: replacements.addresses := by
  rw [process] at done
  split at done
  · obtain ⟨made, -, done⟩ := bind_eq_ok_iff.1 done
    obtain ⟨recorded, stored, ⟨⟩⟩ := bind_eq_ok_iff.1 done
    obtain ⟨-, rfl⟩ := Replacements.record_eq_ok_iff.1 stored
    rfl
  · cases done

/-- A run from the bottom up goes through the order element by element.  A guard
that asks for elements to be due makes no difference to it. -/
theorem processEach_turns {top : Address} {order : List Address}
    (bottomUp : document.BottomUp top order) {done rest : List Address}
    (split : order = done ++ rest) {replacements : Replacements}
    (filled : replacements.addresses = done.reverse) :
    (∀ alarm, (registry.guarded Position.isDue alarm).processEach document rest replacements =
      registry.processEach document rest replacements) ∧
    ∃ finished waiting, order = finished ++ waiting ∧
      (registry.processEach document rest replacements).1.addresses = finished.reverse ∧
      ((registry.processEach document rest replacements).2 = none → waiting = []) := by
  induction rest generalizing done replacements with
  | nil => exact ⟨fun _ => rfl, done, [], split, filled, fun _ => rfl⟩
  | cons address rest ih =>
      have member : address ∈ order := by
        rw [split]
        simp
      obtain ⟨position, placed⟩ := bottomUp.exists_position member
      have due := bottomUp.isDue split filled placed
      have guard : ∀ alarm, (registry.guarded Position.isDue alarm).process position replacements =
          registry.process position replacements :=
        fun _ => registry.process_guarded due
      simp only [processEach, placed, guard]
      cases step : registry.process position replacements with
      | error failure =>
          refine ⟨fun _ => rfl, done, address :: rest, split, filled, fun impossible => ?_⟩
          cases impossible
      | ok outcome =>
          obtain ⟨text, later⟩ := outcome
          have grown := addresses_of_process step
          rw [Document.address_of_elementAt? placed, filled, ← List.reverse_concat] at grown
          exact ih (by rw [split, List.append_assoc]; rfl) grown

end Registry

/-- The table has each element below the one at `top` once, and nothing else. -/
structure Document.RecordedOnce (document : Document) (top : Address)
    (replacements : Replacements) : Prop where
  below : ∀ address, replacements.has address = true ↔ document.HasBelow top address
  once : replacements.addresses.Nodup

theorem Registry.processBelow_guarded (registry : Registry) {document : Document}
    {top : Position} (placed : document.elementAt? top.address = some top) (alarm : Failure) :
    (registry.guarded Position.isDue alarm).processBelow document top Replacements.empty =
      registry.processBelow document top Replacements.empty :=
  (registry.processEach_turns (Document.bottomUp_levelOrder placed) (List.nil_append _).symm
    (rfl : Replacements.empty.addresses = [])).1 alarm

/-- What the table has at the end of a run, and what it has if nothing failed. -/
theorem Registry.table_of_processBelow {registry : Registry} {document : Document}
    {top : Position} (placed : document.elementAt? top.address = some top)
    {replacements : Replacements} {outcome : Option Failure}
    (run : registry.processBelow document top Replacements.empty = (replacements, outcome)) :
    replacements.addresses.Nodup ∧
    (∀ address, replacements.has address = true → document.HasBelow top.address address) ∧
    (outcome = none → document.RecordedOnce top.address replacements) := by
  have bottomUp := Document.bottomUp_levelOrder placed
  obtain ⟨-, finished, waiting, split, filled, ended⟩ :=
    registry.processEach_turns bottomUp (List.nil_append _).symm
      (rfl : Replacements.empty.addresses = [])
  rw [processBelow] at run
  rw [run] at filled ended
  have known : ∀ address, replacements.has address = true ↔ address ∈ finished := by
    intro address
    rw [Replacements.has_iff_mem_addresses, filled, List.mem_reverse]
  have listed := bottomUp.listed
  have once := bottomUp.once
  rw [split] at listed once
  have nodup : replacements.addresses.Nodup := by
    rw [filled]
    exact List.nodup_reverse.2 (List.nodup_append.1 once).1
  refine ⟨nodup, fun address has => ?_, fun succeeds => ⟨fun address => ?_, nodup⟩⟩
  · exact (listed address).1 (List.mem_append_left _ ((known address).1 has))
  · rw [known, ← listed, ended succeeds, List.append_nil]

namespace Document

/-- Whatever the converters do, a guard that fails unless the element is due
changes nothing: no predicate and no rendering is ever called too early or too
late.  However the run ends, the table has no element twice and only elements
below the body; without a failure it has them all, and so has the table of a
finished conversion. -/
theorem converters_called_when_due (document : Document) {body : Position}
    (found : document.collapse.body? = some body) (registry : Registry) :
    (∀ alarm,
      (registry.guarded Position.isDue alarm).processBelow document.collapse body
          Replacements.empty =
        registry.processBelow document.collapse body Replacements.empty) ∧
    (∀ replacements outcome,
      registry.processBelow document.collapse body Replacements.empty =
          (replacements, outcome) →
        replacements.addresses.Nodup ∧
        (∀ address, replacements.has address = true →
          document.collapse.HasBelow body.address address) ∧
        (outcome = none → document.collapse.RecordedOnce body.address replacements)) ∧
    ∀ flavor definitions conversion, document.convert flavor definitions = .ok conversion →
      document.collapse.RecordedOnce body.address conversion.replacements := by
  have placed := elementAt?_of_body? found
  refine ⟨registry.processBelow_guarded placed, ?_, ?_⟩
  · intro replacements outcome run
    exact Registry.table_of_processBelow placed run
  · intro flavor definitions conversion converted
    rw [convert, convertCollapsed, found] at converted
    obtain ⟨built, -, converted⟩ := bind_eq_ok_iff.1 converted
    rw [Registry.convertBelow] at converted
    split at converted
    · cases converted
    · next replacements run =>
        obtain ⟨content, -, ⟨⟩⟩ := bind_eq_ok_iff.1 converted
        exact (Registry.table_of_processBelow placed run).2.2 rfl

end Document

/-- The rules with a converter before them that asks for the children. -/
def Registry.askingForChildren : Registry where
  converters :=
    { filter := (Condition.childrenDone true).toFilter
      rendering := some (Template.toRendering { pieces := [.content, .literal ['|']] }) } ::
    ({} : Flavor).rules

/-- Both items have an entry of their own. -/
theorem Document.lookAlikes_recordedOnce :
    ∃ body replacements, lookAlikes.collapse.body? = some body ∧
      Registry.askingForChildren.processBelow lookAlikes.collapse body Replacements.empty =
        (replacements, none) ∧
      replacements.addresses = [[0, 0], [0, 0, 0], [0, 0, 1]] ∧
      lookAlikes.collapse.RecordedOnce body.address replacements := by
  have isSome : lookAlikes.collapse.body?.isSome = true := by decide +kernel
  obtain ⟨body, found⟩ := Option.isSome_iff_exists.1 isSome
  have entries : (lookAlikes.collapse.body?.map fun position =>
      let run := Registry.askingForChildren.processBelow lookAlikes.collapse position
        Replacements.empty
      (run.1.addresses, run.2)) = some ([[0, 0], [0, 0, 0], [0, 0, 1]], none) := by
    decide +kernel
  rw [found, Option.map_some, Option.some.injEq, Prod.mk.injEq] at entries
  obtain ⟨addresses, succeeds⟩ := entries
  have run : Registry.askingForChildren.processBelow lookAlikes.collapse body
      Replacements.empty = (_, none) := Prod.ext rfl succeeds
  refine ⟨body, _, found, run, addresses, ?_⟩
  exact ((converters_called_when_due lookAlikes found Registry.askingForChildren).2.1 _ _
    run).2.2 rfl

end PageMark
