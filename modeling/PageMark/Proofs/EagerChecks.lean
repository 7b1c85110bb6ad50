import Mathlib.Data.List.Forall2
import PageMark.Proofs.Failures

/-!
# Definitions are checked when a registry is built

A registry is built exactly if every definition is sound.  Once it is built, no
failure of an element lies in the converters any more: the last rule selects
every element, and the rules that come with the library fail at what they read,
never at themselves.
-/

namespace PageMark

/-! ## Sound definitions -/

namespace Value

def isFunction : Value → Bool
  | condition _ => true
  | template _ => true
  | _ => false

/-- The value is a collection of these items. -/
inductive Collects : Value → List Value → Prop
  | list (items : List Value) : Collects (.list items) items
  | tuple (items : List Value) : Collects (.tuple items) items
  | set (items : List Value) : Collects (.set items) items
  | frozenSet (items : List Value) : Collects (.frozenSet items) items

/-- A name, a collection of nothing but names, a normalised filter or a function. -/
inductive IsFilter : Value → Prop
  | name (content : Text) : IsFilter (.text content)
  | names {value : Value} {items : List Value} (collects : value.Collects items)
      (texts : ∀ item ∈ items, ∃ content, item = .text content) : IsFilter value
  | exactName (name : String) : IsFilter (.exactName name)
  | nameSet (names : List String) : IsFilter (.nameSet names)
  | conditionFilter (condition : Condition) : IsFilter (.conditionFilter condition)
  | function {value : Value} (isFunction : value.isFunction = true) : IsFilter value

theorem exists_names?_iff {items : List Value} :
    (∃ names, names? items = some names) ↔ ∀ item ∈ items, ∃ content, item = .text content := by
  induction items with
  | nil => simp [names?]
  | cons item rest ih =>
      rw [List.forall_mem_cons, ← ih]
      cases item with
      | text content => simp [names?]
      | _ => simp [names?]

end Value

namespace Filter

theorem exists_ofCollection_iff {items : List Value} :
    (∃ filter, ofCollection items = .ok filter) ↔
      ∀ item ∈ items, ∃ content, item = .text content := by
  rw [← Value.exists_names?_iff, ofCollection]
  cases Value.names? items <;> simp

theorem ofValue_of_collects {value : Value} {items : List Value}
    (collects : value.Collects items) : ofValue value = ofCollection items := by
  cases collects <;> rfl

theorem exists_ofValue_iff {value : Value} :
    (∃ filter, ofValue value = .ok filter) ↔ value.IsFilter := by
  have collected {items : List Value} (collects : value.Collects items)
      (made : ∃ filter, ofValue value = .ok filter) : value.IsFilter := by
    rw [ofValue_of_collects collects] at made
    exact .names collects (exists_ofCollection_iff.1 made)
  constructor
  · intro made
    cases value with
    | list items => exact collected (.list items) made
    | tuple items => exact collected (.tuple items) made
    | set items => exact collected (.set items) made
    | frozenSet items => exact collected (.frozenSet items) made
    | text content => exact .name content
    | exactName name => exact .exactName name
    | nameSet names => exact .nameSet names
    | conditionFilter condition => exact .conditionFilter condition
    | condition condition => exact .function rfl
    | template template => exact .function rfl
    | _ =>
        obtain ⟨filter, impossible⟩ := made
        cases impossible
  · intro isFilter
    cases isFilter with
    | names collects texts =>
        rw [ofValue_of_collects collects]
        exact exists_ofCollection_iff.2 texts
    | function isFunction =>
        cases value with
        | condition condition => exact ⟨_, rfl⟩
        | template template => exact ⟨_, rfl⟩
        | _ => cases isFunction
    | _ => exact ⟨_, rfl⟩

theorem failure_of_ofValue {value : Value} {failure : Failure}
    (fails : ofValue value = .error failure) : failure = .invalidFilter := by
  have collected {items : List Value} (fails : ofCollection items = .error failure) :
      failure = .invalidFilter := by
    rw [ofCollection] at fails
    split at fails
    · cases fails
    · cases fails
      rfl
  cases value with
  | list items => exact collected fails
  | tuple items => exact collected fails
  | set items => exact collected fails
  | frozenSet items => exact collected fails
  | _ =>
      cases fails
      try rfl

end Filter

theorem exists_renderingOf?_iff {value : Value} :
    (∃ rendering, renderingOf? value = some rendering) ↔ value.isFunction = true := by
  cases value <;> simp [renderingOf?, Value.isFunction]

namespace Converter

theorem exists_build_iff {filter replacement : Value} :
    (∃ converter, build filter replacement = .ok converter) ↔
      filter.IsFilter ∧ replacement.isFunction = true := by
  rw [← Filter.exists_ofValue_iff, ← exists_renderingOf?_iff, build]
  cases Filter.ofValue filter with
  | error failure => simp
  | ok made => cases renderingOf? replacement <;> simp

theorem isConfiguration_of_build {filter replacement : Value} {failure : Failure}
    (fails : build filter replacement = .error failure) : failure.isConfiguration = true := by
  rcases bind_eq_error_iff.1 fails with bad | ⟨made, -, bad⟩
  · rw [Filter.failure_of_ofValue bad]
    rfl
  · split at bad
    · cases bad
    · cases bad
      rfl

theorem isSome_of_build {filter replacement : Value} {converter : Converter}
    (built : build filter replacement = .ok converter) : converter.rendering.isSome = true := by
  obtain ⟨made, -, built⟩ := bind_eq_ok_iff.1 built
  split at built
  · cases built
    rfl
  · cases built

end Converter

namespace Definition

/-- The filter and the replacement that a mapping or an object gives. -/
inductive Gives : Definition → Value → Value → Prop
  | mapping {entries : List (Text × Value)} {filter replacement : Value}
      (filterGiven : Value.entry? filterKey.toList entries = some filter)
      (replacementGiven : Value.entry? replacementKey.toList entries = some replacement) :
      Gives (.value (.mapping entries)) filter replacement
  | object {attributes : List (String × Value)} {filter replacement : Value}
      (filterGiven : Value.lookup? filterKey attributes = some filter)
      (replacementGiven : Value.lookup? replacementKey attributes = some replacement) :
      Gives (.value (.object attributes)) filter replacement

/-- A converter, or a mapping or object with a filter and a function. -/
inductive IsSound : Definition → Prop
  | converter (converter : Converter) : IsSound (.converter converter)
  | parts {definition : Definition} {filter replacement : Value}
      (gives : definition.Gives filter replacement) (isFilter : filter.IsFilter)
      (isFunction : replacement.isFunction = true) : IsSound definition

theorem toConverter_of_gives {definition : Definition} {filter replacement : Value}
    (gives : definition.Gives filter replacement) :
    definition.toConverter = Converter.build filter replacement := by
  cases gives with
  | mapping filterGiven replacementGiven =>
      rw [toConverter, requirePart, requirePart, filterGiven, replacementGiven]
      rfl
  | object filterGiven replacementGiven =>
      rw [toConverter, filterGiven, replacementGiven]

/-- A definition is a converter already, gives both parts, or fails at once. -/
theorem shape (definition : Definition) :
    (∃ converter, definition = .converter converter) ∨
      (∃ filter replacement, definition.Gives filter replacement) ∨
      ∃ failure, definition.toConverter = .error failure ∧ failure.isConfiguration = true := by
  cases definition with
  | converter converter => exact .inl ⟨converter, rfl⟩
  | value value =>
      right
      cases value with
      | mapping entries =>
          cases filterGiven : Value.entry? filterKey.toList entries with
          | none => exact .inr ⟨.missingPart filterKey, by simp [toConverter, requirePart, filterGiven],
              rfl⟩
          | some filter =>
              cases replacementGiven : Value.entry? replacementKey.toList entries with
              | none =>
                  exact .inr ⟨.missingPart replacementKey,
                    by simp [toConverter, requirePart, filterGiven, replacementGiven], rfl⟩
              | some replacement =>
                  exact .inl ⟨filter, replacement, .mapping filterGiven replacementGiven⟩
      | object attributes =>
          cases filterGiven : Value.lookup? filterKey attributes with
          | none =>
              exact .inr ⟨.notADefinition (Value.object attributes).written,
                by simp [toConverter, filterGiven], rfl⟩
          | some filter =>
              cases replacementGiven : Value.lookup? replacementKey attributes with
              | none =>
                  exact .inr ⟨.notADefinition (Value.object attributes).written,
                    by simp [toConverter, filterGiven, replacementGiven], rfl⟩
              | some replacement =>
                  exact .inl ⟨filter, replacement, .object filterGiven replacementGiven⟩
      | _ => exact .inr ⟨_, rfl, rfl⟩

theorem exists_toConverter_iff {definition : Definition} :
    (∃ converter, definition.toConverter = .ok converter) ↔ definition.IsSound := by
  constructor
  · intro made
    rcases definition.shape with ⟨converter, rfl⟩ | ⟨filter, replacement, gives⟩ |
      ⟨failure, fails, -⟩
    · exact .converter converter
    · rw [toConverter_of_gives gives, Converter.exists_build_iff] at made
      exact .parts gives made.1 made.2
    · obtain ⟨converter, made⟩ := made
      rw [fails] at made
      cases made
  · intro isSound
    cases isSound with
    | converter converter => exact ⟨converter, rfl⟩
    | parts gives isFilter isFunction =>
        rw [toConverter_of_gives gives, Converter.exists_build_iff]
        exact ⟨isFilter, isFunction⟩

theorem isConfiguration_of_toConverter {definition : Definition} {failure : Failure}
    (fails : definition.toConverter = .error failure) : failure.isConfiguration = true := by
  rcases definition.shape with ⟨converter, rfl⟩ | ⟨filter, replacement, gives⟩ |
    ⟨other, known, own⟩
  · cases fails
  · rw [toConverter_of_gives gives] at fails
    exact Converter.isConfiguration_of_build fails
  · rw [known] at fails
    cases fails
    exact own

/-- Only a converter that was there before can be without a rendering. -/
theorem eq_or_isSome_of_toConverter {definition : Definition} {converter : Converter}
    (made : definition.toConverter = .ok converter) :
    definition = .converter converter ∨ converter.rendering.isSome = true := by
  rcases definition.shape with ⟨other, rfl⟩ | ⟨filter, replacement, gives⟩ | ⟨failure, fails, -⟩
  · cases made
    exact .inl rfl
  · rw [toConverter_of_gives gives] at made
    exact .inr (Converter.isSome_of_build made)
  · rw [fails] at made
    cases made

end Definition

/-! ## One definition after the other -/

namespace Registry

theorem forall₂_of_mapM {definitions : List Definition} {converters : List Converter}
    (built : definitions.mapM Definition.toConverter = .ok converters) :
    List.Forall₂ (fun definition converter => definition.toConverter = .ok converter)
      definitions converters := by
  induction definitions generalizing converters with
  | nil =>
      cases built
      exact .nil
  | cons definition rest ih =>
      rw [List.mapM_cons] at built
      obtain ⟨own, made, built⟩ := bind_eq_ok_iff.1 built
      obtain ⟨others, later, built⟩ := bind_eq_ok_iff.1 built
      cases built
      exact .cons made (ih later)

theorem mem_of_mapM {definitions : List Definition} {converters : List Converter}
    (built : definitions.mapM Definition.toConverter = .ok converters) {converter : Converter}
    (member : converter ∈ converters) :
    ∃ definition ∈ definitions, definition.toConverter = .ok converter := by
  induction definitions generalizing converters with
  | nil =>
      cases built
      cases member
  | cons definition rest ih =>
      rw [List.mapM_cons] at built
      obtain ⟨own, made, built⟩ := bind_eq_ok_iff.1 built
      obtain ⟨others, later, built⟩ := bind_eq_ok_iff.1 built
      cases built
      rcases List.mem_cons.1 member with rfl | inRest
      · exact ⟨definition, List.mem_cons_self, made⟩
      · obtain ⟨other, listed, found⟩ := ih later inRest
        exact ⟨other, List.mem_cons_of_mem _ listed, found⟩

theorem isSound_of_mapM {definitions : List Definition} {converters : List Converter}
    (built : definitions.mapM Definition.toConverter = .ok converters) :
    ∀ definition ∈ definitions, definition.IsSound := by
  have each := (forall₂_of_mapM built).imp fun definition converter made =>
    And.intro (Definition.exists_toConverter_iff.1 ⟨converter, made⟩) made
  exact ((List.forall₂_and_left _ _).1 each).1

theorem exists_mem_of_mapM_error {definitions : List Definition} {failure : Failure}
    (fails : definitions.mapM Definition.toConverter = .error failure) :
    ∃ definition ∈ definitions, definition.toConverter = .error failure := by
  induction definitions with
  | nil => cases fails
  | cons definition rest ih =>
      rw [List.mapM_cons] at fails
      rcases bind_eq_error_iff.1 fails with own | ⟨converter, -, fails⟩
      · exact ⟨definition, List.mem_cons_self, own⟩
      · rcases bind_eq_error_iff.1 fails with later | ⟨others, -, impossible⟩
        · obtain ⟨other, member, known⟩ := ih later
          exact ⟨other, List.mem_cons_of_mem _ member, known⟩
        · cases impossible

/-- The failure of a build is that of a definition. -/
theorem exists_mem_of_build_error {flavor : Flavor} {definitions : List Definition}
    {failure : Failure} (fails : build flavor definitions = .error failure) :
    ∃ definition ∈ definitions, definition.toConverter = .error failure := by
  rcases bind_eq_error_iff.1 fails with own | ⟨converters, -, impossible⟩
  · exact exists_mem_of_mapM_error own
  · cases impossible

theorem exists_build_error_iff {flavor : Flavor} {definitions : List Definition} :
    (∃ failure, build flavor definitions = .error failure) ↔
      ∃ definition ∈ definitions, ¬ definition.IsSound := by
  constructor
  · rintro ⟨failure, fails⟩
    obtain ⟨definition, member, known⟩ := exists_mem_of_build_error fails
    refine ⟨definition, member, fun isSound => ?_⟩
    obtain ⟨converter, made⟩ := Definition.exists_toConverter_iff.2 isSound
    rw [known] at made
    cases made
  · rintro ⟨definition, member, unsound⟩
    cases outcome : definitions.mapM Definition.toConverter with
    | error failure => exact ⟨failure, by rw [build, outcome, error_bind]⟩
    | ok converters => exact absurd (isSound_of_mapM outcome definition member) unsound

end Registry

/-! ## Failures that lie elsewhere -/

/-- If this fails, it is not for the converters or their definitions. -/
def FailsElsewhere {α : Type} (outcome : Except Failure α) : Prop :=
  ∀ failure, outcome = .error failure → failure.isConfiguration = false

namespace FailsElsewhere

variable {α β : Type}

theorem ok (value : α) : FailsElsewhere (.ok value) := by
  intro failure impossible
  cases impossible

theorem error {failure : Failure} (elsewhere : failure.isConfiguration = false) :
    FailsElsewhere (.error failure : Except Failure α) := by
  rintro _ ⟨⟩
  exact elsewhere

theorem bind {first : Except Failure α} {next : α → Except Failure β}
    (elsewhere : FailsElsewhere first)
    (later : ∀ value, first = .ok value → FailsElsewhere (next value)) :
    FailsElsewhere (first >>= next) := by
  intro failure fails
  rcases bind_eq_error_iff.1 fails with own | ⟨value, made, fails⟩
  · exact elsewhere failure own
  · exact later value made failure fails

/-- What is made of a value that is there does not fail. -/
theorem map {first : Except Failure α} (elsewhere : FailsElsewhere first) (make : α → β) :
    FailsElsewhere (first >>= fun value => .ok (make value)) :=
  elsewhere.bind fun value _ => .ok (make value)

end FailsElsewhere

namespace Replacements

variable (replacements : Replacements)

theorem failsElsewhere_get (address : Address) (name : String) :
    FailsElsewhere (replacements.get address name) := by
  rw [get]
  split
  · exact .ok _
  · exact .error rfl

theorem failsElsewhere_record (address : Address) (name : String) (text : Text) :
    FailsElsewhere (replacements.record address name text) := by
  rw [record]
  split
  · exact .error rfl
  · exact .ok _

theorem failsElsewhere_contentFrom (address : Address) (index : Nat) (nodes : List Node) :
    FailsElsewhere (replacements.contentFrom address index nodes) := by
  induction nodes generalizing index with
  | nil => exact .ok []
  | cons node rest ih =>
      cases node with
      | text kind content => exact (ih index).map _
      | mark kind content => exact ih index
      | element tag children =>
          exact (replacements.failsElsewhere_get _ _).bind fun first _ => (ih (index + 1)).map _

theorem failsElsewhere_contentAt (position : Position) :
    FailsElsewhere (replacements.contentAt position) := by
  unfold contentAt contentOf
  split
  · exact replacements.failsElsewhere_contentFrom _ _ _
  · exact .error rfl

theorem failsElsewhere_childTexts (address : Address) (index : Nat) (nodes : List Node) :
    FailsElsewhere (replacements.childTexts address index nodes) := by
  induction nodes generalizing index with
  | nil => exact .ok []
  | cons node rest ih =>
      cases node with
      | text kind content => exact ih index
      | mark kind content => exact ih index
      | element tag children =>
          exact (replacements.failsElsewhere_get _ _).bind fun first _ => (ih (index + 1)).map _

end Replacements

/-! ## The rules fail at what they read -/

theorem failsElsewhere_placeIn (addresses : List (Option Address)) (address : Address)
    (name : String) : FailsElsewhere (placeIn addresses address name) := by
  rw [placeIn]
  split
  · exact .ok _
  · exact .error rfl

namespace Position

variable (position : Position)

theorem failsElsewhere_siblingAddresses : FailsElsewhere position.siblingAddresses := by
  rw [siblingAddresses]
  split
  · exact .ok _
  · exact .error rfl

theorem failsElsewhere_place (name : String) : FailsElsewhere (position.place name) :=
  position.failsElsewhere_siblingAddresses.bind fun _ _ => failsElsewhere_placeIn _ _ _

theorem failsElsewhere_placeAmongElements (name : String) :
    FailsElsewhere (position.placeAmongElements name) :=
  position.failsElsewhere_siblingAddresses.bind fun _ _ => failsElsewhere_placeIn _ _ _

end Position

namespace Text

theorem failsElsewhere_readNumeral (digits : Text) : FailsElsewhere (readNumeral digits) := by
  rw [readNumeral]
  split
  · exact .error rfl
  · split
    · exact .ok _
    · exact .error rfl

theorem failsElsewhere_writeNumeral (number : Nat) : FailsElsewhere (writeNumeral number) := by
  rw [writeNumeral]
  split
  · exact .ok _
  · exact .error rfl

end Text

/-- The rendering, if there is one, never fails for the converters. -/
def Converter.RendersElsewhere (converter : Converter) (position : Position)
    (replacements : Replacements) : Prop :=
  ∀ rendering, converter.rendering = some rendering →
    ∀ given, FailsElsewhere (rendering given position replacements)

namespace Base

variable (position : Position) (replacements : Replacements)

theorem failsElsewhere_heading (content : Text) : FailsElsewhere (heading content position) := by
  refine FailsElsewhere.map ?_ _
  rw [headingLevel]
  split
  · exact Text.failsElsewhere_readNumeral _
  · exact .error rfl

theorem failsElsewhere_firstChildText {missing : Failure}
    (elsewhere : missing.isConfiguration = false) :
    FailsElsewhere (firstChildText missing position) := by
  rw [firstChildText]
  split
  · exact .ok _
  · exact .error elsewhere

theorem failsElsewhere_itemMark : FailsElsewhere (itemMark position) := by
  rw [itemMark]
  split
  · split
    · refine FailsElsewhere.bind ?_ fun start _ =>
        (position.failsElsewhere_placeAmongElements _).bind fun place _ =>
          (Text.failsElsewhere_writeNumeral _).map _
      rw [listStart]
      split
      · exact Text.failsElsewhere_readNumeral _
      · exact .ok _
    · exact .ok _
  · exact .ok _

theorem failsElsewhere_list (content : Text) :
    FailsElsewhere (list content position replacements) := by
  refine (replacements.failsElsewhere_childTexts _ _ _).bind fun items _ => ?_
  dsimp only
  split
  · exact .ok _
  · exact .ok _

theorem rendersElsewhere_of_mem {converter : Converter} (member : converter ∈ rules) :
    converter.RendersElsewhere position replacements := by
  simp only [rules, List.mem_cons, List.not_mem_nil, or_false] at member
  rcases member with rfl | rfl | rfl | rfl | rfl | rfl | rfl | rfl | rfl | rfl | rfl | rfl | rfl |
    rfl | rfl | rfl
  all_goals rintro _ ⟨⟩ given
  any_goals exact .ok _
  · exact failsElsewhere_heading position given
  · exact (failsElsewhere_firstChildText position rfl).map _
  · exact (failsElsewhere_itemMark position).map _
  · exact failsElsewhere_list position replacements given

end Base

namespace Gfm

variable (position : Position) (replacements : Replacements)

theorem failsElsewhere_borderCells (addresses : List (Option Address)) (address : Address)
    (index : Nat) (nodes : List Node) :
    FailsElsewhere (borderCells addresses address index nodes) := by
  induction nodes generalizing index with
  | nil => exact .ok []
  | cons node rest ih =>
      cases node with
      | text kind content => exact ih index
      | mark kind content => exact ih index
      | element tag children =>
          exact (failsElsewhere_placeIn _ _ _).bind fun place _ => (ih (index + 1)).map _

theorem failsElsewhere_rowBorder : FailsElsewhere (rowBorder position) := by
  rw [rowBorder]
  split
  · exact failsElsewhere_borderCells _ _ _ _
  · exact .ok []

theorem rendersElsewhere_of_mem {converter : Converter} (member : converter ∈ rules) :
    converter.RendersElsewhere position replacements := by
  simp only [rules, List.mem_cons, List.not_mem_nil, or_false] at member
  rcases member with rfl | rfl | rfl | rfl | rfl | rfl | rfl | rfl | rfl | rfl
  all_goals rintro _ ⟨⟩ given
  any_goals exact .ok _
  · exact (position.failsElsewhere_place _).map _
  · exact (failsElsewhere_rowBorder position).map _
  · exact (Base.failsElsewhere_firstChildText position rfl).map _
  · show FailsElsewhere (highlightedPre given position)
    rw [highlightedPre]
    split
    · exact .ok _
    · exact .error rfl

end Gfm

/-! ## Registries -/

/-- Neither the filter nor the rendering fails there. -/
structure Converter.RaisesNothing (converter : Converter) (position : Position)
    (replacements : Replacements) : Prop where
  answers : ∃ selected, converter.filter.selects position replacements = .ok selected
  renders : ∀ rendering, converter.rendering = some rendering →
    ∀ given, ∃ text, rendering given position replacements = .ok text

theorem Converter.RaisesNothing.rendersElsewhere {converter : Converter} {position : Position}
    {replacements : Replacements} (raisesNothing : converter.RaisesNothing position replacements) :
    converter.RendersElsewhere position replacements := by
  intro rendering known given
  obtain ⟨text, rendered⟩ := raisesNothing.renders rendering known given
  rw [rendered]
  exact .ok text

namespace Registry

variable {position : Position} {replacements : Replacements}

theorem failsElsewhere_process {registry : Registry} {choice : Choice}
    (found : registry.find position replacements = .ok (some choice))
    (renders : ∀ given, FailsElsewhere (choice.rendering given position replacements)) :
    FailsElsewhere (registry.process position replacements) := by
  rw [process]
  split
  · refine FailsElsewhere.bind ?_ fun text _ =>
      (replacements.failsElsewhere_record _ _ _).map _
    refine (replacements.failsElsewhere_contentAt position).bind fun content _ => ?_
    split
    · exact .ok []
    · rw [found]
      exact (renders _).map _
  · exact .error rfl

/-- With converters in front that raise nothing there, the rules that come with the
library are reached or not needed. -/
theorem eager_of_raisesNothing {gfm : Bool} {registry : Registry} {own : List Converter}
    (converters : registry.converters = own ++ (builtIn gfm).converters)
    (complete : ∀ converter ∈ own, converter.rendering.isSome = true)
    (raiseNothing : ∀ converter ∈ own, converter.RaisesNothing position replacements) :
    (∃ choice, registry.find position replacements = .ok (some choice)) ∧
      FailsElsewhere (registry.process position replacements) := by
  have answers : ∀ converter ∈ own ++ (builtIn gfm).converters,
      (∃ selected, converter.filter.selects position replacements = .ok selected) ∧
        ∃ rendering, converter.rendering = some rendering := by
    intro converter member
    rcases List.mem_append.1 member with inOwn | inBuiltIn
    · exact ⟨(raiseNothing converter inOwn).answers,
        Option.isSome_iff_exists.1 (complete converter inOwn)⟩
    · exact answers_of_mem_builtIn inBuiltIn
  obtain ⟨catchAll, member, selects⟩ := exists_selects_builtIn gfm position replacements
  obtain ⟨choice, found⟩ :=
    exists_findFrom answers ⟨catchAll, List.mem_append_right own member, selects⟩ 0
  rw [← converters] at found
  refine ⟨⟨choice, found⟩, failsElsewhere_process found fun given => ?_⟩
  obtain ⟨converter, member, -, known⟩ := mem_of_findFrom found
  have renders : converter.RendersElsewhere position replacements := by
    rw [converters] at member
    rcases List.mem_append.1 member with inOwn | inBuiltIn
    · exact (raiseNothing converter inOwn).rendersElsewhere
    · rcases mem_builtIn inBuiltIn with inGfm | inBase
      · exact Gfm.rendersElsewhere_of_mem position replacements inGfm
      · exact Base.rendersElsewhere_of_mem position replacements inBase
  exact renders choice.rendering known given

/-- A registry fails to be built exactly if some definition is unsound, and for that
reason.  Otherwise it has the converters of the definitions in their order, then the
rules that come with the library; and wherever the former raise nothing, a converter
is found and no failure lies in the converters.

A converter given as a definition has passed its own checks. -/
theorem build_eager (gfm : Bool) (definitions : List Definition)
    (checked : ∀ converter, .converter converter ∈ definitions →
      converter.rendering.isSome = true) :
    ((∃ failure, build { gfm := gfm } definitions = .error failure) ↔
      ∃ definition ∈ definitions, ¬ definition.IsSound) ∧
    (∀ failure, build { gfm := gfm } definitions = .error failure →
      failure.isConfiguration = true) ∧
    ∀ registry, build { gfm := gfm } definitions = .ok registry →
      ∃ own,
        registry.converters = own ++ ((if gfm then Gfm.rules else []) ++ Base.rules) ∧
        List.Forall₂ (fun definition converter => definition.toConverter = .ok converter)
          definitions own ∧
        ∀ position replacements,
          (∀ converter ∈ own, converter.RaisesNothing position replacements) →
            (∃ choice, registry.find position replacements = .ok (some choice)) ∧
            ∀ failure, registry.process position replacements = .error failure →
              failure.isConfiguration = false := by
  refine ⟨exists_build_error_iff, ?_, ?_⟩
  · intro failure fails
    obtain ⟨definition, -, known⟩ := exists_mem_of_build_error fails
    exact Definition.isConfiguration_of_toConverter known
  · intro registry built
    obtain ⟨own, made, built⟩ := bind_eq_ok_iff.1 built
    cases built
    have complete : ∀ converter ∈ own, converter.rendering.isSome = true := by
      intro converter member
      obtain ⟨definition, listed, known⟩ := mem_of_mapM made member
      rcases Definition.eq_or_isSome_of_toConverter known with rfl | isSome
      · exact checked converter listed
      · exact isSome
    refine ⟨own, rfl, forall₂_of_mapM made, fun position replacements raiseNothing => ?_⟩
    exact @eager_of_raisesNothing _ _ gfm _ _ rfl complete raiseNothing

section Mixed

def titles : Definition :=
  .value (.mapping [(filterKey.toList, .tuple [.text "H1".toList, .text "title".toList]),
    (replacementKey.toList, .template { pieces := [.literal "= ".toList, .trimmedContent] })])

def silenced : Converter where
  filter := .predicate fun position _ => .ok (position.parentKind == "nav")
  rendering := some fun _ _ _ => .ok []

/-- A collection with something else than names. -/
def mixedNames : Definition :=
  .value (.object [(filterKey, .set [.text "b".toList, .integer 3]),
    (replacementKey, .template { pieces := [.content] })])

def soundDefinitions : List Definition :=
  [titles, .converter silenced]

theorem checked_silenced {definitions : List Definition}
    (given : definitions = soundDefinitions ∨ definitions = soundDefinitions ++ [mixedNames]) :
    ∀ converter, .converter converter ∈ definitions → converter.rendering.isSome = true := by
  intro converter member
  have same : converter = silenced := by
    rcases given with rfl | rfl <;> simpa [soundDefinitions, titles, mixedNames] using member
  rw [same]
  rfl

theorem build_eager_mixed :
    (∃ registry, build { gfm := true } soundDefinitions = .ok registry ∧
      ∀ position replacements,
        (∃ choice, registry.find position replacements = .ok (some choice)) ∧
        ∀ failure, registry.process position replacements = .error failure →
          failure.isConfiguration = false) ∧
    ∃ failure, build { gfm := true } (soundDefinitions ++ [mixedNames]) = .error failure ∧
      failure.isConfiguration = true := by
  constructor
  · obtain ⟨-, -, succeeds⟩ := build_eager true soundDefinitions (checked_silenced (.inl rfl))
    refine ⟨_, rfl, fun position replacements => ?_⟩
    obtain ⟨own, -, made, eager⟩ := succeeds _ rfl
    refine eager position replacements fun converter member => ?_
    cases made with
    | cons first others =>
        cases others with
        | cons second none =>
            cases first
            cases second
            cases none
            simp only [List.mem_cons, List.not_mem_nil, or_false] at member
            rcases member with rfl | rfl
            · exact ⟨⟨_, rfl⟩, by rintro _ ⟨⟩ given; exact ⟨_, rfl⟩⟩
            · exact ⟨⟨_, rfl⟩, by rintro _ ⟨⟩ given; exact ⟨_, rfl⟩⟩
  · obtain ⟨-, reason, -⟩ := build_eager true (soundDefinitions ++ [mixedNames])
      (checked_silenced (.inr rfl))
    exact ⟨.invalidFilter, rfl, reason _ rfl⟩

end Mixed

end Registry

end PageMark
