import PageMark.Proofs.ActingAlike
import PageMark.Proofs.ProcessingOrder

/-!
# Inserted converters

Converters may be put in between those of a registry.  As long as each of them
rejects every element about which it is asked, no run can tell the difference:
the table grows in the same way and the run ends in the same way.
-/

namespace PageMark

/-! ## Insertions -/

inductive Origin where
  | given
  | inserted
deriving DecidableEq

/-- A list in which some entries have been put in between those that were given. -/
abbrev Insertion (α : Type) := List (Origin × α)

namespace Insertion

variable {α : Type}

def whole (insertion : Insertion α) : List α :=
  insertion.map Prod.snd

def given : Insertion α → List α
  | [] => []
  | (.given, entry) :: rest => entry :: given rest
  | (.inserted, _) :: rest => given rest

def tagged (origin : Origin) (entries : List α) : Insertion α :=
  entries.map fun entry => (origin, entry)

@[simp] theorem whole_tagged (origin : Origin) (entries : List α) :
    whole (tagged origin entries) = entries := by
  simp [whole, tagged, Function.comp_def]

@[simp] theorem given_tagged_given (entries : List α) :
    given (tagged .given entries) = entries := by
  induction entries with
  | nil => rfl
  | cons entry rest ih => exact congrArg (entry :: ·) ih

@[simp] theorem given_tagged_inserted (entries : List α) :
    given (tagged .inserted entries) = [] := by
  induction entries with
  | nil => rfl
  | cons entry rest ih => exact ih

@[simp] theorem whole_append (left right : Insertion α) :
    whole (left ++ right) = whole left ++ whole right :=
  List.map_append

@[simp] theorem given_append (left right : Insertion α) :
    given (left ++ right) = given left ++ given right := by
  induction left with
  | nil => rfl
  | cons entry rest ih =>
      obtain ⟨origin, value⟩ := entry
      cases origin with
      | given => exact congrArg (value :: ·) ih
      | inserted => exact ih

end Insertion

/-! ## Being asked -/

/-- After these converters the next one is asked about the element: the element
is not left out as blank, and all of them reject it. -/
structure Position.IsUndecided (position : Position) (replacements : Replacements)
    (before : List Converter) : Prop where
  shown : ∃ content, replacements.contentAt position = .ok content ∧
    position.node.isBlank content = false
  rejected : ∀ earlier ∈ before, earlier.filter.selects position replacements = .ok false

namespace Insertion

/-- Every inserted converter rejects the element if it is asked about it. -/
def IsSilentAt (insertion : Insertion Converter) (position : Position)
    (replacements : Replacements) : Prop :=
  ∀ before converter after, insertion = before ++ (.inserted, converter) :: after →
    position.IsUndecided replacements (whole before) →
      converter.filter.selects position replacements = .ok false

variable {insertion : Insertion Converter} {position : Position} {replacements : Replacements}

/-- Once the first converter has rejected the element, the others are asked. -/
theorem IsSilentAt.tail {entry : Origin × Converter}
    (silent : IsSilentAt (entry :: insertion) position replacements)
    (rejects : entry.2.filter.selects position replacements = .ok false) :
    insertion.IsSilentAt position replacements := by
  intro before converter after shape undecided
  refine silent (entry :: before) converter after (by rw [shape]; rfl) ⟨undecided.shown, ?_⟩
  intro earlier member
  rcases List.mem_cons.1 member with rfl | others
  · exact rejects
  · exact undecided.rejected earlier others

/-- The same converter is found with the inserted ones and without them, at
another place in the list. -/
theorem findFrom_bind_of_isSilentAt (silent : insertion.IsSilentAt position replacements)
    {content : Text} (known : replacements.contentAt position = .ok content)
    (shown : position.node.isBlank content = false) (given' : Text) (index index' : Nat) :
    Registry.findFrom position replacements index insertion.whole >>=
        position.renderedBy given' replacements =
      Registry.findFrom position replacements index' insertion.given >>=
        position.renderedBy given' replacements := by
  induction insertion generalizing index index' with
  | nil => rfl
  | cons entry rest ih =>
      obtain ⟨origin, converter⟩ := entry
      cases origin with
      | inserted =>
          have rejects : converter.filter.selects position replacements = .ok false :=
            silent [] converter rest rfl
              ⟨⟨content, known, shown⟩, fun _ member => by cases member⟩
          rw [whole, List.map_cons, Registry.findFrom, rejects]
          exact ih (silent.tail rejects) (index + 1) index'
      | given =>
          rw [whole, List.map_cons, Registry.findFrom, given, Registry.findFrom]
          cases selects : converter.filter.selects position replacements with
          | error failure => rfl
          | ok selected =>
              cases selected with
              | false => exact ih (silent.tail selects) (index + 1) (index' + 1)
              | true => cases converter.rendering <;> rfl

end Insertion

/-! ## Runs -/

namespace Registry

/-- The elements as they have their turn in a run, each with the table it meets. -/
def turns (registry : Registry) (document : Document) :
    List Address → Replacements → List Sight
  | [], _ => []
  | address :: rest, replacements =>
      match document.elementAt? address with
      | none => turns registry document rest replacements
      | some position =>
          { position := position, replacements := replacements } ::
            match registry.process position replacements with
            | .ok (_, recorded) => turns registry document rest recorded
            | .error _ => []

def turnsBelow (registry : Registry) (document : Document) (top : Position) : List Sight :=
  registry.turns document (top.node.levelOrder top.address).reverse Replacements.empty

/-- Only elements of the order have a turn. -/
theorem exists_of_mem_turns {registry : Registry} {document : Document} {order : List Address}
    {replacements : Replacements} {sight : Sight}
    (member : sight ∈ registry.turns document order replacements) :
    ∃ address ∈ order, document.elementAt? address = some sight.position := by
  induction order generalizing replacements with
  | nil => cases member
  | cons address rest ih =>
      rw [turns] at member
      cases placed : document.elementAt? address with
      | none =>
          rw [placed] at member
          obtain ⟨other, inRest, found⟩ := ih member
          exact ⟨other, List.mem_cons_of_mem _ inRest, found⟩
      | some position =>
          rw [placed] at member
          rcases List.mem_cons.1 member with rfl | later
          · exact ⟨address, List.mem_cons_self, placed⟩
          · cases step : registry.process position replacements with
            | error failure =>
                rw [step] at later
                cases later
            | ok made =>
                rw [step] at later
                obtain ⟨other, inRest, found⟩ := ih later
                exact ⟨other, List.mem_cons_of_mem _ inRest, found⟩

theorem hasBelow_of_mem_turnsBelow {registry : Registry} {document : Document} {top : Position}
    (placed : document.elementAt? top.address = some top) {sight : Sight}
    (member : sight ∈ registry.turnsBelow document top) :
    document.elementAt? sight.position.address = some sight.position ∧
      document.HasBelow top.address sight.position.address := by
  obtain ⟨address, inOrder, found⟩ := exists_of_mem_turns member
  rw [Document.address_of_elementAt? found]
  exact ⟨found, (Document.mem_levelOrder_iff placed address).1 (List.mem_reverse.1 inOrder)⟩

end Registry

namespace Insertion

/-- The inserted converters reject every element below `top` about which they are
asked in the run. -/
def IsSilentBelow (insertion : Insertion Converter) (document : Document) (top : Position) : Prop :=
  ∀ sight ∈ Registry.turnsBelow { converters := insertion.whole } document top,
    insertion.IsSilentAt sight.position sight.replacements

variable {insertion : Insertion Converter}

theorem process_of_isSilentAt {position : Position} {replacements : Replacements}
    (silent : insertion.IsSilentAt position replacements) :
    Registry.process { converters := insertion.whole } position replacements =
      Registry.process { converters := insertion.given } position replacements := by
  have same : Registry.markdownAt { converters := insertion.whole } position replacements =
      Registry.markdownAt { converters := insertion.given } position replacements := by
    rw [Registry.markdownAt_eq_rendered, Registry.markdownAt_eq_rendered]
    cases known : replacements.contentAt position with
    | error failure => rfl
    | ok content =>
        rw [ok_bind, ok_bind, Registry.rendered, Registry.rendered]
        cases shown : position.node.isBlank content with
        | true => rfl
        | false => exact findFrom_bind_of_isSilentAt silent known shown _ 0 0
  rw [Registry.process, Registry.process, same]

/-- Each step is the same, so the next one starts from the same table. -/
theorem processEach_of_isSilentAt {document : Document} {order : List Address}
    {replacements : Replacements}
    (silent : ∀ sight ∈ Registry.turns { converters := insertion.whole } document order
      replacements, insertion.IsSilentAt sight.position sight.replacements) :
    Registry.processEach { converters := insertion.whole } document order replacements =
      Registry.processEach { converters := insertion.given } document order replacements := by
  induction order generalizing replacements with
  | nil => rfl
  | cons address rest ih =>
      rw [Registry.processEach, Registry.processEach]
      rw [Registry.turns] at silent
      cases placed : document.elementAt? address with
      | none =>
          rw [placed] at silent
          exact ih silent
      | some position =>
          rw [placed] at silent
          have own := process_of_isSilentAt (silent _ List.mem_cons_self)
          have later := fun sight member => silent sight (List.mem_cons_of_mem _ member)
          dsimp only
          rw [← own]
          cases step : Registry.process { converters := insertion.whole } position replacements with
          | error failure => rfl
          | ok made =>
              rw [step] at later
              exact ih later

theorem convertBelow_of_isSilentBelow {document : Document} {top : Position}
    (silent : insertion.IsSilentBelow document top) :
    Registry.convertBelow { converters := insertion.whole } document top =
      Registry.convertBelow { converters := insertion.given } document top := by
  rw [Registry.convertBelow, Registry.convertBelow, Registry.processBelow, Registry.processBelow,
    processEach_of_isSilentAt silent]

end Insertion

/-! ## Built registries -/

namespace Insertion

/-- The converters of the definitions, the first failure if there is one. -/
def build : Insertion Definition → Except Failure (Insertion Converter)
  | [] => .ok []
  | (origin, definition) :: rest => do
      let converter ← definition.toConverter
      let others ← build rest
      return (origin, converter) :: others

theorem mapM_whole (definitions : Insertion Definition) :
    definitions.whole.mapM Definition.toConverter = definitions.build.map whole := by
  induction definitions with
  | nil => rfl
  | cons entry rest ih =>
      obtain ⟨origin, definition⟩ := entry
      rw [whole, List.map_cons, List.mapM_cons, build]
      cases definition.toConverter with
      | error failure => rfl
      | ok converter =>
          rw [ok_bind, ok_bind, show (rest.map Prod.snd).mapM Definition.toConverter = _ from ih]
          cases build rest <;> rfl

/-- Valid definitions that are put in do not change which failure is the first. -/
theorem mapM_given {definitions : Insertion Definition}
    (valid : ∀ definition, (.inserted, definition) ∈ definitions →
      ∃ converter, definition.toConverter = .ok converter) :
    definitions.given.mapM Definition.toConverter = definitions.build.map given := by
  induction definitions with
  | nil => rfl
  | cons entry rest ih =>
      obtain ⟨origin, definition⟩ := entry
      have others := ih fun other member => valid other (List.mem_cons_of_mem _ member)
      cases origin with
      | inserted =>
          obtain ⟨converter, built⟩ := valid definition List.mem_cons_self
          rw [given, others, build, built, ok_bind]
          cases build rest <;> rfl
      | given =>
          rw [given, List.mapM_cons, build]
          cases definition.toConverter with
          | error failure => rfl
          | ok converter =>
              rw [ok_bind, ok_bind, others]
              cases build rest <;> rfl

end Insertion

namespace Converter

/-- The filter is false for each element below `top`, whatever has been converted. -/
def RejectsBelow (converter : Converter) (document : Document) (top : Position) : Prop :=
  ∀ position replacements, document.elementAt? position.address = some position →
    document.HasBelow top.address position.address →
      converter.filter.selects position replacements = .ok false

end Converter

theorem Insertion.isSilentBelow_of_rejectsBelow {insertion : Insertion Converter}
    {document : Document} {top : Position} (placed : document.elementAt? top.address = some top)
    (rejects : ∀ converter, (.inserted, converter) ∈ insertion →
      converter.RejectsBelow document top) : insertion.IsSilentBelow document top := by
  intro sight member before converter after shape _
  obtain ⟨found, below⟩ := Registry.hasBelow_of_mem_turnsBelow placed member
  exact rejects converter (by rw [shape]; simp) _ _ found below

/-- Whether a local converter rejects all elements below `top` can be computed. -/
theorem Converter.IsLocal.rejectsBelow {converter : Converter} (isLocal : converter.IsLocal)
    {document : Document} {top : Position} (placed : document.elementAt? top.address = some top)
    (rejects : ((top.node.levelOrder top.address).all fun address =>
      (document.elementAt? address).all fun position =>
        (converter.filter.selects position Replacements.empty).toOption == some false) = true) :
    converter.RejectsBelow document top := by
  intro position replacements found below
  have listed := (Document.mem_levelOrder_iff placed _).2 below
  have own := List.all_eq_true.1 rejects _ listed
  rw [found, Option.all_some, beq_iff_eq] at own
  rw [isLocal.selects position replacements Replacements.empty]
  cases outcome : converter.filter.selects position Replacements.empty with
  | error failure =>
      rw [outcome] at own
      cases own
  | ok selected =>
      rw [outcome] at own
      cases own
      rfl

namespace Document

/-- Conversions come to the same if the registry of the one is that of the other
with silent insertions. -/
theorem convert_congr_of_isSilentBelow {document : Document} {flavor flavor' : Flavor}
    {definitions definitions' : List Definition} (built : Except Failure (Insertion Converter))
    (longer : Registry.build flavor definitions =
      built.map fun insertion => { converters := insertion.whole })
    (shorter : Registry.build flavor' definitions' =
      built.map fun insertion => { converters := insertion.given })
    (silent : ∀ body insertion, document.collapse.body? = some body → built = .ok insertion →
      insertion.IsSilentBelow document.collapse body) :
    document.convert flavor definitions = document.convert flavor' definitions' := by
  rw [convert, convert, convertCollapsed, convertCollapsed]
  cases found : document.collapse.body? with
  | none => rfl
  | some body =>
      dsimp only
      rw [longer, shorter]
      cases outcome : built with
      | error failure => rfl
      | ok insertion =>
          exact Insertion.convertBelow_of_isSilentBelow (silent body insertion found outcome)

/-- The rules of GitHub Flavored Markdown stand between the definitions and the other
rules. -/
theorem convert_gfm_of_rejectsBelow {document : Document} {definitions : List Definition}
    {base : Bool}
    (rejects : ∀ body, document.collapse.body? = some body → ∀ rule ∈ Gfm.rules,
      rule.RejectsBelow document.collapse body) :
    document.convert { gfm := true, base := base } definitions =
      document.convert { gfm := false, base := base } definitions := by
  let around (converters : List Converter) : Insertion Converter :=
    Insertion.tagged .given converters ++ Insertion.tagged .inserted Gfm.rules ++
      Insertion.tagged .given (if base then Base.rules else [])
  refine convert_congr_of_isSilentBelow
    ((definitions.mapM Definition.toConverter).map around) ?_ ?_ ?_
  · rw [Registry.build]
    cases definitions.mapM Definition.toConverter with
    | error failure => rfl
    | ok converters => simp [around, Except.map, Flavor.rules]
  · rw [Registry.build]
    cases definitions.mapM Definition.toConverter with
    | error failure => rfl
    | ok converters => simp [around, Except.map, Flavor.rules]
  · intro body insertion found built
    refine Insertion.isSilentBelow_of_rejectsBelow (elementAt?_of_body? found) ?_
    intro converter member
    cases outcome : definitions.mapM Definition.toConverter with
    | error failure =>
        rw [outcome] at built
        cases built
    | ok converters =>
        rw [outcome] at built
        cases built
        have isRule : converter ∈ Gfm.rules := by
          simpa [around, Insertion.tagged] using member
        exact rejects body found converter isRule

theorem convert_definitions_of_isSilentBelow {document : Document} {flavor : Flavor}
    {definitions : Insertion Definition}
    (valid : ∀ definition, (.inserted, definition) ∈ definitions →
      ∃ converter, definition.toConverter = .ok converter)
    (silent : ∀ body insertion, document.collapse.body? = some body →
      definitions.build = .ok insertion →
        Insertion.IsSilentBelow (insertion ++ Insertion.tagged .given flavor.rules)
          document.collapse body) :
    document.convert flavor definitions.whole = document.convert flavor definitions.given := by
  refine convert_congr_of_isSilentBelow (definitions.build.map fun insertion =>
    insertion ++ Insertion.tagged .given flavor.rules) ?_ ?_ ?_
  · rw [Registry.build, Insertion.mapM_whole]
    cases definitions.build with
    | error failure => rfl
    | ok insertion => simp [Except.map]
  · rw [Registry.build, Insertion.mapM_given valid]
    cases definitions.build with
    | error failure => rfl
    | ok insertion => simp [Except.map]
  · intro body insertion found built
    cases outcome : definitions.build with
    | error failure =>
        rw [outcome] at built
        cases built
    | ok converters =>
        rw [outcome] at built
        cases built
        exact silent body converters found outcome

/-- Converters that are put in anywhere, and reject every element below the body
about which they are asked, change neither the table of any run nor how it ends.
So the rules of GitHub Flavored Markdown make no difference to a document in
which they reject every element below the body, and neither do valid definitions
whose converters do not select anything. -/
theorem unmatched_converters_invisible :
    (∀ (document : Document) (top : Position) (insertion : Insertion Converter),
      insertion.IsSilentBelow document top →
        Registry.processBelow { converters := insertion.whole } document top Replacements.empty =
          Registry.processBelow { converters := insertion.given } document top
            Replacements.empty ∧
        Registry.convertBelow { converters := insertion.whole } document top =
          Registry.convertBelow { converters := insertion.given } document top) ∧
    (∀ (document : Document) (definitions : List Definition) (base : Bool),
      (∀ body, document.collapse.body? = some body → ∀ rule ∈ Gfm.rules,
        rule.RejectsBelow document.collapse body) →
          document.convert { gfm := true, base := base } definitions =
            document.convert { gfm := false, base := base } definitions) ∧
    ∀ (document : Document) (flavor : Flavor) (definitions : Insertion Definition),
      (∀ definition, (.inserted, definition) ∈ definitions →
        ∃ converter, definition.toConverter = .ok converter) →
      (∀ body insertion, document.collapse.body? = some body →
        definitions.build = .ok insertion →
          Insertion.IsSilentBelow (insertion ++ Insertion.tagged .given flavor.rules)
            document.collapse body) →
        document.convert flavor definitions.whole =
          document.convert flavor definitions.given := by
  refine ⟨fun document top insertion silent => ⟨?_, ?_⟩, ?_, ?_⟩
  · exact Insertion.processEach_of_isSilentAt silent
  · exact Insertion.convertBelow_of_isSilentBelow silent
  · intro document definitions base rejects
    exact convert_gfm_of_rejectsBelow rejects
  · intro document flavor definitions valid silent
    exact convert_definitions_of_isSilentBelow valid silent

/-- Elements of this name are replaced by their content. -/
def contentDefinition (name : String) : Definition :=
  .value (.mapping [(filterKey.toList, .text name.toList),
    (replacementKey.toList, .template { pieces := [.content] })])

theorem exists_table_converter :
    ∃ converter, (contentDefinition "table").toConverter = .ok converter ∧
      ∀ body, lookAlikes.collapse.body? = some body →
        converter.RejectsBelow lookAlikes.collapse body := by
  have isLocal : Converter.IsLocal
      { filter := .exact "table",
        rendering := some (Template.toRendering { pieces := [.content] }) } :=
    .of_constant (fun _ _ _ => rfl) fun _ _ _ _ => rfl
  refine ⟨_, rfl, fun body found => ?_⟩
  refine isLocal.rejectsBelow (elementAt?_of_body? found) ?_
  have check : (lookAlikes.collapse.body?.all fun top =>
      (top.node.levelOrder top.address).all fun address =>
        (lookAlikes.collapse.elementAt? address).all fun position =>
          ((Filter.exact "table").selects position Replacements.empty).toOption == some false) =
      true := by
    decide +kernel
  rw [found] at check
  exact check

theorem lookAlikes_without_tables :
    ∃ body table, lookAlikes.collapse.body? = some body ∧
      (contentDefinition "table").toConverter = .ok table ∧
      Registry.convertBelow { converters := table :: Base.rules } lookAlikes.collapse body =
        Registry.convertBelow { converters := Base.rules } lookAlikes.collapse body ∧
      lookAlikes.convert { gfm := true } [contentDefinition "li"] =
        lookAlikes.convert {} [contentDefinition "li"] ∧
      lookAlikes.convert {} [contentDefinition "li", contentDefinition "table"] =
        lookAlikes.convert {} [contentDefinition "li"] := by
  obtain ⟨table, built, rejects⟩ := exists_table_converter
  have isSome : lookAlikes.collapse.body?.isSome = true := by decide +kernel
  obtain ⟨body, found⟩ := Option.isSome_iff_exists.1 isSome
  have placed := elementAt?_of_body? found
  obtain ⟨runs, flavors, lists⟩ := unmatched_converters_invisible
  refine ⟨body, table, found, built, ?_, ?_, ?_⟩
  · have silent : Insertion.IsSilentBelow
        ((.inserted, table) :: Insertion.tagged .given Base.rules) lookAlikes.collapse body := by
      refine Insertion.isSilentBelow_of_rejectsBelow placed fun converter member => ?_
      obtain rfl : converter = table := by simpa [Insertion.tagged] using member
      exact rejects body found
    have same := (runs _ body _ silent).2
    rw [Insertion.given, Insertion.given_tagged_given, Insertion.whole, List.map_cons] at same
    rwa [show (Insertion.tagged .given Base.rules).map Prod.snd = Base.rules from
      Insertion.whole_tagged .given Base.rules] at same
  · refine flavors lookAlikes [contentDefinition "li"] true fun body found rule member => ?_
    refine (Gfm.isLocal_of_mem member).rejectsBelow (elementAt?_of_body? found) ?_
    have check : (lookAlikes.collapse.body?.all fun top => Gfm.rules.all fun rule =>
        (top.node.levelOrder top.address).all fun address =>
          (lookAlikes.collapse.elementAt? address).all fun position =>
            (rule.filter.selects position Replacements.empty).toOption == some false) = true := by
      decide +kernel
    rw [found, Option.all_some] at check
    exact List.all_eq_true.1 check rule member
  · refine lists lookAlikes {} [(.given, contentDefinition "li"),
      (.inserted, contentDefinition "table")] ?_ ?_
    · intro definition member
      obtain rfl : definition = contentDefinition "table" := by simpa using member
      exact ⟨table, built⟩
    · intro body insertion found outcome
      refine Insertion.isSilentBelow_of_rejectsBelow (elementAt?_of_body? found) ?_
      obtain ⟨item, known⟩ : ∃ item, (contentDefinition "li").toConverter = .ok item :=
        ⟨_, rfl⟩
      rw [Insertion.build, known, ok_bind, Insertion.build, built] at outcome
      cases outcome
      intro converter member
      obtain rfl : converter = table := by simpa [Insertion.tagged] using member
      exact rejects body found

end Document

end PageMark
