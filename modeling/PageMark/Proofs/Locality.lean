import PageMark.Proofs.TreeMarkdown

/-!
# What the rules read

A converter is local if of the table it reads the replacements of the node's own
element children at most.  All rules that are there without any definitions are
local, so for them it does not matter what else has been converted.
-/

namespace PageMark

/-! ## What filters select -/

namespace Filter

variable {position : Position} {replacements : Replacements}

theorem selects_exact_iff {name : String} :
    (exact name).selects position replacements = .ok true ↔ position.node.kind = name := by
  simp [selects]

theorem selects_oneOf_iff {names : List String} :
    (oneOf names).selects position replacements = .ok true ↔ position.node.kind ∈ names := by
  simp [selects]

theorem selects_when_iff {holds : Position → Bool} :
    (Base.when holds).selects position replacements = .ok true ↔ holds position = true := by
  simp [selects, Base.when]

end Filter

/-! ## Local converters -/

namespace Replacements

/-- The replacements of the element children of a node. -/
def itemsAt (replacements : Replacements) (position : Position) : Except Failure (List Text) :=
  replacements.childTexts position.address 0 position.node.children

end Replacements

namespace Converter

structure IsLocal (converter : Converter) : Prop where
  selects : ∀ position left right,
    converter.filter.selects position left = converter.filter.selects position right
  renders : ∀ rendering, converter.rendering = some rendering → ∀ given position left right,
    Replacements.itemsAt left position = Replacements.itemsAt right position →
      rendering given position left = rendering given position right

/-- A rule that never looks at the table is local. -/
theorem IsLocal.of_constant {filter : Filter} {rendering : Rendering}
    (selects : ∀ position left right,
      filter.selects position left = filter.selects position right)
    (renders : ∀ given position left right,
      rendering given position left = rendering given position right) :
    IsLocal { filter := filter, rendering := some rendering } where
  selects := selects
  renders := by
    rintro _ ⟨⟩ given position left right _
    exact renders given position left right

end Converter

/-- The rule for lists is the only one that looks at the table. -/
theorem Base.list_congr {left right : Replacements} {position : Position}
    (same : left.itemsAt position = right.itemsAt position) (given : Text) :
    Base.list given position left = Base.list given position right := by
  simp only [Replacements.itemsAt] at same
  simp only [Base.list, same]

theorem Base.isLocal_of_mem {converter : Converter} (member : converter ∈ Base.rules) :
    converter.IsLocal := by
  simp only [Base.rules, List.mem_cons, List.not_mem_nil, or_false] at member
  rcases member with rfl | rfl | rfl | rfl | rfl | rfl | rfl | rfl | rfl | rfl | rfl | rfl | rfl |
    rfl | rfl | rfl
  any_goals exact .of_constant (fun _ _ _ => rfl) (fun _ _ _ _ => rfl)
  refine ⟨fun _ _ _ => rfl, ?_⟩
  rintro _ ⟨⟩ given position left right same
  exact Base.list_congr same given

theorem Gfm.isLocal_of_mem {converter : Converter} (member : converter ∈ Gfm.rules) :
    converter.IsLocal := by
  simp only [Gfm.rules, List.mem_cons, List.not_mem_nil, or_false] at member
  rcases member with rfl | rfl | rfl | rfl | rfl | rfl | rfl | rfl | rfl | rfl
  all_goals exact .of_constant (fun _ _ _ => rfl) (fun _ _ _ _ => rfl)

namespace Registry

def IsLocal (registry : Registry) : Prop :=
  ∀ converter ∈ registry.converters, converter.IsLocal

theorem mem_builtIn {gfm : Bool} {converter : Converter}
    (member : converter ∈ (builtIn gfm).converters) :
    converter ∈ Gfm.rules ∨ converter ∈ Base.rules := by
  rcases List.mem_append.1 member with inGfm | inBase
  · cases gfm with
    | false => cases inGfm
    | true => exact .inl inGfm
  · exact .inr inBase

theorem isLocal_builtIn (gfm : Bool) : (builtIn gfm).IsLocal := by
  intro converter member
  rcases mem_builtIn member with inGfm | inBase
  · exact Gfm.isLocal_of_mem inGfm
  · exact Base.isLocal_of_mem inBase

/-! ## Looking up a converter -/

/-- The rule that is found is one of the list, selects the node and has the
rendering that is found. -/
theorem mem_of_findFrom {position : Position} {replacements : Replacements} {index : Nat}
    {converters : List Converter} {choice : Choice}
    (found : findFrom position replacements index converters = .ok (some choice)) :
    ∃ converter ∈ converters, converter.filter.selects position replacements = .ok true ∧
      converter.rendering = some choice.rendering := by
  induction converters generalizing index with
  | nil => cases found
  | cons converter rest ih =>
      rw [findFrom] at found
      obtain ⟨selected, asked, next⟩ := bind_eq_ok_iff.1 found
      cases selected with
      | false =>
          obtain ⟨other, member, selects, rendering⟩ := ih next
          exact ⟨other, List.mem_cons_of_mem _ member, selects, rendering⟩
      | true =>
          cases known : converter.rendering with
          | none =>
              rw [known] at next
              cases next
          | some rendering =>
              rw [known] at next
              cases next
              exact ⟨converter, List.mem_cons_self, asked, known⟩

theorem findFrom_congr {position : Position} {left right : Replacements} {index : Nat}
    {converters : List Converter} (locals : ∀ converter ∈ converters, converter.IsLocal) :
    findFrom position left index converters = findFrom position right index converters := by
  induction converters generalizing index with
  | nil => rfl
  | cons converter rest ih =>
      have others : findFrom position left (index + 1) rest =
          findFrom position right (index + 1) rest :=
        ih fun other member => locals other (List.mem_cons_of_mem _ member)
      rw [findFrom, findFrom, (locals converter List.mem_cons_self).selects position left right,
        others]

theorem IsLocal.find_congr {registry : Registry} (isLocal : registry.IsLocal)
    (position : Position) (left right : Replacements) :
    registry.find position left = registry.find position right :=
  findFrom_congr isLocal

/-- Rendering by the found rule is the same for tables that agree on the
children. -/
theorem IsLocal.rendering_congr {registry : Registry} (isLocal : registry.IsLocal)
    {position : Position} {left right : Replacements} {choice : Choice}
    (found : registry.find position left = .ok (some choice))
    (same : left.itemsAt position = right.itemsAt position) (given : Text) :
    choice.rendering given position left = choice.rendering given position right := by
  obtain ⟨converter, member, -, rendering⟩ := mem_of_findFrom found
  exact (isLocal converter member).renders _ rendering given position left right same

end Registry

end PageMark
