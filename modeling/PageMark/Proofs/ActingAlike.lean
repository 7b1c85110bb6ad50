import Mathlib.Data.List.Forall2
import PageMark.Proofs.TreeMarkdown

/-!
# Converters that act alike

The Markdown of an element is made from its node, the spaces put back around it
and what the converters do with it.  Where the converters of two registries act
alike, each at its own place and with its own table, the Markdown is the same.
-/

namespace PageMark

/-! ## After the look-up -/

/-- The Markdown by the converter that was found, if there was one. -/
def Position.renderedBy (position : Position) (given : Text) (replacements : Replacements) :
    Option Choice → Except Failure Text
  | none => .error (.noConverter position.node.kind)
  | some choice => do
      let text ← choice.rendering given position replacements
      return position.flanking.around text

namespace Registry

/-- The Markdown of an element with this content. -/
def rendered (registry : Registry) (position : Position) (content : Text)
    (replacements : Replacements) : Except Failure Text :=
  if position.node.isBlank content then .ok []
  else
    registry.find position replacements >>=
      position.renderedBy (position.givenContent content) replacements

theorem markdownAt_eq_rendered (registry : Registry) (position : Position)
    (replacements : Replacements) :
    registry.markdownAt position replacements =
      replacements.contentAt position >>= fun content =>
        registry.rendered position content replacements := by
  rw [markdownAt]
  refine congrArg _ (funext fun content => ?_)
  rw [rendered]
  split
  · rfl
  · refine congrArg _ (funext fun found => ?_)
    cases found <;> rfl

theorem finish_eq_rendered (registry : Registry) (position : Position) (inside : Inside) :
    registry.finish position inside =
      registry.rendered position inside.content (inside.table position.address) := by
  rw [finish, rendered]
  split
  · rfl
  · refine congrArg _ (funext fun found => ?_)
    cases found <;> rfl

end Registry

/-! ## Acting alike -/

/-- A place with a table of replacements, as a converter is shown it. -/
structure Sight where
  position : Position
  replacements : Replacements

/-- Both converters select or reject alike and render alike, each in its own sight. -/
structure Converter.ActsLike (converter other : Converter) (sight sight' : Sight) : Prop where
  selects : converter.filter.selects sight.position sight.replacements =
    other.filter.selects sight'.position sight'.replacements
  renders : Option.Rel
    (fun rendering rendering' => ∀ given,
      rendering given sight.position sight.replacements =
        rendering' given sight'.position sight'.replacements)
    converter.rendering other.rendering

namespace Converter.ActsLike

variable {converter other third : Converter} {sight sight' sight'' : Sight}

theorem symm (actsLike : converter.ActsLike other sight sight') :
    other.ActsLike converter sight' sight where
  selects := actsLike.selects.symm
  renders := by
    have renders := actsLike.renders
    generalize converter.rendering = first at renders ⊢
    generalize other.rendering = second at renders ⊢
    cases renders with
    | none => exact .none
    | some same => exact .some fun given => (same given).symm

theorem trans (actsLike : converter.ActsLike other sight sight')
    (actsLike' : other.ActsLike third sight' sight'') :
    converter.ActsLike third sight sight'' where
  selects := actsLike.selects.trans actsLike'.selects
  renders := by
    have renders := actsLike.renders
    have renders' := actsLike'.renders
    generalize converter.rendering = first at renders ⊢
    generalize other.rendering = second at renders renders'
    generalize third.rendering = last at renders' ⊢
    cases renders with
    | none =>
        cases renders'
        exact .none
    | some same =>
        cases renders' with
        | some same' => exact .some fun given => (same given).trans (same' given)

end Converter.ActsLike

namespace Registry

variable {sight sight' : Sight}

/-- The converters of both registries act alike, one by one. -/
def ActsLike (registry registry' : Registry) (sight sight' : Sight) : Prop :=
  List.Forall₂ (fun converter other => converter.ActsLike other sight sight')
    registry.converters registry'.converters

/-- Looking up and rendering come to the same, whatever numbers the converters have. -/
theorem findFrom_bind_congr {converters converters' : List Converter}
    (actLike : List.Forall₂ (fun converter other => converter.ActsLike other sight sight')
      converters converters')
    (node : sight.position.node = sight'.position.node)
    (flanking : sight.position.flanking = sight'.position.flanking)
    (given : Text) (index index' : Nat) :
    (findFrom sight.position sight.replacements index converters >>=
        sight.position.renderedBy given sight.replacements) =
      findFrom sight'.position sight'.replacements index' converters' >>=
        sight'.position.renderedBy given sight'.replacements := by
  induction actLike generalizing index index' with
  | nil =>
      simp only [findFrom, ok_bind, Position.renderedBy, node]
  | @cons converter other rest rest' same _ ih =>
      obtain ⟨selects, renders⟩ := same
      rw [findFrom, findFrom, selects]
      cases other.filter.selects sight'.position sight'.replacements with
      | error failure => rfl
      | ok selected =>
          cases selected with
          | false => exact ih (index + 1) (index' + 1)
          | true =>
              generalize converter.rendering = rendering at renders
              generalize other.rendering = rendering' at renders
              cases renders with
              | none => rfl
              | some agree =>
                  simp only [ok_bind, if_true, pure_eq_ok, Position.renderedBy, agree given,
                    flanking]

/-- Registries that act alike make the same Markdown of the same content. -/
theorem ActsLike.rendered_eq {registry registry' : Registry}
    (actsLike : registry.ActsLike registry' sight sight')
    (node : sight.position.node = sight'.position.node)
    (flanking : sight.position.flanking = sight'.position.flanking) (content : Text) :
    registry.rendered sight.position content sight.replacements =
      registry'.rendered sight'.position content sight'.replacements := by
  have given : sight.position.givenContent content = sight'.position.givenContent content := by
    rw [Position.givenContent, Position.givenContent, flanking]
  rw [rendered, rendered, node, given]
  split
  · rfl
  · exact findFrom_bind_congr actsLike node flanking _ 0 0

end Registry

end PageMark
