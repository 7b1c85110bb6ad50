import Mathlib.Data.List.Chain
import PageMark.Collapse.Gap

/-!
# Squeezed texts

Squeezing a text needs to know of what comes before it only whether it ends in
spacing, so the squeezed whole is made of squeezed parts.  A normal text has no
spacing at its edges and nowhere two characters of spacing side by side.
-/

namespace PageMark

namespace Text

/-- Whether spacing after the text would go on with a run. -/
def endsInRun (inRun : Bool) : Text → Bool
  | [] => inRun
  | character :: rest => endsInRun (isSpacing character) rest

theorem squeezeAfter_append (inRun : Bool) (left right : Text) :
    squeezeAfter inRun (left ++ right) =
      squeezeAfter inRun left ++ squeezeAfter (endsInRun inRun left) right := by
  induction left generalizing inRun with
  | nil => rfl
  | cons character rest ih =>
      cases spacing : isSpacing character with
      | true => cases inRun <;> simp [squeezeAfter, endsInRun, spacing, ih]
      | false => simp [squeezeAfter, endsInRun, spacing, ih]

theorem ne_space_of_not_isSpacing {character : Char} (other : isSpacing character = false) :
    character ≠ ' ' := by
  rintro rfl
  cases other

/-- Without its leading space a squeezed text is squeezed as after a space. -/
theorem dropLeadingSpace_squeeze (text : Text) :
    dropLeadingSpace (squeeze text) = squeezeAfter true text := by
  cases text with
  | nil => rfl
  | cons character rest =>
      cases spacing : isSpacing character with
      | true => simp [squeeze, squeezeAfter, spacing, dropLeadingSpace]
      | false =>
          have different := ne_space_of_not_isSpacing spacing
          simp [squeeze, squeezeAfter, spacing, dropLeadingSpace, different]

/-- Nothing is left of spacing after spacing. -/
theorem squeezeAfter_eq_nil {text : Text} (all : ∀ character ∈ text, isSpacing character = true) :
    squeezeAfter true text = [] := by
  induction text with
  | nil => rfl
  | cons character rest ih =>
      rw [List.forall_mem_cons] at all
      simpa [squeezeAfter, all.1] using ih all.2

theorem endsInRun_of_squeezeAfter_eq_nil {inRun : Bool} {text : Text}
    (nothing : squeezeAfter inRun text = []) : endsInRun inRun text = inRun := by
  induction text with
  | nil => rfl
  | cons character rest ih =>
      cases spacing : isSpacing character with
      | true =>
          cases inRun with
          | true => simpa [endsInRun, spacing] using ih (by simpa [squeezeAfter, spacing] using nothing)
          | false => simp [squeezeAfter, spacing] at nothing
      | false => simp [squeezeAfter, spacing] at nothing

theorem endsWithSpace_cons {character : Char} {rest : Text} (nonempty : rest ≠ []) :
    endsWithSpace (character :: rest) = endsWithSpace rest := by
  cases shape : rest.reverse with
  | nil => exact absurd (List.reverse_eq_nil_iff.1 shape) nonempty
  | cons last others =>
      rw [endsWithSpace, endsWithSpace, List.reverse_cons, shape, List.cons_append]
      by_cases space : last = ' ' <;> simp [startsWithSpace, space]

/-- What is left of a text shows whether the text ends in a run. -/
theorem endsWithSpace_squeezeAfter {inRun : Bool} {text : Text}
    (nonempty : squeezeAfter inRun text ≠ []) :
    endsWithSpace (squeezeAfter inRun text) = endsInRun inRun text := by
  induction text generalizing inRun with
  | nil => exact absurd rfl nonempty
  | cons character rest ih =>
      have further : ∀ first inRun', squeezeAfter inRun (character :: rest) =
          first :: squeezeAfter inRun' rest → inRun' = isSpacing character →
          endsWithSpace [first] = inRun' →
            endsWithSpace (squeezeAfter inRun (character :: rest)) =
              endsInRun inRun (character :: rest) := by
        rintro first _ shape rfl alone
        rw [shape, endsInRun]
        by_cases nothing : squeezeAfter (isSpacing character) rest = []
        · rw [nothing, alone, endsInRun_of_squeezeAfter_eq_nil nothing]
        · rw [endsWithSpace_cons nothing, ih nothing]
      cases spacing : isSpacing character with
      | true =>
          cases inRun with
          | true =>
              have shape : squeezeAfter true (character :: rest) = squeezeAfter true rest := by
                simp [squeezeAfter, spacing]
              rw [shape] at nonempty ⊢
              rw [ih nonempty, endsInRun, spacing]
          | false =>
              exact further ' ' true (by simp [squeezeAfter, spacing]) spacing.symm rfl
      | false =>
          have different := ne_space_of_not_isSpacing spacing
          refine further character false (by simp [squeezeAfter, spacing]) spacing.symm ?_
          simp [endsWithSpace, startsWithSpace, different]

theorem dropTrailingSpace_append {left right : Text} (nonempty : right ≠ []) :
    dropTrailingSpace (left ++ right) = left ++ dropTrailingSpace right := by
  cases shape : right.reverse with
  | nil => exact absurd (List.reverse_eq_nil_iff.1 shape) nonempty
  | cons last others =>
      by_cases space : last = ' '
      · simp [dropTrailingSpace, shape, dropLeadingSpace, space]
      · simp [dropTrailingSpace, shape, dropLeadingSpace, space]

/-- Only a space at the end is dropped. -/
theorem exists_dropTrailingSpace (text : Text) :
    ∃ tail, text = dropTrailingSpace text ++ tail := by
  rcases List.eq_nil_or_concat' text with rfl | ⟨before, last, rfl⟩
  · exact ⟨[], rfl⟩
  · by_cases space : last = ' '
    · subst space
      exact ⟨[' '], by simp [dropTrailingSpace, dropLeadingSpace]⟩
    · exact ⟨[], by simp [dropTrailingSpace, dropLeadingSpace, space]⟩

/-! ## Solid characters -/

/-- The text without its spacing. -/
def solid (text : Text) : Text :=
  text.filter fun character => !isSpacing character

theorem solid_eq_nil_iff {text : Text} :
    solid text = [] ↔ ∀ character ∈ text, isSpacing character = true := by
  simp [solid]

theorem solid_squeezeAfter (inRun : Bool) (text : Text) :
    solid (squeezeAfter inRun text) = solid text := by
  induction text generalizing inRun with
  | nil => rfl
  | cons character rest ih =>
      cases spacing : isSpacing character with
      | true =>
          have space : isSpacing ' ' = true := rfl
          cases inRun <;> simpa [squeezeAfter, solid, spacing, space] using ih true
      | false => simpa [squeezeAfter, solid, spacing] using ih false

theorem solid_dropLeadingSpace (text : Text) : solid (dropLeadingSpace text) = solid text := by
  unfold dropLeadingSpace
  split <;> rfl

theorem solid_dropTrailingSpace (text : Text) : solid (dropTrailingSpace text) = solid text := by
  have backward := solid_dropLeadingSpace text.reverse
  rw [solid, solid, List.filter_reverse] at backward
  rw [dropTrailingSpace, solid, List.filter_reverse, backward, List.reverse_reverse, solid]

/-! ## Normal texts -/

/-- Every run of spacing becomes one space, and none is left at the edges. -/
def normal (text : Text) : Text :=
  dropTrailingSpace (dropLeadingSpace (squeeze text))

theorem normal_eq (text : Text) : normal text = dropTrailingSpace (squeezeAfter true text) := by
  rw [normal, dropLeadingSpace_squeeze]

/-- The two characters are not both spacing. -/
def Apart (left right : Char) : Prop :=
  isSpacing left = false ∨ isSpacing right = false

structure IsNormal (text : Text) : Prop where
  start : startsWithSpacing text = false
  finish : endsWithSpacing text = false
  single : text.IsChain Apart

/-- All spacing is single spaces. -/
structure IsSqueezed (text : Text) : Prop where
  spaces : ∀ character ∈ text, isSpacing character = true → character = ' '
  single : text.IsChain Apart

theorem startsWithSpacing_squeezeAfter (text : Text) :
    startsWithSpacing (squeezeAfter true text) = false := by
  induction text with
  | nil => rfl
  | cons character rest ih =>
      cases spacing : isSpacing character with
      | true => simpa [squeezeAfter, spacing] using ih
      | false => simp [squeezeAfter, spacing, startsWithSpacing]

theorem isSqueezed_squeezeAfter (inRun : Bool) (text : Text) :
    IsSqueezed (squeezeAfter inRun text) := by
  induction text generalizing inRun with
  | nil => exact ⟨by simp [squeezeAfter], .nil⟩
  | cons character rest ih =>
      cases spacing : isSpacing character with
      | true =>
          cases inRun with
          | true => simpa [squeezeAfter, spacing] using ih true
          | false =>
              have shape : squeezeAfter false (character :: rest) =
                  ' ' :: squeezeAfter true rest := by
                simp [squeezeAfter, spacing]
              have start := startsWithSpacing_squeezeAfter rest
              rw [shape]
              refine ⟨by simpa using (ih true).spaces, ?_⟩
              refine List.isChain_cons.2 ⟨fun next first => .inr ?_, (ih true).single⟩
              cases others : squeezeAfter true rest with
              | nil => simp [others] at first
              | cons head tail =>
                  rw [others] at first start
                  cases first
                  exact start
      | false =>
          have shape : squeezeAfter inRun (character :: rest) =
              character :: squeezeAfter false rest := by
            simp [squeezeAfter, spacing]
          rw [shape]
          refine ⟨by simpa [spacing] using (ih false).spaces, ?_⟩
          exact List.isChain_cons.2 ⟨fun _ _ => .inl spacing, (ih false).single⟩

/-- Of a squeezed text only the space at its end can be in the way. -/
theorem IsSqueezed.endsWithSpacing_dropTrailingSpace {text : Text} (squeezed : IsSqueezed text) :
    endsWithSpacing (dropTrailingSpace text) = false := by
  have ending (before : Text) (last : Char) :
      endsWithSpacing (before ++ [last]) = isSpacing last := by
    simp [endsWithSpacing, startsWithSpacing]
  rcases List.eq_nil_or_concat' text with rfl | ⟨before, last, rfl⟩
  · rfl
  · by_cases space : last = ' '
    · subst space
      have rest : dropTrailingSpace (before ++ [' ']) = before := by
        simp [dropTrailingSpace, dropLeadingSpace]
      rw [rest]
      rcases List.eq_nil_or_concat' before with rfl | ⟨front, final, rfl⟩
      · rfl
      · have apart := (List.isChain_append.1 squeezed.single).2.2 final (by simp) ' ' rfl
        rw [ending]
        exact apart.resolve_right (by decide)
    · have same : dropTrailingSpace (before ++ [last]) = before ++ [last] := by
        simp [dropTrailingSpace, dropLeadingSpace, space]
      rw [same, ending, ← Bool.not_eq_true]
      exact fun spacing => space (squeezed.spaces last (by simp) spacing)

theorem IsSqueezed.isNormal {text : Text} (squeezed : IsSqueezed text)
    (start : startsWithSpacing text = false) : IsNormal (dropTrailingSpace text) := by
  obtain ⟨tail, whole⟩ := exists_dropTrailingSpace text
  have single := squeezed.single
  rw [whole] at start single
  refine ⟨?_, squeezed.endsWithSpacing_dropTrailingSpace, (List.isChain_append.1 single).1⟩
  by_cases nothing : dropTrailingSpace text = []
  · rw [nothing]
    rfl
  · rwa [startsWithSpacing_append _ nothing] at start

theorem IsSqueezed.mono {text part : Text} (squeezed : IsSqueezed text)
    (within : part <:+: text) : IsSqueezed part :=
  ⟨fun character member => squeezed.spaces character (within.subset member),
    squeezed.single.infix within⟩

theorem isSqueezed_normal (text : Text) : IsSqueezed (normal text) := by
  obtain ⟨tail, whole⟩ := exists_dropTrailingSpace (squeezeAfter true text)
  rw [normal_eq]
  refine (isSqueezed_squeezeAfter true text).mono ?_
  exact ⟨[], tail, whole.symm⟩

/-- There is no spacing on both sides of a joint. -/
theorem IsSqueezed.not_both {left right : Text} (squeezed : IsSqueezed (left ++ right))
    (ends : endsWithSpacing left = true) : startsWithSpacing right = false := by
  cases right with
  | nil => rfl
  | cons next later =>
      rcases List.eq_nil_or_concat' left with rfl | ⟨before, last, rfl⟩
      · cases ends
      · have spacing : isSpacing last = true := by simpa [endsWithSpacing, startsWithSpacing] using ends
        have apart := (List.isChain_append.1 squeezed.single).2.2 last (by simp) next rfl
        exact apart.resolve_left (by simp [spacing])

theorem isNormal_normal (text : Text) : IsNormal (normal text) := by
  rw [normal_eq]
  exact (isSqueezed_squeezeAfter true text).isNormal (startsWithSpacing_squeezeAfter text)

end Text

/-! ## Shortened texts -/

theorem Gap.shorten_eq (gap : Gap) (content : Text) :
    gap.shorten content = Text.squeezeAfter gap.dropsLeadingSpace content := by
  rw [Gap.shorten]
  cases gap.dropsLeadingSpace with
  | true => exact Text.dropLeadingSpace_squeeze content
  | false => rfl

theorem Gap.shorten_nil (gap : Gap) : gap.shorten [] = [] := by
  rw [gap.shorten_eq]
  rfl

theorem Gap.solid_shorten (gap : Gap) (content : Text) :
    Text.solid (gap.shorten content) = Text.solid content := by
  rw [Gap.shorten_eq, Text.solid_squeezeAfter]

theorem Edge.solid_shorten (edge : Edge) (content : Text) :
    Text.solid (edge.shorten content) = Text.solid content := by
  cases edge with
  | inline => rfl
  | boundary => exact Text.solid_dropTrailingSpace content
  | finish => exact Text.solid_dropTrailingSpace content

end PageMark
