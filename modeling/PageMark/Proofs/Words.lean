import Mathlib.Data.List.TakeWhile
import PageMark.Conversion.Flanking
import PageMark.Proofs.Visible

/-!
# Words

Two texts are alike if they are the same once every run of spacing is one space.
Texts that are alike have the same words, and putting texts together keeps them
alike.  What trimming takes off an edge is alike to the space that padding puts
there, and cleaning up keeps the words before white space at the end.
-/

namespace PageMark.Text

/-- The words of a text are its pieces between spacing. -/
def wordsOf (text : Text) : List Text :=
  pieces isSpacing text

/-- The same up to the characters and the number of characters in runs of spacing. -/
def Alike (left right : Text) : Prop :=
  squeeze left = squeeze right

/-! ## Words of squeezed texts -/

theorem startsWithSpacing_squeezeAfter_false (text : Text) :
    startsWithSpacing (squeezeAfter false text) = startsWithSpacing text := by
  cases text with
  | nil => rfl
  | cons character rest =>
      have space : isSpacing ' ' = true := rfl
      cases spacing : isSpacing character <;>
        simp [squeezeAfter, spacing, startsWithSpacing, space]

theorem squeezeAfter_false_eq_nil_iff {text : Text} : squeezeAfter false text = [] ↔ text = [] := by
  cases text with
  | nil => simp [squeezeAfter]
  | cons character rest => cases spacing : isSpacing character <;> simp [squeezeAfter, spacing]

/-- Of what comes after a character of a word only two things matter. -/
theorem pieces_cons_congr {character : Char} (solid : isSpacing character = false)
    {rest rest' : Text} (pieces' : pieces isSpacing rest = pieces isSpacing rest')
    (starts : startsWithSpacing rest = startsWithSpacing rest') :
    pieces isSpacing (character :: rest) = pieces isSpacing (character :: rest') := by
  have gap (text : Text) : text.head?.any isSpacing = startsWithSpacing text := by
    cases text <;> rfl
  rw [pieces_cons_of_solid solid, pieces_cons_of_solid solid, pieces', gap, gap, starts]

theorem pieces_squeezeAfter (inRun : Bool) (text : Text) :
    pieces isSpacing (squeezeAfter inRun text) = pieces isSpacing text := by
  induction text generalizing inRun with
  | nil => rfl
  | cons character rest ih =>
      have space : isSpacing ' ' = true := rfl
      cases spacing : isSpacing character with
      | true => cases inRun <;> simp [squeezeAfter, spacing, pieces, space, ih]
      | false =>
          have shape : squeezeAfter inRun (character :: rest) =
              character :: squeezeAfter false rest := by
            simp [squeezeAfter, spacing]
          rw [shape]
          exact pieces_cons_congr spacing (ih false) (startsWithSpacing_squeezeAfter_false rest)

theorem wordsOf_squeezeAfter (inRun : Bool) (text : Text) :
    wordsOf (squeezeAfter inRun text) = wordsOf text :=
  pieces_squeezeAfter inRun text

/-! ## Edges of squeezed texts -/

theorem endsInRun_append (inRun : Bool) (left right : Text) :
    endsInRun inRun (left ++ right) = endsInRun (endsInRun inRun left) right := by
  induction left generalizing inRun with
  | nil => rfl
  | cons character rest ih => exact ih (isSpacing character)

theorem endsWithSpacing_snoc (text : Text) (last : Char) :
    endsWithSpacing (text ++ [last]) = isSpacing last := by
  simp [endsWithSpacing, startsWithSpacing]

theorem endsWithSpacing_append (left : Text) {right : Text} (nonempty : right ≠ []) :
    endsWithSpacing (left ++ right) = endsWithSpacing right := by
  rw [endsWithSpacing, List.reverse_append, startsWithSpacing_append]
  · rfl
  · exact fun empty => nonempty (List.reverse_eq_nil_iff.1 empty)

theorem endsInRun_eq (text : Text) : endsInRun false text = endsWithSpacing text := by
  rcases List.eq_nil_or_concat' text with rfl | ⟨before, last, rfl⟩
  · rfl
  · rw [endsInRun_append, endsWithSpacing_snoc]
    rfl

theorem endsWithSpacing_eq (text : Text) :
    endsWithSpacing text = endsWithSpace (squeeze text) := by
  rw [← endsInRun_eq]
  by_cases nothing : squeeze text = []
  · rw [nothing, endsInRun_of_squeezeAfter_eq_nil nothing]
    rfl
  · exact (endsWithSpace_squeezeAfter nothing).symm

theorem isAllBlank_squeeze (text : Text) : isAllBlank (squeeze text) = isAllBlank text :=
  isAllBlank_eq_of_visible (visible_eq_of_solid (solid_squeezeAfter false text))

/-! ## Alike texts -/

namespace Alike

variable {left left' right right' : Text}

theorem refl (text : Text) : Alike text text :=
  rfl

theorem symm (alike : Alike left right) : Alike right left :=
  Eq.symm alike

theorem trans (alike : Alike left right) (alike' : Alike right right') : Alike left right' :=
  Eq.trans alike alike'

theorem wordsOf (alike : Alike left right) : Text.wordsOf left = Text.wordsOf right := by
  rw [← wordsOf_squeezeAfter false left, ← wordsOf_squeezeAfter false right]
  exact congrArg Text.wordsOf alike

theorem startsWithSpacing (alike : Alike left right) :
    left.startsWithSpacing = right.startsWithSpacing := by
  rw [← startsWithSpacing_squeezeAfter_false left, ← startsWithSpacing_squeezeAfter_false right]
  exact congrArg Text.startsWithSpacing alike

theorem endsWithSpacing (alike : Alike left right) :
    left.endsWithSpacing = right.endsWithSpacing := by
  rw [endsWithSpacing_eq, endsWithSpacing_eq, alike]

theorem isAllBlank (alike : Alike left right) : left.isAllBlank = right.isAllBlank := by
  rw [← isAllBlank_squeeze left, ← isAllBlank_squeeze right, alike]

theorem all_isSpacing (alike : Alike left right) :
    left.all isSpacing = right.all isSpacing := by
  have same : solid left = solid right := by
    rw [← solid_squeezeAfter false left, ← solid_squeezeAfter false right]
    exact congrArg solid alike
  rw [Bool.eq_iff_iff, List.all_eq_true, List.all_eq_true, ← solid_eq_nil_iff, same,
    solid_eq_nil_iff]

theorem squeezeAfter (inRun : Bool) (alike : Alike left right) :
    Text.squeezeAfter inRun left = Text.squeezeAfter inRun right := by
  cases inRun with
  | false => exact alike
  | true => rw [← dropLeadingSpace_squeeze, ← dropLeadingSpace_squeeze, alike]

theorem append (alike : Alike left left') (alike' : Alike right right') :
    Alike (left ++ right) (left' ++ right') := by
  rw [Alike, squeeze, squeeze, squeezeAfter_append, squeezeAfter_append, endsInRun_eq,
    endsInRun_eq, alike.endsWithSpacing, alike'.squeezeAfter]
  exact congrArg (· ++ _) alike

end Alike

/-! ## Dropping at the edges -/

theorem squeezeAfter_dropWhile (text : Text) :
    squeezeAfter true (text.dropWhile isSpacing) = squeezeAfter true text := by
  induction text with
  | nil => rfl
  | cons character rest ih =>
      cases spacing : isSpacing character <;> simp [squeezeAfter, spacing, ih]

theorem squeeze_dropWhile (text : Text) :
    squeeze (text.dropWhile isSpacing) = squeezeAfter true text := by
  have start := startsWithSpacing_dropWhile text
  rw [← squeezeAfter_dropWhile text]
  cases shape : text.dropWhile isSpacing with
  | nil => rfl
  | cons first rest =>
      rw [shape] at start
      have solid : isSpacing first = false := start
      simp [squeeze, squeezeAfter, solid]

theorem Alike.dropWhile {left right : Text} (alike : Alike left right) :
    Alike (left.dropWhile isSpacing) (right.dropWhile isSpacing) := by
  rw [Alike, squeeze_dropWhile, squeeze_dropWhile, alike.squeezeAfter]

section Trailing

variable {condition : Char → Bool}

theorem exists_dropped (condition : Char → Bool) (text : Text) :
    ∃ tail, text = dropTrailing condition text ++ tail ∧
      ∀ character ∈ tail, condition character = true := by
  refine ⟨(text.reverse.takeWhile condition).reverse, ?_, fun character member => ?_⟩
  · rw [dropTrailing, ← List.reverse_append, List.takeWhile_append_dropWhile, List.reverse_reverse]
  · exact List.mem_takeWhile_imp (List.mem_reverse.1 member)

theorem dropTrailing_append_of_all {tail : Text}
    (all : ∀ character ∈ tail, condition character = true) (text : Text) :
    dropTrailing condition (text ++ tail) = dropTrailing condition text := by
  rw [dropTrailing, List.reverse_append, List.dropWhile_append_of_pos, dropTrailing]
  exact fun character member => all character (List.mem_reverse.1 member)

theorem dropTrailing_snoc_of_not {last : Char} (other : condition last = false) (text : Text) :
    dropTrailing condition (text ++ [last]) = text ++ [last] := by
  simp [dropTrailing, other]

/-- What is dropped at the end reaches to the left only if nothing is in the way. -/
theorem dropTrailing_append {right : Text} (kept : dropTrailing condition right ≠ [])
    (left : Text) :
    dropTrailing condition (left ++ right) = left ++ dropTrailing condition right := by
  have some : (right.reverse.dropWhile condition).isEmpty = false := by
    rw [Bool.eq_false_iff, ne_eq, List.isEmpty_iff]
    exact fun none => kept (by rw [dropTrailing, none, List.reverse_nil])
  rw [dropTrailing, List.reverse_append, List.dropWhile_append, some, if_neg Bool.false_ne_true,
    List.reverse_append, List.reverse_reverse, dropTrailing]

variable (spacing : ∀ character, isSpacing character = true → condition character = true)

include spacing

/-- Squeezing leaves the same end to be dropped, if that takes in all spacing. -/
theorem dropTrailing_squeezeAfter (inRun : Bool) (text : Text) :
    dropTrailing condition (squeezeAfter inRun text) =
      squeezeAfter inRun (dropTrailing condition text) := by
  induction text using List.reverseRecOn with
  | nil => rfl
  | append_singleton before last ih =>
      rw [squeezeAfter_append]
      cases drops : condition last with
      | true =>
          have all : ∀ character ∈ squeezeAfter (endsInRun inRun before) [last],
              condition character = true := by
            have space : condition ' ' = true := spacing ' ' rfl
            cases isSpace : isSpacing last <;> cases endsInRun inRun before <;>
              simp [squeezeAfter, isSpace, drops, space]
          rw [dropTrailing_append_of_all all, ih, dropTrailing_append_of_all (by simp [drops])]
      | false =>
          have solid : isSpacing last = false := by
            cases isSpace : isSpacing last with
            | false => rfl
            | true => rw [spacing last isSpace] at drops; cases drops
          have kept : squeezeAfter (endsInRun inRun before) [last] = [last] := by
            simp [squeezeAfter, solid]
          rw [kept, dropTrailing_snoc_of_not drops, dropTrailing_snoc_of_not drops,
            squeezeAfter_append, kept]

theorem Alike.dropTrailing {left right : Text} (alike : Alike left right) :
    Alike (left.dropTrailing condition) (right.dropTrailing condition) := by
  rw [Alike, squeeze, squeeze, ← dropTrailing_squeezeAfter spacing,
    ← dropTrailing_squeezeAfter spacing]
  exact congrArg _ alike

end Trailing

/-! ## Padding -/

/-- Runs of spacing are alike if they are not empty. -/
theorem alike_of_all_spacing {left right : Text}
    (all : ∀ character ∈ left, isSpacing character = true)
    (all' : ∀ character ∈ right, isSpacing character = true) (empty : left = [] ↔ right = []) :
    Alike left right := by
  have one : ∀ text : Text, (∀ character ∈ text, isSpacing character = true) → text ≠ [] →
      squeeze text = [' '] := by
    intro text all nonempty
    obtain ⟨first, rest, rfl⟩ := List.exists_cons_of_ne_nil nonempty
    rw [List.forall_mem_cons] at all
    simp [squeeze, squeezeAfter, all.1, squeezeAfter_eq_nil all.2]
  by_cases nothing : left = []
  · rw [nothing, empty.1 nothing]
    exact .refl _
  · rw [Alike, one left all nothing, one right all' fun none => nothing (empty.2 none)]

theorem eq_space_of_mem {present : Bool} {character : Char}
    (member : character ∈ Flanking.space present) : character = ' ' := by
  cases present with
  | true => exact List.mem_singleton.1 member
  | false => cases member

/-- A run of spacing is alike to one space. -/
theorem alike_space {run : Text} (all : ∀ character ∈ run, isSpacing character = true)
    (nonempty : run ≠ []) : Alike (Flanking.space true) run := by
  refine alike_of_all_spacing (fun character member => ?_) all ⟨fun none => ?_, fun none => ?_⟩
  · rw [eq_space_of_mem member]
    rfl
  · cases none
  · exact absurd none nonempty

theorem alike_space_front {front rest : Text}
    (all : ∀ character ∈ front, isSpacing character = true)
    (solid : startsWithSpacing rest = false) :
    Alike (Flanking.space (startsWithSpacing (front ++ rest))) front := by
  cases front with
  | nil =>
      rw [List.nil_append, solid]
      exact .refl []
  | cons first others =>
      have spacing : startsWithSpacing (first :: others ++ rest) = true :=
        all first List.mem_cons_self
      rw [spacing]
      exact alike_space all (List.cons_ne_nil first others)

theorem alike_space_back {rest back : Text}
    (all : ∀ character ∈ back, isSpacing character = true)
    (solid : endsWithSpacing rest = false) :
    Alike (Flanking.space (endsWithSpacing (rest ++ back))) back := by
  rcases List.eq_nil_or_concat' back with rfl | ⟨others, last, rfl⟩
  · rw [List.append_nil, solid]
    exact .refl []
  · have spacing : isSpacing last = true := all last (by simp)
    rw [← List.append_assoc, endsWithSpacing_snoc, spacing]
    exact alike_space all (by simp)

/-- What trimming takes off on either side of a text comes to one space if it is
something. -/
theorem exists_margins {text : Text} (notAll : text.all isSpacing = false) :
    ∃ front back,
      text = front ++ trimSpacing text ++ back ∧
      text.dropWhile isSpacing = trimSpacing text ++ back ∧
      text.dropTrailing isSpacing = front ++ trimSpacing text ∧
      Alike (Flanking.space text.startsWithSpacing) front ∧
      Alike (Flanking.space text.endsWithSpacing) back := by
  obtain ⟨back, inside, backSpacing⟩ := exists_dropped isSpacing (text.dropWhile isSpacing)
  have frontSpacing : ∀ character ∈ text.takeWhile isSpacing, isSpacing character = true :=
    fun _ member => List.mem_takeWhile_imp member
  have whole : text = text.takeWhile isSpacing ++ text.dropWhile isSpacing :=
    List.takeWhile_append_dropWhile.symm
  change text.dropWhile isSpacing = trimSpacing text ++ back at inside
  have same : dropTrailing isSpacing (trimSpacing text) = trimSpacing text := by
    rw [← dropTrailing_append_of_all backSpacing, ← inside]
    rfl
  have nonempty : trimSpacing text ≠ [] := by
    intro none
    rw [none, List.nil_append] at inside
    rw [List.all_eq_false] at notAll
    obtain ⟨character, member, solid⟩ := notAll
    rw [whole, inside, List.mem_append] at member
    exact solid (member.elim (frontSpacing character) (backSpacing character))
  refine ⟨text.takeWhile isSpacing, back, ?_, inside, ?_, ?_, ?_⟩
  · rw [List.append_assoc, ← inside, ← whole]
  · conv_lhs => rw [whole, inside]
    rw [← List.append_assoc, dropTrailing_append_of_all backSpacing,
      dropTrailing_append (same.symm ▸ nonempty), same]
  · have front := alike_space_front frontSpacing (startsWithSpacing_dropWhile text)
    rwa [← whole] at front
  · have solid : endsWithSpacing (text.takeWhile isSpacing ++ trimSpacing text) = false := by
      rw [endsWithSpacing_append _ nonempty, endsWithSpacing_trimSpacing]
    have behind := alike_space_back backSpacing solid
    rwa [List.append_assoc, ← inside, ← whole] at behind

/-! ## Cleaning up lines -/

theorem squeezeAfter_capBreaksAfter {count : Nat} {inRun : Bool}
    (counted : 0 < count → inRun = true) (text : Text) :
    squeezeAfter inRun (capBreaksAfter count text) = squeezeAfter inRun text := by
  have feed : isSpacing '\n' = true := rfl
  fun_induction capBreaksAfter count text generalizing inRun with
  | case1 count => rfl
  | case2 count rest fits ih =>
      cases inRun <;> simp [squeezeAfter, feed, ih]
  | case3 count rest full ih =>
      have known : inRun = true := counted (by omega)
      rw [ih counted, known]
      simp [squeezeAfter, feed]
  | case4 count character rest other ih =>
      cases spacing : isSpacing character <;> cases inRun <;> simp [squeezeAfter, spacing, ih]

theorem alike_capBreaks (text : Text) : Alike (capBreaks text) text :=
  squeezeAfter_capBreaksAfter (fun positive => absurd positive (Nat.lt_irrefl 0)) text

theorem settleRun_of_not_mem {run : Text} (noBreak : '\n' ∉ run) : settleRun run = run := by
  have nothing : run.dropWhile (· != '\n') = [] := by
    rw [← List.append_nil run, List.dropWhile_append_of_pos]
    · rfl
    · intro character member
      simp only [bne_iff_ne, ne_eq]
      rintro rfl
      exact noBreak member
  rw [settleRun, nothing]
  exact if_pos (by decide)

theorem alike_settleRun {run : Text} (all : ∀ character ∈ run, isSpacing character = true) :
    Alike (settleRun run) run := by
  rw [settleRun]
  split
  · exact .refl run
  · next long =>
      refine alike_of_all_spacing ?_ all ⟨fun none => ?_, fun none => ?_⟩
      · intro character member
        rcases List.mem_append.1 member with inFront | inBack
        · exact all character (List.takeWhile_sublist _ |>.mem inFront)
        · simp only [List.mem_cons] at inBack
          rcases inBack with rfl | rfl | inTail
          · rfl
          · rfl
          · rw [afterLastBreak, List.mem_reverse] at inTail
            have inside := (List.takeWhile_sublist _).mem inTail
            rw [List.mem_reverse] at inside
            exact all character ((List.dropWhile_sublist _).mem inside)
      · simp at none
      · rw [none] at long
        exact absurd (by decide) long

/-- There is no line feed, or no white space but spacing. -/
def HasPlainLines (text : Text) : Prop :=
  '\n' ∉ text ∨ ∀ character ∈ text, isBlank character = true → isSpacing character = true

theorem HasPlainLines.mono {part whole : Text} (plain : whole.HasPlainLines)
    (subset : part ⊆ whole) : part.HasPlainLines := by
  rcases plain with noBreak | spacing
  · exact .inl fun member => noBreak (subset member)
  · exact .inr fun character member => spacing character (subset member)

theorem alike_settleRun_of_plain {run : Text} (plain : run.HasPlainLines)
    (blank : ∀ character ∈ run, isBlank character = true) : Alike (settleRun run) run := by
  rcases plain with noBreak | spacing
  · rw [settleRun_of_not_mem noBreak]
    exact .refl run
  · exact alike_settleRun fun character member => spacing character member (blank character member)

theorem alike_settleRuns (run : Text) {text : Text} (plain : HasPlainLines (run.reverse ++ text))
    (blank : ∀ character ∈ run, isBlank character = true) :
    Alike (settleRuns run text) (run.reverse ++ text) := by
  have settled {run : Text} {text : Text} (plain : HasPlainLines (run.reverse ++ text))
      (blank : ∀ character ∈ run, isBlank character = true) :
      Alike (settleRun run.reverse) run.reverse :=
    alike_settleRun_of_plain (plain.mono (List.subset_append_left _ text))
      fun character member => blank character (List.mem_reverse.1 member)
  induction text generalizing run with
  | nil =>
      rw [settleRuns]
      simpa using settled plain blank
  | cons character rest ih =>
      have front : (character :: run).reverse ++ rest = run.reverse ++ character :: rest := by simp
      rw [settleRuns]
      split
      · next isBlank =>
          rw [← front] at plain ⊢
          exact ih _ plain (List.forall_mem_cons.2 ⟨isBlank, blank⟩)
      · refine (settled plain blank).append ((Alike.refl [character]).append ?_)
        refine ih [] (plain.mono ?_) fun _ member => absurd member List.not_mem_nil
        exact fun other member =>
          List.mem_append_right _ (List.mem_cons_of_mem character member)

/-! ## Cleaning up edges -/

theorem wordsOf_append_of_spacing {spaces : Text}
    (all : ∀ character ∈ spaces, isSpacing character = true) (text : Text) :
    wordsOf (spaces ++ text) = wordsOf text := by
  induction spaces with
  | nil => rfl
  | cons character rest ih =>
      rw [List.forall_mem_cons] at all
      simpa [wordsOf, pieces, all.1] using ih all.2

theorem wordsOf_stripEdges (text : Text) :
    wordsOf (stripEdges text) = wordsOf (dropTrailing isBlank text) := by
  let layout (character : Char) : Bool :=
    character == '\t' || character == '\r' || character == '\n'
  have spacing : ∀ character ∈ text.takeWhile layout, isSpacing character = true := by
    intro character member
    have isLayout := List.mem_takeWhile_imp member
    simp only [layout, Bool.or_eq_true, beq_iff_eq] at isLayout
    rcases isLayout with (rfl | rfl) | rfl <;> rfl
  have whole : text.takeWhile layout ++ text.dropWhile layout = text :=
    List.takeWhile_append_dropWhile
  change wordsOf (dropTrailing isBlank (text.dropWhile layout)) = _
  rw [← congrArg (dropTrailing isBlank) whole]
  by_cases nothing : dropTrailing isBlank (text.dropWhile layout) = []
  · obtain ⟨tail, same, blank⟩ := exists_dropped isBlank (text.dropWhile layout)
    rw [nothing, List.nil_append] at same
    have blankFront : ∀ character ∈ text.takeWhile layout, isBlank character = true :=
      fun character member => isBlank_of_isSpacing (spacing character member)
    have front : dropTrailing isBlank ([] ++ text.takeWhile layout) = dropTrailing isBlank [] :=
      dropTrailing_append_of_all blankFront []
    rw [nothing, dropTrailing_append_of_all (same ▸ blank)]
    exact congrArg wordsOf front.symm
  · rw [dropTrailing_append nothing, wordsOf_append_of_spacing spacing]

/-- Cleaning up keeps the words that come before trailing white space. -/
theorem wordsOf_cleanUp {text : Text} (plain : text.HasPlainLines) :
    wordsOf (cleanUp text) = wordsOf (dropTrailing isBlank text) := by
  have strip : stripEdges text ⊆ text := by
    obtain ⟨tail, whole, -⟩ := exists_dropped isBlank
      (text.dropWhile fun character => character == '\t' || character == '\r' || character == '\n')
    intro character member
    exact (List.dropWhile_sublist _).mem (whole ▸ List.mem_append_left tail member)
  have settled : Alike (emptyBlankLines (stripEdges text)) (stripEdges text) :=
    alike_settleRuns [] (plain.mono strip) fun _ member => absurd member List.not_mem_nil
  rw [cleanUp, ← wordsOf_stripEdges, (alike_capBreaks _).wordsOf, settled.wordsOf]

/-! ## Normal texts -/

theorem dropTrailing_dropTrailingSpace (text : Text) :
    dropTrailing isBlank (dropTrailingSpace text) = dropTrailing isBlank text := by
  have space : isBlank ' ' = true := rfl
  rw [dropTrailing, dropTrailing, dropTrailingSpace, List.reverse_reverse]
  unfold dropLeadingSpace
  split
  · next shape => rw [shape, List.dropWhile_cons_of_pos space]
  · rfl

theorem wordsOf_dropTrailing_normal (text : Text) :
    wordsOf (dropTrailing isBlank (normal text)) = wordsOf (dropTrailing isBlank text) := by
  rw [normal_eq, dropTrailing_dropTrailingSpace,
    dropTrailing_squeezeAfter fun _ => isBlank_of_isSpacing, wordsOf_squeezeAfter]

theorem hasPlainLines_normal (text : Text) : (normal text).HasPlainLines := by
  refine .inl fun member => ?_
  rw [normal_eq, dropTrailingSpace, List.mem_reverse] at member
  have inside : '\n' ∈ (squeezeAfter true text).reverse := by
    revert member
    unfold dropLeadingSpace
    split
    · next shape =>
        intro member
        rw [shape]
        exact List.mem_cons_of_mem _ member
    · exact id
  have single := (isSqueezed_squeezeAfter true text).spaces _ (List.mem_reverse.1 inside) rfl
  cases single

/-! ## Padding on one side -/

/-- What is left of a text that is trimmed on both sides and has a space put back on these: a
text with a space on one side only loses its spacing on the other, unless it is nothing but
spacing. -/
def keptBetween (leading trailing : Bool) (text : Text) : Text :=
  if leading == trailing || text.all isSpacing then text
  else if leading then text.dropTrailing isSpacing
  else text.dropWhile isSpacing

theorem visible_keptBetween (leading trailing : Bool) (text : Text) :
    visible (text.keptBetween leading trailing) = visible text := by
  rw [keptBetween]
  split
  · rfl
  · split
    · exact visible_dropTrailing (fun _ => isBlank_of_isSpacing) text
    · exact visible_dropWhile (fun _ => isBlank_of_isSpacing) text

theorem Alike.keptBetween (leading trailing : Bool) {left right : Text}
    (alike : Alike left right) :
    Alike (left.keptBetween leading trailing) (right.keptBetween leading trailing) := by
  rw [Text.keptBetween, Text.keptBetween, alike.all_isSpacing]
  split
  · exact alike
  · split
    · exact alike.dropTrailing fun _ => id
    · exact alike.dropWhile

/-- Spacing at an edge without a space that is put back, across from one with it. -/
def losesEdge (leading trailing : Bool) (text : Text) : Bool :=
  (leading && !trailing && text.endsWithSpacing) ||
    (trailing && !leading && text.startsWithSpacing)

theorem keptBetween_eq {leading trailing : Bool} {text : Text}
    (keeps : text.losesEdge leading trailing = false) : text.keptBetween leading trailing = text := by
  rw [keptBetween]
  split
  · rfl
  · next uneven =>
      rw [Bool.or_eq_true, not_or, beq_iff_eq] at uneven
      cases leading with
      | true =>
          have other : trailing = false := by simpa using uneven.1
          have solid : text.endsWithSpacing = false := by simpa [losesEdge, other] using keeps
          rcases List.eq_nil_or_concat' text with rfl | ⟨before, last, rfl⟩
          · rfl
          · rw [endsWithSpacing_snoc] at solid
            exact dropTrailing_snoc_of_not solid before
      | false =>
          have other : trailing = true := by simpa using uneven.1
          have solid : text.startsWithSpacing = false := by simpa [losesEdge, other] using keeps
          cases text with
          | nil => rfl
          | cons first rest =>
              have stays : isSpacing first = false := solid
              simp [stays]

end PageMark.Text

namespace PageMark.Flanking

open Text

theorem mem_around {flanking : Flanking} {text : Text} {character : Char}
    (member : character ∈ flanking.around text) : character ∈ text ∨ character = ' ' := by
  rcases List.mem_append.1 member with inFront | behind
  · rcases List.mem_append.1 inFront with before | inText
    · exact .inr (eq_space_of_mem before)
    · exact .inl inText
  · exact .inr (eq_space_of_mem behind)

theorem around_of_not_isSome {flanking : Flanking} (unpadded : ¬ flanking.isSome = true)
    (text : Text) : flanking.around text = text := by
  rw [isSome, Bool.or_eq_true, not_or] at unpadded
  rw [around, space, space, if_neg unpadded.1, if_neg unpadded.2, List.nil_append, List.append_nil]

theorem around_ne_nil {flanking : Flanking} (padded : flanking.isSome = true) (text : Text) :
    flanking.around text ≠ [] := by
  rw [isSome, Bool.or_eq_true] at padded
  rcases padded with leading | trailing
  · simp [around, space, leading]
  · simp [around, space, trailing]

/-- A text that is trimmed and padded, on no side where it has no spacing, is alike to
what its padding keeps of it. -/
theorem alike_around {flanking : Flanking} {text : Text}
    (leading : flanking.leading = true → text.startsWithSpacing = true)
    (trailing : flanking.trailing = true → text.endsWithSpacing = true) :
    Alike (flanking.around (if flanking.isSome then trimSpacing text else text))
      (text.keptBetween flanking.leading flanking.trailing) := by
  by_cases padded : flanking.isSome = true
  · rw [if_pos padded]
    cases all : text.all isSpacing with
    | true =>
        have nonempty : text ≠ [] := by
          rintro rfl
          rw [isSome, Bool.or_eq_true] at padded
          exact Bool.false_ne_true (padded.elim leading trailing)
        have spacing := List.all_eq_true.1 all
        have nothing : trimSpacing text = [] := by
          rw [trimSpacing, ← List.append_nil text, List.dropWhile_append_of_pos spacing]
          rfl
        have kept : text.keptBetween flanking.leading flanking.trailing = text := by
          simp [keptBetween, all]
        rw [kept]
        refine alike_of_all_spacing (fun character member => ?_) spacing
          ⟨fun none => absurd none (around_ne_nil padded _), fun none => absurd none nonempty⟩
        rcases mem_around member with inText | rfl
        · rw [nothing] at inText
          cases inText
        · rfl
    | false =>
        obtain ⟨front, back, whole, fromFront, toEnd, before, behind⟩ := exists_margins all
        obtain ⟨first, last⟩ := flanking
        cases first with
        | false =>
            cases last with
            | false => cases padded
            | true =>
                rw [trailing rfl] at behind
                have kept : keptBetween false true text = trimSpacing text ++ back := by
                  simp [keptBetween, all, fromFront]
                rw [kept]
                exact (Alike.refl (trimSpacing text)).append behind
        | true =>
            rw [leading rfl] at before
            cases last with
            | false =>
                have kept : keptBetween true false text = front ++ trimSpacing text := by
                  simp [keptBetween, all, toEnd]
                rw [kept, around, show space false = [] from rfl, List.append_nil]
                exact before.append (.refl (trimSpacing text))
            | true =>
                rw [trailing rfl] at behind
                have kept : keptBetween true true text = front ++ trimSpacing text ++ back := by
                  rw [← whole]
                  simp [keptBetween]
                rw [kept]
                exact (before.append (.refl (trimSpacing text))).append behind
  · have even : flanking.leading = flanking.trailing := by
      rw [isSome, Bool.or_eq_true, not_or, Bool.not_eq_true, Bool.not_eq_true] at padded
      rw [padded.1, padded.2]
    rw [if_neg padded, around_of_not_isSome padded, keptBetween, even, beq_self_eq_true, Bool.true_or,
      if_pos rfl]
    exact .refl text

end PageMark.Flanking
