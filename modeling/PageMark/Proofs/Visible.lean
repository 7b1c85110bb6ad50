import PageMark.Collapse.Basic
import PageMark.Conversion.Document
import PageMark.Proofs.Squeezing

/-!
# Visible characters

The visible characters of a text are those that are not blank.  Trimming,
squeezing and cleaning up change blanks only; margins, separators and markup put
something between the characters of a text, but leave them in their order.
-/

namespace PageMark

open scoped List

namespace Text

def visible (text : Text) : Text :=
  text.filter fun character => !isBlank character

@[simp] theorem visible_nil : visible [] = [] :=
  rfl

@[simp] theorem visible_append (left right : Text) :
    visible (left ++ right) = visible left ++ visible right :=
  List.filter_append left right

theorem visible_cons_of_blank {character : Char} (blank : isBlank character = true)
    (rest : Text) : visible (character :: rest) = visible rest := by
  simp [visible, blank]

theorem visible_cons (character : Char) (rest : Text) :
    visible (character :: rest) = visible [character] ++ visible rest :=
  visible_append [character] rest

theorem visible_reverse (text : Text) : visible text.reverse = (visible text).reverse :=
  List.filter_reverse

theorem visible_eq_nil_iff {text : Text} : visible text = [] ↔ isAllBlank text = true := by
  simp [visible, isAllBlank]

theorem isAllBlank_eq_of_visible {left right : Text} (same : visible left = visible right) :
    isAllBlank left = isAllBlank right := by
  rw [Bool.eq_iff_iff, ← visible_eq_nil_iff, ← visible_eq_nil_iff, same]

theorem isAllBlank_cons (character : Char) (rest : Text) :
    isAllBlank (character :: rest) = (isBlank character && isAllBlank rest) :=
  List.all_cons

theorem isAllBlank_append (left right : Text) :
    isAllBlank (left ++ right) = (isAllBlank left && isAllBlank right) :=
  List.all_append

theorem isAllBlank_reverse (text : Text) : isAllBlank text.reverse = isAllBlank text :=
  List.all_reverse

theorem ne_break_of_visible {character : Char} (visible : isBlank character = false) :
    character ≠ '\n' := by
  rintro rfl
  cases visible

theorem visible_sublist (text : Text) : visible text <+ text :=
  List.filter_sublist

theorem visible_sublist_visible {left right : Text} (sublist : left <+ right) :
    visible left <+ visible right :=
  sublist.filter _

/-! ## Trimming -/

section Trimming

variable {condition : Char → Bool}

theorem visible_dropWhile
    (blank : ∀ character, condition character = true → isBlank character = true) (text : Text) :
    visible (text.dropWhile condition) = visible text := by
  induction text with
  | nil => rfl
  | cons character rest ih =>
      cases dropped : condition character with
      | true => rw [List.dropWhile_cons_of_pos dropped, ih,
          visible_cons_of_blank (blank character dropped)]
      | false => rw [List.dropWhile_cons_of_neg (by simp [dropped])]

theorem visible_dropTrailing
    (blank : ∀ character, condition character = true → isBlank character = true) (text : Text) :
    visible (dropTrailing condition text) = visible text := by
  rw [dropTrailing, visible_reverse, visible_dropWhile blank, visible_reverse, List.reverse_reverse]

end Trimming

theorem visible_trimSpacing (text : Text) : visible (trimSpacing text) = visible text := by
  have blank : ∀ character, isSpacing character = true → isBlank character = true :=
    fun _ => isBlank_of_isSpacing
  rw [trimSpacing, visible_dropTrailing blank, visible_dropWhile blank]

/-! ## Squeezing -/

theorem visible_solid (text : Text) : visible (solid text) = visible text := by
  rw [visible, visible, solid, List.filter_filter]
  refine List.filter_congr fun character _ => ?_
  cases spacing : isSpacing character with
  | true => simp [isBlank_of_isSpacing spacing]
  | false => simp

/-- What changes spacing only leaves the visible characters. -/
theorem visible_eq_of_solid {left right : Text} (same : solid left = solid right) :
    visible left = visible right := by
  rw [← visible_solid, same, visible_solid]

/-! ## Cleaning up -/

theorem visible_capBreaksAfter (count : Nat) (text : Text) :
    visible (capBreaksAfter count text) = visible text := by
  fun_induction capBreaksAfter count text with
  | case1 count => rfl
  | case2 count rest fits ih => rw [visible_cons, ih, ← visible_cons]
  | case3 count rest full ih => rw [ih, visible_cons_of_blank rfl]
  | case4 count character rest other ih => rw [visible_cons, ih, ← visible_cons]

theorem visible_capBreaks (text : Text) : visible (capBreaks text) = visible text :=
  visible_capBreaksAfter 0 text

theorem visible_settleRun {run : Text} (blank : visible run = []) :
    visible (settleRun run) = [] := by
  have part : ∀ {text : Text}, text <+ run → visible text = [] := by
    intro text sublist
    have shown := visible_sublist_visible sublist
    rwa [blank, List.sublist_nil] at shown
  rw [settleRun]
  split
  · exact blank
  · have tail : afterLastBreak (run.dropWhile (· != '\n')) <+ run := by
      rw [afterLastBreak, ← List.reverse_sublist, List.reverse_reverse]
      exact (List.takeWhile_sublist _).trans (List.dropWhile_sublist _).reverse
    rw [visible_append, part (List.takeWhile_sublist _), visible_cons_of_blank rfl,
      visible_cons_of_blank rfl, part tail, List.append_nil]

/-- The run in front of the text is blank. -/
theorem visible_settleRuns {run : Text} (blank : visible run = []) (text : Text) :
    visible (settleRuns run text) = visible text := by
  have settled : ∀ {other : Text}, visible other = [] → visible (settleRun other.reverse) = [] := by
    intro other otherBlank
    exact visible_settleRun (by rw [visible_reverse, otherBlank]; rfl)
  induction text generalizing run with
  | nil => exact settled blank
  | cons character rest ih =>
      rw [settleRuns]
      cases kind : isBlank character with
      | true =>
          rw [if_pos rfl, visible_cons_of_blank kind]
          exact ih (by rw [visible_cons_of_blank kind, blank])
      | false =>
          rw [if_neg (by simp), visible_append, settled blank, visible_cons, ih rfl,
            ← visible_cons]
          rfl

theorem visible_stripEdges (text : Text) : visible (stripEdges text) = visible text := by
  rw [stripEdges, visible_dropTrailing (fun _ => id), visible_dropWhile]
  intro character dropped
  simp only [Bool.or_eq_true, beq_iff_eq] at dropped
  rcases dropped with (rfl | rfl) | rfl <;> rfl

/-- The cleanup changes blanks only. -/
theorem visible_cleanUp (text : Text) : visible (cleanUp text) = visible text := by
  rw [cleanUp, visible_capBreaks, emptyBlankLines, visible_settleRuns rfl, visible_stripEdges]

/-! ## Putting something between -/

theorem sublist_indentLines (margin text : Text) : text <+ indentLines margin text := by
  fun_induction indentLines margin text with
  | case1 => exact List.Sublist.refl []
  | case2 rest ih => exact (ih.trans (List.sublist_append_right _ _)).cons_cons _
  | case3 character rest other ih => exact ih.cons_cons _

theorem sublist_joinWith (separator : Text) (texts : List Text) :
    texts.flatten <+ joinWith separator texts := by
  fun_induction joinWith separator texts with
  | case1 => exact List.Sublist.refl []
  | case2 only => simp
  | case3 first rest others ih =>
      rw [List.flatten_cons, List.append_assoc]
      exact (List.Sublist.refl first).append (ih.trans (List.sublist_append_right _ _))

theorem sublist_replaceFirst {pattern replacement text : Text}
    (occurs : containsPattern pattern text = true) :
    replacement <+ replaceFirst pattern replacement text := by
  induction text with
  | nil =>
      rw [containsPattern, List.isEmpty_iff] at occurs
      simp [replaceFirst, occurs]
  | cons character rest ih =>
      rw [replaceFirst]
      split
      · exact List.sublist_append_left _ _
      · next other =>
          rw [containsPattern, Bool.or_eq_true] at occurs
          exact (ih (occurs.resolve_left other)).cons _

theorem containsPattern_append_right {pattern : Text} (left : Text) {right : Text}
    (occurs : containsPattern pattern right = true) :
    containsPattern pattern (left ++ right) = true := by
  induction left with
  | nil => exact occurs
  | cons character rest ih =>
      rw [List.cons_append, containsPattern, ih, Bool.or_true]

end Text

end PageMark
