import Mathlib.Data.List.Destutter
import PageMark.Proofs.CleanLines

/-!
# Blank lines of cleaned Markdown

Between the first and the last visible character of a text, cleaning up empties
the blank lines and leaves one of those that are next to each other.  All other
lines come out as they are.
-/

namespace PageMark.Text

/-! ## Closing up lines -/

/-- A blank line loses its white space. -/
def emptied (line : Text) : Text :=
  if isAllBlank line then [] else line

/-- There is something in one of the two lines. -/
def NotBothEmpty (above below : Text) : Prop :=
  above ≠ [] ∨ below ≠ []

instance : DecidableRel NotBothEmpty :=
  fun above below => inferInstanceAs (Decidable (above ≠ [] ∨ below ≠ []))

/-- Blank lines become empty, and of empty lines next to each other one is left. -/
def closeUp (lines : List Text) : List Text :=
  (lines.map emptied).destutter NotBothEmpty

theorem emptied_of_shown {line : Text} (seen : isAllBlank line = false) : emptied line = line := by
  simp [emptied, seen]

theorem emptied_of_blank {line : Text} (blank : isAllBlank line = true) : emptied line = [] := by
  simp [emptied, blank]

theorem ne_nil_of_shown {line : Text} (seen : isAllBlank line = false) : line ≠ [] := by
  rintro rfl
  cases seen

/-- Below a line with something in it nothing is left out. -/
theorem destutter'_of_ne_nil {line : Text} (kept : line ≠ []) (below : List Text) :
    below.destutter' NotBothEmpty line = line :: below.destutter NotBothEmpty := by
  cases below with
  | nil => rfl
  | cons next rest =>
      rw [List.destutter'_cons_pos rest (Or.inl kept : NotBothEmpty line next),
        List.destutter_cons']

theorem destutter'_append_cons {line : Text} (kept : line ≠ []) (first : Text)
    (above below : List Text) :
    (above ++ line :: below).destutter' NotBothEmpty first =
      above.destutter' NotBothEmpty first ++ line :: below.destutter NotBothEmpty := by
  induction above generalizing first with
  | nil =>
      rw [List.nil_append,
        List.destutter'_cons_pos below (Or.inr kept : NotBothEmpty first line),
        destutter'_of_ne_nil kept]
      rfl
  | cons next rest ih =>
      by_cases apart : NotBothEmpty first next
      · rw [List.cons_append, List.destutter'_cons_pos _ apart, List.destutter'_cons_pos _ apart,
          ih, List.cons_append]
      · rw [List.cons_append, List.destutter'_cons_neg _ apart, List.destutter'_cons_neg _ apart,
          ih]

/-- What is above and below a line with something to see is closed up on its own. -/
theorem closeUp_append_cons {line : Text} (seen : isAllBlank line = false)
    (above below : List Text) :
    closeUp (above ++ line :: below) = closeUp above ++ line :: closeUp below := by
  have kept := ne_nil_of_shown seen
  rw [closeUp, List.map_append, List.map_cons, emptied_of_shown seen]
  cases above with
  | nil => exact destutter'_of_ne_nil kept _
  | cons first rest => exact destutter'_append_cons kept _ _ _

theorem closeUp_cons {line : Text} (seen : isAllBlank line = false) (below : List Text) :
    closeUp (line :: below) = line :: closeUp below :=
  closeUp_append_cons seen [] below

/-- Nothing but blank lines becomes one empty line. -/
theorem closeUp_of_blank {lines : List Text} (nonempty : lines ≠ [])
    (blank : ∀ line ∈ lines, isAllBlank line = true) : closeUp lines = [[]] := by
  have fused : (below : List Text) → (∀ line ∈ below, isAllBlank line = true) →
      (below.map emptied).destutter' NotBothEmpty [] = [[]] := by
    intro below allBlank
    induction below with
    | nil => rfl
    | cons next rest ih =>
        rw [List.map_cons, emptied_of_blank (allBlank next List.mem_cons_self),
          List.destutter'_cons_neg _ (by simp [NotBothEmpty])]
        exact ih fun line member => allBlank line (List.mem_cons_of_mem _ member)
  cases lines with
  | nil => exact absurd rfl nonempty
  | cons first rest =>
      rw [closeUp, List.map_cons, emptied_of_blank (blank first List.mem_cons_self)]
      exact fused rest fun line member => blank line (List.mem_cons_of_mem _ member)

/-- Lines stay as they are exactly if no blank line has anything in it and no two empty
lines are next to each other. -/
theorem closeUp_eq_self_iff {lines : List Text} :
    closeUp lines = lines ↔
      (∀ line ∈ lines, isAllBlank line = true → line = []) ∧ lines.IsChain NotBothEmpty := by
  have unchanged (empty : ∀ line ∈ lines, isAllBlank line = true → line = []) :
      lines.map emptied = lines := by
    refine (List.map_congr_left fun line member => ?_).trans (List.map_id lines)
    cases seen : isAllBlank line with
    | true => rw [emptied_of_blank seen, empty line member seen, id]
    | false => exact emptied_of_shown seen
  constructor
  · intro same
    have empty : ∀ line ∈ lines, isAllBlank line = true → line = [] := by
      intro line member blank
      rw [← same] at member
      obtain ⟨other, -, rfl⟩ := List.mem_map.1 ((List.destutter_sublist _ _).subset member)
      cases seen : isAllBlank other with
      | true => exact emptied_of_blank seen
      | false =>
          rw [emptied_of_shown seen, seen] at blank
          cases blank
    rw [closeUp, unchanged empty] at same
    exact ⟨empty, same ▸ List.isChain_destutter _ _⟩
  · rintro ⟨empty, apart⟩
    rw [closeUp, unchanged empty]
    exact List.destutter_of_isChain _ _ apart

/-! ## Settling lines -/

/-- What cleaning up does to a text without white space at its edges. -/
def settle (text : Text) : Text :=
  capBreaks (emptyBlankLines text)

theorem cleanUp_eq_settle (text : Text) : cleanUp text = settle (stripEdges text) :=
  rfl

theorem settleRuns_of_not_mem {run text : Text} (noRun : '\n' ∉ run) (noBreak : '\n' ∉ text) :
    settleRuns run text = run.reverse ++ text := by
  induction text generalizing run with
  | nil => simp [settleRuns, settleRun_of_not_mem, noRun]
  | cons character rest ih =>
      rw [List.mem_cons, not_or] at noBreak
      rw [settleRuns]
      split
      · rw [ih (by simp [noRun, noBreak.1]) noBreak.2]
        simp
      · rw [ih List.not_mem_nil noBreak.2, settleRun_of_not_mem (by simpa using noRun)]
        rfl

theorem settle_of_not_mem {text : Text} (noBreak : '\n' ∉ text) : settle text = text := by
  rw [settle, emptyBlankLines, settleRuns_of_not_mem List.not_mem_nil noBreak]
  exact capBreaksAfter_of_not_mem noBreak 0

/-- The first line of a text, and what comes behind it. -/
theorem of_lines_eq_cons {text line : Text} {others : List Text}
    (whole : lines text = line :: others) :
    '\n' ∉ line ∧ ((others = [] ∧ text = line) ∨
      ∃ rest, text = line ++ '\n' :: rest ∧ others = lines rest) := by
  by_cases feed : '\n' ∈ text
  · obtain ⟨front, rest, rfl, noFront⟩ := List.eq_append_cons_of_mem feed
    rw [lines_append_break, lines_of_not_mem noFront, List.singleton_append,
      List.cons.injEq] at whole
    obtain ⟨rfl, rfl⟩ := whole
    exact ⟨noFront, .inr ⟨rest, rfl, rfl⟩⟩
  · rw [lines_of_not_mem feed, List.cons.injEq] at whole
    obtain ⟨rfl, rfl⟩ := whole
    exact ⟨feed, .inl ⟨rfl, rfl⟩⟩

/-- A line that is not blank. -/
structure IsLine (line : Text) : Prop where
  single : '\n' ∉ line
  seen : isAllBlank line = false

/-- The text begins with a line that is not blank. -/
def StartsSeen (text : Text) : Prop :=
  ∃ margin first rest, text = margin ++ first :: rest ∧ '\n' ∉ margin ∧
    isAllBlank margin = true ∧ isBlank first = false

/-- Up to two line feeds are kept. -/
theorem capBreaksAfter_replicate_append {count : Nat} (few : count ≤ 2) (text : Text) :
    capBreaksAfter 0 (List.replicate count '\n' ++ text) =
      List.replicate count '\n' ++ capBreaksAfter count text := by
  have counts : count = 0 ∨ count = 1 ∨ count = 2 := by omega
  rcases counts with rfl | rfl | rfl <;> rfl

/-- Line feeds between two visible characters, with what white space is around them. -/
theorem settle_append_feeds {line lower : Text} (isLine : IsLine line) (starts : StartsSeen lower)
    {breaks : Text} (blank : isAllBlank breaks = true) {count : Nat} (few : count ≤ 2)
    (run : ∀ front back, '\n' ∉ front → '\n' ∉ back →
      settleRun (front ++ (breaks ++ back)) = front ++ (List.replicate count '\n' ++ back)) :
    settle (line ++ (breaks ++ lower)) = line ++ (List.replicate count '\n' ++ settle lower) := by
  obtain ⟨back, below, right, rfl, noBack, backBlank, belowVisible⟩ := starts
  obtain ⟨left, above, kept, aboveVisible⟩ := exists_last_visible isLine.seen
  obtain ⟨front, whole, frontBlank⟩ := exists_dropped isBlank line
  rw [kept, List.append_assoc, List.singleton_append] at whole
  have single := isLine.single
  subst whole
  rw [List.mem_append, List.mem_cons, not_or, not_or] at single
  obtain ⟨noLeft, aboveOther, noFront⟩ := single
  have runBlank : isAllBlank (front ++ (breaks ++ back)) = true := by
    have frontBlank : isAllBlank front = true := List.all_eq_true.2 frontBlank
    rw [isAllBlank_append, isAllBlank_append, blank, backBlank, frontBlank]
    rfl
  have lowerSettled : settle (back ++ below :: right) =
      back ++ below :: capBreaksAfter 0 (settleRuns [] right) := by
    rw [settle, emptyBlankLines, settleRuns_append_of_blank backBlank belowVisible,
      List.reverse_nil, List.nil_append, settleRun_of_not_mem noBack, capBreaks,
      capBreaks_append_of_not_mem noBack]
    exact congrArg _ (capBreaksAfter_append_cons (ne_break_of_visible belowVisible) 0 [] _)
  have upperKept : settleRuns [] (left ++ [above]) = left ++ [above] :=
    settleRuns_of_not_mem List.not_mem_nil (by simp [noLeft, aboveOther])
  have emptied : emptyBlankLines (left ++ above :: front ++ (breaks ++ (back ++ below :: right))) =
      (left ++ above :: front) ++ (List.replicate count '\n' ++
        (back ++ below :: settleRuns [] right)) := by
    have regrouped : left ++ above :: front ++ (breaks ++ (back ++ below :: right)) =
        left ++ above :: (front ++ (breaks ++ back) ++ below :: right) := by simp
    rw [emptyBlankLines, regrouped, settleRuns_append_cons aboveVisible, upperKept,
      settleRuns_append_of_blank runBlank belowVisible, List.reverse_nil, List.nil_append,
      run front back noFront noBack]
    simp
  have onward := capBreaksAfter_append_cons (ne_break_of_visible belowVisible) count back
    (settleRuns [] right)
  rw [capBreaksAfter_of_not_mem noBack] at onward
  rw [settle, emptied, capBreaks, capBreaks_append_of_not_mem isLine.single,
    capBreaksAfter_replicate_append few, onward, lowerSettled]

section Feeds

variable {line lower : Text} (isLine : IsLine line) (starts : StartsSeen lower)

include isLine starts

theorem settle_append_line :
    settle (line ++ '\n' :: lower) = line ++ '\n' :: settle lower :=
  @settle_append_feeds line lower isLine starts ['\n'] rfl 1 (by decide)
    fun _ _ noFront noBack => settleRun_single noFront noBack

theorem settle_append_blank {middle : Text} (blank : isAllBlank middle = true) :
    settle (line ++ '\n' :: (middle ++ '\n' :: lower)) = line ++ '\n' :: '\n' :: settle lower := by
  have feeds : isAllBlank ('\n' :: (middle ++ ['\n'])) = true := by
    rw [isAllBlank_cons, isAllBlank_append, blank]
    rfl
  have settled := @settle_append_feeds line lower isLine starts _ feeds 2 (by decide)
    fun front back noFront noBack => by
      have run := settleRun_between noFront noBack middle
      simpa using run
  simpa using settled

end Feeds

/-- What is last in the text is seen. -/
def EndsSeen (text : Text) : Prop :=
  ∀ last ∈ text.getLast?, isBlank last = false

namespace EndsSeen

variable {front back : Text}

/-- What is behind the last line feed has something to see. -/
theorem isAllBlank_of_append_break (ends : EndsSeen (front ++ '\n' :: back)) :
    isAllBlank back = false := by
  rw [Bool.eq_false_iff]
  intro blank
  have last := List.getLast?_eq_some_getLast (List.cons_ne_nil '\n' back)
  have visible := ends _ (by rw [List.getLast?_append, last]; rfl)
  have allBlank : isAllBlank ('\n' :: back) = true := by
    rw [isAllBlank_cons, blank]
    rfl
  rw [List.all_eq_true.1 allBlank _ (List.getLast_mem _)] at visible
  cases visible

theorem of_append_break (ends : EndsSeen (front ++ '\n' :: back)) : EndsSeen back := by
  intro last member
  refine ends last ?_
  rw [List.getLast?_append, List.getLast?_cons, Option.mem_def.1 member]
  rfl

end EndsSeen

theorem StartsSeen.exists_lines {text : Text} (starts : StartsSeen text) :
    ∃ line others, lines text = line :: others ∧ isAllBlank line = false := by
  obtain ⟨margin, first, rest, rfl, noBreak, blank, visible⟩ := starts
  obtain ⟨line, others, whole⟩ := Text.exists_lines rest
  refine ⟨margin ++ first :: line, others, ?_, ?_⟩
  · exact lines_append_of_not_mem noBreak (lines_cons_of_ne (ne_break_of_visible visible) whole)
  · rw [isAllBlank_append, isAllBlank_cons, visible, Bool.false_and, Bool.and_false]

theorem StartsSeen.closeUp_append {text : Text} (starts : StartsSeen text) (above : List Text) :
    closeUp (above ++ lines text) = closeUp above ++ closeUp (lines text) := by
  obtain ⟨line, others, whole, seen⟩ := starts.exists_lines
  rw [whole, closeUp_append_cons seen, closeUp_cons seen]

theorem closeUp_lines_of_blank {text : Text} (blank : isAllBlank text = true) :
    closeUp (lines text) = [[]] := by
  refine closeUp_of_blank (parts_ne_nil '\n' text) fun line member => ?_
  have nothing : (lines text).filter _ = [] := shownLines_of_blank blank
  simpa using List.filter_eq_nil_iff.1 nothing line member

/-- Cleaning up a text without white space at its edges closes up its lines. -/
theorem lines_settle {text : Text} (starts : StartsSeen text) (ends : EndsSeen text) :
    lines (settle text) = closeUp (lines text) := by
  induction size : text.length using Nat.strong_induction_on generalizing text with
  | _ size ih =>
      obtain ⟨line, others, whole, seen⟩ := starts.exists_lines
      obtain ⟨single, ⟨rfl, rfl⟩ | ⟨rest, rfl, rfl⟩⟩ := of_lines_eq_cons whole
      · rw [settle_of_not_mem single, whole, closeUp_cons seen]
        rfl
      · have isLine : IsLine line := ⟨single, seen⟩
        have restSeen := ends.isAllBlank_of_append_break
        obtain ⟨margin, first, after, rfl, blank, visible⟩ := exists_first_visible restSeen
        by_cases feed : '\n' ∈ margin
        · obtain ⟨middle, back, rfl, noBack⟩ := exists_last_break feed
          rw [isAllBlank_append, isAllBlank_cons, Bool.and_eq_true, Bool.and_eq_true] at blank
          have below : StartsSeen (back ++ first :: after) :=
            ⟨back, first, after, rfl, noBack, blank.2.2, visible⟩
          have regrouped : (middle ++ '\n' :: back) ++ first :: after =
              middle ++ '\n' :: (back ++ first :: after) := by simp
          rw [regrouped] at ends size whole ⊢
          have belowEnds : EndsSeen (back ++ first :: after) := ends.of_append_break.of_append_break
          have settled := ih _ (by simp at size ⊢; omega) below belowEnds rfl
          have single' : lines (line ++ '\n' :: '\n' :: settle (back ++ first :: after)) =
              line :: [] :: lines (settle (back ++ first :: after)) := by
            rw [lines_append_break, lines_of_not_mem single]
            rfl
          rw [settle_append_blank isLine below blank.1, single', settled, whole, closeUp_cons seen,
            lines_append_break, below.closeUp_append, closeUp_lines_of_blank blank.1]
          rfl
        · have below : StartsSeen (margin ++ first :: after) :=
            ⟨margin, first, after, rfl, feed, blank, visible⟩
          have settled := ih _ (by simp at size ⊢; omega) below ends.of_append_break rfl
          rw [settle_append_line isLine below, lines_append_break, lines_of_not_mem single, settled,
            whole, closeUp_cons seen]
          rfl

end PageMark.Text
