import PageMark.Proofs.Words

/-!
# Lines of cleaned Markdown

Cleaning up takes out blank lines and nothing else but white space at both ends of
the text: the lines with something to see come out as they are.  Two texts that
meet in line feeds are cleaned up each on its own, with one empty line between.
-/

namespace PageMark.Text

/-! ## Lines -/

/-- The lines of a text, without the line feeds. -/
def lines (text : Text) : List Text :=
  parts '\n' text

/-- The lines that are not blank. -/
def shown (lines : List Text) : List Text :=
  lines.filter fun line => !isAllBlank line

def shownLines (text : Text) : List Text :=
  shown (lines text)

@[simp] theorem shown_append (front back : List Text) :
    shown (front ++ back) = shown front ++ shown back :=
  List.filter_append front back

theorem lines_cons_of_ne {character : Char} (other : character ≠ '\n') {text first : Text}
    {others : List Text} (whole : lines text = first :: others) :
    lines (character :: text) = (character :: first) :: others := by
  have known : parts '\n' text = first :: others := whole
  rw [lines, parts, if_neg other, known]

theorem exists_lines (text : Text) : ∃ first others, lines text = first :: others :=
  List.exists_cons_of_ne_nil (parts_ne_nil '\n' text)

/-- A line feed ends a line. -/
theorem lines_append_break (left right : Text) :
    lines (left ++ '\n' :: right) = lines left ++ lines right := by
  induction left with
  | nil => rfl
  | cons character rest ih =>
      by_cases feed : character = '\n'
      · subst feed
        exact congrArg ([] :: ·) ih
      · obtain ⟨first, others, whole⟩ := exists_lines rest
        have longer : lines (rest ++ '\n' :: right) = first :: (others ++ lines right) := by
          rw [ih, whole, List.cons_append]
        rw [List.cons_append, lines_cons_of_ne feed longer, lines_cons_of_ne feed whole,
          List.cons_append]

theorem lines_append_of_not_mem {left right first : Text} {others : List Text}
    (noBreak : '\n' ∉ left) (whole : lines right = first :: others) :
    lines (left ++ right) = (left ++ first) :: others := by
  induction left with
  | nil => exact whole
  | cons character rest ih =>
      rw [List.mem_cons, not_or] at noBreak
      exact lines_cons_of_ne (Ne.symm noBreak.1) (ih noBreak.2)

theorem lines_of_not_mem {text : Text} (noBreak : '\n' ∉ text) : lines text = [text] := by
  have whole := lines_append_of_not_mem noBreak (rfl : lines [] = [[]])
  rwa [List.append_nil] at whole

/-- What comes behind the last line feed makes the last line longer. -/
theorem exists_last_line (text : Text) :
    ∃ front last, ∀ tail, '\n' ∉ tail → lines (text ++ tail) = front ++ [last ++ tail] := by
  induction text with
  | nil => exact ⟨[], [], fun tail noBreak => lines_of_not_mem noBreak⟩
  | cons character rest ih =>
      obtain ⟨front, last, whole⟩ := ih
      by_cases feed : character = '\n'
      · subst feed
        exact ⟨[] :: front, last, fun tail noBreak => congrArg ([] :: ·) (whole tail noBreak)⟩
      · cases front with
        | nil =>
            exact ⟨[], character :: last, fun tail noBreak =>
              lines_cons_of_ne feed (whole tail noBreak)⟩
        | cons first others =>
            exact ⟨(character :: first) :: others, last, fun tail noBreak =>
              lines_cons_of_ne feed (whole tail noBreak)⟩

/-! ## Lines with something to see -/

theorem shownLines_append_break (left right : Text) :
    shownLines (left ++ '\n' :: right) = shownLines left ++ shownLines right := by
  rw [shownLines, lines_append_break, shown_append]
  rfl

theorem shownLines_of_blank {text : Text} (blank : isAllBlank text = true) :
    shownLines text = [] := by
  induction text with
  | nil => rfl
  | cons character rest ih =>
      rw [isAllBlank_cons, Bool.and_eq_true] at blank
      have others := ih blank.2
      by_cases feed : character = '\n'
      · subst feed
        exact (shownLines_append_break [] rest).trans others
      · obtain ⟨first, later, whole⟩ := exists_lines rest
        rw [shownLines, whole, shown, List.filter_eq_nil_iff] at others
        rw [shownLines, lines_cons_of_ne feed whole, shown, List.filter_eq_nil_iff]
        intro line member
        rcases List.mem_cons.1 member with rfl | inLater
        · have own := others first List.mem_cons_self
          simpa [isAllBlank, blank.1] using own
        · exact others line (List.mem_cons_of_mem _ inLater)

/-- Only what comes behind the last line feed of a margin is seen. -/
theorem shownLines_append_of_blank {left : Text} (blank : isAllBlank left = true) (right : Text) :
    shownLines (left ++ '\n' :: right) = shownLines right := by
  rw [shownLines_append_break, shownLines_of_blank blank, List.nil_append]

/-! ## Cleaning up -/

theorem shownLines_append_capBreaksAfter {count : Nat} {before : Text}
    (started : 2 ≤ count → before = []) (text : Text) :
    shownLines (before ++ capBreaksAfter count text) = shownLines (before ++ text) := by
  fun_induction capBreaksAfter count text generalizing before with
  | case1 count => rfl
  | case2 count rest fits ih =>
      rw [shownLines_append_break, shownLines_append_break]
      exact congrArg _ (ih fun _ => rfl)
  | case3 count rest full ih =>
      obtain rfl := started (by omega)
      rw [ih started, shownLines_append_break]
      rfl
  | case4 count character rest other ih =>
      have longer := @ih (before ++ [character]) fun large => absurd large (by decide)
      rwa [List.append_assoc, List.append_assoc] at longer

/-- Blank lines may go, others stay. -/
theorem shownLines_capBreaks (text : Text) : shownLines (capBreaks text) = shownLines text :=
  @shownLines_append_capBreaksAfter 0 [] (fun _ => rfl) text

section Runs

variable {front back : Text}

theorem ne_break_of_mem (noBreak : '\n' ∉ front) :
    ∀ character ∈ front, (character != '\n') = true := by
  intro character member
  rw [bne_iff_ne]
  rintro rfl
  exact noBreak member

theorem takeWhile_ne_break (noFront : '\n' ∉ front) (rest : Text) :
    (front ++ '\n' :: rest).takeWhile (· != '\n') = front := by
  rw [List.takeWhile_append_of_pos (ne_break_of_mem noFront)]
  simp

theorem dropWhile_ne_break (noFront : '\n' ∉ front) (rest : Text) :
    (front ++ '\n' :: rest).dropWhile (· != '\n') = '\n' :: rest := by
  rw [List.dropWhile_append_of_pos (ne_break_of_mem noFront)]
  simp

theorem afterLastBreak_append (noBack : '\n' ∉ back) (rest : Text) :
    afterLastBreak (rest ++ '\n' :: back) = back := by
  have noBreak : '\n' ∉ back.reverse := by simpa using noBack
  rw [afterLastBreak, List.reverse_append, List.reverse_cons, List.append_assoc,
    List.singleton_append, takeWhile_ne_break noBreak, List.reverse_reverse]

theorem throughLastBreak_append (noBack : '\n' ∉ back) (rest : Text) :
    throughLastBreak (rest ++ '\n' :: back) = rest ++ ['\n'] := by
  have noBreak : '\n' ∉ back.reverse := by simpa using noBack
  rw [throughLastBreak, List.reverse_append, List.reverse_cons, List.append_assoc,
    List.singleton_append, dropWhile_ne_break noBreak, List.reverse_cons, List.reverse_reverse]

/-- Everything from the first line feed of a run to the last one becomes two. -/
theorem settleRun_between (noFront : '\n' ∉ front) (noBack : '\n' ∉ back) (middle : Text) :
    settleRun (front ++ '\n' :: (middle ++ '\n' :: back)) = front ++ '\n' :: '\n' :: back := by
  have through := throughLastBreak_append noBack ('\n' :: middle)
  have after := afterLastBreak_append noBack ('\n' :: middle)
  rw [List.cons_append] at through after
  rw [settleRun, dropWhile_ne_break noFront, takeWhile_ne_break noFront, through, after]
  split
  · rename_i short
    have empty : middle = [] := by
      rw [List.length_append, List.length_cons, List.length_singleton] at short
      exact List.length_eq_zero_iff.1 (by omega)
    rw [empty]
    rfl
  · rfl

/-- A run with one line feed stays. -/
theorem settleRun_single (noFront : '\n' ∉ front) (noBack : '\n' ∉ back) :
    settleRun (front ++ '\n' :: back) = front ++ '\n' :: back := by
  have through := throughLastBreak_append noBack []
  rw [List.nil_append, List.nil_append] at through
  rw [settleRun, dropWhile_ne_break noFront, through]
  exact if_pos (by decide)

end Runs

theorem exists_last_break {text : Text} (feed : '\n' ∈ text) :
    ∃ front back, text = front ++ '\n' :: back ∧ '\n' ∉ back := by
  obtain ⟨back, front, whole, noBack⟩ := List.eq_append_cons_of_mem (List.mem_reverse.2 feed)
  refine ⟨front.reverse, back.reverse, ?_, by simpa using noBack⟩
  rw [← List.reverse_reverse text, whole]
  simp

theorem shownLines_append_settleRun {run : Text} (blank : isAllBlank run = true)
    (before behind : Text) :
    shownLines (before ++ settleRun run ++ behind) = shownLines (before ++ run ++ behind) := by
  by_cases feed : '\n' ∈ run
  · obtain ⟨front, rest, rfl, noFront⟩ := List.eq_append_cons_of_mem feed
    by_cases again : '\n' ∈ rest
    · obtain ⟨middle, back, rfl, noBack⟩ := exists_last_break again
      have blankMiddle : isAllBlank middle = true := by
        rw [isAllBlank, List.all_eq_true] at blank ⊢
        exact fun character member => blank character (by simp [member])
      rw [settleRun_between noFront noBack]
      have short := shownLines_append_break (before ++ front) ('\n' :: (back ++ behind))
      have long := shownLines_append_break (before ++ front) (middle ++ '\n' :: (back ++ behind))
      rw [shownLines_append_of_blank blankMiddle] at long
      have empty : shownLines ('\n' :: (back ++ behind)) = shownLines (back ++ behind) :=
        shownLines_append_of_blank (rfl : isAllBlank [] = true) (back ++ behind)
      rw [empty] at short
      simpa using short.trans long.symm
    · rw [settleRun_single noFront again]
  · rw [settleRun_of_not_mem feed]

theorem shownLines_append_settleRuns {run : Text} (blank : isAllBlank run = true)
    (before text : Text) :
    shownLines (before ++ settleRuns run text) = shownLines (before ++ run.reverse ++ text) := by
  induction text generalizing run before with
  | nil =>
      have turned := (isAllBlank_reverse run).trans blank
      have settled := shownLines_append_settleRun turned before []
      rwa [List.append_nil] at settled
  | cons character rest ih =>
      rw [settleRuns]
      split
      · rename_i isBlank
        have longer : isAllBlank (character :: run) = true := by
          rw [isAllBlank_cons, isBlank]
          exact blank
        rw [ih longer before]
        simp
      · have turned := (isAllBlank_reverse run).trans blank
        have settled := shownLines_append_settleRun turned before (character :: settleRuns [] rest)
        have later := ih (rfl : isAllBlank [] = true) (before ++ run.reverse ++ [character])
        rw [← List.append_assoc, settled]
        simpa using later

/-- The lines with something to see come out as they are. -/
theorem shownLines_cleanUp (text : Text) :
    shownLines (cleanUp text) = shownLines (stripEdges text) := by
  rw [cleanUp, shownLines_capBreaks, emptyBlankLines]
  exact shownLines_append_settleRuns (rfl : isAllBlank [] = true) [] (stripEdges text)

/-! ## Cleaning up in parts -/

/-- Runs of white space do not reach beyond a visible character. -/
theorem settleRuns_append_cons {character : Char} (visible : isBlank character = false)
    (run left right : Text) :
    settleRuns run (left ++ character :: right) =
      settleRuns run (left ++ [character]) ++ settleRuns [] right := by
  induction left generalizing run with
  | nil => simp [settleRuns, visible, settleRun_of_not_mem]
  | cons first rest ih =>
      rw [List.cons_append, List.cons_append, settleRuns, settleRuns]
      split
      · exact ih (first :: run)
      · rw [ih []]
        simp

theorem exists_settleRuns_snoc {character : Char} (visible : isBlank character = false)
    (run left : Text) :
    ∃ settled, settleRuns run (left ++ [character]) = settled ++ [character] := by
  induction left generalizing run with
  | nil => exact ⟨settleRun run.reverse, by simp [settleRuns, visible, settleRun_of_not_mem]⟩
  | cons first rest ih =>
      rw [List.cons_append, settleRuns]
      split
      · exact ih (first :: run)
      · obtain ⟨settled, same⟩ := ih []
        exact ⟨settleRun run.reverse ++ first :: settled, by rw [same]; simp⟩

theorem settleRuns_append_of_blank {margin : Text} (blank : isAllBlank margin = true)
    {character : Char} (visible : isBlank character = false) (run rest : Text) :
    settleRuns run (margin ++ character :: rest) =
      settleRun (run.reverse ++ margin) ++ character :: settleRuns [] rest := by
  induction margin generalizing run with
  | nil => simp [settleRuns, visible]
  | cons first others ih =>
      rw [isAllBlank_cons, Bool.and_eq_true] at blank
      rw [List.cons_append, settleRuns, if_pos blank.1, ih blank.2]
      simp

theorem capBreaksAfter_append_cons {character : Char} (other : character ≠ '\n') (count : Nat)
    (left right : Text) :
    capBreaksAfter count (left ++ character :: right) =
      capBreaksAfter count left ++ character :: capBreaksAfter 0 right := by
  fun_induction capBreaksAfter count left with
  | case1 count => simp [capBreaksAfter]
  | case2 count rest fits ih => simp [capBreaksAfter, fits, ih]
  | case3 count rest full ih => simp [capBreaksAfter, full, ih]
  | case4 count first rest notBreak ih => simp [capBreaksAfter, ih]

theorem capBreaksAfter_of_not_mem {text : Text} (noBreak : '\n' ∉ text) (count : Nat) :
    capBreaksAfter count text = text := by
  induction text generalizing count with
  | nil => rfl
  | cons character rest ih =>
      rw [List.mem_cons, not_or] at noBreak
      have own := capBreaksAfter_append_cons (Ne.symm noBreak.1) count [] rest
      rw [List.nil_append, ih noBreak.2] at own
      exact own

theorem capBreaks_append_of_not_mem {left : Text} (noBreak : '\n' ∉ left) (right : Text) :
    capBreaksAfter 0 (left ++ right) = left ++ capBreaksAfter 0 right := by
  induction left with
  | nil => rfl
  | cons character rest ih =>
      rw [List.mem_cons, not_or] at noBreak
      have own := capBreaksAfter_append_cons (Ne.symm noBreak.1) 0 [] (rest ++ right)
      rw [List.nil_append, ih noBreak.2] at own
      exact own

/-- What stands above the line feeds of a run and what stands below them. -/
theorem exists_clean_parts {above below : Char} (aboveVisible : isBlank above = false)
    (belowVisible : isBlank below = false) {front middle back : Text}
    (frontBlank : isAllBlank front = true) (middleBlank : isAllBlank middle = true)
    (backBlank : isAllBlank back = true) (noFront : '\n' ∉ front) (noBack : '\n' ∉ back)
    (left right : Text) :
    ∃ upper lower,
      capBreaks (emptyBlankLines (left ++ [above])) = upper ++ [above] ∧
      capBreaks (emptyBlankLines (back ++ below :: right)) = back ++ below :: lower ∧
      capBreaks (emptyBlankLines (left ++ above ::
        (front ++ '\n' :: (middle ++ '\n' :: back) ++ below :: right))) =
          upper ++ above :: (front ++ '\n' :: '\n' :: (back ++ below :: lower)) := by
  have aboveOther := ne_break_of_visible aboveVisible
  have belowOther := ne_break_of_visible belowVisible
  obtain ⟨settled, same⟩ := exists_settleRuns_snoc aboveVisible [] left
  refine ⟨capBreaksAfter 0 settled, capBreaksAfter 0 (settleRuns [] right), ?_, ?_, ?_⟩
  · rw [capBreaks, emptyBlankLines, same, capBreaksAfter_append_cons aboveOther]
    rfl
  · rw [capBreaks, emptyBlankLines, settleRuns_append_of_blank backBlank belowVisible,
      List.reverse_nil, List.nil_append, settleRun_of_not_mem noBack,
      capBreaksAfter_append_cons belowOther, capBreaksAfter_of_not_mem noBack]
  · have runBlank : isAllBlank (front ++ '\n' :: (middle ++ '\n' :: back)) = true := by
      have feed : isBlank '\n' = true := by decide
      simp only [isAllBlank_append, isAllBlank_cons, Bool.and_eq_true]
      exact ⟨frontBlank, feed, middleBlank, feed, backBlank⟩
    rw [capBreaks, emptyBlankLines, settleRuns_append_cons aboveVisible, same,
      settleRuns_append_of_blank runBlank belowVisible, List.reverse_nil, List.nil_append,
      settleRun_between noFront noBack, List.append_assoc, List.singleton_append,
      capBreaksAfter_append_cons aboveOther, List.append_assoc,
      capBreaks_append_of_not_mem noFront]
    have lower := capBreaksAfter_append_cons belowOther 2 back (settleRuns [] right)
    rw [capBreaksAfter_of_not_mem noBack] at lower
    simp [capBreaksAfter, lower]

/-! ## Stripping edges in parts -/

/-- What is stripped at the start of Markdown. -/
def isLineSpacing (character : Char) : Bool :=
  character == '\t' || character == '\r' || character == '\n'

theorem stripEdges_eq (text : Text) :
    stripEdges text = dropTrailing isBlank (text.dropWhile isLineSpacing) :=
  rfl

theorem isSpacing_of_isLineSpacing {character : Char} (line : isLineSpacing character = true) :
    isSpacing character = true := by
  simp only [isLineSpacing, Bool.or_eq_true, beq_iff_eq] at line
  rcases line with (rfl | rfl) | rfl <;> rfl

theorem isBlank_of_isLineSpacing {character : Char} (line : isLineSpacing character = true) :
    isBlank character = true :=
  isBlank_of_isSpacing (isSpacing_of_isLineSpacing line)

theorem isAllBlank_dropWhile_isLineSpacing (text : Text) :
    isAllBlank (text.dropWhile isLineSpacing) = isAllBlank text :=
  isAllBlank_eq_of_visible (visible_dropWhile (fun _ => isBlank_of_isLineSpacing) text)

theorem isAllBlank_stripEdges (text : Text) : isAllBlank (stripEdges text) = isAllBlank text :=
  isAllBlank_eq_of_visible (visible_stripEdges text)

theorem cleanUp_of_blank {text : Text} (blank : isAllBlank text = true) :
    cleanUp text = [] := by
  have rest : ∀ character ∈ text.dropWhile isLineSpacing, isBlank character = true :=
    List.all_eq_true.1 ((isAllBlank_dropWhile_isLineSpacing text).trans blank)
  have nothing : stripEdges text = [] := dropTrailing_append_of_all rest []
  rw [cleanUp, nothing]
  rfl

/-- A text with something to see has a first visible character. -/
theorem exists_first_visible {text : Text} (seen : isAllBlank text = false) :
    ∃ margin character rest, text = margin ++ character :: rest ∧ isAllBlank margin = true ∧
      isBlank character = false := by
  induction text with
  | nil => cases seen
  | cons first others ih =>
      cases own : isBlank first with
      | false => exact ⟨[], first, others, rfl, rfl, own⟩
      | true =>
          have later : isAllBlank others = false := by
            rwa [isAllBlank_cons, own, Bool.true_and] at seen
          obtain ⟨margin, character, rest, rfl, blank, visible⟩ := ih later
          refine ⟨first :: margin, character, rest, rfl, ?_, visible⟩
          rw [isAllBlank_cons, own]
          exact blank

/-- A text with something to see has a last visible character. -/
theorem exists_last_visible {text : Text} (seen : isAllBlank text = false) :
    ∃ front character, dropTrailing isBlank text = front ++ [character] ∧
      isBlank character = false := by
  obtain ⟨margin, character, rest, whole, blank, visible⟩ :=
    exists_first_visible ((isAllBlank_reverse text).trans seen)
  refine ⟨rest.reverse, character, ?_, visible⟩
  rw [dropTrailing, whole, List.dropWhile_append_of_pos (List.all_eq_true.1 blank)]
  simp [visible]

theorem dropTrailing_ne_nil {text : Text} (seen : isAllBlank text = false) :
    dropTrailing isBlank text ≠ [] := by
  obtain ⟨front, character, whole, -⟩ := exists_last_visible seen
  simp [whole]

theorem stripEdges_append {upper lower : Text} (seen : isAllBlank upper = false)
    (seen' : isAllBlank lower = false) :
    stripEdges (upper ++ lower) =
      upper.dropWhile isLineSpacing ++ (lower.takeWhile isLineSpacing ++ stripEdges lower) := by
  have kept := (isAllBlank_dropWhile_isLineSpacing upper).trans seen
  have kept' := (isAllBlank_dropWhile_isLineSpacing lower).trans seen'
  have some : (upper.dropWhile isLineSpacing).isEmpty = false := by
    cases stripped : upper.dropWhile isLineSpacing with
    | nil =>
        rw [stripped] at kept
        cases kept
    | cons first rest => rfl
  have behind : dropTrailing isBlank lower =
      lower.takeWhile isLineSpacing ++ stripEdges lower := by
    rw [stripEdges_eq, ← dropTrailing_append (dropTrailing_ne_nil kept'),
      List.takeWhile_append_dropWhile]
  rw [stripEdges_eq, List.dropWhile_append, some, if_neg Bool.false_ne_true,
    dropTrailing_append (dropTrailing_ne_nil seen'), behind]

/-! ## One text above another -/

/-- `whole` has the lines of `upper` that are not blank and then those of `lower`, and between
the two there is one empty line.  Blanks may be left behind the last line of `upper`. -/
def Stacks (upper lower whole : Text) : Prop :=
  ∃ front last trail first rest,
    lines whole = front ++ (last ++ trail) :: [] :: first :: rest ∧
      shownLines upper = shown front ++ [last] ∧ isAllBlank trail = true ∧
        shownLines lower = first :: shown rest

/-- Of what is stripped at the start all are line feeds. -/
def OpensPlainly (text : Text) : Prop :=
  ∀ character ∈ text.takeWhile isLineSpacing, character = '\n'

theorem exists_upper_parts {upper : Text} (seen : isAllBlank upper = false)
    (ends : upper.getLast? = some '\n') :
    ∃ left above front rest, stripEdges upper = left ++ [above] ∧ isBlank above = false ∧
      upper.dropWhile isLineSpacing = left ++ above :: (front ++ '\n' :: rest) ∧
        '\n' ∉ front ∧ isAllBlank front = true ∧ isAllBlank rest = true := by
  have kept := (isAllBlank_dropWhile_isLineSpacing upper).trans seen
  obtain ⟨left, above, stripped, visible⟩ := exists_last_visible kept
  obtain ⟨tail, whole, blank⟩ := exists_dropped isBlank (upper.dropWhile isLineSpacing)
  rw [stripped] at whole
  have last : (upper.dropWhile isLineSpacing).getLast? = some '\n' := by
    have parted : upper = upper.takeWhile isLineSpacing ++ upper.dropWhile isLineSpacing :=
      List.takeWhile_append_dropWhile.symm
    rw [parted, List.getLast?_append, Option.or_eq_some_iff] at ends
    rcases ends with own | ⟨none, -⟩
    · exact own
    · rw [whole] at none
      simp at none
  have feed : '\n' ∈ tail := by
    rw [whole, List.getLast?_append, Option.or_eq_some_iff] at last
    rcases last with own | ⟨-, other⟩
    · exact List.mem_of_getLast? own
    · exact absurd (by simpa using other) (ne_break_of_visible visible)
  obtain ⟨front, rest, rfl, noFront⟩ := List.eq_append_cons_of_mem feed
  refine ⟨left, above, front, rest, stripped, visible, ?_, noFront, ?_, ?_⟩
  · rw [whole, List.append_assoc, List.singleton_append]
  · exact List.all_eq_true.2 fun character member => blank character (by simp [member])
  · exact List.all_eq_true.2 fun character member => blank character (by simp [member])

theorem exists_lower_parts {lower : Text} (seen : isAllBlank lower = false)
    (opens : OpensPlainly lower) {behind : Text} (feed : lower = '\n' :: behind) :
    ∃ middle back below right,
      lower.takeWhile isLineSpacing ++ stripEdges lower =
        middle ++ '\n' :: (back ++ below :: right) ∧
      isAllBlank middle = true ∧ isAllBlank back = true ∧ '\n' ∉ back ∧
        isBlank below = false ∧
          shownLines (stripEdges lower) = shownLines (back ++ below :: right) := by
  obtain ⟨margin, below, right, stripped, blank, visible⟩ :=
    exists_first_visible ((isAllBlank_stripEdges lower).trans seen)
  have opening : lower.takeWhile isLineSpacing ≠ [] := by
    rw [feed]
    simp [isLineSpacing]
  have feeds : isAllBlank (lower.takeWhile isLineSpacing) = true :=
    List.all_eq_true.2 fun character member =>
      isBlank_of_isLineSpacing (List.mem_takeWhile_imp member)
  rw [stripped]
  by_cases inside : '\n' ∈ margin
  · obtain ⟨middle, back, rfl, noBack⟩ := exists_last_break inside
    rw [isAllBlank_append, isAllBlank_cons, Bool.and_eq_true, Bool.and_eq_true] at blank
    refine ⟨lower.takeWhile isLineSpacing ++ middle, back, below, right, by simp, ?_, blank.2.2,
      noBack, visible, ?_⟩
    · rw [isAllBlank_append, feeds, blank.1]
      rfl
    · have shown := shownLines_append_of_blank blank.1 (back ++ below :: right)
      simpa using shown
  · obtain ⟨others, last, whole⟩ := (List.eq_nil_or_concat _).resolve_left opening
    obtain rfl : last = '\n' := opens last (by rw [whole]; simp)
    refine ⟨others, margin, below, right, by simp [whole], ?_, blank, inside, visible, rfl⟩
    rw [whole, List.concat_eq_append, isAllBlank_append, Bool.and_eq_true] at feeds
    exact feeds.1

/-- Texts that meet in line feeds are cleaned up each on its own. -/
theorem stacks_cleanUp {upper lower behind : Text} (seen : isAllBlank upper = false)
    (seen' : isAllBlank lower = false) (ends : upper.getLast? = some '\n')
    (opens : OpensPlainly lower) (feed : lower = '\n' :: behind) :
    Stacks (cleanUp upper) (cleanUp lower) (cleanUp (upper ++ lower)) := by
  obtain ⟨left, above, front, rest, stripped, aboveVisible, whole, noFront, frontBlank,
    restBlank⟩ := exists_upper_parts seen ends
  obtain ⟨middle, back, below, right, opened, middleBlank, backBlank, noBack, belowVisible,
    same⟩ := exists_lower_parts seen' opens feed
  have between : isAllBlank (rest ++ middle) = true := by
    rw [isAllBlank_append, restBlank, middleBlank]
    rfl
  obtain ⟨upperClean, lowerClean, above', below', joined⟩ :=
    exists_clean_parts aboveVisible belowVisible frontBlank between backBlank noFront noBack left
      right
  have aboveBreak : '\n' ∉ above :: front := by
    rw [List.mem_cons, not_or]
    exact ⟨(ne_break_of_visible aboveVisible).symm, noFront⟩
  have upperLines : cleanUp upper = upperClean ++ [above] := by
    rw [cleanUp, stripped, above']
  have wholeLines : cleanUp (upper ++ lower) =
      (upperClean ++ above :: front) ++ '\n' :: ([] ++ '\n' :: (back ++ below :: lowerClean)) := by
    rw [cleanUp, stripEdges_append seen seen', whole, opened]
    simpa using joined
  obtain ⟨fronts, last, upperLast⟩ := exists_last_line upperClean
  obtain ⟨first, later, lowerFirst⟩ := exists_lines lowerClean
  have lowerLines : lines (back ++ below :: lowerClean) = (back ++ below :: first) :: later :=
    lines_append_of_not_mem noBack
      (lines_cons_of_ne (ne_break_of_visible belowVisible) lowerFirst)
  have lastSeen : isAllBlank (last ++ [above]) = false := by
    simp [isAllBlank, aboveVisible]
  have firstSeen : isAllBlank (back ++ below :: first) = false := by
    simp [isAllBlank, belowVisible]
  refine ⟨fronts, last ++ [above], front, back ++ below :: first, later, ?_, ?_, frontBlank, ?_⟩
  · rw [wholeLines, lines_append_break, lines_append_break, upperLast _ aboveBreak, lowerLines]
    simp [lines, parts]
  · have single : '\n' ∉ [above] := fun member =>
      aboveBreak (List.mem_cons.2 (.inl (List.mem_singleton.1 member)))
    rw [shownLines, upperLines, upperLast _ single, shown_append]
    simp [shown, lastSeen]
  · have lowerShown : shownLines (cleanUp lower) = shown ((back ++ below :: first) :: later) := by
      rw [shownLines_cleanUp, same, ← lowerLines, ← below']
      have settled := shownLines_append_settleRuns (rfl : isAllBlank [] = true) []
        (back ++ below :: right)
      exact ((shownLines_capBreaks _).trans settled).symm
    rw [lowerShown]
    simp [shown, firstSeen]

end PageMark.Text
