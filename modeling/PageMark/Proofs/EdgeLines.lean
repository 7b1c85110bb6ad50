import PageMark.Proofs.MarkdownLines

/-!
# The first and the last line of cleaned Markdown

The last line of a cleaned text has something to see.  The first one has unless
other white space than tabs and line ends stands before a line feed at the start:
then one blank line stays above, or two where there were more.
-/

namespace PageMark.Text

/-- There is something to see in the first line and in the last one. -/
structure ShowsAtEdges (text : Text) : Prop where
  first : ∀ line ∈ (lines text).head?, isAllBlank line = false
  last : ∀ line ∈ (lines text).getLast?, isAllBlank line = false

/-- The white space before the first visible character, without what is stripped at the
start of the text. -/
def openingMargin (text : Text) : Text :=
  (text.takeWhile isBlank).dropWhile isLineSpacing

/-- Of the blank lines in a margin the first one is left as it is, and the others become one
empty line. -/
def blankLinesOf (margin : Text) : List Text :=
  match (lines margin).dropLast with
  | [] => []
  | first :: others => first :: if others = [] then [] else [[]]

/-! ## The margin -/

section Margin

variable {margin : Text} (blank : isAllBlank margin = true) {character : Char}
  (visible : isBlank character = false) (rest : Text)

include blank visible

theorem openingMargin_append_cons :
    openingMargin (margin ++ character :: rest) = margin.dropWhile isLineSpacing := by
  rw [openingMargin, List.takeWhile_append_of_pos (List.all_eq_true.1 blank),
    List.takeWhile_cons_of_neg (by simp [visible]), List.append_nil]

/-- Before the first visible character the margin is settled, behind it the rest on its own. -/
theorem cleanUp_append_cons :
    cleanUp (margin ++ character :: rest) =
      settleRun (margin.dropWhile isLineSpacing) ++
        character :: emptyBlankLines (dropTrailing isBlank rest) := by
  have stillBlank : isAllBlank (margin.dropWhile isLineSpacing) = true := by
    rw [isAllBlank_dropWhile_isLineSpacing, blank]
  rw [cleanUp_eq_settle, settle_eq_emptyBlankLines, stripEdges_eq,
    dropWhile_isLineSpacing_append_cons visible, dropTrailing_append_cons visible,
    emptyBlankLines_append_cons stillBlank visible]

theorem startsSeen_append_cons (noBreak : '\n' ∉ margin) :
    StartsSeen (margin ++ character :: rest) :=
  ⟨margin, character, rest, rfl, noBreak, blank, visible⟩

end Margin

theorem blankLinesOf_of_not_mem {margin : Text} (noBreak : '\n' ∉ margin) :
    blankLinesOf margin = [] := by
  rw [blankLinesOf, lines_of_not_mem noBreak]
  rfl

theorem blankLinesOf_single {front back : Text} (noFront : '\n' ∉ front) (noBack : '\n' ∉ back) :
    blankLinesOf (front ++ '\n' :: back) = [front] := by
  rw [blankLinesOf, lines_append_break, lines_of_not_mem noFront, lines_of_not_mem noBack]
  rfl

theorem blankLinesOf_between {front back : Text} (noFront : '\n' ∉ front) (noBack : '\n' ∉ back)
    (middle : Text) :
    blankLinesOf (front ++ '\n' :: (middle ++ '\n' :: back)) = [front, []] := by
  have others : lines middle ≠ [] := parts_ne_nil '\n' middle
  rw [blankLinesOf, lines_append_break, lines_append_break, lines_of_not_mem noFront,
    lines_of_not_mem noBack, ← List.append_assoc, List.dropLast_concat]
  simp [others]

theorem blankLinesOf_eq_nil_iff {margin : Text} : blankLinesOf margin = [] ↔ '\n' ∉ margin := by
  constructor
  · intro nothing feed
    obtain ⟨front, rest, rfl, noFront⟩ := List.eq_append_cons_of_mem feed
    by_cases again : '\n' ∈ rest
    · obtain ⟨middle, back, rfl, noBack⟩ := exists_last_break again
      rw [blankLinesOf_between noFront noBack] at nothing
      cases nothing
    · rw [blankLinesOf_single noFront again] at nothing
      cases nothing
  · exact blankLinesOf_of_not_mem

/-- Above the first line with something to see stand the blank lines of the settled margin. -/
theorem takeWhile_lines_settleRun {margin : Text} (blank : isAllBlank margin = true)
    {character : Char} (visible : isBlank character = false) (rest : Text) :
    (lines (settleRun margin ++ character :: rest)).takeWhile isAllBlank = blankLinesOf margin := by
  have stops : ∀ back, isAllBlank back = true → '\n' ∉ back →
      (lines (back ++ character :: rest)).takeWhile isAllBlank = [] := by
    intro back backBlank noBack
    obtain ⟨line, others, whole, seen⟩ :=
      (startsSeen_append_cons backBlank visible rest noBack).exists_lines
    rw [whole, List.takeWhile_cons_of_neg (by simp [seen])]
  by_cases feed : '\n' ∈ margin
  · obtain ⟨front, behind, rfl, noFront⟩ := List.eq_append_cons_of_mem feed
    simp only [isAllBlank_append, isAllBlank_cons, Bool.and_eq_true] at blank
    by_cases again : '\n' ∈ behind
    · obtain ⟨middle, back, rfl, noBack⟩ := exists_last_break again
      simp only [isAllBlank_append, isAllBlank_cons, Bool.and_eq_true] at blank
      have whole : lines (front ++ '\n' :: '\n' :: back ++ character :: rest) =
          front :: [] :: lines (back ++ character :: rest) := by
        rw [List.append_assoc, List.cons_append, List.cons_append, lines_append_break,
          lines_of_not_mem noFront]
        rfl
      rw [settleRun_between noFront noBack, blankLinesOf_between noFront noBack, whole,
        List.takeWhile_cons_of_pos blank.1, List.takeWhile_cons_of_pos rfl,
        stops back blank.2.2.2.2 noBack]
    · rw [settleRun_single noFront again, blankLinesOf_single noFront again, List.append_assoc,
        List.cons_append, lines_append_break, lines_of_not_mem noFront, List.singleton_append,
        List.takeWhile_cons_of_pos blank.1, stops behind blank.2.2 again]
  · rw [settleRun_of_not_mem feed, blankLinesOf_of_not_mem feed, stops margin blank feed]

/-! ## Both edges -/

theorem cleanUp_eq_nil_iff {text : Text} : cleanUp text = [] ↔ isAllBlank text = true := by
  constructor
  · intro nothing
    rw [← isAllBlank_eq_of_visible (visible_cleanUp text), nothing]
    rfl
  · exact cleanUp_of_blank

/-- A text that ends in something to see has it in its last line. -/
theorem EndsSeen.last_line {text : Text} (ends : EndsSeen text) (nonempty : text ≠ []) :
    ∀ line ∈ (lines text).getLast?, isAllBlank line = false := by
  obtain ⟨before, last, rfl⟩ := (List.eq_nil_or_concat' text).resolve_left nonempty
  have seen := ends last (by simp)
  obtain ⟨front, line, whole⟩ := exists_last_line before
  intro final member
  rw [whole [last] (by simpa using (ne_break_of_visible seen).symm), List.getLast?_concat,
    Option.mem_some] at member
  rw [← member, isAllBlank_append, isAllBlank_cons, seen, Bool.false_and, Bool.and_false]

theorem takeWhile_lines_cleanUp {text : Text} (seen : isAllBlank text = false) :
    (lines (cleanUp text)).takeWhile isAllBlank = blankLinesOf (openingMargin text) := by
  obtain ⟨margin, character, rest, rfl, blank, visible⟩ := exists_first_visible seen
  have stillBlank : isAllBlank (margin.dropWhile isLineSpacing) = true := by
    rw [isAllBlank_dropWhile_isLineSpacing, blank]
  rw [cleanUp_append_cons blank visible, openingMargin_append_cons blank visible,
    takeWhile_lines_settleRun stillBlank visible]

/-- The first line has something to see exactly if no blank lines come first. -/
theorem forall_mem_head?_iff {texts : List Text} :
    (∀ line ∈ texts.head?, isAllBlank line = false) ↔ texts.takeWhile isAllBlank = [] := by
  cases texts with
  | nil => simp
  | cons first others => cases own : isAllBlank first <;> simp [own]

/-- Nothing is left of blank text.  Other text keeps, above the lines that are to be kept,
the blank lines of its opening margin and no others; its last line has something to see, and
its first one has exactly if there is no line feed in that margin. -/
theorem cleanUp_showsAtEdges_iff (text : Text) :
    (isAllBlank text = true → cleanUp text = []) ∧
    (isAllBlank text = false →
      lines (cleanUp text) = blankLinesOf (openingMargin text) ++ closeUp (keptLines text) ∧
      (∀ line ∈ (lines (cleanUp text)).getLast?, isAllBlank line = false) ∧
      (ShowsAtEdges (cleanUp text) ↔ '\n' ∉ openingMargin text)) := by
  refine ⟨cleanUp_eq_nil_iff.2, fun seen => ?_⟩
  have above := takeWhile_lines_cleanUp seen
  have below : (lines (cleanUp text)).dropWhile isAllBlank = closeUp (keptLines text) := by
    rw [dropWhile_lines_cleanUp, dropWhile_lines_stripEdges]
  have nonempty : cleanUp text ≠ [] := by
    intro nothing
    rw [cleanUp_eq_nil_iff, seen] at nothing
    cases nothing
  have last := (isTidy_cleanUp text).noTrailing.last_line nonempty
  have first := @forall_mem_head?_iff (lines (cleanUp text))
  refine ⟨?_, last, ?_⟩
  · rw [← above, ← below, List.takeWhile_append_dropWhile]
  · rw [← blankLinesOf_eq_nil_iff, ← above]
    exact ⟨fun shows => first.1 shows.first, fun none => ⟨first.2 none, last⟩⟩

/-- Three blank lines above, the first one of them a tab, and two below. -/
theorem tabbedMargin_showsAtEdges :
    isAllBlank "\t\n \t\n\n  a\n \nb \n".toList = false ∧
      lines (cleanUp "\t\n \t\n\n  a\n \nb \n".toList) =
        [" \t".toList, [], "  a".toList, [], "b".toList] ∧
      ¬ ShowsAtEdges (cleanUp "\t\n \t\n\n  a\n \nb \n".toList) := by
  have seen : isAllBlank "\t\n \t\n\n  a\n \nb \n".toList = false := by decide
  obtain ⟨whole, -, edges⟩ := (cleanUp_showsAtEdges_iff _).2 seen
  refine ⟨seen, whole.trans (by decide +kernel), fun shows => ?_⟩
  exact edges.1 shows (by decide)

/-- A space on a line of its own stays at the start, and so does a line break before a
paragraph. -/
theorem spaceLine_opens_cleanUp :
    convertPage "<br><p>x</p>".toList { gfm := false } [] = .ok "  \n\nx".toList ∧
      cleanUp " \n\nx".toList = " \n\nx".toList ∧
      ¬ ∀ text, cleanUp text = [] ∨ ShowsAtEdges (cleanUp text) := by
  refine ⟨by decide +kernel, by decide, fun always => ?_⟩
  rcases always " \n\nx".toList with nothing | shows
  · revert nothing
    decide
  · have first := shows.first " ".toList (by decide)
    revert first
    decide

end PageMark.Text
