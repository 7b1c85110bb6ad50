import Mathlib.Data.List.DropRight
import Mathlib.Data.List.ModifyLast
import PageMark.Proofs.TidyText

/-!
# The lines that cleaning up keeps

From the first line with something to see to the last one, cleaning up keeps
every line that is not blank, and of the blank lines between two of them it
keeps one, empty.  Only the last line loses anything at its end, and the first
one at its start, where nothing but tabs and line ends came before it.
-/

namespace PageMark.Text

/-- The lines from the first one that is not blank to the last one. -/
def seenLines (text : Text) : List Text :=
  ((lines text).dropWhile isAllBlank).rdropWhile isAllBlank

/-- Only tabs, carriage returns and line feeds stand before the first line that is not
blank. -/
def hasPlainLead (text : Text) : Bool :=
  ((lines text).takeWhile isAllBlank).all fun line => line.all isLineSpacing

/-- The first line that is not blank, without the tabs and carriage returns that are
stripped at the start of the text. -/
def openedLine (text line : Text) : Text :=
  if hasPlainLead text then line.dropWhile isLineSpacing else line

/-- The lines that are to be kept, with the blank lines between them. -/
def keptLines (text : Text) : List Text :=
  ((seenLines text).modifyHead (openedLine text)).modifyLast (dropTrailing isBlank)

/-! ## Blank lines above -/

/-- Blank lines, each with its line feed. -/
def IsLead (lead : Text) : Prop :=
  lead = [] ∨ ∃ above, isAllBlank above = true ∧ lead = above ++ ['\n']

theorem StartsSeen.seen {text : Text} (starts : StartsSeen text) : isAllBlank text = false := by
  obtain ⟨margin, first, rest, rfl, -, -, visible⟩ := starts
  rw [isAllBlank_append, isAllBlank_cons, visible, Bool.false_and, Bool.and_false]

/-- A text with something to see is a line with something to see below blank lines. -/
theorem exists_lead {text : Text} (seen : isAllBlank text = false) :
    ∃ lead lower, text = lead ++ lower ∧ IsLead lead ∧ StartsSeen lower := by
  obtain ⟨margin, first, rest, rfl, blank, visible⟩ := exists_first_visible seen
  by_cases feed : '\n' ∈ margin
  · obtain ⟨above, back, rfl, noBack⟩ := exists_last_break feed
    rw [isAllBlank_append, isAllBlank_cons, Bool.and_eq_true, Bool.and_eq_true] at blank
    refine ⟨above ++ ['\n'], back ++ first :: rest, by simp, .inr ⟨above, blank.1, rfl⟩, ?_⟩
    exact ⟨back, first, rest, rfl, noBack, blank.2.2, visible⟩
  · exact ⟨[], _, rfl, .inl rfl, margin, first, rest, rfl, feed, blank, visible⟩

theorem isAllBlank_of_mem_lines {text line : Text} (blank : isAllBlank text = true)
    (member : line ∈ lines text) : isAllBlank line = true := by
  have nothing : (lines text).filter _ = [] := shownLines_of_blank blank
  simpa using List.filter_eq_nil_iff.1 nothing line member

theorem dropWhile_lines_of_blank {text : Text} (blank : isAllBlank text = true) :
    (lines text).dropWhile isAllBlank = [] :=
  List.dropWhile_eq_nil_iff.2 fun _ member => isAllBlank_of_mem_lines blank member

theorem StartsSeen.dropWhile_lines {lower : Text} (starts : StartsSeen lower) :
    (lines lower).dropWhile isAllBlank = lines lower := by
  obtain ⟨line, others, whole, seen⟩ := starts.exists_lines
  rw [whole, List.dropWhile_cons_of_neg (by simp [seen])]

theorem IsLead.dropWhile_lines {lead lower : Text} (isLead : IsLead lead)
    (starts : StartsSeen lower) : (lines (lead ++ lower)).dropWhile isAllBlank = lines lower := by
  rcases isLead with rfl | ⟨above, blank, rfl⟩
  · exact starts.dropWhile_lines
  · rw [List.append_assoc, List.singleton_append, lines_append_break,
      List.dropWhile_append_of_pos fun _ member => isAllBlank_of_mem_lines blank member]
    exact starts.dropWhile_lines

/-- The first line of a text with something to see in it stays in its place. -/
theorem StartsSeen.exists_settle {lower : Text} (starts : StartsSeen lower) :
    ∃ margin first rest, lower = margin ++ first :: rest ∧ '\n' ∉ margin ∧
      isAllBlank margin = true ∧ isBlank first = false ∧
        settle lower = margin ++ first :: emptyBlankLines rest := by
  obtain ⟨margin, first, rest, rfl, noBreak, blank, visible⟩ := starts
  refine ⟨margin, first, rest, rfl, noBreak, blank, visible, ?_⟩
  rw [settle_eq_emptyBlankLines, emptyBlankLines_append_cons blank visible,
    settleRun_of_not_mem noBreak]

theorem StartsSeen.settle {lower : Text} (starts : StartsSeen lower) : StartsSeen (settle lower) := by
  obtain ⟨margin, first, rest, -, noBreak, blank, visible, settled⟩ := starts.exists_settle
  exact ⟨margin, first, emptyBlankLines rest, settled, noBreak, blank, visible⟩

/-- What blank lines come to does not reach into the line below. -/
theorem IsLead.exists_settle {lead lower : Text} (isLead : IsLead lead)
    (starts : StartsSeen lower) :
    ∃ lead', IsLead lead' ∧ Text.settle (lead ++ lower) = lead' ++ Text.settle lower := by
  rcases isLead with rfl | ⟨above, blank, rfl⟩
  · exact ⟨[], .inl rfl, rfl⟩
  · obtain ⟨margin, first, rest, rfl, noBreak, marginBlank, visible, own⟩ := starts.exists_settle
    have wholeBlank : isAllBlank (above ++ '\n' :: margin) = true := by
      rw [isAllBlank_append, isAllBlank_cons, blank, marginBlank]
      rfl
    have regrouped : above ++ ['\n'] ++ (margin ++ first :: rest) =
        (above ++ '\n' :: margin) ++ first :: rest := by simp
    rw [own, regrouped, settle_eq_emptyBlankLines, emptyBlankLines_append_cons wholeBlank visible]
    by_cases feed : '\n' ∈ above
    · obtain ⟨front, middle, rfl, noFront⟩ := List.eq_append_cons_of_mem feed
      rw [isAllBlank_append, Bool.and_eq_true] at blank
      refine ⟨front ++ ['\n'] ++ ['\n'], .inr ⟨front ++ ['\n'], ?_, rfl⟩, ?_⟩
      · rw [isAllBlank_append, blank.1]
        rfl
      · have run := settleRun_between noFront noBreak middle
        rw [List.append_assoc, List.cons_append, run]
        simp
    · refine ⟨above ++ ['\n'], .inr ⟨above, blank, rfl⟩, ?_⟩
      rw [settleRun_single feed noBreak]
      simp

/-- From the first line with something to see on, cleaning up closes up the lines of the
stripped text. -/
theorem dropWhile_lines_cleanUp (text : Text) :
    (lines (cleanUp text)).dropWhile isAllBlank =
      closeUp ((lines (stripEdges text)).dropWhile isAllBlank) := by
  have ends : EndsSeen (stripEdges text) := endsSeen_dropTrailing _
  rw [cleanUp_eq_settle]
  cases seen : isAllBlank (stripEdges text) with
  | true =>
      have settled : isAllBlank (settle (stripEdges text)) = true := by
        rw [← cleanUp_eq_settle, isAllBlank_eq_of_visible (visible_cleanUp text),
          ← isAllBlank_stripEdges, seen]
      rw [dropWhile_lines_of_blank settled, dropWhile_lines_of_blank seen]
      rfl
  | false =>
      obtain ⟨lead, lower, whole, isLead, starts⟩ := exists_lead seen
      obtain ⟨lead', isLead', settled⟩ := isLead.exists_settle starts
      rw [whole] at ends ⊢
      rw [settled, isLead'.dropWhile_lines starts.settle, isLead.dropWhile_lines starts]
      refine lines_settle starts fun last member => ends last ?_
      rw [List.getLast?_append, Option.mem_def.1 member]
      rfl

/-! ## The last line -/

/-- Nothing is dropped beyond what is kept. -/
theorem rdropWhile_append_cons {α : Type} {condition : α → Bool} {kept : α}
    (keeps : condition kept = false) (front back : List α) :
    (front ++ kept :: back).rdropWhile condition =
      front ++ kept :: back.rdropWhile condition := by
  induction back using List.reverseRecOn with
  | nil => exact List.rdropWhile_concat_neg _ _ _ (by simp [keeps])
  | append_singleton back last ih =>
      have regrouped : front ++ kept :: (back ++ [last]) = (front ++ kept :: back) ++ [last] := by
        simp
      rw [regrouped]
      cases dropped : condition last with
      | true => rw [List.rdropWhile_concat_pos _ _ _ dropped, ih,
          List.rdropWhile_concat_pos _ _ _ dropped]
      | false =>
          rw [List.rdropWhile_concat_neg _ _ _ (by simp [dropped]),
            List.rdropWhile_concat_neg _ _ _ (by simp [dropped])]
          simp

theorem dropTrailing_append_cons {character : Char} (visible : isBlank character = false)
    (front back : Text) :
    dropTrailing isBlank (front ++ character :: back) =
      front ++ character :: dropTrailing isBlank back :=
  rdropWhile_append_cons visible front back

/-- What is dropped at the end are blank lines and the white space behind the last line
with something to see. -/
theorem lines_dropTrailing {text : Text} (seen : isAllBlank text = false) :
    lines (dropTrailing isBlank text) =
      ((lines text).rdropWhile isAllBlank).modifyLast (dropTrailing isBlank) := by
  obtain ⟨front, character, kept, visible⟩ := exists_last_visible seen
  obtain ⟨tail, whole, blank⟩ := exists_dropped isBlank text
  obtain ⟨upper, last, lastLine⟩ := exists_last_line front
  have other := ne_break_of_visible visible
  have lineSeen : ∀ back, isAllBlank (last ++ character :: back) = false := by
    intro back
    rw [isAllBlank_append, isAllBlank_cons, visible, Bool.false_and, Bool.and_false]
  have trimmed : ∀ back, isAllBlank back = true → ∀ below, (∀ line ∈ below, isAllBlank line = true) →
      ((upper ++ (last ++ character :: back) :: below).rdropWhile isAllBlank).modifyLast
        (dropTrailing isBlank) = upper ++ [last ++ [character]] := by
    intro back backBlank below belowBlank
    have gone : dropTrailing isBlank back = [] :=
      List.rdropWhile_eq_nil_iff.2 (List.all_eq_true.1 backBlank)
    rw [rdropWhile_append_cons (lineSeen back), List.rdropWhile_eq_nil_iff.2 belowBlank,
      List.modifyLast_concat, dropTrailing_append_cons visible, gone]
  rw [kept, List.append_assoc, List.singleton_append] at whole
  rw [kept, lastLine [character] (by simpa using other.symm)]
  by_cases feed : '\n' ∈ tail
  · obtain ⟨back, rest, rfl, noBack⟩ := List.eq_append_cons_of_mem feed
    have allBlank : isAllBlank (back ++ '\n' :: rest) = true := List.all_eq_true.2 blank
    rw [isAllBlank_append, isAllBlank_cons, Bool.and_eq_true, Bool.and_eq_true] at allBlank
    have regrouped : front ++ character :: (back ++ '\n' :: rest) =
        (front ++ character :: back) ++ '\n' :: rest := by simp
    rw [whole, regrouped, lines_append_break,
      lastLine (character :: back) (by simp [other.symm, noBack]), List.append_assoc,
      List.singleton_append]
    exact (trimmed back allBlank.1 _ fun _ => isAllBlank_of_mem_lines allBlank.2.2).symm
  · rw [whole, lastLine (character :: tail) (by simp [other.symm, feed])]
    exact (trimmed tail (List.all_eq_true.2 blank) [] (by simp)).symm

/-! ## The first line -/

theorem StartsSeen.dropTrailing {text : Text} (starts : StartsSeen text) :
    StartsSeen (dropTrailing isBlank text) := by
  obtain ⟨margin, first, rest, rfl, noBreak, blank, visible⟩ := starts
  exact ⟨margin, first, Text.dropTrailing isBlank rest, dropTrailing_append_cons visible margin rest,
    noBreak, blank, visible⟩

theorem not_isLineSpacing_of_visible {character : Char} (visible : isBlank character = false) :
    isLineSpacing character = false := by
  rw [Bool.eq_false_iff]
  intro spacing
  rw [isBlank_of_isLineSpacing spacing] at visible
  cases visible

/-- A visible character is not stripped at the start, and nothing behind it. -/
theorem dropWhile_isLineSpacing_append_cons {first : Char} (visible : isBlank first = false)
    (margin behind : Text) :
    (margin ++ first :: behind).dropWhile isLineSpacing =
      margin.dropWhile isLineSpacing ++ first :: behind := by
  rw [List.dropWhile_append, List.dropWhile_cons_of_neg (by
    simp [not_isLineSpacing_of_visible visible])]
  split
  · rename_i empty
    rw [List.isEmpty_iff.1 empty, List.nil_append]
  · rfl

/-- What is stripped at the start of a line with something to see stays within the line. -/
theorem StartsSeen.dropWhile_isLineSpacing {lower : Text} (starts : StartsSeen lower) :
    StartsSeen (lower.dropWhile isLineSpacing) ∧
      lines (lower.dropWhile isLineSpacing) =
        (lines lower).modifyHead fun line => line.dropWhile isLineSpacing := by
  obtain ⟨margin, first, rest, rfl, noBreak, blank, visible⟩ := starts
  have other := ne_break_of_visible visible
  have stops := dropWhile_isLineSpacing_append_cons visible margin
  have inside : margin.dropWhile isLineSpacing ⊆ margin :=
    (List.dropWhile_sublist isLineSpacing).subset
  have noBreak' : '\n' ∉ margin.dropWhile isLineSpacing := fun member => noBreak (inside member)
  obtain ⟨line, others, whole⟩ := Text.exists_lines rest
  have shape := lines_cons_of_ne other whole
  refine ⟨⟨_, first, rest, stops rest, noBreak', ?_, visible⟩, ?_⟩
  · rw [isAllBlank_dropWhile_isLineSpacing, blank]
  · rw [stops, lines_append_of_not_mem noBreak' shape, lines_append_of_not_mem noBreak shape,
      List.modifyHead_cons, stops]

theorem all_isLineSpacing_lines (text : Text) :
    ((lines text).all fun line => line.all isLineSpacing) = text.all isLineSpacing := by
  induction text with
  | nil => rfl
  | cons character rest ih =>
      by_cases feed : character = '\n'
      · subst feed
        have parted := lines_append_break [] rest
        rw [List.nil_append, lines_of_not_mem List.not_mem_nil] at parted
        rw [parted, List.cons_append, List.nil_append, List.all_cons, ih, List.all_cons]
        rfl
      · obtain ⟨line, others, whole⟩ := exists_lines rest
        rw [whole, List.all_cons] at ih
        rw [lines_cons_of_ne feed whole, List.all_cons, List.all_cons, List.all_cons,
          Bool.and_assoc, ih]

theorem hasPlainLead_append {lead lower : Text} (isLead : IsLead lead)
    (starts : StartsSeen lower) : hasPlainLead (lead ++ lower) = lead.all isLineSpacing := by
  obtain ⟨line, others, whole, seen⟩ := starts.exists_lines
  rcases isLead with rfl | ⟨above, blank, rfl⟩
  · rw [List.nil_append, hasPlainLead, whole, List.takeWhile_cons_of_neg (by simp [seen])]
    rfl
  · have blanks : ∀ line ∈ lines above, isAllBlank line = true :=
      fun _ => isAllBlank_of_mem_lines blank
    rw [hasPlainLead, List.append_assoc, List.singleton_append, lines_append_break, whole,
      List.takeWhile_append_of_pos blanks, List.takeWhile_cons_of_neg (by simp [seen]),
      List.append_nil, all_isLineSpacing_lines, List.all_append]
    exact (Bool.and_true _).symm

/-- What is stripped at the start are blank lines, and if there were no others the tabs and
carriage returns of the line below. -/
theorem exists_dropWhile_isLineSpacing {lead lower : Text} (isLead : IsLead lead)
    (starts : StartsSeen lower) :
    ∃ lead' lower', (lead ++ lower).dropWhile isLineSpacing = lead' ++ lower' ∧ IsLead lead' ∧
      StartsSeen lower' ∧
        lines lower' = (lines lower).modifyHead (openedLine (lead ++ lower)) := by
  cases plain : lead.all isLineSpacing with
  | true =>
      have opened : openedLine (lead ++ lower) = fun line => line.dropWhile isLineSpacing := by
        funext line
        rw [openedLine, hasPlainLead_append isLead starts, plain, if_pos rfl]
      obtain ⟨starts', same⟩ := starts.dropWhile_isLineSpacing
      refine ⟨[], lower.dropWhile isLineSpacing, ?_, .inl rfl, starts', ?_⟩
      · rw [List.dropWhile_append_of_pos (List.all_eq_true.1 plain), List.nil_append]
      · rw [same, opened]
  | false =>
      have opened : openedLine (lead ++ lower) = id := by
        funext line
        rw [openedLine, hasPlainLead_append isLead starts, plain, if_neg Bool.false_ne_true, id]
      rcases isLead with rfl | ⟨above, blank, rfl⟩
      · cases plain
      · rw [List.all_append, Bool.and_eq_false_iff] at plain
        have stays : (above.dropWhile isLineSpacing).isEmpty = false := by
          rw [Bool.eq_false_iff, ne_eq, List.isEmpty_iff, List.dropWhile_eq_nil_iff]
          intro all
          rw [List.all_eq_true.2 all] at plain
          rcases plain with impossible | impossible <;> cases impossible
        refine ⟨above.dropWhile isLineSpacing ++ ['\n'], lower, ?_, .inr ⟨_, ?_, rfl⟩, starts, ?_⟩
        · rw [List.append_assoc, List.dropWhile_append, stays, if_neg Bool.false_ne_true,
            List.append_assoc]
        · rw [isAllBlank_dropWhile_isLineSpacing, blank]
        · rw [opened, List.modifyHead_id, id]

/-! ## All lines -/

theorem isAllBlank_openedLine (text line : Text) :
    isAllBlank (openedLine text line) = isAllBlank line := by
  unfold openedLine
  split
  · exact isAllBlank_dropWhile_isLineSpacing line
  · rfl

/-- The lines of the stripped text, from the first one with something to see on. -/
theorem dropWhile_lines_stripEdges (text : Text) :
    (lines (stripEdges text)).dropWhile isAllBlank = keptLines text := by
  cases seen : isAllBlank text with
  | true =>
      have stripped : isAllBlank (stripEdges text) = true := by rw [isAllBlank_stripEdges, seen]
      rw [dropWhile_lines_of_blank stripped, keptLines, seenLines, dropWhile_lines_of_blank seen]
      rfl
  | false =>
      obtain ⟨lead, lower, rfl, isLead, starts⟩ := exists_lead seen
      obtain ⟨lead', lower', stripped, isLead', starts', same⟩ :=
        exists_dropWhile_isLineSpacing isLead starts
      obtain ⟨line, others, whole, lineSeen⟩ := starts.exists_lines
      have openedSeen : isAllBlank (openedLine (lead ++ lower) line) = false := by
        rw [isAllBlank_openedLine, lineSeen]
      have trimmed : ∀ {head : Text}, isAllBlank head = false →
          (head :: others).rdropWhile isAllBlank = head :: others.rdropWhile isAllBlank :=
        fun headSeen => rdropWhile_append_cons headSeen [] others
      rw [stripEdges_eq, stripped, dropTrailing_append (dropTrailing_ne_nil starts'.seen),
        isLead'.dropWhile_lines starts'.dropTrailing, lines_dropTrailing starts'.seen, same,
        keptLines, seenLines, isLead.dropWhile_lines starts, whole, List.modifyHead_cons,
        trimmed openedSeen, trimmed lineSeen, List.modifyHead_cons]

/-- Between two lines with something to see one empty line is left if blank lines stood
there, and none otherwise. -/
theorem closeUp_between {line next : Text} (lineSeen : isAllBlank line = false)
    (nextSeen : isAllBlank next = false) {blanks : List Text}
    (blank : ∀ line ∈ blanks, isAllBlank line = true) (above below : List Text) :
    closeUp (above ++ line :: (blanks ++ next :: below)) =
      closeUp above ++ line :: ((if blanks = [] then [] else [[]]) ++ next :: closeUp below) := by
  rw [closeUp_append_cons lineSeen, closeUp_append_cons nextSeen]
  split
  · rename_i none
    rw [none]
    rfl
  · rename_i some
    rw [closeUp_of_blank some blank]

theorem shown_dropWhile (texts : List Text) :
    shown (texts.dropWhile isAllBlank) = shown texts := by
  induction texts with
  | nil => rfl
  | cons line rest ih =>
      cases seen : isAllBlank line with
      | true =>
          rw [List.dropWhile_cons_of_pos seen, ih, shown, shown, List.filter_cons_of_neg (by
            simp [seen])]
      | false => rw [List.dropWhile_cons_of_neg (by simp [seen])]

theorem shown_cons_of_seen {line : Text} (seen : isAllBlank line = false) (rest : List Text) :
    shown (line :: rest) = line :: shown rest :=
  List.filter_cons_of_pos (by simp [seen])

/-- The lines with something to see, the first one opened and the last one trimmed. -/
theorem shown_keptLines (text : Text) :
    shown (keptLines text) =
      ((shownLines text).modifyHead (openedLine text)).modifyLast (dropTrailing isBlank) := by
  have same : shownLines text = shown ((lines text).dropWhile isAllBlank) :=
    (shown_dropWhile (lines text)).symm
  rw [keptLines, seenLines, same]
  cases kept : (lines text).dropWhile isAllBlank with
  | nil => rfl
  | cons first others =>
      have firstSeen : isAllBlank first = false := by
        have head := List.head?_dropWhile_not isAllBlank (lines text)
        rw [kept] at head
        simpa using head
      have openedSeen : isAllBlank (openedLine text first) = false := by
        rw [isAllBlank_openedLine, firstSeen]
      have trimmed : ∀ {line : Text}, isAllBlank line = false →
          isAllBlank (dropTrailing isBlank line) = false :=
        fun seen => (isAllBlank_eq_of_visible (visible_dropTrailing (fun _ => id) _)).trans seen
      have blanks : shown (others.rtakeWhile isAllBlank) = [] :=
        List.filter_eq_nil_iff.2 fun line member => by
          simp [List.mem_rtakeWhile_imp member]
      have shownOthers : shown others = shown (others.rdropWhile isAllBlank) := by
        conv_lhs => rw [← List.rdropWhile_append_rtakeWhile (p := isAllBlank) (l := others)]
        rw [shown_append, blanks, List.append_nil]
      have cut : (first :: others).rdropWhile isAllBlank =
          first :: others.rdropWhile isAllBlank :=
        rdropWhile_append_cons firstSeen [] others
      rw [cut, shown_cons_of_seen firstSeen, shownOthers, List.modifyHead_cons,
        List.modifyHead_cons]
      rcases List.eq_nil_or_concat' (others.rdropWhile isAllBlank) with none | ⟨middle, last, whole⟩
      · rw [none]
        exact shown_cons_of_seen (trimmed openedSeen) []
      · have lastSeen : isAllBlank last = false := by
          have ending := List.rdropWhile_last_not isAllBlank others (by simp [whole])
          simpa [whole] using ending
        have single : ∀ {line : Text}, isAllBlank line = false → shown [line] = [line] :=
          fun seen => shown_cons_of_seen seen []
        rw [whole, ← List.cons_append, List.modifyLast_concat, shown_append, shown_append,
          single lastSeen, single (trimmed lastSeen), shown_cons_of_seen openedSeen,
          ← List.cons_append, List.modifyLast_concat]

/-- From the first line with something to see on, cleaned text has the lines that are to be
kept: all that are not blank, in their order and with their indentation and the spaces at
their ends, and one empty line where blank lines stood between two of them.  No visible
character is lost. -/
theorem cleanUp_keeps_lines (text : Text) :
    (lines (cleanUp text)).dropWhile isAllBlank = closeUp (keptLines text) ∧
    (∀ above line blanks next below,
      keptLines text = above ++ line :: (blanks ++ next :: below) →
      isAllBlank line = false → isAllBlank next = false →
      (∀ line ∈ blanks, isAllBlank line = true) →
        (lines (cleanUp text)).dropWhile isAllBlank =
          closeUp above ++ line ::
            ((if blanks = [] then [] else [[]]) ++ next :: closeUp below)) ∧
    shownLines (cleanUp text) =
      ((shownLines text).modifyHead (openedLine text)).modifyLast (dropTrailing isBlank) ∧
    visible (cleanUp text) = visible text := by
  have closed : (lines (cleanUp text)).dropWhile isAllBlank = closeUp (keptLines text) := by
    rw [dropWhile_lines_cleanUp, dropWhile_lines_stripEdges]
  refine ⟨closed, ?_, ?_, visible_cleanUp text⟩
  · intro above line blanks next below whole lineSeen nextSeen blank
    rw [closed, whole, closeUp_between lineSeen nextSeen blank]
  · rw [← shown_keptLines, shownLines_cleanUp, shownLines, ← shown_dropWhile,
      dropWhile_lines_stripEdges]

/-- Blank lines above, between and below three lines. -/
def spacedLines : Text :=
  " \n\t\n  a  \n \n\n b\r\nc \n".toList

example : cleanUp spacedLines = " \n\n  a  \n\n b\r\nc".toList := by
  decide

theorem spacedLines_kept :
    (lines (cleanUp spacedLines)).dropWhile isAllBlank =
      closeUp [] ++ "  a  ".toList :: ([[]] ++ " b\r".toList :: closeUp ["c".toList]) := by
  have between := (cleanUp_keeps_lines spacedLines).2.1
  exact between [] "  a  ".toList [" ".toList, []] " b\r".toList ["c".toList]
    (by decide +kernel) (by decide) (by decide) (by decide)

end PageMark.Text
