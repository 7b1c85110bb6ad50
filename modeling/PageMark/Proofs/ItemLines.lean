import Mathlib.Order.Monotone.Basic
import PageMark.Proofs.CleanLines

/-!
# Lines that begin like items

A line begins like an item of an ordered list with a number, a point and a space
behind it.  A scanner with one state for each part of such a beginning finds these
lines in a text.  Its states are ordered by what they still let become an item, so a
text that is read in a lower state, or that leads to lower ones, has no other items.
-/

namespace PageMark

namespace Text

/-! ## Numbers at the beginning -/

/-- What is behind the point of a number at the beginning; `seen` tells that there have been
digits before. -/
def afterNumber? (seen : Bool) : Text → Option Text
  | [] => none
  | character :: rest =>
      if character.isDigit then afterNumber? true rest
      else if seen && character == '.' then some rest
      else none

theorem afterNumber?_append {seen : Bool} {digits rest : Text} (some : seen = true ∨ digits ≠ [])
    (all : ∀ digit ∈ digits, digit.isDigit = true) :
    afterNumber? seen (digits ++ '.' :: rest) = Option.some rest := by
  induction digits generalizing seen with
  | nil =>
      rw [some.resolve_right fun none => none rfl]
      rfl
  | cons first digits ih =>
      obtain ⟨digit, others⟩ := List.forall_mem_cons.1 all
      rw [List.cons_append, afterNumber?, if_pos digit]
      exact ih (.inl rfl) others

theorem exists_digits_of_afterNumber? {seen : Bool} {text rest : Text}
    (found : afterNumber? seen text = some rest) :
    ∃ digits, text = digits ++ '.' :: rest ∧ (seen = true ∨ digits ≠ []) ∧
      ∀ digit ∈ digits, digit.isDigit = true := by
  induction text generalizing seen with
  | nil => cases found
  | cons first others ih =>
      rw [afterNumber?] at found
      split at found
      · next digit =>
          obtain ⟨digits, rfl, -, all⟩ := ih found
          exact ⟨first :: digits, rfl, .inr (List.cons_ne_nil _ _),
            List.forall_mem_cons.2 ⟨digit, all⟩⟩
      · split at found
        · next point =>
            cases found
            rw [Bool.and_eq_true, beq_iff_eq] at point
            exact ⟨[], by rw [point.2]; rfl, .inl point.1, List.forall_mem_nil _⟩
        · cases found

theorem afterNumber?_eq_some_iff {seen : Bool} {text rest : Text} :
    afterNumber? seen text = some rest ↔
      ∃ digits, text = digits ++ '.' :: rest ∧ (seen = true ∨ digits ≠ []) ∧
        ∀ digit ∈ digits, digit.isDigit = true := by
  constructor
  · exact exists_digits_of_afterNumber?
  · rintro ⟨digits, rfl, some, all⟩
    exact afterNumber?_append some all

/-- The line begins like an item of an ordered list: up to three spaces, a number, and a point
with a space behind it. -/
def StartsItem (line : Text) : Prop :=
  ∃ margin digits rest, line = List.replicate margin ' ' ++ (digits ++ '.' :: ' ' :: rest) ∧
    margin ≤ 3 ∧ digits ≠ [] ∧ ∀ digit ∈ digits, digit.isDigit = true

/-- The line begins like an item behind any margin of spacing. -/
def BeginsItem (line : Text) : Prop :=
  ∃ rest, afterNumber? false (line.dropWhile isSpacing) = some (' ' :: rest)

theorem isSpacing_of_isDigit {character : Char} (digit : character.isDigit = true) :
    isSpacing character = false := by
  cases spacing : isSpacing character with
  | false => rfl
  | true =>
      simp only [isSpacing, Bool.or_eq_true, beq_iff_eq] at spacing
      rcases spacing with ((rfl | rfl) | rfl) | rfl <;> cases digit

theorem StartsItem.beginsItem {line : Text} (starts : StartsItem line) : BeginsItem line := by
  obtain ⟨margin, digits, rest, rfl, -, some, all⟩ := starts
  obtain ⟨first, others, rfl⟩ := List.exists_cons_of_ne_nil some
  have spaces : ∀ character ∈ List.replicate margin ' ', isSpacing character = true := by
    intro character member
    rw [List.eq_of_mem_replicate member]
    rfl
  have solid := isSpacing_of_isDigit (all first List.mem_cons_self)
  refine ⟨rest, ?_⟩
  rw [List.dropWhile_append_of_pos spaces, List.cons_append, List.dropWhile_cons,
    if_neg (by simp [solid])]
  exact afterNumber?_append (.inr some) all

/-- An item is something to see. -/
theorem BeginsItem.seen {line : Text} (begins : BeginsItem line) : isAllBlank line = false := by
  obtain ⟨rest, found⟩ := begins
  obtain ⟨digits, whole, -, -⟩ := afterNumber?_eq_some_iff.1 found
  have seen : isAllBlank (line.dropWhile isSpacing) = false := by
    have point : isBlank '.' = false := by decide
    rw [whole, isAllBlank_append, isAllBlank_cons, point, Bool.false_and, Bool.and_false]
  rwa [isAllBlank_eq_of_visible (visible_dropWhile (fun _ => isBlank_of_isSpacing) line)] at seen

end Text

/-! ## The scanner -/

/-- How far the line that is being read has come towards an item. -/
inductive LineState where
  /-- Nothing but spacing. -/
  | margin
  /-- Digits, and before them nothing but spacing. -/
  | number
  /-- A point behind such digits. -/
  | point
  /-- A line that is no item. -/
  | inside
  /-- This line or one before it is an item. -/
  | item
deriving DecidableEq, Repr

namespace LineState

/-- The state behind a character that belongs to no item. -/
def apart (character : Char) : LineState :=
  if character = '\n' then margin else inside

def next (state : LineState) (character : Char) : LineState :=
  match state with
  | margin =>
      if Text.isSpacing character then margin
      else if character.isDigit then number
      else apart character
  | number =>
      if character.isDigit then number
      else if character = '.' then point
      else apart character
  | point => if character = ' ' then item else apart character
  | inside => apart character
  | item => item

/-- The state that a text leads to. -/
def after (state : LineState) (text : Text) : LineState :=
  text.foldl next state

@[simp] theorem after_nil (state : LineState) : state.after [] = state :=
  rfl

theorem after_cons (state : LineState) (character : Char) (rest : Text) :
    state.after (character :: rest) = (state.next character).after rest :=
  rfl

theorem after_append (state : LineState) (left right : Text) :
    state.after (left ++ right) = (state.after left).after right :=
  List.foldl_append

@[simp] theorem after_item (text : Text) : item.after text = item := by
  induction text with
  | nil => rfl
  | cons character rest ih => exact ih

theorem next_break (state : LineState) :
    state.next '\n' = if state = item then item else margin := by
  cases state <;> rfl

/-! ### The order of states -/

/-- A lower state lets no more texts become items: from inside of a line none that would not
from any other state. -/
instance : Preorder LineState where
  le lower upper := lower = inside ∨ upper = item ∨ lower = upper
  le_refl state := .inr (.inr rfl)
  le_trans first second third := by
    rintro (rfl | rfl | rfl) above
    · exact .inl rfl
    · obtain rfl | rfl := above.resolve_left LineState.noConfusion
      · exact .inr (.inl rfl)
      · exact .inr (.inl rfl)
    · exact above

theorem le_iff {lower upper : LineState} :
    lower ≤ upper ↔ lower = inside ∨ upper = item ∨ lower = upper :=
  Iff.rfl

instance (lower upper : LineState) : Decidable (lower ≤ upper) :=
  inferInstanceAs (Decidable (_ ∨ _ ∨ _))

theorem inside_le (state : LineState) : inside ≤ state :=
  .inl rfl

theorem le_item (state : LineState) : state ≤ item :=
  .inr (.inl rfl)

theorem item_le_iff {state : LineState} : item ≤ state ↔ state = item := by
  rw [le_iff]
  cases state <;> decide

theorem apart_le (character : Char) (state : LineState) :
    apart character ≤ state.next character := by
  by_cases feed : character = '\n'
  · rw [feed, next_break]
    split
    · exact le_item _
    · exact le_refl _
  · rw [apart, if_neg feed]
    exact inside_le _

theorem next_mono (character : Char) : Monotone fun state => next state character := by
  rintro lower upper (rfl | rfl | rfl)
  · exact apart_le character upper
  · exact le_item _
  · exact le_refl _

theorem after_mono (text : Text) : Monotone fun state => after state text := by
  intro lower upper below
  induction text generalizing lower upper with
  | nil => exact below
  | cons character rest ih => exact ih (next_mono character below)

end LineState

namespace Text

open LineState

/-! ### What the scanner finds -/

section Line

variable {line : Text} (single : '\n' ∉ line)

include single

theorem after_inside : inside.after line = inside := by
  induction line with
  | nil => rfl
  | cons character rest ih =>
      rw [List.mem_cons, not_or] at single
      rw [after_cons, next, apart, if_neg (Ne.symm single.1)]
      exact ih single.2

theorem after_point_eq_item_iff : point.after line = item ↔ ∃ rest, line = ' ' :: rest := by
  cases line with
  | nil => simp
  | cons character rest =>
      rw [List.mem_cons, not_or] at single
      rw [after_cons, next, apart, if_neg (Ne.symm single.1)]
      by_cases space : character = ' '
      · simp [space]
      · simp [space, after_inside single.2]

theorem after_number_eq_item_iff :
    number.after line = item ↔ ∃ rest, afterNumber? true line = some (' ' :: rest) := by
  induction line with
  | nil => simp [afterNumber?]
  | cons character rest ih =>
      rw [List.mem_cons, not_or] at single
      rw [after_cons, next, apart, if_neg (Ne.symm single.1), afterNumber?, Bool.true_and]
      by_cases digit : character.isDigit = true
      · rw [if_pos digit, if_pos digit]
        exact ih single.2
      · by_cases period : character = '.'
        · simp [period, after_point_eq_item_iff single.2]
        · simp [digit, period, after_inside single.2]

theorem after_margin_eq_item_iff_of_not_mem : margin.after line = item ↔ BeginsItem line := by
  rw [BeginsItem]
  induction line with
  | nil => simp [afterNumber?]
  | cons character rest ih =>
      rw [List.mem_cons, not_or] at single
      rw [after_cons, next, apart, if_neg (Ne.symm single.1), List.dropWhile_cons]
      by_cases spacing : isSpacing character = true
      · rw [if_pos spacing, if_pos spacing]
        exact ih single.2
      · rw [if_neg spacing, if_neg spacing, afterNumber?, Bool.false_and]
        by_cases digit : character.isDigit = true
        · rw [if_pos digit, if_pos digit]
          exact after_number_eq_item_iff single.2
        · simp [digit, after_inside single.2]

end Line

/-- The scanner finds an item in a text exactly if one of its lines begins like one. -/
theorem after_margin_eq_item_iff {text : Text} :
    margin.after text = item ↔ ∃ line ∈ lines text, BeginsItem line := by
  by_cases feed : '\n' ∈ text
  · obtain ⟨front, rest, whole, noFront⟩ := List.eq_append_cons_of_mem feed
    have shorter : rest.length < text.length := by
      rw [whole, List.length_append, List.length_cons]
      omega
    rw [whole, after_append, after_cons, next_break, lines_append_break, lines_of_not_mem noFront,
      List.singleton_append, List.exists_mem_cons_iff,
      ← after_margin_eq_item_iff_of_not_mem noFront]
    by_cases found : margin.after front = item
    · simp [found]
    · rw [if_neg found, after_margin_eq_item_iff]
      exact (or_iff_right found).symm
  · rw [lines_of_not_mem feed, after_margin_eq_item_iff_of_not_mem feed]
    simp
termination_by text.length

/-- Cleaning up makes no items. -/
theorem after_margin_of_cleanUp {text line : Text} (member : line ∈ lines (cleanUp text))
    (begins : BeginsItem line) : margin.after text = item := by
  have shown : line ∈ shownLines (stripEdges text) := by
    rw [← shownLines_cleanUp]
    exact List.mem_filter.2 ⟨member, by rw [begins.seen]; rfl⟩
  have stripped : margin.after (stripEdges text) = item :=
    after_margin_eq_item_iff.2 ⟨line, (List.mem_filter.1 shown).1, begins⟩
  obtain ⟨tail, whole, -⟩ := exists_dropped isBlank (text.dropWhile isLineSpacing)
  have opened : margin.after (text.dropWhile isLineSpacing) = item := by
    rw [whole, after_append, ← stripEdges_eq, stripped, after_item]
  rw [← opened]
  -- what is dropped at the start is spacing, which leaves the scanner in the margin
  clear opened whole stripped shown member
  induction text with
  | nil => rfl
  | cons character rest ih =>
      rw [List.dropWhile_cons]
      split
      · next spacing =>
          have stays : margin.next character = margin :=
            if_pos (isSpacing_of_isLineSpacing spacing)
          rw [after_cons, stays, ih]
      · rfl

/-! ## Sketches of texts -/

/-- The sketch has all items that the text has, wherever they stand, and shows something if the
text does. -/
structure IsCoveredBy (text sketch : Text) : Prop where
  states : ∀ state : LineState, state.after text ≤ state.after sketch
  blank : isAllBlank text = isAllBlank sketch

namespace IsCoveredBy

variable {text text' sketch sketch' : Text}

protected theorem refl (text : Text) : IsCoveredBy text text where
  states _ := le_refl _
  blank := rfl

theorem append (first : IsCoveredBy text sketch) (second : IsCoveredBy text' sketch') :
    IsCoveredBy (text ++ text') (sketch ++ sketch') where
  states state := by
    rw [after_append, after_append]
    exact (after_mono text' (first.states state)).trans (second.states _)
  blank := by rw [isAllBlank_append, isAllBlank_append, first.blank, second.blank]

theorem joinWith (separator : Text) {texts sketches : List Text}
    (covered : List.Forall₂ IsCoveredBy texts sketches) :
    IsCoveredBy (joinWith separator texts) (joinWith separator sketches) := by
  induction covered with
  | nil => exact .refl _
  | @cons text sketch texts sketches first others ih =>
      cases others with
      | nil => exact first
      | cons second others =>
          rw [joinWith_cons _ (List.cons_ne_nil _ _), joinWith_cons _ (List.cons_ne_nil _ _)]
          exact (first.append (.refl separator)).append ih

end IsCoveredBy

/-! ### Marks -/

/-- No part of the beginning of an item, and no white space. -/
def IsMark (character : Char) : Prop :=
  isBlank character = false ∧ character.isDigit = false ∧ character ≠ '.'

instance (character : Char) : Decidable (IsMark character) :=
  inferInstanceAs (Decidable (_ ∧ _ ∧ _))

/-- A mark and whatever belongs to it, within a line. -/
def IsMarkup (text : Text) : Prop :=
  ∃ first rest, text = first :: rest ∧ IsMark first ∧ '\n' ∉ rest

theorem IsMark.isMarkup {first : Char} (isMark : IsMark first) {rest : Text}
    (single : '\n' ∉ rest) : IsMarkup (first :: rest) :=
  ⟨first, rest, rfl, isMark, single⟩

end Text

namespace LineState

open Text

/-- The state behind a mark. -/
def marked (state : LineState) : LineState :=
  if state = item then item else inside

theorem marked_mono : Monotone marked := by
  intro lower upper below
  by_cases found : lower = item
  · rw [found, item_le_iff] at below
    rw [below]
    exact le_item _
  · rw [marked, if_neg found]
    exact inside_le _

/-- Behind a mark the line is no item, whatever it goes on with. -/
theorem next_marked {character : Char} (other : character ≠ '\n') (state : LineState) :
    state.marked.next character = state.marked := by
  by_cases found : state = item
  · rw [found]
    rfl
  · rw [marked, if_neg found, next, apart, if_neg other]

theorem next_of_isMark {character : Char} (isMark : IsMark character) (state : LineState) :
    state.next character = state.marked := by
  obtain ⟨visible, digit, period⟩ := isMark
  have spacing : isSpacing character = false := by
    rw [Bool.eq_false_iff] at visible ⊢
    exact fun spacing => visible (isBlank_of_isSpacing spacing)
  have feed : character ≠ '\n' := by
    rintro rfl
    cases spacing
  have space : character ≠ ' ' := by
    rintro rfl
    cases spacing
  cases state <;> simp [next, marked, apart, feed, spacing, digit, period, space]

theorem after_of_isMarkup {text : Text} (isMarkup : IsMarkup text) (state : LineState) :
    state.after text = state.marked := by
  obtain ⟨first, rest, rfl, isMark, single⟩ := isMarkup
  rw [after_cons, next_of_isMark isMark, marked]
  split
  · exact after_item rest
  · exact after_inside single

/-- Between marks nothing is lost if spacing at the edges goes. -/
theorem marked_after_trimSpacing_le (state : LineState) (content : Text) :
    (state.marked.after (trimSpacing content)).marked ≤ (state.marked.after content).marked := by
  by_cases found : state = item
  · rw [found, show item.marked = item from rfl, after_item, after_item]
  · rw [show state.marked = inside from if_neg found]
    obtain ⟨tail, whole, -⟩ := exists_dropped isSpacing (content.dropWhile isSpacing)
    have trimmed : content.dropWhile isSpacing = trimSpacing content ++ tail := whole
    have parted := (List.takeWhile_append_dropWhile (p := isSpacing) (l := content)).symm
    have kept : inside.after (trimSpacing content) ≤
        (inside.after (content.takeWhile isSpacing)).after (trimSpacing content) :=
      after_mono _ (inside_le _)
    by_cases shown : inside.after (trimSpacing content) = item
    · rw [shown, item_le_iff] at kept
      rw [parted, trimmed, after_append, after_append, kept, after_item]
      exact le_item _
    · rw [marked, if_neg shown]
      exact inside_le _

end LineState

namespace Text

open LineState

theorem IsMarkup.isAllBlank {text : Text} (isMarkup : IsMarkup text) :
    isAllBlank text = false := by
  obtain ⟨first, rest, rfl, isMark, -⟩ := isMarkup
  rw [isAllBlank_cons, isMark.1, Bool.false_and]

/-- It does not matter which marks stand around a content, and whether it is trimmed there. -/
theorem IsCoveredBy.enclose {content sketch given front back front' back' : Text}
    (covered : IsCoveredBy content sketch)
    (kept : given = content ∨ given = trimSpacing content)
    (opens : IsMarkup front) (closes : IsMarkup back)
    (opens' : IsMarkup front') (closes' : IsMarkup back') :
    IsCoveredBy (front ++ given ++ back) (front' ++ sketch ++ back') where
  states state := by
    simp only [after_append, after_of_isMarkup opens, after_of_isMarkup closes,
      after_of_isMarkup opens', after_of_isMarkup closes']
    have all := marked_mono (covered.states state.marked)
    rcases kept with rfl | rfl
    · exact all
    · exact (marked_after_trimSpacing_le state content).trans all
  blank := by simp [isAllBlank_append, opens.isAllBlank, opens'.isAllBlank]

/-! ### Spaces around -/

/-- A space in front of the text or behind it takes no items away. -/
structure TakesSpaces (text : Text) : Prop where
  before : ∀ state : LineState, state.after text ≤ (state.next ' ').after text
  behind : ∀ state : LineState, state.after text ≤ (state.after text).next ' '

/-- What begins and ends with a mark takes spaces. -/
theorem takesSpaces_of_isMark {text front rest : Text} {first last : Char}
    (begins : text = first :: rest) (opens : IsMark first) (ends : text = front ++ [last])
    (closes : IsMark last) :
    TakesSpaces text where
  before state := by
    rw [begins, after_cons, after_cons, next_of_isMark opens, next_of_isMark opens]
    refine after_mono rest ?_
    cases state <;> decide
  behind state := by
    rw [ends, after_append, after_cons, after_nil, next_of_isMark closes]
    cases state.after front <;> decide

end Text

end PageMark
