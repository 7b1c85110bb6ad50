import PageMark.Conversion.Page
import PageMark.Proofs.BlankLines
import PageMark.Proofs.ItemLines
import PageMark.Proofs.Openings
import PageMark.Proofs.Pages
import PageMark.Proofs.Words

/-!
# Pages of plain text

A page without tags and references becomes one line: its spacing is squeezed, and
white space goes at its end.  The point of a number is escaped before that, where a
space is behind it, so a point before a tab or a line end is left as it is, and the
line that comes of it begins like an item of an ordered list.
-/

namespace PageMark

/-! ## Reading plain text -/

namespace Html

theorem not_isSpace_of_skipSpace {text rest : Text} {first : Char}
    (whole : skipSpace text = first :: rest) : isSpace first = false := by
  have kept := List.head?_dropWhile_not isSpace text
  rw [show text.dropWhile isSpace = first :: rest from whole] at kept
  exact kept

theorem decodeReferences_of_not_mem {inAttribute : Bool} {text : Text} (plain : '&' ∉ text) :
    decodeReferences inAttribute text = text := by
  rw [decodeReferences]
  induction text with
  | nil => rfl
  | cons character rest ih =>
      rw [List.mem_cons, not_or] at plain
      rw [decodeAfter, if_neg (Nat.lt_irrefl 0), if_neg (Ne.symm plain.1), ih plain.2]

theorem readTokens_of_not_mem {fuel : Nat} {collected text : Text} (enough : text.length ≤ fuel)
    (plain : '<' ∉ text) : readTokens fuel collected text = readText (text.reverse ++ collected) := by
  induction text generalizing fuel collected with
  | nil => cases fuel <;> rfl
  | cons character rest ih =>
      rw [List.mem_cons, not_or] at plain
      cases fuel with
      | zero => cases enough
      | succ fuel =>
          rw [readTokens, ih (Nat.le_of_succ_le_succ enough) plain.2]
          · simp
          · rintro rfl
            exact plain.1 rfl

theorem mem_of_mem_normalizeLines {text : Text} {character : Char}
    (member : character ∈ normalizeLines text) :
    character = '\n' ∨ character = replacementCharacter ∨ character ∈ text := by
  fun_induction normalizeLines text with
  | case1 => cases member
  | case2 rest ih =>
      rcases List.mem_cons.1 member with rfl | later
      · exact .inl rfl
      · exact (ih later).imp_right (Or.imp_right fun own => by simp [own])
  | case3 rest _ ih =>
      rcases List.mem_cons.1 member with rfl | later
      · exact .inl rfl
      · exact (ih later).imp_right (Or.imp_right (List.mem_cons_of_mem _))
  | case4 first rest _ _ ih =>
      rcases List.mem_cons.1 member with same | later
      · split at same
        · exact .inr (.inl same)
        · exact .inr (.inr (same ▸ List.mem_cons_self))
      · exact (ih later).imp_right (Or.imp_right (List.mem_cons_of_mem _))

theorem mem_of_mem_withoutByteOrderMarks {text : Text} {character : Char}
    (member : character ∈ withoutByteOrderMarks text) : character ∈ text := by
  unfold withoutByteOrderMarks at member
  split at member
  · simp [member]
  · simp [member]
  · exact member

/-- What is left of a page when its marks of byte order, its line ends and the space at its
beginning have been read. -/
def contentOf (page : Text) : Text :=
  skipSpace (normalizeLines (withoutByteOrderMarks page))

theorem mem_of_mem_contentOf {page : Text} {character : Char} (member : character ∈ contentOf page) :
    character = '\n' ∨ character = replacementCharacter ∨ character ∈ page :=
  (mem_of_mem_normalizeLines ((List.dropWhile_sublist _).subset member)).imp_right
    (Or.imp_right mem_of_mem_withoutByteOrderMarks)

/-- Plain text is one token. -/
theorem tokensOf_of_not_mem {page : Text} (noTag : '<' ∉ page) (noReference : '&' ∉ page) :
    tokensOf page = textToken (contentOf page) := by
  have noTag' : '<' ∉ contentOf page := fun member => by
    rcases mem_of_mem_contentOf member with feed | mark | own
    · exact absurd feed (by decide)
    · exact absurd mark (by decide)
    · exact noTag own
  have noReference' : '&' ∉ contentOf page := fun member => by
    rcases mem_of_mem_contentOf member with feed | mark | own
    · exact absurd feed (by decide)
    · exact absurd mark (by decide)
    · exact noReference own
  have read : readTokens (contentOf page).length [] (contentOf page) =
      textToken (contentOf page) := by
    rw [readTokens_of_not_mem (Nat.le_refl _) noTag', readText, List.append_nil,
      List.reverse_reverse, decodeReferences_of_not_mem noReference']
  have noMark (rest : Text) : contentOf page ≠ '<' :: rest := fun same =>
    noTag' (same ▸ List.mem_cons_self)
  rw [tokensOf, readPage]
  split
  · next rest whole => exact absurd whole (noMark _)
  · next rest whole => exact absurd whole (noMark _)
  · next rest _ whole => exact absurd whole (noMark _)
  · exact read

namespace Builder

/-- Text that does not begin with space opens a page with a body. -/
theorem finish_text {first : Char} {rest : Text} (visible : isSpace first = false) :
    (Builder.start.token (.text (first :: rest))).finish =
      [.element (Document.plainTag "html") [.element (Document.plainTag "body")
        [.text .plain (first :: rest)]]] := by
  have none : (first :: rest).takeWhile isSpace = [] := by rw [List.takeWhile_cons, visible]; rfl
  have all : (first :: rest).dropWhile isSpace = first :: rest := by
    rw [List.dropWhile_cons, visible]; rfl
  have same : shortenSpace (first :: rest) = first :: rest := by
    rw [shortenSpace, List.all_cons, visible]; rfl
  have opened : Builder.start.token (.text (first :: rest)) =
      { frames := [⟨"body", [], []⟩, ⟨"html", [], []⟩], outside := [],
        pending := [first :: rest], headOpened := true, bodyOpened := true, passedOver := 0 } := by
    show text.beforeBody Builder.start (first :: rest) = _
    rw [text.beforeBody, none, all]
    rfl
  have whole : [first :: rest].reverse.flatten = first :: rest := List.append_nil _
  rw [opened, finish]
  simp [closeMany, closeInnermost, flush, normalizeSpace, same, append, Frame.keepsSpace,
    Frame.toNode, Tag.ofPairs, Document.plainTag]

end Builder

end Html

namespace Text

/-- Without line feeds there is nothing to clean up but the edges. -/
theorem cleanUp_of_hasSpacesOnly {text : Text} (spaces : text.HasSpacesOnly) :
    cleanUp text = dropTrailing isBlank text := by
  have other : ∀ character ∈ text, isLineSpacing character = false := by
    intro character member
    rw [Bool.eq_false_iff]
    intro line
    rw [spaces character member (isSpacing_of_isLineSpacing line)] at line
    exact absurd line (by decide)
  have start : text.dropWhile isLineSpacing = text := by
    cases text with
    | nil => rfl
    | cons first rest => rw [List.dropWhile_cons, other first List.mem_cons_self]; rfl
  have noBreak : '\n' ∉ dropTrailing isBlank text := by
    intro member
    obtain ⟨tail, whole, -⟩ := exists_dropped isBlank text
    have inText : '\n' ∈ text := whole ▸ List.mem_append_left tail member
    exact absurd (other _ inText) (by decide)
  rw [cleanUp_eq_settle, stripEdges_eq, start, settle_of_not_mem noBreak]

end Text

namespace Document

theorem ofHtml_of_not_mem {page : Text} (noTag : '<' ∉ page) (noReference : '&' ∉ page) :
    ofHtml page = if Html.contentOf page = [] then { nodes := [] }
      else pageOf [.text .plain (Html.contentOf page)] := by
  rw [ofHtml, Html.tokensOf_of_not_mem noTag noReference]
  cases whole : Html.contentOf page with
  | nil => rfl
  | cons first rest =>
      have visible := Html.not_isSpace_of_skipSpace whole
      rw [if_neg (List.cons_ne_nil first rest)]
      show ofNodes (Html.Builder.start.token (.text (first :: rest))).finish = _
      rw [Html.Builder.finish_text visible]
      rfl

theorem collapsedBody_text {first : Char} {rest : Text} (solid : Text.isSpacing first = false) :
    collapsedBody [.text .plain (first :: rest)] = [.text .plain (Text.normal (first :: rest))] := by
  have plain (before after : Text) : textAfter .plain before after = .text .plain after := by
    rw [textAfter, ite_self]
  have shorten : Gap.atBoundary.shorten (first :: rest) = first :: Text.squeezeAfter false rest := by
    rw [Gap.shorten_eq, Text.squeezeAfter, solid]
    rfl
  have squeezed : (squeezeAll .atBoundary [.text .plain (first :: rest)]).2 =
      [.text .plain (first :: Text.squeezeAfter false rest)] := by
    rw [squeezeAll, Node.squeezeFrom, shorten, plain]
    rfl
  have whole : Text.squeezeAfter true (first :: rest) = first :: Text.squeezeAfter false rest :=
    (Gap.shorten_eq .atBoundary _).symm.trans shorten
  rw [collapsedBody, collapseBetween, squeezed, Text.normal_eq, whole]
  show [textAfter .plain _ _] = _
  rw [plain]
  rfl

/-- A page with nothing but a text becomes this text, squeezed, without white space at its end. -/
theorem exists_convert_text (gfm : Bool) {first : Char} {rest : Text}
    (solid : Text.isSpacing first = false) :
    ∃ conversion,
      (pageOf [.text .plain (first :: rest)]).convert { gfm := gfm } [] = .ok conversion ∧
      conversion.markdown = Text.dropTrailing Text.isBlank (Text.squeeze (first :: rest)) := by
  have inside : (Registry.builtIn gfm).insideOf [0, 0] (plainTag "body") []
      (collapsedBody [.text .plain (first :: rest)]) =
        .ok ⟨Text.normal (first :: rest) ++ [], []⟩ := by
    rw [collapsedBody_text solid]
    rfl
  obtain ⟨conversion, converted, markdown⟩ := exists_convert_pageOf inside
  refine ⟨conversion, converted, ?_⟩
  rw [markdown, List.append_nil, Text.cleanUp_of_hasSpacesOnly, Text.normal_eq,
    Text.dropTrailing_dropTrailingSpace, Text.squeeze, Text.squeezeAfter, solid, Text.squeezeAfter,
    solid]
  · rfl
  · rw [Text.normal_eq]
    exact (Text.HasSpacesOnly.squeezeAfter true _).shorten_edge .boundary

end Document

/-! ## Escaping -/

theorem mem_of_mem_escapeNumbersAfter {afterDigit : Bool} {text : Text} {character : Char}
    (member : character ∈ escapeNumbersAfter afterDigit text) :
    character = '\\' ∨ character ∈ text := by
  fun_induction escapeNumbersAfter afterDigit text with
  | case1 => cases member
  | case2 rest ih =>
      simp only [List.mem_cons] at member ⊢
      tauto
  | case3 afterDigit rest _ ih =>
      simp only [List.mem_cons] at member ⊢
      tauto
  | case4 afterDigit first rest _ ih =>
      simp only [List.mem_cons] at member ⊢
      tauto

theorem isAllBlank_escapeNumbersAfter (afterDigit : Bool) (text : Text) :
    Text.isAllBlank (escapeNumbersAfter afterDigit text) = Text.isAllBlank text := by
  have point : Text.isBlank '.' = false := by decide
  fun_induction escapeNumbersAfter afterDigit text with
  | case1 => rfl
  | case2 rest ih => simp [Text.isAllBlank_cons, point]
  | case3 afterDigit rest _ ih => simp [Text.isAllBlank_cons, point]
  | case4 afterDigit first rest _ ih => simp [Text.isAllBlank_cons, ih]

theorem head?_escapeNumbers (text : Text) : (escapeNumbers text).head? = text.head? := by
  rw [escapeNumbers]
  fun_cases escapeNumbersAfter false text with
  | case1 => rfl
  | case2 rest seen => cases seen
  | case3 rest _ => rfl
  | case4 first rest _ => rfl

theorem not_infix_escapeNumbersAfter {digit : Char} (decimal : Text.isDecimalDigit digit = true)
    (afterDigit : Bool) (text : Text) :
    ¬ [digit, '.', ' '] <:+: escapeNumbersAfter afterDigit text ∧
      (afterDigit = true → ¬ ['.', ' '] <+: escapeNumbersAfter afterDigit text) := by
  have other {character : Char} (none : Text.isDecimalDigit character = false) :
      digit ≠ character := by
    rintro rfl
    rw [none] at decimal
    cases decimal
  have stroke : digit ≠ '\\' := other rfl
  have point : digit ≠ '.' := other rfl
  have space : digit ≠ ' ' := other rfl
  fun_induction escapeNumbersAfter afterDigit text with
  | case1 => simp
  | case2 rest ih =>
      simp [List.infix_cons_iff, List.cons_prefix_cons, stroke, point, space, ih.1]
  | case3 afterDigit rest noDigit ih =>
      simp [List.infix_cons_iff, List.cons_prefix_cons, point, space, ih.1, noDigit]
  | case4 afterDigit first rest apart ih =>
      rw [List.infix_cons_iff, List.cons_prefix_cons, List.cons_prefix_cons]
      constructor
      · rintro (⟨rfl, behind⟩ | later)
        · exact ih.2 decimal behind
        · exact ih.1 later
      · -- Behind a point that is no escaped one the text goes on as it was.
        rintro - ⟨rfl, behind⟩
        obtain ⟨others, whole⟩ := behind
        have first := head?_escapeNumbers rest
        rw [escapeNumbers, show escapeNumbersAfter false rest = ' ' :: others from whole.symm] at first
        obtain ⟨later, rfl⟩ := List.head?_eq_some_iff.1 first.symm
        exact apart later rfl rfl

/-- In an escaped page no decimal digit has a point and a space behind it. -/
theorem not_infix_escapeNumbers {digit : Char} (decimal : Text.isDecimalDigit digit = true)
    (page : Text) : ¬ [digit, '.', ' '] <:+: escapeNumbers page :=
  (not_infix_escapeNumbersAfter decimal false page).1

theorem escapeNumbers_cons {first : Char} (other : first ≠ '.')
    (noDigit : Text.isDecimalDigit first = false) (rest : Text) :
    escapeNumbers (first :: rest) = first :: escapeNumbers rest := by
  rw [escapeNumbers, escapeNumbersAfter, noDigit]
  · rfl
  · rintro later rfl
    exact absurd rfl other

namespace Html

theorem withoutByteOrderMarks_escapeNumbers (text : Text) :
    withoutByteOrderMarks (escapeNumbers text) = escapeNumbers (withoutByteOrderMarks text) := by
  have mark (rest : Text) : escapeNumbers ('\uFEFF' :: rest) = '\uFEFF' :: escapeNumbers rest :=
    escapeNumbers_cons (by decide) rfl rest
  have unmarked {text : Text} (none : text.head? ≠ some '\uFEFF') :
      withoutByteOrderMarks text = text := by
    fun_cases withoutByteOrderMarks text with
    | case1 rest => exact absurd rfl none
    | case2 rest _ => exact absurd rfl none
    | case3 _ _ => rfl
  fun_cases withoutByteOrderMarks text with
  | case1 rest => rw [mark, mark, withoutByteOrderMarks]
  | case2 rest single =>
      have none : ∀ later, escapeNumbers rest = '\uFEFF' :: later → False := by
        intro later same
        have first := head?_escapeNumbers rest
        rw [same] at first
        obtain ⟨others, rfl⟩ := List.head?_eq_some_iff.1 first.symm
        exact single others rfl
      rw [mark, withoutByteOrderMarks]
      exact none
  | case3 _ _ single =>
      refine unmarked fun first => ?_
      rw [head?_escapeNumbers] at first
      obtain ⟨others, rfl⟩ := List.head?_eq_some_iff.1 first
      exact single others rfl

section Space

variable {character : Char} (space : isSpace character = true)

include space

theorem isBlank_of_isSpace : Text.isBlank character = true := by
  simp only [isSpace, Bool.or_eq_true, beq_iff_eq] at space
  rcases space with (((rfl | rfl) | rfl) | rfl) | rfl <;> rfl

theorem ne_point_of_isSpace : character ≠ '.' := by
  rintro rfl
  exact absurd space (by decide)

theorem not_isDecimalDigit_of_isSpace : Text.isDecimalDigit character = false := by
  simp only [isSpace, Bool.or_eq_true, beq_iff_eq] at space
  rcases space with (((rfl | rfl) | rfl) | rfl) | rfl <;> rfl

end Space

theorem skipSpace_cons (first : Char) (rest : Text) :
    skipSpace (first :: rest) = if isSpace first then skipSpace rest else first :: rest :=
  List.dropWhile_cons

theorem skipSpace_escapeNumbers (text : Text) :
    skipSpace (escapeNumbers text) = escapeNumbers (skipSpace text) := by
  induction text with
  | nil => rfl
  | cons first rest ih =>
      rw [skipSpace_cons]
      split
      · next space =>
          rw [escapeNumbers_cons (ne_point_of_isSpace space) (not_isDecimalDigit_of_isSpace space),
            skipSpace_cons, if_pos space, ih]
      · next solid =>
          obtain ⟨others, whole⟩ := List.head?_eq_some_iff.1 (head?_escapeNumbers (first :: rest))
          rw [whole, skipSpace_cons, if_neg solid]

theorem skipSpace_normalizeLines (text : Text) :
    skipSpace (normalizeLines text) = normalizeLines (skipSpace text) := by
  have feed : isSpace '\n' = true := rfl
  have carriage : isSpace '\r' = true := rfl
  fun_induction normalizeLines text with
  | case1 => rfl
  | case2 rest ih => rw [skipSpace_cons, skipSpace_cons, skipSpace_cons, feed, carriage]; exact ih
  | case3 rest _ ih => rw [skipSpace_cons, skipSpace_cons, feed, carriage]; exact ih
  | case4 first rest pair single ih =>
      have same : isSpace (if first = '\x00' then replacementCharacter else first) =
          isSpace first := by
        split
        · next null => rw [null]; rfl
        · rfl
      rw [skipSpace_cons, skipSpace_cons, same]
      split
      · exact ih
      · rw [normalizeLines]
        · exact pair
        · exact single

theorem isAllBlank_skipSpace (text : Text) :
    Text.isAllBlank (skipSpace text) = Text.isAllBlank text :=
  Text.isAllBlank_eq_of_visible (Text.visible_dropWhile (fun _ => isBlank_of_isSpace) text)

theorem isAllBlank_normalizeLines (text : Text) :
    Text.isAllBlank (normalizeLines text) = Text.isAllBlank text := by
  have feed : Text.isBlank '\n' = true := rfl
  have carriage : Text.isBlank '\r' = true := rfl
  fun_induction normalizeLines text with
  | case1 => rfl
  | case2 rest ih => simp [Text.isAllBlank_cons, feed, carriage, ih]
  | case3 rest _ ih => simp [Text.isAllBlank_cons, feed, carriage, ih]
  | case4 first rest _ _ ih =>
      have same : Text.isBlank (if first = '\x00' then replacementCharacter else first) =
          Text.isBlank first := by
        split
        · next null => rw [null]; rfl
        · rfl
      rw [Text.isAllBlank_cons, Text.isAllBlank_cons, ih, same]

/-- What the content of a page begins with. -/
theorem contentOf_escapeNumbers (page : Text) :
    contentOf (escapeNumbers page) =
      normalizeLines (escapeNumbers (skipSpace (withoutByteOrderMarks page))) := by
  rw [contentOf, withoutByteOrderMarks_escapeNumbers, skipSpace_normalizeLines,
    skipSpace_escapeNumbers]

end Html

/-! ## Converting plain text -/

theorem Html.isSpace_of_isSpacing {character : Char} (spacing : Text.isSpacing character = true) :
    isSpace character = true := by
  simp only [Text.isSpacing, Bool.or_eq_true, beq_iff_eq] at spacing
  rcases spacing with ((rfl | rfl) | rfl) | rfl <;> rfl

theorem Html.not_isSpacing_of_contentOf {page rest : Text} {first : Char}
    (whole : contentOf page = first :: rest) : Text.isSpacing first = false := by
  have visible := not_isSpace_of_skipSpace whole
  rw [Bool.eq_false_iff] at visible ⊢
  exact fun spacing => visible (isSpace_of_isSpacing spacing)

theorem Text.isAllBlank_contentOf {page : Text} (blank : isAllBlank page = true) :
    isAllBlank (Html.contentOf (escapeNumbers page)) = true := by
  have unmarked : isAllBlank (Html.withoutByteOrderMarks page) = true :=
    List.all_eq_true.2 fun character member =>
      List.all_eq_true.1 blank character (Html.mem_of_mem_withoutByteOrderMarks member)
  rw [Html.contentOf_escapeNumbers, Html.isAllBlank_normalizeLines, escapeNumbers,
    isAllBlank_escapeNumbersAfter, Html.isAllBlank_skipSpace, unmarked]

theorem Text.dropTrailing_of_blank {text : Text} (blank : isAllBlank text = true) :
    dropTrailing isBlank text = [] :=
  dropTrailing_append_of_all (List.all_eq_true.1 blank) []

/-- A page of plain text becomes its content, squeezed, without white space at its end. -/
theorem convertPage_of_not_mem {page : Text} (noTag : '<' ∉ page) (noReference : '&' ∉ page)
    (gfm : Bool) :
    convertPage page { gfm := gfm } [] = .ok (Text.dropTrailing Text.isBlank
      (Text.squeeze (Html.contentOf (escapeNumbers page)))) := by
  have noTag' : '<' ∉ escapeNumbers page := fun member =>
    (mem_of_mem_escapeNumbersAfter member).elim (by decide) noTag
  have noReference' : '&' ∉ escapeNumbers page := fun member =>
    (mem_of_mem_escapeNumbersAfter member).elim (by decide) noReference
  rw [convertPage, pageDocument?]
  -- A blank page is not even parsed, but its content would come to the same.
  cases blank : Text.isAllBlank page with
  | true =>
      have none := (Text.isAllBlank_squeeze _).trans (Text.isAllBlank_contentOf blank)
      rw [Text.dropTrailing_of_blank none]
      rfl
  | false =>
      show (do
        let conversion ← (Document.ofHtml (escapeNumbers page)).convert { gfm := gfm } []
        return conversion.markdown) = _
      rw [Document.ofHtml_of_not_mem noTag' noReference']
      cases whole : Html.contentOf (escapeNumbers page) with
      | nil => rfl
      | cons first rest =>
          obtain ⟨conversion, converted, markdown⟩ :=
            Document.exists_convert_text gfm (Html.not_isSpacing_of_contentOf whole)
          rw [if_neg (List.cons_ne_nil first rest), converted, ← markdown]
          rfl

/-! ## Numbers at the beginning -/

namespace Text

theorem isDecimalDigit_of_isDigit {character : Char} (digit : character.isDigit = true) :
    isDecimalDigit character = true := by
  have range : 48 ≤ character.toNat ∧ character.toNat ≤ 57 := by
    simp only [Char.isDigit, Bool.and_eq_true, decide_eq_true_eq] at digit
    exact ⟨UInt32.le_iff_toNat_le.1 digit.1, UInt32.le_iff_toNat_le.1 digit.2⟩
  unfold isDecimalDigit decimalValue?
  rw [if_pos (by simpa using range)]
  rfl

/-- A number that is escaped is none any more. -/
theorem afterNumber?_escapeNumbersAfter {seen afterDigit : Bool}
    (known : seen = true → afterDigit = true) (text : Text) :
    afterNumber? seen (escapeNumbersAfter afterDigit text) =
      (afterNumber? seen text).bind fun rest =>
        if rest.head? = some ' ' then none else some (escapeNumbers rest) := by
  fun_induction escapeNumbersAfter afterDigit text generalizing seen with
  | case1 => rfl
  | case2 rest ih =>
      cases seen <;> simp [afterNumber?]
  | case3 afterDigit rest noDigit ih =>
      cases seen with
      | false => simp [afterNumber?]
      | true => exact absurd (known rfl) noDigit
  | case4 afterDigit first rest other ih =>
      rw [afterNumber?, afterNumber?]
      -- The escape knows more digits than those of a number here, but all of those.
      by_cases digit : first.isDigit = true
      · rw [if_pos digit, if_pos digit, ih fun _ => isDecimalDigit_of_isDigit digit]
      · rw [if_neg digit, if_neg digit]
        split
        · next point =>
            rw [Bool.and_eq_true, beq_iff_eq] at point
            obtain ⟨-, rfl⟩ := point
            have noSpace : rest.head? ≠ some ' ' := by
              intro space
              obtain ⟨others, rfl⟩ := List.head?_eq_some_iff.1 space
              exact other others rfl rfl
            rw [Option.bind_some, if_neg noSpace]
            rfl
        · rfl

theorem afterNumber?_normalizeLines (seen : Bool) (text : Text) :
    afterNumber? seen (Html.normalizeLines text) =
      (afterNumber? seen text).map Html.normalizeLines := by
  fun_induction Html.normalizeLines text generalizing seen with
  | case1 => rfl
  | case2 rest ih => simp [afterNumber?]
  | case3 rest _ ih => simp [afterNumber?]
  | case4 first rest _ _ ih =>
      by_cases null : first = '\x00'
      · subst null
        cases seen <;> rfl
      · rw [if_neg null, afterNumber?, afterNumber?, ih]
        split
        · rfl
        · split <;> rfl

theorem afterNumber?_squeeze (seen : Bool) (text : Text) :
    afterNumber? seen (squeeze text) = (afterNumber? seen text).map squeeze := by
  rw [squeeze]
  induction text generalizing seen with
  | nil => rfl
  | cons first rest ih =>
      cases spacing : isSpacing first with
      | true =>
          have plain : first.isDigit = false ∧ (first == '.') = false := by
            simp only [isSpacing, Bool.or_eq_true, beq_iff_eq] at spacing
            rcases spacing with ((rfl | rfl) | rfl) | rfl <;> decide
          obtain ⟨noDigit, noPoint⟩ := plain
          have noDigit' : (' ').isDigit = false := by decide
          simp [squeezeAfter, spacing, afterNumber?, noDigit, noPoint, noDigit']
      | false =>
          simp only [squeezeAfter, spacing, Bool.false_eq_true, if_false, afterNumber?, ih]
          split
          · rfl
          · split <;> rfl

/-- Dropping white space at the end leaves the number if there is something to see behind it. -/
theorem afterNumber?_dropTrailing {text : Text} :
    (∃ rest, afterNumber? false (dropTrailing isBlank text) = some (' ' :: rest)) ↔
      ∃ rest, afterNumber? false text = some (' ' :: rest) ∧ isAllBlank rest = false := by
  constructor
  · rintro ⟨rest, found⟩
    obtain ⟨digits, whole, some, all⟩ := afterNumber?_eq_some_iff.1 found
    obtain ⟨tail, kept, -⟩ := exists_dropped isBlank text
    rw [whole] at kept
    have parted : text = digits ++ ['.'] ++ ' ' :: (rest ++ tail) := by simpa using kept
    refine ⟨rest ++ tail, afterNumber?_eq_some_iff.2 ⟨digits, by simpa using kept, some, all⟩, ?_⟩
    -- With nothing to see behind the point its space would have been dropped too.
    rw [Bool.eq_false_iff]
    intro blank
    have point : dropTrailing isBlank text = digits ++ ['.'] := by
      rw [parted, dropTrailing_append_of_all, dropTrailing_snoc_of_not (by decide)]
      exact List.forall_mem_cons.2 ⟨rfl, List.all_eq_true.1 blank⟩
    rw [point] at whole
    simp at whole
  · rintro ⟨rest, found, seen⟩
    obtain ⟨digits, rfl, some, all⟩ := afterNumber?_eq_some_iff.1 found
    refine ⟨dropTrailing isBlank rest, afterNumber?_eq_some_iff.2 ⟨digits, ?_, some, all⟩⟩
    have kept := dropTrailing_append (dropTrailing_ne_nil seen) (digits ++ ['.', ' '])
    simpa using kept

theorem startsWithSpacing_normalizeLines (text : Text) :
    startsWithSpacing (Html.normalizeLines text) = startsWithSpacing text := by
  fun_cases Html.normalizeLines text with
  | case1 => rfl
  | case2 rest => rfl
  | case3 rest _ => rfl
  | case4 first rest _ _ =>
      rw [startsWithSpacing, startsWithSpacing]
      split
      · next null => rw [null]; rfl
      · rfl

theorem startsWithSpacing_escapeNumbers (text : Text) :
    startsWithSpacing (escapeNumbers text) = startsWithSpacing text := by
  have heads : ∀ text : Text, startsWithSpacing text = text.head?.any isSpacing := by
    intro text
    cases text <;> rfl
  rw [heads, heads, head?_escapeNumbers]

/-- What becomes of the text behind a point begins with a space if there was spacing. -/
theorem exists_settled_iff {separator : Char} {rest : Text} :
    (∃ others, squeeze (Html.normalizeLines (escapeNumbers (separator :: rest))) = ' ' :: others ∧
        isAllBlank others = false) ↔
      isSpacing separator = true ∧ isAllBlank rest = false := by
  let settled := squeeze (Html.normalizeLines (escapeNumbers (separator :: rest)))
  have starts : startsWithSpacing settled = isSpacing separator := by
    show startsWithSpacing (squeezeAfter false _) = _
    rw [startsWithSpacing_squeezeAfter_false, startsWithSpacing_normalizeLines,
      startsWithSpacing_escapeNumbers]
    rfl
  have seen : isAllBlank settled = isAllBlank (separator :: rest) := by
    show isAllBlank (squeeze _) = _
    rw [isAllBlank_squeeze, Html.isAllBlank_normalizeLines, escapeNumbers,
      isAllBlank_escapeNumbersAfter]
  have spaces : settled.HasSpacesOnly := HasSpacesOnly.squeezeAfter false _
  show (∃ others, settled = ' ' :: others ∧ isAllBlank others = false) ↔ _
  constructor
  · rintro ⟨others, whole, shown⟩
    have spacing : isSpacing separator = true := by rw [← starts, whole]; rfl
    rw [whole, isAllBlank_cons, shown, isAllBlank_cons, isBlank_of_isSpacing spacing] at seen
    exact ⟨spacing, by simpa using seen.symm⟩
  · rintro ⟨spacing, shown⟩
    rw [isAllBlank_cons, shown, Bool.and_false] at seen
    rw [spacing] at starts
    cases whole : settled with
    | nil => rw [whole] at seen; cases seen
    | cons first others =>
        rw [whole] at starts spaces seen
        obtain rfl := spaces first List.mem_cons_self starts
        exact ⟨others, rfl, seen⟩

/-- The point of a number is followed by a space in the end, with something to see behind it, if
there has been other spacing. -/
theorem afterNumber?_squeeze_contentOf (page : Text) :
    (∃ rest, afterNumber? false (squeeze (Html.contentOf (escapeNumbers page))) =
        some (' ' :: rest) ∧ isAllBlank rest = false) ↔
      ∃ separator rest,
        afterNumber? false (Html.skipSpace (Html.withoutByteOrderMarks page)) =
          some (separator :: rest) ∧
        separator ∈ ['\t', '\n', '\r'] ∧ isAllBlank rest = false := by
  rw [Html.contentOf_escapeNumbers, afterNumber?_squeeze, afterNumber?_normalizeLines, escapeNumbers,
    afterNumber?_escapeNumbersAfter fun seen => seen]
  match afterNumber? false (Html.skipSpace (Html.withoutByteOrderMarks page)) with
  | none => simp
  | some [] => simp [squeeze, squeezeAfter, Html.normalizeLines, escapeNumbers, escapeNumbersAfter]
  | some (separator :: rest) =>
      have other : separator ∈ ['\t', '\n', '\r'] ↔ separator ≠ ' ' ∧ isSpacing separator = true := by
        simp only [isSpacing, Bool.or_eq_true, beq_iff_eq, List.mem_cons, List.not_mem_nil, or_false]
        constructor
        · rintro (rfl | rfl | rfl) <;> decide
        · tauto
      by_cases space : separator = ' '
      · simp [space]
      · have escaped : (some (separator :: rest)).bind (fun rest : Text =>
            if rest.head? = some ' ' then none else some (escapeNumbers rest)) =
              some (escapeNumbers (separator :: rest)) :=
          if_neg fun head => space (Option.some.inj head)
        rw [escaped, Option.map_some, Option.map_some]
        constructor
        · rintro ⟨others, whole, shown⟩
          obtain ⟨spacing, shown⟩ := exists_settled_iff.1 ⟨others, Option.some.inj whole, shown⟩
          exact ⟨separator, rest, rfl, other.2 ⟨space, spacing⟩, shown⟩
        · rintro ⟨_, _, ⟨⟩, member, shown⟩
          obtain ⟨others, whole, shown⟩ := exists_settled_iff.2 ⟨(other.1 member).2, shown⟩
          exact ⟨others, congrArg some whole, shown⟩

/-! ## Lines like items -/

theorem startsItem_iff {line : Text} (starts : startsWithSpacing line = false) :
    StartsItem line ↔ ∃ rest, afterNumber? false line = some (' ' :: rest) := by
  constructor
  · rintro ⟨margin, digits, rest, rfl, -, some, all⟩
    cases margin with
    | zero => exact ⟨rest, afterNumber?_eq_some_iff.2 ⟨digits, rfl, .inr some, all⟩⟩
    | succ margin => cases starts
  · rintro ⟨rest, found⟩
    obtain ⟨digits, whole, some, all⟩ := afterNumber?_eq_some_iff.1 found
    exact ⟨0, digits, rest, whole, Nat.zero_le 3, some.resolve_left Bool.false_ne_true, all⟩

/-- No spacing is at the beginning of what a page of plain text becomes. -/
theorem startsWithSpacing_of_contentOf (page : Text) :
    startsWithSpacing (dropTrailing isBlank (squeeze (Html.contentOf page))) = false := by
  have content : startsWithSpacing (squeeze (Html.contentOf page)) = false := by
    rw [squeeze, startsWithSpacing_squeezeAfter_false]
    cases whole : Html.contentOf page with
    | nil => rfl
    | cons first rest => exact Html.not_isSpacing_of_contentOf whole
  obtain ⟨tail, kept, -⟩ := exists_dropped isBlank (squeeze (Html.contentOf page))
  cases whole : dropTrailing isBlank (squeeze (Html.contentOf page)) with
  | nil => rfl
  | cons first rest =>
      rw [whole] at kept
      rw [kept] at content
      exact content

end Text

/-- A page of plain text becomes one line.  It begins like an item of an ordered list exactly if
the page begins with a number whose point is followed by a tab or a line end, and then by
something to see: the escape has seen no space behind that point, and squeezing makes one. -/
theorem plainPage_startsItem_iff {page : Text} (noTag : '<' ∉ page) (noReference : '&' ∉ page)
    (gfm : Bool) :
    ∃ markdown, convertPage page { gfm := gfm } [] = .ok markdown ∧
      ((∃ line ∈ Text.lines markdown, Text.StartsItem line) ↔
        ∃ digits separator rest,
          Html.skipSpace (Html.withoutByteOrderMarks page) =
            digits ++ '.' :: separator :: rest ∧
          digits ≠ [] ∧ (∀ digit ∈ digits, digit.isDigit = true) ∧
          separator ∈ ['\t', '\n', '\r'] ∧ Text.isAllBlank rest = false) := by
  let content := Html.contentOf (escapeNumbers page)
  let markdown := Text.dropTrailing Text.isBlank (Text.squeeze content)
  have single : '\n' ∉ markdown := by
    intro member
    obtain ⟨tail, kept, -⟩ := Text.exists_dropped Text.isBlank (Text.squeeze content)
    have inside : '\n' ∈ Text.squeeze content := kept ▸ List.mem_append_left tail member
    have feed := Text.HasSpacesOnly.squeezeAfter false content _ inside rfl
    exact absurd feed (by decide)
  refine ⟨markdown, convertPage_of_not_mem noTag noReference gfm, ?_⟩
  rw [Text.lines_of_not_mem single]
  calc (∃ line ∈ [markdown], Text.StartsItem line)
      ↔ Text.StartsItem markdown := by simp
    _ ↔ ∃ rest, Text.afterNumber? false markdown = some (' ' :: rest) :=
        Text.startsItem_iff (Text.startsWithSpacing_of_contentOf _)
    _ ↔ ∃ rest, Text.afterNumber? false (Text.squeeze content) = some (' ' :: rest) ∧
          Text.isAllBlank rest = false := Text.afterNumber?_dropTrailing
    _ ↔ ∃ separator rest,
          Text.afterNumber? false (Html.skipSpace (Html.withoutByteOrderMarks page)) =
            some (separator :: rest) ∧
          separator ∈ ['\t', '\n', '\r'] ∧ Text.isAllBlank rest = false :=
        Text.afterNumber?_squeeze_contentOf page
    _ ↔ _ := by
        constructor
        · rintro ⟨separator, rest, found, spacing, seen⟩
          obtain ⟨digits, whole, some, all⟩ := Text.afterNumber?_eq_some_iff.1 found
          exact ⟨digits, separator, rest, whole, some.resolve_left Bool.false_ne_true, all,
            spacing, seen⟩
        · rintro ⟨digits, separator, rest, whole, some, all, spacing, seen⟩
          exact ⟨separator, rest,
            Text.afterNumber?_eq_some_iff.2 ⟨digits, whole, .inr some, all⟩, spacing, seen⟩

end PageMark
