/-!
# Texts

A text is a list of Unicode characters.  This module has the two classes of
white space that the library distinguishes and the cuts made at their edges:
*spacing* is the four characters that a page may use for layout, *blank* is
every Unicode white space character.
-/

namespace PageMark

abbrev Text := List Char

namespace Text

/-- Spacing is space, tab, line feed and carriage return. -/
def isSpacing (character : Char) : Bool :=
  character == ' ' || character == '\t' || character == '\n' || character == '\r'

/-- White space in the sense of Unicode, with the four separator controls. -/
def isBlank (character : Char) : Bool :=
  let code := character.toNat
  (9 ≤ code && code ≤ 13) || (28 ≤ code && code ≤ 32) || code == 0x85 || code == 0xA0 ||
    code == 0x1680 || (0x2000 ≤ code && code ≤ 0x200A) || code == 0x2028 || code == 0x2029 ||
    code == 0x202F || code == 0x205F || code == 0x3000

def dropTrailing (condition : Char → Bool) (text : Text) : Text :=
  (text.reverse.dropWhile condition).reverse

theorem dropTrailing_cons {condition : Char → Bool} {character : Char}
    (drops : condition character = true) (rest : Text) :
    dropTrailing condition (character :: rest) =
      if dropTrailing condition rest = [] then []
      else character :: dropTrailing condition rest := by
  rw [dropTrailing, List.reverse_cons, List.dropWhile_append]
  simp only [List.isEmpty_iff, dropTrailing, List.reverse_eq_nil_iff]
  split <;> simp [drops]

theorem dropTrailing_cons_of_not {condition : Char → Bool} {character : Char}
    (stays : condition character = false) (rest : Text) :
    dropTrailing condition (character :: rest) = character :: dropTrailing condition rest := by
  rw [dropTrailing, List.reverse_cons, List.dropWhile_append]
  simp only [List.isEmpty_iff, dropTrailing]
  split
  · next nothing => simp [stays, nothing]
  · simp

/-- Spacing at both ends is removed, other white space stays. -/
def trimSpacing (text : Text) : Text :=
  dropTrailing isSpacing (text.dropWhile isSpacing)

def trimBlank (text : Text) : Text :=
  dropTrailing isBlank (text.dropWhile isBlank)

theorem isBlank_of_isSpacing {character : Char} (spacing : isSpacing character = true) :
    isBlank character = true := by
  simp only [isSpacing, Bool.or_eq_true, beq_iff_eq] at spacing
  rcases spacing with ((rfl | rfl) | rfl) | rfl <;> decide

def isAllBlank (text : Text) : Bool :=
  text.all isBlank

def startsWithSpacing : Text → Bool
  | [] => false
  | first :: _ => isSpacing first

def endsWithSpacing (text : Text) : Bool :=
  startsWithSpacing text.reverse

theorem startsWithSpacing_append {left : Text} (right : Text) (nonempty : left ≠ []) :
    startsWithSpacing (left ++ right) = startsWithSpacing left := by
  cases left with
  | nil => exact absurd rfl nonempty
  | cons character rest => rfl

theorem startsWithSpacing_dropWhile (text : Text) :
    startsWithSpacing (text.dropWhile isSpacing) = false := by
  induction text with
  | nil => rfl
  | cons character rest ih =>
      cases spacing : isSpacing character with
      | true => simpa [spacing] using ih
      | false => simp [spacing, startsWithSpacing]

theorem endsWithSpacing_trimSpacing (text : Text) :
    endsWithSpacing (trimSpacing text) = false := by
  simp [endsWithSpacing, trimSpacing, dropTrailing, startsWithSpacing_dropWhile]

/-- What is trimmed off the end leaves the start as it is. -/
theorem startsWithSpacing_trimSpacing (text : Text) :
    startsWithSpacing (trimSpacing text) = false := by
  obtain ⟨tail, whole⟩ : ∃ tail, text.dropWhile isSpacing = trimSpacing text ++ tail := by
    refine ⟨((text.dropWhile isSpacing).reverse.takeWhile isSpacing).reverse, ?_⟩
    rw [trimSpacing, dropTrailing, ← List.reverse_append, List.takeWhile_append_dropWhile,
      List.reverse_reverse]
  by_cases empty : trimSpacing text = []
  · rw [empty]
    rfl
  · rw [← startsWithSpacing_append tail empty, ← whole, startsWithSpacing_dropWhile]

def startsWithSpace : Text → Bool
  | ' ' :: _ => true
  | _ => false

theorem startsWithSpacing_of_startsWithSpace {text : Text} (space : startsWithSpace text = true) :
    startsWithSpacing text = true := by
  rw [startsWithSpace.eq_def] at space
  split at space
  · rfl
  · cases space

def endsWithSpace (text : Text) : Bool :=
  startsWithSpace text.reverse

/-- A space at the end, or right before a final line feed. -/
def lastLineEndsWithSpace (text : Text) : Bool :=
  match text.reverse with
  | ' ' :: _ => true
  | '\n' :: ' ' :: _ => true
  | _ => false

theorem endsWithSpacing_of_lastLine {text : Text} (space : lastLineEndsWithSpace text = true) :
    endsWithSpacing text = true := by
  rw [lastLineEndsWithSpace] at space
  rw [endsWithSpacing]
  split at space
  · next shape => rw [shape]; rfl
  · next shape => rw [shape]; rfl
  · cases space

def withoutFinalBreak (text : Text) : Text :=
  if text.getLast? == some '\n' then text.dropLast else text

/-- Every line feed is followed by the margin. -/
def indentLines (margin : Text) : Text → Text
  | [] => []
  | '\n' :: rest => '\n' :: (margin ++ indentLines margin rest)
  | character :: rest => character :: indentLines margin rest

theorem indentLines_append (margin left right : Text) :
    indentLines margin (left ++ right) =
      indentLines margin left ++ indentLines margin right := by
  induction left with
  | nil => rfl
  | cons character rest ih =>
      by_cases lineFeed : character = '\n'
      · subst lineFeed
        simp [indentLines, ih]
      · simp [indentLines, ih]

/-- Texts in their order with a separator between neighbours. -/
def joinWith (separator : Text) : List Text → Text
  | [] => []
  | [only] => only
  | first :: rest => first ++ separator ++ joinWith separator rest

theorem joinWith_cons {separator : Text} (first : Text) {rest : List Text} (some : rest ≠ []) :
    joinWith separator (first :: rest) = first ++ separator ++ joinWith separator rest := by
  cases rest with
  | nil => exact absurd rfl some
  | cons next others => rfl

theorem joinWith_snoc {separator : Text} {front : List Text} (some : front ≠ []) (last : Text) :
    joinWith separator (front ++ [last]) = joinWith separator front ++ separator ++ last := by
  induction front with
  | nil => exact absurd rfl some
  | cons first rest ih =>
      cases rest with
      | nil => rfl
      | cons next others =>
          rw [List.cons_append, joinWith_cons first (by simp), ih (by simp),
            joinWith_cons first (by simp)]
          simp

/-- The maximal pieces without a character of the class; no piece is empty. -/
def pieces (isSeparator : Char → Bool) : Text → List Text
  | [] => []
  | character :: rest =>
      if isSeparator character then pieces isSeparator rest
      else
        match rest, pieces isSeparator rest with
        | next :: _, piece :: others =>
            if isSeparator next then [character] :: piece :: others
            else (character :: piece) :: others
        | _, others => [character] :: others

/-- A character that does not separate begins a piece or joins the one that begins behind it. -/
theorem pieces_cons_of_solid {isSeparator : Char → Bool} {character : Char}
    (solid : isSeparator character = false) (rest : Text) :
    pieces isSeparator (character :: rest) =
      match pieces isSeparator rest with
      | [] => [[character]]
      | piece :: others =>
          if rest.head?.any isSeparator then [character] :: piece :: others
          else (character :: piece) :: others := by
  cases rest with
  | nil => simp [pieces, solid]
  | cons next later =>
      rw [pieces.eq_def isSeparator (character :: next :: later)]
      simp only [solid, Bool.false_eq_true, if_false]
      cases pieces isSeparator (next :: later) <;> rfl

/-- The pieces have all characters that do not separate, in their order. -/
theorem flatten_pieces (isSeparator : Char → Bool) (text : Text) :
    (pieces isSeparator text).flatten = text.filter fun character => !isSeparator character := by
  fun_induction pieces isSeparator text <;> simp_all

theorem ne_nil_of_mem_pieces {isSeparator : Char → Bool} {text piece : Text}
    (member : piece ∈ pieces isSeparator text) : piece ≠ [] := by
  fun_induction pieces isSeparator text <;> grind

theorem not_isSeparator_of_mem_pieces {isSeparator : Char → Bool} {text piece : Text}
    (member : piece ∈ pieces isSeparator text) {character : Char} (within : character ∈ piece) :
    isSeparator character = false := by
  have inFlat : character ∈ (pieces isSeparator text).flatten :=
    List.mem_flatten.2 ⟨piece, member, within⟩
  rw [flatten_pieces, List.mem_filter, Bool.not_eq_true'] at inFlat
  exact inFlat.2

/-- The parts between separators; there is one more part than separators. -/
def parts (separator : Char) : Text → List Text
  | [] => [[]]
  | character :: rest =>
      if character = separator then [] :: parts separator rest
      else
        match parts separator rest with
        | [] => [[character]]
        | first :: others => (character :: first) :: others

theorem parts_ne_nil (separator : Char) (text : Text) : parts separator text ≠ [] := by
  cases text with
  | nil => simp [parts]
  | cons character rest =>
      by_cases same : character = separator
      · simp [parts, same]
      · cases others : parts separator rest <;> simp [parts, same, others]

/-- The parts with their separators are the whole text. -/
theorem joinWith_parts (separator : Char) (text : Text) :
    joinWith [separator] (parts separator text) = text := by
  induction text with
  | nil => rfl
  | cons character rest ih =>
      cases others : parts separator rest with
      | nil => exact absurd others (parts_ne_nil separator rest)
      | cons first later =>
          rw [others] at ih
          by_cases same : character = separator
          · simp [parts, same, others, joinWith, ih]
          · cases later <;> simp_all [parts, joinWith]

/-- The first occurrence of a pattern is replaced, a text without one is kept. -/
def replaceFirst (pattern replacement : Text) : Text → Text
  | [] => if pattern = [] then replacement else []
  | character :: rest =>
      if pattern.isPrefixOf (character :: rest) then
        replacement ++ (character :: rest).drop pattern.length
      else character :: replaceFirst pattern replacement rest

def containsPattern (pattern : Text) : Text → Bool
  | [] => pattern.isEmpty
  | character :: rest =>
      pattern.isPrefixOf (character :: rest) || containsPattern pattern rest

end Text

end PageMark
