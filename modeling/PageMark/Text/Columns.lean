import PageMark.Text.Basic

/-!
# Text in columns

Text on a terminal of a given width.  Lines are broken between words; a word
that is longer than a line is cut.
-/

namespace PageMark.Text

def wideRanges : List (Nat × Nat) :=
  [(0x1100, 0x115F), (0x2E80, 0x303E), (0x3041, 0x4DBF), (0x4E00, 0x9FFF), (0xA000, 0xA4CF),
    (0xAC00, 0xD7A3), (0xF900, 0xFAFF), (0xFE30, 0xFE6F), (0xFF00, 0xFF60), (0xFFE0, 0xFFE6),
    (0x1F300, 0x1F64F), (0x1F680, 0x1F6FF), (0x1F900, 0x1F9FF), (0x20000, 0x3FFFD)]

def narrowRanges : List (Nat × Nat) :=
  [(0x300, 0x36F), (0x200B, 0x200F), (0x20D0, 0x20FF), (0xFE00, 0xFE0F)]

/-- The number of columns that a character takes. -/
def columnsOf (character : Char) : Nat :=
  let code := character.toNat
  let within := fun (range : Nat × Nat) => range.1 ≤ code && code ≤ range.2
  if narrowRanges.any within then 0 else if wideRanges.any within then 2 else 1

def columns (text : Text) : Nat :=
  text.foldl (fun total character => total + columnsOf character) 0

/-! ## Words -/

/-- A word with the white space around it, and the text after it. -/
def readWord (text : Text) : Text × Text :=
  let body := text.dropWhile isBlank
  let rest := body.dropWhile fun character => !isBlank character
  let after := rest.dropWhile isBlank
  (text.take (text.length - after.length), after)

/-- Every round uses up a word, so `fuel` is the length. -/
def wordsWithin : Nat → Text → List Text
  | 0, _ => []
  | fuel + 1, text =>
      if isAllBlank text then []
      else (readWord text).1 :: wordsWithin fuel (readWord text).2

def words (text : Text) : List Text :=
  wordsWithin text.length text

/-! ## Lines -/

/-- Pieces of a word that fit into the width. -/
def chop (width : Nat) : Nat → Text → List Text
  | _, [] => [[]]
  | used, character :: rest =>
      let size := columnsOf character
      if width < used + size then
        match chop width size rest with
        | [] => [[], [character]]
        | first :: others => [] :: (character :: first) :: others
      else
        match chop width (used + size) rest with
        | [] => [[character]]
        | first :: others => (character :: first) :: others

/-- Lines that are finished, and the line that words are added to. -/
structure Layout where
  finished : List Text
  current : Text

namespace Layout

def start : Layout where
  finished := []
  current := []

def lines (layout : Layout) : List Text :=
  layout.finished ++ [layout.current]

/-- Every further piece stands on a line of its own. -/
def addPieces (layout : Layout) : List Text → Layout
  | [] => layout
  | piece :: rest =>
      addPieces
        (if layout.finished.isEmpty && layout.current.isEmpty then
          { finished := [], current := piece }
        else { finished := layout.finished ++ [layout.current], current := piece }) rest

def addWord (width : Nat) (layout : Layout) (word : Text) : Layout :=
  let size := columns (dropTrailing isBlank word)
  if columns layout.current + size ≤ width then
    { layout with current := layout.current ++ word }
  else if width < size then layout.addPieces (chop width 0 word)
  else layout.addPieces [word]

end Layout

/-- White space that does not fit at the end of a line is dropped. -/
def cropEnd (width : Nat) (line : Text) : Text :=
  let spaces := (line.reverse.takeWhile isBlank).length
  line.take (line.length - min spaces (line.length - width))

def wrapped (width : Nat) (text : Text) : List Text :=
  ((words text).foldl (Layout.addWord width) Layout.start).lines.map (cropEnd width)

/-! ## Lines of a terminal -/

/-- The columns of a line. -/
def terminalWidth : Nat :=
  80

/-- A text on a terminal. -/
def terminalLine (text : Text) : Text :=
  joinWith ['\n'] (wrapped terminalWidth text) ++ ['\n']

def padded (width : Nat) (line : Text) : Text :=
  line ++ List.replicate (width - columns line) ' '

/-- The lines of a text in a frame, which takes two columns on either side. -/
def framed (text : Text) : Text :=
  let inside := (parts '\n' text).flatMap (wrapped (terminalWidth - 4))
  let width := (inside.map columns).foldl max 0
  let edge := List.replicate (width + 2) '─'
  '╭' :: edge ++ "╮\n".toList ++
    (inside.flatMap fun line => "│ ".toList ++ padded width line ++ " │\n".toList) ++
    '╰' :: edge ++ "╯\n".toList

end PageMark.Text
