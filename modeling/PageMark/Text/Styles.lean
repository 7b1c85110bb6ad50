import PageMark.Text.Lowercase

/-!
# Texts with styles

Names of styles stand in brackets in a text and are not shown.  A style goes on up
to the bracket that closes it, by its name or as the last one that is open; a
bracket that closes nothing makes the text unreadable.  An odd number of strokes
before a bracket makes it part of the text.
-/

namespace PageMark.Text

def startsStyle (character : Char) : Bool :=
  ('a' ≤ character && character ≤ 'z') || character == '#' || character == '/' ||
    character == '@'

/-- What stands in brackets, and the text behind them, given the text behind the first
bracket. -/
def splitStyle? (text : Text) : Option (Text × Text) :=
  match text with
  | [] => none
  | first :: rest =>
      let inner := rest.takeWhile fun character => character != ']' && character != '['
      match startsStyle first, rest.drop inner.length with
      | true, ']' :: after => some (first :: inner, after)
      | _, _ => none

/-- Short names of styles with the long ones. -/
def shortStyles : List (String × String) :=
  [("b", "bold"), ("c", "conceal"), ("d", "dim"), ("i", "italic"), ("o", "overline"),
    ("r", "reverse"), ("s", "strike"), ("u", "underline"), ("uu", "underline2")]

/-- The name by which styles are compared. -/
def normalStyle (name : Text) : Text :=
  let small := lower (trimBlank name)
  match shortStyles.find? fun entry => entry.1.toList == small with
  | some entry => entry.2.toList
  | none => small

/-- The styles that are still open behind a bracket, last one first. -/
def openBehind? (opened : List Text) (style : Text) : Option (List Text) :=
  match style.takeWhile (· != '=') with
  | '/' :: closed =>
      if isAllBlank closed then opened.tail?
      else if opened.contains (normalStyle closed) then some (opened.erase (normalStyle closed))
      else none
  | name => some (normalStyle name :: opened)

/-- Every round uses up a character, so `fuel` is the length; `strokes` is the number of
strokes right before the text. -/
def readStylesWithin : Nat → List Text → Nat → Text → Option Text
  | 0, _, strokes, text => some (List.replicate strokes '\\' ++ text)
  | _, _, strokes, [] => some (List.replicate strokes '\\')
  | fuel + 1, opened, strokes, '\\' :: rest => readStylesWithin fuel opened (strokes + 1) rest
  | fuel + 1, opened, strokes, '[' :: rest =>
      match splitStyle? rest with
      | none =>
          (readStylesWithin fuel opened 0 rest).map fun shown =>
            List.replicate (strokes - 1) '\\' ++ '[' :: shown
      | some (style, after) =>
          if strokes % 2 = 1 then
            (readStylesWithin fuel opened 0 after).map fun shown =>
              List.replicate (strokes / 2) '\\' ++ '[' :: style ++ ']' :: shown
          else
            (openBehind? opened style).bind fun still =>
              (readStylesWithin fuel still 0 after).map fun shown =>
                List.replicate (strokes / 2) '\\' ++ shown
  | fuel + 1, opened, strokes, character :: rest =>
      (readStylesWithin fuel opened 0 rest).map fun shown =>
        List.replicate strokes '\\' ++ character :: shown

/-- What is shown of a text with styles, unless one is closed that is not open. -/
def readStyles? (text : Text) : Option Text :=
  readStylesWithin text.length [] 0 text

end PageMark.Text
