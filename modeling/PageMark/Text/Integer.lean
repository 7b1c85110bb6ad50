import PageMark.Text.Digits

/-!
# Integers

The written forms of integers that are read from outside: white space around
them, a sign, and single underscores between digits are allowed.
-/

namespace PageMark.Text

/-- The digits of a numeral without its underscores, each of which stands
between two digits. -/
def ungroupedDigits? : Text → Option Text
  | [] => some []
  | ['_'] => none
  | '_' :: '_' :: _ => none
  | '_' :: rest => ungroupedDigits? rest
  | digit :: rest => (ungroupedDigits? rest).map (digit :: ·)

def readNatural? (text : Text) : Option Nat :=
  if text.isEmpty || text.head? == some '_' then none
  else do
    let digits ← ungroupedDigits? text
    let values ← decimalValues? digits
    if values.length ≤ numeralLimit then some (valueOfDigits values) else none

def readInteger? (text : Text) : Option Int :=
  match trimBlank text with
  | '-' :: digits => (readNatural? digits).map fun value => -(value : Int)
  | '+' :: digits => (readNatural? digits).map fun value => (value : Int)
  | digits => (readNatural? digits).map fun value => (value : Int)

def writeInteger (number : Int) : Text :=
  if number < 0 then '-' :: numeral number.natAbs else numeral number.natAbs

end PageMark.Text
