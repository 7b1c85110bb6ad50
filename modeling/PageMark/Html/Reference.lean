import PageMark.Html.Entities

/-!
# Character references

References by number and by name are replaced by the characters they stand for.
In attribute values a name without its semicolon does not count when a letter,
a digit or an equals sign follows.
-/

namespace PageMark.Html

def isAsciiLetter (character : Char) : Bool :=
  character.isAlpha

def isAsciiDigit (character : Char) : Bool :=
  character.isDigit

def isHexDigit (character : Char) : Bool :=
  character.isDigit || ('a' ≤ character && character ≤ 'f') ||
    ('A' ≤ character && character ≤ 'F')

/-- The characters meant by the numbers 128 to 159. -/
def windowsCharacters : List Nat :=
  [0x20AC, 0x81, 0x201A, 0x192, 0x201E, 0x2026, 0x2020, 0x2021, 0x2C6, 0x2030, 0x160, 0x2039,
    0x152, 0x8D, 0x17D, 0x8F, 0x90, 0x2018, 0x2019, 0x201C, 0x201D, 0x2022, 0x2013, 0x2014,
    0x2DC, 0x2122, 0x161, 0x203A, 0x153, 0x9D, 0x17E, 0x178]

def replacementCharacter : Char := '\uFFFD'

/-- Numbers that are no characters give the replacement character. -/
def characterOf (number : Nat) : Char :=
  if number = 0 then replacementCharacter
  else if 0x80 ≤ number ∧ number < 0xA0 then
    Char.ofNat ((windowsCharacters[number - 0x80]?).getD number)
  else if number.isValidChar then Char.ofNat number
  else replacementCharacter

/-- What a reference stands for, and how many characters after the ampersand
belong to it. -/
structure Reference where
  characters : Text
  length : Nat
deriving DecidableEq, Repr

namespace Reference

/-- A semicolon after the digits belongs to the reference. -/
def ofDigits (number marks : Nat) (digits rest : Text) : Reference where
  characters := [characterOf number]
  length := marks + digits.length + (if rest.head? == some ';' then 1 else 0)

def readDecimal (text : Text) : Option Reference :=
  let digits := text.takeWhile isAsciiDigit
  if digits.isEmpty then none
  else
    some (ofDigits (digits.foldl (fun value digit => 10 * value + hexDigit digit) 0) 1 digits
      (text.dropWhile isAsciiDigit))

def readHexadecimal (text : Text) : Option Reference :=
  let digits := text.takeWhile isHexDigit
  if digits.isEmpty then none
  else some (ofDigits (readHex digits) 2 digits (text.dropWhile isHexDigit))

def readNamed (inAttribute : Bool) (text : Text) : Option Reference :=
  match longestEntity? text with
  | none => none
  | some entity =>
      let next := text.drop entity.name.length
      let goesOn := next.head?.any fun character => character == '=' || character.isAlphanum
      if inAttribute && entity.name.getLast? != some ';' && goesOn then none
      else some { characters := entity.characters, length := entity.name.length }

/-- The reference whose ampersand stands right before the text. -/
def read? (inAttribute : Bool) : Text → Option Reference
  | '#' :: 'x' :: rest => readHexadecimal rest
  | '#' :: 'X' :: rest => readHexadecimal rest
  | '#' :: rest => readDecimal rest
  | first :: rest =>
      if isAsciiLetter first then readNamed inAttribute (first :: rest) else none
  | [] => none

end Reference

/-- The next `skipped` characters belong to a reference that has been replaced. -/
def decodeAfter (inAttribute : Bool) (skipped : Nat) : Text → Text
  | [] => []
  | character :: rest =>
      if 0 < skipped then decodeAfter inAttribute (skipped - 1) rest
      else if character = '&' then
        match Reference.read? inAttribute rest with
        | some reference =>
            reference.characters ++ decodeAfter inAttribute reference.length rest
        | none => '&' :: decodeAfter inAttribute 0 rest
      else character :: decodeAfter inAttribute 0 rest

def decodeReferences (inAttribute : Bool) (text : Text) : Text :=
  decodeAfter inAttribute 0 text

end PageMark.Html
