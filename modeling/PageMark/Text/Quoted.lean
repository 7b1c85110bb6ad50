import PageMark.Text.Printable

/-!
# Quoted texts

A text between quotes on one line.  The quotes are single unless the text has
a single quote and no double quote.
-/

namespace PageMark.Text

def hexDigits (number : Nat) : Text :=
  Nat.toDigits 16 number

def paddedHex (width number : Nat) : Text :=
  let digits := hexDigits number
  List.replicate (width - digits.length) '0' ++ digits

def escapeCode (character : Char) : Text :=
  let code := character.toNat
  if code < 0x100 then '\\' :: 'x' :: paddedHex 2 code
  else if code < 0x10000 then '\\' :: 'u' :: paddedHex 4 code
  else '\\' :: 'U' :: paddedHex 8 code

def escapeChar (quote character : Char) : Text :=
  if character == quote || character == '\\' then ['\\', character]
  else if character == '\t' then ['\\', 't']
  else if character == '\n' then ['\\', 'n']
  else if character == '\r' then ['\\', 'r']
  else if isPrintable character then [character]
  else escapeCode character

def quoteFor (text : Text) : Char :=
  if text.contains '\'' && !text.contains '"' then '"' else '\''

def quoted (text : Text) : Text :=
  let quote := quoteFor text
  quote :: (text.flatMap (escapeChar quote) ++ [quote])

end PageMark.Text
