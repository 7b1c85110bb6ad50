import PageMark.Text.Bytes
import PageMark.Url.Host

/-!
# Percent encoding

Characters that a part of an address may not hold are written as their bytes,
each as a percent sign and two digits.  Bytes that are written so already stay.
-/

namespace PageMark.Url

def hexDigit (value : Nat) : Char :=
  if value < 10 then Char.ofNat ('0'.toNat + value) else Char.ofNat ('A'.toNat + value - 10)

def percentOfByte (byte : UInt8) : Text :=
  ['%', hexDigit (byte.toNat / 16), hexDigit (byte.toNat % 16)]

def percentOf (character : Char) : Text :=
  (String.utf8EncodeChar character).flatMap percentOfByte

/-- Letters, digits and four marks stand for themselves in every part. -/
def isUnreserved (character : Char) : Bool :=
  character.isAlphanum || character == '-' || character == '.' || character == '_' ||
    character == '~'

def quoteOne (isKept : Char → Bool) (character : Char) : Text :=
  if isUnreserved character || isKept character then [character] else percentOf character

def quote (isKept : Char → Bool) : Text → Text
  | [] => []
  | '%' :: high :: low :: rest =>
      if Host.isHexDigit high && Host.isHexDigit low then '%' :: high :: low :: quote isKept rest
      else quoteOne isKept '%' ++ quote isKept (high :: low :: rest)
  | character :: rest => quoteOne isKept character ++ quote isKept rest

/-! ## What each part may hold -/

def isGraphic (character : Char) : Bool :=
  0x20 < character.toNat && character.toNat < 0x7F

def keepsExcept (excluded : String) (character : Char) : Bool :=
  isGraphic character && !excluded.toList.contains character

def isKeptInFragment : Char → Bool :=
  keepsExcept "\"<>\x60"

def isKeptInQuery : Char → Bool :=
  keepsExcept "\"#<>"

def isKeptInPath : Char → Bool :=
  keepsExcept "\"#<>?\x60\x7b\x7d"

def isKeptInUser : Char → Bool :=
  keepsExcept "\"#<>?\x60\x7b\x7d/;=@[\\]^|"

def isKeptInHost (character : Char) : Bool :=
  "!$&'()*+,;=\"\x60\x7b\x7d%|\\".toList.contains character

end PageMark.Url
