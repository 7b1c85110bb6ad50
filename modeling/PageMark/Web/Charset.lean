import PageMark.Html.Reference
import PageMark.Text.Bytes

/-!
# Character sets

The character set that a content type names, and the text of bytes in it.  Bytes
that stand for nothing give the replacement character.
-/

namespace PageMark

inductive Charset where
  | utf8
  /-- A mark at the start is not part of the text. -/
  | utf8Marked
  | ascii
  | latin1
  | latin9
  | windows1252
deriving DecidableEq, Repr

namespace Charset

/-- Names are told apart by their letters, digits and points alone. -/
def normalName (name : Text) : Text :=
  let isKept := fun (character : Char) => character.isAlphanum || character == '.'
  Text.joinWith ['_'] (Text.pieces (fun character => !isKept character)
    (name.map Char.toLower))

def utf8Names : List String :=
  ["utf_8", "u8", "utf", "utf8", "utf8_ucs2", "utf8_ucs4", "cp65001"]

def asciiNames : List String :=
  ["ascii", "us_ascii", "646", "ansi_x3.4_1968", "ansi_x3_4_1968", "ansi_x3.4_1986", "cp367",
    "csascii", "ibm367", "iso646_us", "iso_646.irv_1991", "iso_ir_6", "us"]

def latin1Names : List String :=
  ["latin_1", "iso_8859_1", "iso8859_1", "8859", "cp819", "csisolatin1", "ibm819", "iso8859",
    "iso_8859_1_1987", "iso_ir_100", "l1", "latin", "latin1"]

def latin9Names : List String :=
  ["iso8859_15", "iso_8859_15", "l9", "latin9"]

def windows1252Names : List String :=
  ["cp1252", "windows_1252", "1252"]

def names : List (List String × Charset) :=
  [(utf8Names, utf8), (["utf_8_sig"], utf8Marked), (asciiNames, ascii), (latin1Names, latin1),
    (latin9Names, latin9), (windows1252Names, windows1252)]

def ofName? (name : Text) : Option Charset :=
  (names.find? fun entry => entry.1.any fun known => known.toList == normalName name).map Prod.snd

/-! ## Reading bytes -/

/-- The characters that differ from those of the first Latin set. -/
def latin9Changes : List (Nat × Char) :=
  [(0xA4, '€'), (0xA6, 'Š'), (0xA8, 'š'), (0xB4, 'Ž'), (0xB8, 'ž'), (0xBC, 'Œ'), (0xBD, 'œ'),
    (0xBE, 'Ÿ')]

/-- Numbers of the Windows set that stand for no character. -/
def windowsGaps : List Nat :=
  [0x81, 0x8D, 0x8F, 0x90, 0x9D]

def characterOf (charset : Charset) (byte : Nat) : Char :=
  match charset with
  | ascii => if byte < 0x80 then Char.ofNat byte else Html.replacementCharacter
  | latin9 =>
      match latin9Changes.find? fun change => change.1 == byte with
      | some (_, character) => character
      | none => Char.ofNat byte
  | windows1252 =>
      if windowsGaps.contains byte then Html.replacementCharacter
      else if 0x80 ≤ byte ∧ byte < 0xA0 then Html.characterOf byte
      else Char.ofNat byte
  | _ => Char.ofNat byte

def withoutMark : Bytes → Bytes
  | 0xEF :: 0xBB :: 0xBF :: rest => rest
  | bytes => bytes

def decode (charset : Charset) (bytes : Bytes) : Text :=
  match charset with
  | utf8 => Utf8.decode bytes
  | utf8Marked => Utf8.decode (withoutMark bytes)
  | _ => bytes.map fun byte => characterOf charset byte.toNat

/-! ## Content types -/

/-- The parameters of a content type; a semicolon between quotes does not end
one. -/
def parametersOf (quoted : Bool) : Text → List Text
  | [] => [[]]
  | character :: rest =>
      if character = ';' ∧ !quoted then [] :: parametersOf false rest
      else
        match parametersOf (if character = '"' then !quoted else quoted) rest with
        | [] => [[character]]
        | first :: others => (character :: first) :: others

/-- A value without the quotes around it. -/
def unquoted (value : Text) : Text :=
  if 1 < value.length && value.head? == some '"' && value.getLast? == some '"' then
    (value.drop 1).dropLast
  else value

/-- The name and the value of a parameter. -/
def readParameter (parameter : Text) : Text × Text :=
  let name := parameter.takeWhile (· != '=')
  let value := (parameter.dropWhile (· != '=')).drop 1
  ((Text.trimBlank name).map Char.toLower, Text.trimBlank value)

/-- The name of the character set that a content type gives. -/
def nameIn? (contentType : Text) : Option Text :=
  (((parametersOf false contentType).map readParameter).find? fun parameter =>
    parameter.1 == "charset".toList).map fun parameter => unquoted parameter.2

/-- Without a known character set, bytes are read as UTF-8. -/
def ofContentType (contentType : Option Text) : Charset :=
  ((contentType.bind nameIn?).bind ofName?).getD utf8

end Charset

end PageMark
