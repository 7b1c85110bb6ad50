import PageMark.Text.Basic

/-!
# Bytes and texts

Texts are written in UTF-8.  Reading is by one character after the other: a byte
that cannot continue a character ends it, and is then read as a first byte.
-/

namespace PageMark

abbrev Bytes := List UInt8

namespace Utf8

def encode (text : Text) : Bytes :=
  text.flatMap String.utf8EncodeChar

/-- A character of which some bytes have been read: the number of bytes that are
missing, the range of the next one, and the bits read so far. -/
structure Pending where
  missing : Nat
  least : Nat
  greatest : Nat
  bits : Nat
deriving DecidableEq, Repr

/-- What a first byte is: a character, no part of one, or the start of one. -/
inductive FirstByte where
  | character (character : Char)
  | malformed
  | start (pending : Pending)
deriving DecidableEq, Repr

def continuing (missing bits : Nat) : Pending where
  missing := missing
  least := 0x80
  greatest := 0xBF
  bits := bits

/-- The range of the second byte leaves out long forms, halves of surrogate
pairs and numbers beyond the last character. -/
def firstByte (byte : Nat) : FirstByte :=
  if byte < 0x80 then .character (Char.ofNat byte)
  else if byte < 0xC2 then .malformed
  else if byte < 0xE0 then .start (continuing 1 (byte - 0xC0))
  else if byte = 0xE0 then .start { continuing 2 0 with least := 0xA0 }
  else if byte = 0xED then .start { continuing 2 0xD with greatest := 0x9F }
  else if byte < 0xF0 then .start (continuing 2 (byte - 0xE0))
  else if byte = 0xF0 then .start { continuing 3 0 with least := 0x90 }
  else if byte < 0xF4 then .start (continuing 3 (byte - 0xF0))
  else if byte = 0xF4 then .start { continuing 3 4 with greatest := 0x8F }
  else .malformed

/-- The characters of the bytes; nothing stands for bytes that are none. -/
def charactersAfter : Option Pending → Bytes → List (Option Char)
  | none, [] => []
  | some _, [] => [none]
  | none, byte :: rest =>
      match firstByte byte.toNat with
      | .character character => some character :: charactersAfter none rest
      | .malformed => none :: charactersAfter none rest
      | .start pending => charactersAfter (some pending) rest
  | some pending, byte :: rest =>
      if pending.least ≤ byte.toNat ∧ byte.toNat ≤ pending.greatest then
        let bits := 64 * pending.bits + (byte.toNat - 0x80)
        if pending.missing ≤ 1 then some (Char.ofNat bits) :: charactersAfter none rest
        else charactersAfter (some (continuing (pending.missing - 1) bits)) rest
      else
        match firstByte byte.toNat with
        | .character character => none :: some character :: charactersAfter none rest
        | .malformed => none :: none :: charactersAfter none rest
        | .start next => none :: charactersAfter (some next) rest

def characters (bytes : Bytes) : List (Option Char) :=
  charactersAfter none bytes

/-- The text of well-formed bytes. -/
def decode? (bytes : Bytes) : Option Text :=
  (characters bytes).mapM id

/-- The replacement character stands for bytes that are no character. -/
def decode (bytes : Bytes) : Text :=
  (characters bytes).map fun character => character.getD '\uFFFD'

end Utf8

namespace Text

/-- Every line end becomes a line feed. -/
def unifyLineEnds : Text → Text
  | [] => []
  | '\r' :: '\n' :: rest => '\n' :: unifyLineEnds rest
  | '\r' :: rest => '\n' :: unifyLineEnds rest
  | character :: rest => character :: unifyLineEnds rest

end Text

end PageMark
