import PageMark.Url.Host

/-!
# Names of hosts in other scripts

A label with characters beyond ASCII is written as its ASCII characters, a dash
and the places and numbers of the others, in a numeral system whose digits
change their weight as the numbers grow.
-/

namespace PageMark.Url.Punycode

/-- Digits are the small letters and then the ten figures. -/
def digit (value : Nat) : Char :=
  if value < 26 then Char.ofNat ('a'.toNat + value) else Char.ofNat ('0'.toNat + (value - 26))

def adaptLoop : Nat → Nat → Nat → Nat
  | 0, _, rounds => rounds
  | fuel + 1, delta, rounds =>
      if delta > 455 then adaptLoop fuel (delta / 35) (rounds + 36)
      else rounds + 36 * delta / (delta + 38)

/-- The bias of the digits after a number has been written. -/
def adapt (delta points : Nat) (first : Bool) : Nat :=
  let scaled := if first then delta / 700 else delta / 2
  let whole := scaled + scaled / points
  adaptLoop whole whole 0

def threshold (place bias : Nat) : Nat :=
  if place ≤ bias then 1 else if place ≥ bias + 26 then 26 else place - bias

/-- The digits of a number, the least place first. -/
def writeNumber : Nat → Nat → Nat → Nat → Text
  | 0, _, _, _ => []
  | fuel + 1, bias, place, number =>
      let weight := threshold place bias
      if number < weight then [digit number]
      else
        digit (weight + (number - weight) % (36 - weight)) ::
          writeNumber fuel bias (place + 36) ((number - weight) / (36 - weight))

/-- The state of the encoding between two characters. -/
structure Progress where
  delta : Nat
  bias : Nat
  /-- The number of characters that are written. -/
  written : Nat
  first : Bool
  output : Text

/-- Goes through the label once for the characters of one number. -/
def pass (point : Nat) (progress : Progress) : Text → Progress
  | [] => progress
  | character :: rest =>
      if character.toNat < point then
        pass point { progress with delta := progress.delta + 1 } rest
      else if character.toNat = point then
        pass point
          { delta := 0
            bias := adapt progress.delta (progress.written + 1) progress.first
            written := progress.written + 1
            first := false
            output := progress.output ++
              writeNumber (progress.delta + 1) progress.bias 36 progress.delta }
          rest
      else pass point progress rest

/-- The smallest number of a character not below `point`. -/
def nextPoint? (point : Nat) (label : Text) : Option Nat :=
  ((label.map Char.toNat).filter fun code => point ≤ code).min?

def passes : Nat → Nat → Text → Progress → Progress
  | 0, _, _, progress => progress
  | fuel + 1, point, label, progress =>
      match nextPoint? point label with
      | none => progress
      | some next =>
          let reached :=
            { progress with delta := progress.delta + (next - point) * (progress.written + 1) }
          let done := pass next reached label
          passes fuel (next + 1) label { done with delta := done.delta + 1 }

def encode (label : Text) : Text :=
  let plain := label.filter fun character => character.toNat < 0x80
  let start : Progress :=
    { delta := 0, bias := 72, written := plain.length, first := true, output := [] }
  let opening := if plain.isEmpty then [] else plain ++ ['-']
  opening ++ (passes label.length 0x80 label start).output

def isPlain (label : Text) : Bool :=
  label.all fun character => character.toNat < 0x80

def encodeLabel (label : Text) : Text :=
  if isPlain label then label else "xn--".toList ++ encode label

/-! ## Hosts -/

/-- Three other signs count as the point between two labels. -/
def isPoint (character : Char) : Bool :=
  character == '.' || character.toNat == 0x3002 || character.toNat == 0xFF0E ||
    character.toNat == 0xFF61

/-- Signs and symbols are not part of any name. -/
def isSymbol (character : Char) : Bool :=
  let code := character.toNat
  (0x80 ≤ code && code ≤ 0xB6) || (0xB8 ≤ code && code ≤ 0xBF) || code == 0xD7 || code == 0xF7 ||
    (0x2000 ≤ code && code ≤ 0x2BFF) || (0x3000 ≤ code && code ≤ 0x3004) ||
    (0xE000 ≤ code && code ≤ 0xFAFF) || (0xFE10 ≤ code && code ≤ 0xFFFF) ||
    (0x1F000 ≤ code && code ≤ 0x1FAFF)

def isLabel (label : Text) : Bool :=
  !label.isEmpty && !label.any isSymbol && (encodeLabel label).length ≤ 63

/-- The written form of a host, or nothing if it is no name of a host.  A point
at the end is kept. -/
def encodeHost? (host : Text) : Option Text :=
  let pointed := host.map fun character => if isPoint character then '.' else character
  let labels := Text.parts '.' pointed
  let named := if labels.getLast? == some [] then labels.dropLast else labels
  if !named.isEmpty && named.all isLabel then
    some (Text.joinWith ['.'] (labels.map encodeLabel))
  else none

end PageMark.Url.Punycode
