import PageMark.Text.Quoted

/-!
# Host addresses

Which texts are addresses of hosts in version 4 or version 6 of the Internet
Protocol.
-/

namespace PageMark.Host

def isDigit (character : Char) : Bool :=
  '0' ≤ character && character ≤ '9'

def isHexDigit (character : Char) : Bool :=
  isDigit character || ('a' ≤ character && character ≤ 'f') ||
    ('A' ≤ character && character ≤ 'F')

def decimalValue (digits : Text) : Nat :=
  digits.foldl (fun value digit => 10 * value + (digit.toNat - '0'.toNat)) 0

/-- A number up to 255 without leading zeros. -/
def isOctet (text : Text) : Bool :=
  !text.isEmpty && text.all isDigit && text.length ≤ 3 && decimalValue text ≤ 255 &&
    !(text.length > 1 && text.head? == some '0')

def isVersion4 (text : Text) : Bool :=
  (Text.parts '.' text).length == 4 && (Text.parts '.' text).all isOctet

def isHextet (text : Text) : Bool :=
  !text.isEmpty && text.length ≤ 4 && text.all isHexDigit

/-- The groups of an address; a version 4 address at the end stands for two. -/
def groups? (text : Text) : Option (List Text) :=
  let all := Text.parts ':' text
  match all.getLast? with
  | none => none
  | some last =>
      if last.contains '.' then
        if isVersion4 last then some (all.dropLast ++ [['0'], ['0']]) else none
      else some all

/-- Groups around the one gap that stands for groups of zeros: the first and the
last group may be empty only if the gap is next to them. -/
def fillsGap (before after : List Text) : Bool :=
  let high := if before.head? == some [] then before.drop 1 else before
  let low := if after.getLast? == some [] then after.dropLast else after
  (before.head? != some [] || high.isEmpty) && (after.getLast? != some [] || low.isEmpty) &&
    high.length + low.length < 8 && high.all isHextet && low.all isHextet

def areGroups (groups : List Text) : Bool :=
  let inner := (groups.drop 1).dropLast
  3 ≤ groups.length && groups.length ≤ 9 &&
    match inner.findIdx? (·.isEmpty) with
    | none => groups.length == 8 && groups.all isHextet
    | some gap =>
        inner.count [] == 1 && fillsGap (groups.take (gap + 1)) (groups.drop (gap + 2))

/-- A version 6 address may name a zone after a percent sign. -/
def isVersion6 (text : Text) : Bool :=
  let address := text.takeWhile (· != '%')
  let zone := text.dropWhile (· != '%')
  (zone.isEmpty || (zone.length > 1 && !(zone.drop 1).contains '%')) && !text.contains '/' &&
    ((groups? address).any areGroups)

end PageMark.Host
