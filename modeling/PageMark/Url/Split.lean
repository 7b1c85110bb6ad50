import PageMark.Url.Host

/-!
# Parts of a page address

The network location and the path of an address that starts with `http://` or
`https://`.
-/

namespace PageMark

/-- Why an address cannot be taken apart. -/
inductive AddressError where
  | unbalancedBrackets
  | futureVersion
  | version4InBrackets
  | notAnAddress (host : Text)
  | ambiguousLocation (location : Text)
deriving DecidableEq, Repr

namespace AddressError

def message : AddressError → String
  | unbalancedBrackets => "Invalid IPv6 URL"
  | futureVersion => "IPvFuture address is invalid"
  | version4InBrackets => "An IPv4 address cannot be in brackets"
  | notAnAddress host =>
      String.ofList (Text.quoted host) ++ " does not appear to be an IPv4 or IPv6 address"
  | ambiguousLocation location =>
      "netloc '" ++ String.ofList location ++
        "' contains invalid characters under NFKC normalization"

end AddressError

structure AddressParts where
  location : Text
  path : Text
deriving DecidableEq, Repr

namespace AddressParts

def endsLocation (character : Char) : Bool :=
  character == '/' || character == '?' || character == '#'

def isDropped (character : Char) : Bool :=
  character == '\t' || character == '\n' || character == '\r'

/-- Characters that stand for a text with one of the delimiters of an address. -/
def compatibilityDelimiters : List Nat :=
  [0x2047, 0x2048, 0x2049, 0x2100, 0x2101, 0x2105, 0x2106, 0x2A74, 0xFE13, 0xFE16, 0xFE55,
    0xFE56, 0xFE5F, 0xFE6B, 0xFF03, 0xFF0F, 0xFF1A, 0xFF1F, 0xFF20]

/-- The part after the last `@`. -/
def afterUser (location : Text) : Text :=
  (location.reverse.takeWhile (· != '@')).reverse

/-- A version marker, digits, a point and at least one more character. -/
def isFutureAddress (host : Text) : Bool :=
  let digits := (host.drop 1).takeWhile Host.isHexDigit
  let rest := (host.drop 1).dropWhile Host.isHexDigit
  !digits.isEmpty && rest.head? == some '.' && 1 < rest.length

def checkBracketedHost (host : Text) : Except AddressError Unit :=
  if host.head? == some 'v' then
    if isFutureAddress host then .ok () else .error .futureVersion
  else if Host.isVersion4 host then .error .version4InBrackets
  else if Host.isVersion6 host then .ok ()
  else .error (.notAnAddress host)

/-- Nothing but the user may stand before an opening bracket, and nothing but a
port after the closing one. -/
def checkBrackets (location : Text) : Except AddressError Unit :=
  let hostAndPort := afterUser location
  if hostAndPort.contains '[' then
    let host := (hostAndPort.drop 1).takeWhile (· != ']')
    let port := (hostAndPort.dropWhile (· != ']')).drop 1
    if hostAndPort.head? != some '[' then .error .unbalancedBrackets
    else if !port.isEmpty && port.head? != some ':' then .error .unbalancedBrackets
    else checkBracketedHost host
  else checkBracketedHost (hostAndPort.takeWhile (· != ':'))

def checkLocation (location : Text) : Except AddressError Unit := do
  if location.contains '[' != location.contains ']' then throw .unbalancedBrackets
  if location.contains '[' then checkBrackets location
  if location.any fun character => compatibilityDelimiters.contains character.toNat then
    throw (.ambiguousLocation location)

/-- Parameters of the last segment do not belong to the path. -/
def withoutParameters (path : Text) : Text :=
  let last := (path.reverse.takeWhile (· != '/')).reverse
  path.take (path.length - last.length) ++ last.takeWhile (· != ';')

/-- The parts of an address after its scheme and the two slashes. -/
def ofRest (rest : Text) : Except AddressError AddressParts := do
  let rest := rest.filter fun character => !isDropped character
  let location := rest.takeWhile fun character => !endsLocation character
  let path := (rest.dropWhile fun character => !endsLocation character).takeWhile
    fun character => character != '?' && character != '#'
  checkLocation location
  return { location := location, path := withoutParameters path }

end AddressParts

/-- What follows the scheme of a page address on the network. -/
def networkAddress? (source : Text) : Option Text :=
  let secure := "https://".toList
  let plain := "http://".toList
  if plain.isPrefixOf source then some (source.drop plain.length)
  else if secure.isPrefixOf source then some (source.drop secure.length)
  else none

end PageMark
