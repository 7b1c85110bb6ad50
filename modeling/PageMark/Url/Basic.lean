import PageMark.Text.Integer
import PageMark.Text.Lowercase
import PageMark.Text.Quoted
import PageMark.Url.Percent
import PageMark.Url.Punycode

/-!
# Addresses of the web

An address is read into its parts, each in its normal form, and written again.
-/

namespace PageMark

structure Url where
  scheme : Text
  user : Text
  host : Text
  port : Option Int
  path : Text
  query : Option Text
  fragment : Option Text
deriving DecidableEq, Repr

/-- Why a text is no address. -/
inductive UrlError where
  | tooLong
  | control (character : Char) (place : Nat)
  | invalidVersion4 (host : Text)
  | invalidVersion6 (host : Text)
  | invalidName (host : Text)
  | invalidPort (port : Text)
  | pathWithoutSlash
  | pathWithSlashes
  | pathWithColon
deriving DecidableEq, Repr

namespace UrlError

def shown (text : Text) : String :=
  String.ofList (Text.quoted text)

def message : UrlError → String
  | tooLong => "URL too long"
  | control character place =>
      "Invalid non-printable ASCII character in URL, " ++ shown [character] ++
        " at position " ++ Nat.repr place ++ "."
  | invalidVersion4 host => "Invalid IPv4 address: " ++ shown host
  | invalidVersion6 host => "Invalid IPv6 address: " ++ shown host
  | invalidName host => "Invalid IDNA hostname: " ++ shown host
  | invalidPort port => "Invalid port: " ++ shown port
  | pathWithoutSlash => "For absolute URLs, path must be empty or begin with '/'"
  | pathWithSlashes => "Relative URLs cannot have a path starting with '//'"
  | pathWithColon => "Relative URLs cannot have a path starting with ':'"

end UrlError

namespace Url

/-! ## Writing -/

/-- The host and what belongs to it. -/
def authority (url : Url) : Text :=
  (if url.user.isEmpty then [] else url.user ++ ['@']) ++
    (if url.host.contains ':' then '[' :: url.host ++ [']'] else url.host) ++
    (match url.port with
    | some port => ':' :: Text.writeInteger port
    | none => [])

def optionalPart (mark : Char) : Option Text → Text
  | some part => mark :: part
  | none => []

def written (url : Url) : Text :=
  (if url.scheme.isEmpty then [] else url.scheme ++ [':']) ++
    (if url.authority.isEmpty then [] else '/' :: '/' :: url.authority) ++
    url.path ++ optionalPart '?' url.query ++ optionalPart '#' url.fragment

def isAbsolute (url : Url) : Bool :=
  !url.scheme.isEmpty && !url.host.isEmpty

/-! ## Cutting -/

/-- The parts of an address as they are written. -/
structure Parts where
  scheme : Text
  authority : Text
  path : Text
  query : Option Text
  fragment : Option Text
deriving DecidableEq, Repr

/-- The text before the first character of a class, and the rest. -/
def cutAt (isMark : Char → Bool) (text : Text) : Text × Text :=
  (text.takeWhile fun character => !isMark character,
    text.dropWhile fun character => !isMark character)

/-- The text before a mark, and the text after it if it occurs. -/
def cutOff (mark : Char) (text : Text) : Text × Option Text :=
  match cutAt (· == mark) text with
  | (before, []) => (before, none)
  | (before, _ :: after) => (before, some after)

def continuesScheme (character : Char) : Bool :=
  character.isAlphanum || character == '+' || character == '.' || character == '-'

/-- The scheme and the text after its colon.  Without a scheme, one colon at the
start is dropped. -/
def cutScheme (text : Text) : Text × Text :=
  match cutAt (fun character => !continuesScheme character) text with
  | (scheme, ':' :: rest) =>
      if scheme.head?.all Char.isAlpha then (scheme, rest) else ([], text)
  | _ => ([], text)

def cutAuthority : Text → Text × Text
  | '/' :: '/' :: rest => cutAt (fun character => "/?#".toList.contains character) rest
  | text => ([], text)

def cut (text : Text) : Parts :=
  let (scheme, rest) := cutScheme text
  let (authority, rest) := cutAuthority rest
  let (before, fragment) := cutOff '#' rest
  let (path, query) := cutOff '?' before
  { scheme := scheme, authority := authority, path := path, query := query, fragment := fragment }

/-- The part before the last mark, if it occurs, and the part after it. -/
def cutLast (mark : Char) (text : Text) : Text × Text :=
  match cutAt (· == mark) text.reverse with
  | (_, []) => ([], text)
  | (after, _ :: before) => (before.reverse, after.reverse)

/-- The host with its brackets and the text of the port. -/
def cutHost (text : Text) : Text × Text :=
  let bracketed := cutLast ']' text
  let (host, rest) :=
    if text.head? == some '[' && text.contains ']' then (bracketed.1 ++ [']'], bracketed.2)
    else cutAt (· == ':') text
  (host, if rest.head? == some ':' then rest.drop 1 else rest)

/-! ## Hosts and ports -/

/-- The number of separators that may be found inside digits alone. -/
def innerSeparators (runs : List Text) : Nat :=
  runs.foldl (fun total run => total + (run.length - 1) / 2) 0

/-- Four numbers with any single characters between them. -/
def looksLikeVersion4 (host : Text) : Bool :=
  let runs := Text.parts '.' (host.map fun character =>
    if Host.isDigit character then character else '.')
  !runs.contains [] && runs.length ≤ 4 && 4 ≤ runs.length + innerSeparators runs

def readHost (host : Text) : Except UrlError Text :=
  if host.isEmpty then .ok []
  else if looksLikeVersion4 host then
    if Host.isVersion4 host then .ok host else .error (.invalidVersion4 host)
  else if host.head? == some '[' && host.getLast? == some ']' then
    let address := (host.drop 1).dropLast
    if Host.isVersion6 address then .ok address else .error (.invalidVersion6 host)
  else if Punycode.isPlain host then .ok (quote isKeptInHost (host.map Char.toLower))
  else
    match Punycode.encodeHost? (Text.lower host) with
    | some encoded => .ok encoded
    | none => .error (.invalidName host)

def defaultPort? (scheme : Text) : Option Int :=
  (([("ftp", 21), ("http", 80), ("https", 443), ("ws", 80), ("wss", 443)] :
    List (String × Int)).find? fun entry => entry.1.toList == scheme).map Prod.snd

/-- The usual port of a scheme is not written. -/
def readPort (scheme port : Text) : Except UrlError (Option Int) :=
  if port.isEmpty then .ok none
  else
    match Text.readInteger? port with
    | none => .error (.invalidPort port)
    | some number => .ok (if defaultPort? scheme == some number then none else some number)

/-! ## Paths -/

def dropDots : List Text → List Text → List Text
  | done, [] => done.reverse
  | done, ['.'] :: rest => dropDots done rest
  | done, ['.', '.'] :: rest =>
      dropDots (if done == [[]] then done else done.drop 1) rest
  | done, segment :: rest => dropDots (segment :: done) rest

/-- Segments of one or two points are resolved. -/
def normalPath (path : Text) : Text :=
  Text.joinWith ['/'] (dropDots [] (Text.parts '/' path))

def checkPath (hasScheme hasAuthority : Bool) (path : Text) : Except UrlError Unit :=
  if hasAuthority && !path.isEmpty && path.head? != some '/' then .error .pathWithoutSlash
  else if !hasScheme && !hasAuthority && "//".toList.isPrefixOf path then .error .pathWithSlashes
  else if !hasScheme && !hasAuthority && path.head? == some ':' then .error .pathWithColon
  else .ok ()

/-! ## Reading -/

def ofParts (parts : Parts) (user host port : Text) : Except UrlError Url := do
  let name ← readHost host
  let number ← readPort parts.scheme port
  let user := quote isKeptInUser user
  let hasScheme := !parts.scheme.isEmpty
  let hasAuthority := !user.isEmpty || !name.isEmpty || number.isSome
  checkPath hasScheme hasAuthority parts.path
  let path := if hasScheme || hasAuthority then normalPath parts.path else parts.path
  return {
    scheme := parts.scheme.map Char.toLower
    user := user
    host := name
    port := number
    path := quote isKeptInPath path
    query := parts.query.map (quote isKeptInQuery)
    fragment := parts.fragment.map (quote isKeptInFragment) }

def lengthLimit : Nat := 65536

def isControl (character : Char) : Bool :=
  character.toNat < 0x20 || character.toNat == 0x7F

def checkText (text : Text) : Except UrlError Unit :=
  if lengthLimit < text.length then .error .tooLong
  else
    match text.find? isControl with
    | some character => .error (.control character (text.findIdx isControl))
    | none => .ok ()

def read (text : Text) : Except UrlError Url := do
  checkText text
  let parts := cut text
  let (user, place) := cutLast '@' parts.authority
  let (host, port) := cutHost place
  ofParts parts user host port

/-- The address with another host. -/
def withHost (url : Url) (host : Text) : Except UrlError Url :=
  ofParts
    { scheme := url.scheme, authority := [], path := url.path, query := url.query,
      fragment := url.fragment }
    url.user host
    (match url.port with
    | some port => Text.writeInteger port
    | none => [])

end Url

end PageMark
