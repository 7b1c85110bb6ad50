import PageMark.Text.Bytes
import PageMark.Text.Digits
import PageMark.Url.Basic

/-!
# Messages

Requests for pages and the responses to them.  The names of header fields are in
lower case; a field that occurs again adds to its value.
-/

namespace PageMark

structure Header where
  name : String
  value : Text
deriving DecidableEq, Repr

abbrev Headers := List Header

namespace Headers

def lowerCase (name : String) : String :=
  String.ofList (name.toList.map Char.toLower)

def value? (headers : Headers) (name : String) : Option Text :=
  (headers.find? fun header => header.name == name).map Header.value

def has (headers : Headers) (name : String) : Bool :=
  headers.any fun header => header.name == name

def without (headers : Headers) (name : String) : Headers :=
  headers.filter fun header => header.name != name

/-- A field of the same name is continued after a comma. -/
def add (headers : Headers) (name : String) (value : Text) : Headers :=
  if headers.has name then
    headers.map fun header =>
      if header.name == name then { header with value := header.value ++ ", ".toList ++ value }
      else header
  else headers ++ [{ name := name, value := value }]

/-- A field takes the given value. -/
def put (headers : Headers) (name : String) (value : Text) : Headers :=
  if headers.has name then
    headers.map fun header => if header.name == name then { header with value := value } else header
  else headers ++ [{ name := name, value := value }]

def ofPairs (pairs : List (String × Text)) : Headers :=
  pairs.foldl (fun headers pair => headers.add (lowerCase pair.1) pair.2) []

end Headers

structure Request where
  url : Url
  headers : Headers
deriving DecidableEq, Repr

structure Response where
  status : Nat
  headers : Headers
  body : Bytes
deriving DecidableEq, Repr

namespace Response

/-- A body that is not empty has its length among the header fields. -/
def build (status : Nat) (headers : Headers) (body : Bytes) : Response where
  status := status
  headers :=
    if body.isEmpty then headers
    else headers.put "content-length" (Text.numeral body.length)
  body := body

def redirectStatuses : List Nat :=
  [301, 302, 303, 307, 308]

/-- Where the page has moved to. -/
def location? (response : Response) : Option Text :=
  if redirectStatuses.contains response.status then response.headers.value? "location"
  else none

end Response

/-- A request that was not answered: what went wrong and the words for it. -/
structure TransportFailure where
  kind : String
  message : Text
deriving DecidableEq, Repr

/-- What answers requests.  The state is that of the network. -/
abbrev Transport (State : Type) :=
  State → Request → Except TransportFailure Response × State

end PageMark
