import PageMark.Url.Join
import PageMark.Web.Charset
import PageMark.Web.Message

/-!
# Fetching pages

A page is requested, redirects are followed up to a limit, and the body of the
last response is read in its character set.
-/

namespace PageMark

/-- Why a page was not fetched. -/
inductive FetchError where
  | address (error : UrlError)
  | transport (failure : TransportFailure)
  | tooManyRedirects
  | invalidLocation (error : UrlError)
deriving DecidableEq, Repr

namespace FetchError

def message : FetchError → Text
  | address error => error.message.toList
  | transport failure => failure.message
  | tooManyRedirects => "Exceeded maximum allowed redirects.".toList
  | invalidLocation error =>
      ("Invalid URL in location header: " ++ error.message ++ ".").toList

end FetchError

/-- What a fetch has come to, and every request that was made for it. -/
structure Fetched (Result : Type) where
  result : Except FetchError Result
  requests : List Request

structure FetchedPage where
  html : Text
  url : Text
  status : Nat
  headers : Headers
deriving DecidableEq, Repr

namespace Fetch

/-! ## Requests -/

def defaultHeaders : List (String × Text) :=
  [("User-Agent", ("Mozilla/5.0 (Macintosh; Intel Mac OS X 10_15_7) AppleWebKit/537.36 " ++
      "(KHTML, like Gecko) Chrome/131.0.0.0 Safari/537.36").toList),
    ("Accept", "text/html,application/xhtml+xml,application/xml;q=0.9,*/*;q=0.8".toList),
    ("Accept-Language", "en-US,en;q=0.9".toList)]

/-- A header takes the place of a default one if it is written alike. -/
def putPair (pairs : List (String × Text)) (pair : String × Text) : List (String × Text) :=
  if pairs.any fun known => known.1 == pair.1 then
    pairs.map fun known => if known.1 == pair.1 then pair else known
  else pairs ++ [pair]

def headersWith (given : List (String × Text)) : Headers :=
  Headers.ofPairs (given.foldl putPair defaultHeaders)

/-- An address without a scheme or a host is taken as a path. -/
def absolute (url : Url) : Except UrlError Url :=
  if url.isAbsolute then .ok url
  else
    .ok {
      scheme := []
      user := []
      host := []
      port := none
      path := '/' :: url.path.dropWhile (· == '/')
      query := url.query
      fragment := none }

/-! ## Redirects -/

def redirectLimit : Nat := 20

def withFragment (url : Url) (fragment : Option Text) : Url :=
  match url.fragment, fragment with
  | none, some kept => if kept.isEmpty then url else { url with fragment := some kept }
  | some [], some kept => if kept.isEmpty then url else { url with fragment := some kept }
  | _, _ => url

/-- A location with a scheme and without a host means the host that was asked. -/
def hosted (current target : Url) : Except UrlError Url :=
  if !target.scheme.isEmpty && target.host.isEmpty then target.withHost current.host
  else .ok target

/-- The address that a location means for the page at `current`. -/
def redirected (current : Url) (location : Text) : Except FetchError Url :=
  match Url.read location with
  | .error error => .error (.invalidLocation error)
  | .ok target =>
      let address := do
        let target ← hosted current target
        let target ← if target.isAbsolute then .ok target else current.join target
        return withFragment target current.fragment
      address.mapError FetchError.address

def port (url : Url) : Option Int :=
  url.port <|> Url.defaultPort? url.scheme

def sameOrigin (left right : Url) : Bool :=
  left.scheme == right.scheme && left.host == right.host && port left == port right

/-- The same host by the safe scheme. -/
def isUpgrade (left right : Url) : Bool :=
  left.host == right.host && left.scheme == "http".toList && port left == some 80 &&
    right.scheme == "https".toList && port right == some 443

/-- Credentials do not go to another place, and cookies to none. -/
def redirectedHeaders (headers : Headers) (current target : Url) : Headers :=
  let kept :=
    if sameOrigin current target then headers
    else
      let safe :=
        if isUpgrade current target then headers else headers.without "authorization"
      if safe.has "host" then safe.put "host" target.authority else safe
  kept.without "cookie"

/-- Requests until a response that does not redirect, or until `redirects` of
them have been followed.  `made` holds the requests so far, last one first. -/
def follow {State : Type} (transport : Transport State) (follows : Bool) :
    Nat → State → List Request → Request →
      Except FetchError (Request × Response) × State × List Request
  | redirects, state, made, request =>
      let (answer, state) := transport state request
      let made := request :: made
      match answer with
      | .error failure => (.error (.transport failure), state, made)
      | .ok response =>
          match response.location? with
          | none => (.ok (request, response), state, made)
          | some location =>
              match redirected request.url location with
              | .error error => (.error error, state, made)
              | .ok target =>
                  if !follows then (.ok (request, response), state, made)
                  else
                    match redirects with
                    | 0 => (.error .tooManyRedirects, state, made)
                    | redirects + 1 =>
                        let headers := redirectedHeaders request.headers request.url target
                        follow transport follows redirects state made
                          { url := target, headers := headers }

/-! ## Pages -/

def pageOf (request : Request) (response : Response) : FetchedPage where
  html := (Charset.ofContentType (response.headers.value? "content-type")).decode response.body
  url := request.url.written
  status := response.status
  headers := response.headers

def request (address : Text) (given : List (String × Text)) : Except UrlError Request := do
  let url ← absolute (← Url.read address)
  return { url := url, headers := headersWith given }

end Fetch

/-- The page at an address, and the state of the network after it. -/
def fetchPage {State : Type} (transport : Transport State) (state : State) (address : Text)
    (follows : Bool) (given : List (String × Text)) : Fetched FetchedPage × State :=
  match Fetch.request address given with
  | .error error => ({ result := .error (.address error), requests := [] }, state)
  | .ok request =>
      let (outcome, state, made) :=
        Fetch.follow transport follows Fetch.redirectLimit state [] request
      ({ result := outcome.map fun (last, response) => Fetch.pageOf last response,
         requests := made.reverse }, state)

end PageMark
