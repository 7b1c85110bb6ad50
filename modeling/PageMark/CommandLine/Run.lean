import PageMark.CommandLine.Options
import PageMark.Conversion.Page
import PageMark.Excerpt
import PageMark.Slug
import PageMark.Storage.Tree
import PageMark.Text.Columns
import PageMark.Web.Fetch

/-!
# Running the command

The command reads a page from a file, from the web or from its input, takes an
excerpt, converts it, and prints or saves the Markdown.  A run changes nothing
but its log, which holds what the world has become and all that was said.
-/

namespace PageMark.CommandLine

/-- What a run finds around it.  Pages are summarised by a function of the page
and its place, and texts with styles in brackets are read by one that fails where
the brackets do not match. -/
structure World (State : Type) where
  files : FileTree
  input : Bytes
  network : State
  /-- The transport with and without checking certificates. -/
  transport : Bool → Transport State
  summarise : Text → Text → Text
  readStyles : Text → Option Text
  /-- Whether the basic converters are in use. -/
  base : Bool

/-- A fetch that the command made. -/
structure FetchCall where
  url : Text
  timeout : Int
  checked : Bool
deriving DecidableEq, Repr

structure Log (State : Type) where
  files : FileTree
  network : State
  output : Text
  errors : Text
  fetches : List FetchCall
  requests : List Request
  /-- The pages that were summarised, with their places. -/
  summaries : List (Text × Text)

/-- A failure that the command has no words for. -/
inductive Crash where
  | undecodableInput
  | selector (error : SelectorError)
  | conversion (failure : Failure)
  | fetch (error : FetchError)
  | address (error : AddressError)
  | storage (error : StorageError)
  /-- The styles in a line for the terminal cannot be read. -/
  | styles
deriving DecidableEq, Repr

/-- Why a run ends before its work is done. -/
inductive Stop where
  | complaint (message : Text)
  | crash (crash : Crash)
deriving DecidableEq, Repr

abbrev Run (State Result : Type) := ExceptT Stop (StateM (Log State)) Result

section
variable {State : Type}

def complain {Result : Type} (message : Text) : Run State Result :=
  throw (.complaint message)

def crash {Result : Type} (crash : Crash) : Run State Result :=
  throw (.crash crash)

def say (text : Text) : Run State Unit :=
  modify fun log => { log with output := log.output ++ text }

def report (text : Text) : Run State Unit :=
  modify fun log => { log with errors := log.errors ++ text }

/-- Says something with styles in brackets, in the given form. -/
def announce (world : World State) (form : Text → Text) (styled : Text) : Run State Unit :=
  match world.readStyles styled with
  | some shown => report (form shown)
  | none => crash .styles

/-- Says something to a user who wants to read it. -/
def mention (world : World State) (verbose : Bool) (form : Text → Text) (styled : Text) :
    Run State Unit :=
  if verbose then announce world form styled else return ()

/-! ## The source -/

/-- A page and its place: an address, a path, or nothing for the input. -/
structure Source where
  html : Text
  place : Text
deriving DecidableEq, Repr

def readInput (world : World State) : Run State Source :=
  match Utf8.decode? world.input with
  | some text => return { html := Text.unifyLineEnds text, place := [] }
  | none => crash .undecodableInput

def fileNotice (source : Text) : Text :=
  "[dim]Converting file: ".toList ++ FilePath.normal source ++ "[/dim]".toList

/-- A path that cannot be looked for is not explained. -/
def readFile (world : World State) (source : Text) (verbose : Bool) : Run State Source :=
  if world.files.refuses source then crash (.storage .nameTooLong)
  else
    match world.files.fileAt? source with
    | some content => do
        mention world verbose Text.terminalLine (fileNotice source)
        return { html := Text.unifyLineEnds (Utf8.decode content), place := FilePath.normal source }
    | none =>
        complain ("Source must be a URL (http/https), an existing file, or -: ".toList ++ source)

def fetchOnce (world : World State) (url : Text) (timeout : Int) (checked : Bool) :
    Run State (Except FetchError FetchedPage) := do
  let log ← get
  let (fetched, network) := fetchPage (world.transport checked) log.network url true []
  set ({ log with
    network := network
    fetches := log.fetches ++ [{ url := url, timeout := timeout, checked := checked }]
    requests := log.requests ++ fetched.requests } : Log State)
  return fetched.result

def certificateMark : Text :=
  "CERTIFICATE_VERIFY_FAILED".toList

/-- The word for the failure to reach a host at all. -/
def noConnection : String := "ConnectError"

def isConnectionFailure : FetchError → Bool
  | .transport failure => failure.kind == noConnection
  | _ => false

/-- Failures that are faults of the program that asks. -/
def misuses : List String :=
  ["InvalidURL", "CookieConflict", "StreamError", "StreamConsumed", "StreamClosed",
    "ResponseNotRead", "RequestNotRead"]

/-- Whether a failure belongs to the exchange with a host. -/
def isExchangeFailure : FetchError → Bool
  | .address _ => false
  | .transport failure => !misuses.contains failure.kind
  | _ => true

/-- A page from the web that could not be fetched. -/
def refuse (url : Text) (error : FetchError) : Run State FetchedPage :=
  if !isExchangeFailure error then crash (.fetch error)
  else if isConnectionFailure error then
    complain ("Could not connect to ".toList ++ url ++ ": ".toList ++ error.message)
  else complain ("Fetching ".toList ++ url ++ " failed: ".toList ++ error.message)

def retryNotice : Text :=
  Text.terminalLine "SSL verification failed, retrying without verification".toList

/-- Without checking certificates, failures are not explained. -/
def fetchUnchecked (world : World State) (url : Text) (timeout : Int) : Run State FetchedPage := do
  report retryNotice
  match ← fetchOnce world url timeout false with
  | .ok page => return page
  | .error error => crash (.fetch error)

/-- A certificate that is not accepted is a reason to try once more without
checking it. -/
def fetch (world : World State) (url : Text) (timeout : Int) : Run State FetchedPage := do
  match ← fetchOnce world url timeout true with
  | .ok page => return page
  | .error error =>
      if isConnectionFailure error && Text.containsPattern certificateMark error.message then
        fetchUnchecked world url timeout
      else refuse url error

/-- The display of the progress ends its line, whatever has come of the fetch. -/
def closingProgress {Result : Type} (run : Run State Result) : Run State Result :=
  tryCatch (do let result ← run; report ['\n']; return result)
    fun stop => do report ['\n']; throw stop

def pageNotice (url : Text) : Text :=
  "[bold]h2md - HTML to Markdown[/bold]\n".toList ++ url

/-- A page that tells of a failure is not read. -/
def readFetched (world : World State) (url : Text) (timeout : Int) : Run State Source := do
  let page ← closingProgress (fetch world url timeout)
  if 400 ≤ page.status then
    complain ("HTTP ".toList ++ Text.numeral page.status ++ " fetching ".toList ++ url)
  else return { html := page.html, place := page.url }

def readPage (world : World State) (url : Text) (timeout : Int) (verbose : Bool) :
    Run State Source := do
  mention world verbose Text.framed (pageNotice url)
  readFetched world url timeout

def readSource (world : World State) (invocation : Invocation) : Run State Source :=
  if invocation.source = ['-'] then readInput world
  else if (networkAddress? invocation.source).isSome then
    readPage world invocation.source invocation.timeout invocation.verbose
  else readFile world invocation.source invocation.verbose

/-! ## The Markdown -/

/-- The part of the page that is converted. -/
def excerpt (world : World State) (invocation : Invocation) (source : Source) :
    Run State Text :=
  match Excerpt.ofPage source.html (invocation.selector.getD []) invocation.readable with
  | .error error => crash (.selector error)
  | .ok excerpt => do
      if excerpt.isSummary then
        modify fun log => { log with summaries := log.summaries ++ [(source.html, source.place)] }
      return excerpt.html source.html (world.summarise source.html source.place)

/-- Errors in the converters are explained, others are not. -/
def markdown (world : World State) (invocation : Invocation) (html : Text) : Run State Text :=
  match convertPage html { gfm := invocation.gfm, base := world.base } [] with
  | .ok text => return text
  | .error failure =>
      if failure.isConfiguration then
        complain ("Conversion failed: ".toList ++ failure.message.toList)
      else crash (.conversion failure)

/-! ## The result -/

/-- The name of the file for a page without a place. -/
def inputName : Text :=
  "stdin".toList

/-- In a folder, the file is named after the source. -/
def outputPath (world : World State) (source : Source) (output : Text) :
    Except AddressError Text :=
  if world.files.isFolderPath output || output.getLast? == some '/' then do
    let slug ← Slug.ofSource (if source.place.isEmpty then inputName else source.place)
    return FilePath.normal (output ++ ['/'] ++ slug ++ ".md".toList)
  else .ok (FilePath.normal output)

def saveNotice (path : Text) : Text :=
  "[green]Saved:[/green] ".toList ++ path

def save (world : World State) (path text : Text) : Run State Unit := do
  let log ← get
  let (files, error) := log.files.write path (Utf8.encode (text ++ ['\n']))
  set ({ log with files := files } : Log State)
  match error with
  | some error => crash (.storage error)
  | none => announce world Text.terminalLine (saveNotice path)

def deliver (world : World State) (invocation : Invocation) (source : Source) (text : Text) :
    Run State Unit :=
  match invocation.output.getD [] with
  | [] => say (text ++ ['\n'])
  | output =>
      if world.files.refuses output then crash (.storage .nameTooLong)
      else
        match outputPath world source output with
        | .error error => crash (.address error)
        | .ok path => save world path text

/-! ## The whole run -/

def convert (world : World State) (invocation : Invocation) : Run State Unit := do
  let source ← readSource world invocation
  let html ← excerpt world invocation source
  let text ← markdown world invocation html
  deliver world invocation source text

def startLog (world : World State) : Log State where
  files := world.files
  network := world.network
  output := []
  errors := []
  fetches := []
  requests := []
  summaries := []

/-- How a run has ended. -/
structure Outcome (State : Type) where
  status : Nat
  crash : Option Crash
  log : Log State

/-- A complaint is the last thing that a run says. -/
def outcomeOf : Except Stop Unit × Log State → Outcome State
  | (.ok _, log) => { status := 0, crash := none, log := log }
  | (.error (.complaint message), log) =>
      { status := 1, crash := none, log := { log with errors := log.errors ++ complaint message } }
  | (.error (.crash crash), log) => { status := 1, crash := some crash, log := log }

def run (world : World State) (arguments : List Text) : Outcome State :=
  match demandOf arguments with
  | .error error =>
      { status := 2, crash := none, log := { startLog world with errors := error.shown } }
  | .ok .help => { status := 0, crash := none, log := { startLog world with output := help } }
  | .ok (.conversion invocation) => outcomeOf ((convert world invocation).run (startLog world))

end

end PageMark.CommandLine
