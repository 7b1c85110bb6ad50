import Mathlib.Control.Monad.Basic
import PageMark.CommandLine.Run
import PageMark.Proofs.SavedFiles
import PageMark.Text.Styles

/-!
# How runs end

A run of the command prints or saves its Markdown, complains, or ends with a
failure that the command has no words for.  The ways to each of these ends are
told without the log; what the log holds then follows from the end.
-/

namespace PageMark.CommandLine

section

variable {State Result Next : Type}

/-! ## Steps -/

theorem run_bind (first : Run State Result) (next : Result → Run State Next) (log : Log State) :
    (first >>= next).run log =
      match first.run log with
      | (.ok result, later) => (next result).run later
      | (.error stop, later) => (.error stop, later) := by
  have outcome : first log = first.run log := rfl
  change StateT.bind first (ExceptT.bindCont next) log = _
  unfold StateT.bind
  rw [outcome]
  cases first.run log with
  | mk result later => cases result <;> rfl

theorem run_tryCatch (run : Run State Result) (handler : Stop → Run State Result)
    (log : Log State) :
    (tryCatch run handler).run log =
      match run.run log with
      | (.ok result, later) => (.ok result, later)
      | (.error stop, later) => (handler stop).run later := by
  have outcome : run log = run.run log := rfl
  change ExceptT.tryCatch run handler log = _
  unfold ExceptT.tryCatch ExceptT.mk
  change StateT.bind run _ log = _
  unfold StateT.bind
  rw [outcome]
  cases run.run log with
  | mk result later => cases result <;> rfl

theorem report_run (text : Text) (log : Log State) :
    (report text).run log = (.ok (), { log with errors := log.errors ++ text }) :=
  rfl

theorem closingProgress_run (run : Run State Result) (log : Log State) :
    (closingProgress run).run log =
      ((run.run log).1, { (run.run log).2 with errors := (run.run log).2.errors ++ ['\n'] }) := by
  rw [closingProgress, run_tryCatch, run_bind]
  cases ended : run.run log with
  | mk result later =>
      cases result <;> rfl

theorem announce_run (world : World State) (form : Text → Text) (styled : Text)
    (log : Log State) :
    (announce world form styled).run log =
      match world.readStyles styled with
      | some shown => (.ok (), { log with errors := log.errors ++ form shown })
      | none => (.error (.crash .styles), log) := by
  unfold announce
  cases world.readStyles styled <;> rfl

end

/-! ## Ends -/

section

variable {State : Type}

namespace World

/-- The fetch that comes first. -/
def firstFetch (world : World State) (url : Text) : Fetched FetchedPage × State :=
  fetchPage (world.transport true) world.network url true []

/-- The fetch without checking certificates, which finds the network as the
first one has left it. -/
def secondFetch (world : World State) (url : Text) : Fetched FetchedPage × State :=
  fetchPage (world.transport false) (world.firstFetch url).2 url true []

end World

def rejectsCertificate (error : FetchError) : Bool :=
  isConnectionFailure error && Text.containsPattern certificateMark error.message

/-- The words for a failure of the exchange with a host. -/
def refusal (url : Text) (error : FetchError) : Text :=
  if isConnectionFailure error then
    "Could not connect to ".toList ++ url ++ ": ".toList ++ error.message
  else "Fetching ".toList ++ url ++ " failed: ".toList ++ error.message

/-- What comes of fetching a page. -/
inductive World.Fetches (world : World State) (url : Text) : Except Stop FetchedPage → Prop
  | accepted {page : FetchedPage} (first : (world.firstFetch url).1.result = .ok page) :
      Fetches world url (.ok page)
  | refused {error : FetchError} (first : (world.firstFetch url).1.result = .error error)
      (certified : rejectsCertificate error = false) (regular : isExchangeFailure error = true) :
      Fetches world url (.error (.complaint (refusal url error)))
  | misused {error : FetchError} (first : (world.firstFetch url).1.result = .error error)
      (certified : rejectsCertificate error = false) (misuse : isExchangeFailure error = false) :
      Fetches world url (.error (.crash (.fetch error)))
  | acceptedUnchecked {error : FetchError} {page : FetchedPage}
      (first : (world.firstFetch url).1.result = .error error)
      (rejected : rejectsCertificate error = true)
      (second : (world.secondFetch url).1.result = .ok page) : Fetches world url (.ok page)
  | unexplained {error last : FetchError}
      (first : (world.firstFetch url).1.result = .error error)
      (rejected : rejectsCertificate error = true)
      (second : (world.secondFetch url).1.result = .error last) :
      Fetches world url (.error (.crash (.fetch last)))

/-- Whether a notice can be made where the user wants to read it. -/
def World.announces (world : World State) (invocation : Invocation) (notice : Text) : Bool :=
  !invocation.verbose || (world.readStyles notice).isSome

/-- What comes of reading the source that is asked for. -/
inductive World.Reads (world : World State) (invocation : Invocation) :
    Except Stop Source → Prop
  | input {text : Text} (named : invocation.source = ['-'])
      (decoded : Utf8.decode? world.input = some text) :
      Reads world invocation (.ok { html := Text.unifyLineEnds text, place := [] })
  | undecodable (named : invocation.source = ['-'])
      (undecoded : Utf8.decode? world.input = none) :
      Reads world invocation (.error (.crash .undecodableInput))
  | unannouncedPage (remote : (networkAddress? invocation.source).isSome = true)
      (unannounced : world.announces invocation (pageNotice invocation.source) = false) :
      Reads world invocation (.error (.crash .styles))
  | page {page : FetchedPage} (remote : (networkAddress? invocation.source).isSome = true)
      (announced : world.announces invocation (pageNotice invocation.source) = true)
      (fetched : world.Fetches invocation.source (.ok page)) (success : page.status < 400) :
      Reads world invocation (.ok { html := page.html, place := page.url })
  | status {page : FetchedPage} (remote : (networkAddress? invocation.source).isSome = true)
      (announced : world.announces invocation (pageNotice invocation.source) = true)
      (fetched : world.Fetches invocation.source (.ok page)) (failure : 400 ≤ page.status) :
      Reads world invocation (.error (.complaint
        ("HTTP ".toList ++ Text.numeral page.status ++ " fetching ".toList ++
          invocation.source)))
  | unfetched {stop : Stop} (remote : (networkAddress? invocation.source).isSome = true)
      (announced : world.announces invocation (pageNotice invocation.source) = true)
      (unfetched : world.Fetches invocation.source (.error stop)) :
      Reads world invocation (.error stop)
  | overlong (named : invocation.source ≠ ['-']) (near : networkAddress? invocation.source = none)
      (refused : world.files.refuses invocation.source = true) :
      Reads world invocation (.error (.crash (.storage .nameTooLong)))
  | missing (named : invocation.source ≠ ['-']) (near : networkAddress? invocation.source = none)
      (sought : world.files.refuses invocation.source = false)
      (missing : world.files.fileAt? invocation.source = none) :
      Reads world invocation (.error (.complaint
        ("Source must be a URL (http/https), an existing file, or -: ".toList ++
          invocation.source)))
  | unannouncedFile {content : Bytes} (named : invocation.source ≠ ['-'])
      (near : networkAddress? invocation.source = none)
      (sought : world.files.refuses invocation.source = false)
      (found : world.files.fileAt? invocation.source = some content)
      (unannounced : world.announces invocation (fileNotice invocation.source) = false) :
      Reads world invocation (.error (.crash .styles))
  | file {content : Bytes} (named : invocation.source ≠ ['-'])
      (near : networkAddress? invocation.source = none)
      (sought : world.files.refuses invocation.source = false)
      (found : world.files.fileAt? invocation.source = some content)
      (announced : world.announces invocation (fileNotice invocation.source) = true) :
      Reads world invocation (.ok {
        html := Text.unifyLineEnds (Utf8.decode content)
        place := FilePath.normal invocation.source })

/-- The written form of the excerpt that is asked for. -/
def World.excerptOf (world : World State) (invocation : Invocation) (source : Source) :
    Except SelectorError Text :=
  (Excerpt.ofPage source.html (invocation.selector.getD []) invocation.readable).map fun excerpt =>
    excerpt.html source.html (world.summarise source.html source.place)

def World.markdownOf (world : World State) (invocation : Invocation) (html : Text) :
    Except Failure Text :=
  convertPage html { gfm := invocation.gfm, base := world.base } []

/-- The source that was read and the excerpt that was taken of it. -/
structure World.Extracts (world : World State) (invocation : Invocation) (source : Source)
    (html : Text) : Prop where
  read : world.Reads invocation (.ok source)
  taken : world.excerptOf invocation source = .ok html

/-- What becomes of the Markdown. -/
inductive Delivery where
  | nothing
  | printed (text : Text)
  | saved (path text : Text)
  /-- No more is made than folders on the way. -/
  | unsaved (path text : Text)

def saving (text : Text) : Bytes :=
  Utf8.encode (text ++ ['\n'])

/-- Markdown for a file. -/
structure World.Makes (world : World State) (invocation : Invocation) (source : Source)
    (text : Text) : Prop where
  extracted : ∃ html, world.Extracts invocation source html ∧
    world.markdownOf invocation html = .ok text
  kept : invocation.output.getD [] ≠ []

/-- Markdown for a file with the path that it gets. -/
structure World.Names (world : World State) (invocation : Invocation) (path text : Text) :
    Prop where
  made : ∃ source, world.Makes invocation source text ∧
    outputPath world source (invocation.output.getD []) = .ok path
  sought : world.files.refuses (invocation.output.getD []) = false

/-- What comes of the whole run, and why it stops. -/
inductive World.Ends (world : World State) (invocation : Invocation) :
    Delivery → Option Stop → Prop
  | unread {stop : Stop} (unread : world.Reads invocation (.error stop)) :
      Ends world invocation .nothing (some stop)
  | unselected {source : Source} {error : SelectorError}
      (read : world.Reads invocation (.ok source))
      (misread : world.excerptOf invocation source = .error error) :
      Ends world invocation .nothing (some (.crash (.selector error)))
  | misconfigured {source : Source} {html : Text} {failure : Failure}
      (extracted : world.Extracts invocation source html)
      (failed : world.markdownOf invocation html = .error failure)
      (configuration : failure.isConfiguration = true) :
      Ends world invocation .nothing (some (.complaint
        ("Conversion failed: ".toList ++ failure.message.toList)))
  | unconverted {source : Source} {html : Text} {failure : Failure}
      (extracted : world.Extracts invocation source html)
      (failed : world.markdownOf invocation html = .error failure)
      (configured : failure.isConfiguration = false) :
      Ends world invocation .nothing (some (.crash (.conversion failure)))
  | printed {source : Source} {html text : Text}
      (extracted : world.Extracts invocation source html)
      (converted : world.markdownOf invocation html = .ok text)
      (shown : invocation.output.getD [] = []) : Ends world invocation (.printed text) none
  | overlong {source : Source} {text : Text} (made : world.Makes invocation source text)
      (refused : world.files.refuses (invocation.output.getD []) = true) :
      Ends world invocation .nothing (some (.crash (.storage .nameTooLong)))
  | unnamed {source : Source} {text : Text} {error : AddressError}
      (made : world.Makes invocation source text)
      (sought : world.files.refuses (invocation.output.getD []) = false)
      (unnamed : outputPath world source (invocation.output.getD []) = .error error) :
      Ends world invocation .nothing (some (.crash (.address error)))
  | unsaved {path text : Text} {later : FileTree} {error : StorageError}
      (named : world.Names invocation path text)
      (unwritten : world.files.write path (saving text) = (later, some error)) :
      Ends world invocation (.unsaved path text) (some (.crash (.storage error)))
  | unannounced {path text : Text} {later : FileTree}
      (named : world.Names invocation path text)
      (written : world.files.write path (saving text) = (later, none))
      (unannounced : world.readStyles (saveNotice path) = none) :
      Ends world invocation (.saved path text) (some (.crash .styles))
  | saved {path text shown : Text} {later : FileTree}
      (named : world.Names invocation path text)
      (written : world.files.write path (saving text) = (later, none))
      (announced : world.readStyles (saveNotice path) = some shown) :
      Ends world invocation (.saved path text) none

/-! ## Every run has an end -/

def FetchCall.of (invocation : Invocation) (checked : Bool) : FetchCall where
  url := invocation.source
  timeout := invocation.timeout
  checked := checked

/-- Certificates are checked, but for one fetch after the first has failed over them. -/
def World.IsCareful (world : World State) (invocation : Invocation) (log : Log State) : Prop :=
  (∀ call ∈ log.fetches, call.checked = true) ∨
    ∃ error, (world.firstFetch invocation.source).1.result = .error error ∧
      rejectsCertificate error = true ∧
      log.fetches = [FetchCall.of invocation true, FetchCall.of invocation false] ∧
      log.requests = (world.firstFetch invocation.source).1.requests ++
        (world.secondFetch invocation.source).1.requests

/-- Nothing has come of a run so far. -/
structure World.IsPending (world : World State) (invocation : Invocation) (log : Log State) :
    Prop where
  files : log.files = world.files
  output : log.output = []
  careful : world.IsCareful invocation log

namespace World

/-- The log before a fetch, with what was said. -/
def openLog (world : World State) (said : Text) : Log State :=
  { startLog world with errors := said }

/-- The log after the first fetch. -/
def firstLog (world : World State) (invocation : Invocation) (said : Text) : Log State :=
  { world.openLog said with
    network := (world.firstFetch invocation.source).2
    fetches := [FetchCall.of invocation true]
    requests := (world.firstFetch invocation.source).1.requests }

/-- The log after the second fetch. -/
def secondLog (world : World State) (invocation : Invocation) (said : Text) : Log State :=
  { world.openLog (said ++ retryNotice) with
    network := (world.secondFetch invocation.source).2
    fetches := [FetchCall.of invocation true, FetchCall.of invocation false]
    requests := (world.firstFetch invocation.source).1.requests ++
      (world.secondFetch invocation.source).1.requests }

variable {world : World State} {invocation : Invocation} {said : Text}

theorem isPending_openLog : world.IsPending invocation (world.openLog said) := by
  refine ⟨rfl, rfl, .inl ?_⟩
  intro call made
  cases made

theorem isPending_firstLog : world.IsPending invocation (world.firstLog invocation said) := by
  refine ⟨rfl, rfl, .inl ?_⟩
  intro call made
  cases List.mem_singleton.1 made
  rfl

theorem isPending_secondLog {error : FetchError}
    (first : (world.firstFetch invocation.source).1.result = .error error)
    (rejected : rejectsCertificate error = true) :
    world.IsPending invocation (world.secondLog invocation said) :=
  ⟨rfl, rfl, .inr ⟨error, first, rejected, rfl, rfl⟩⟩

/-- Saying something changes nothing else. -/
theorem IsPending.of_said {log : Log State} (pending : world.IsPending invocation log)
    (said : Text) : world.IsPending invocation { log with errors := said } :=
  ⟨pending.files, pending.output, pending.careful⟩

end World

theorem firstFetch_run (world : World State) (invocation : Invocation) (said : Text) :
    (fetchOnce world invocation.source invocation.timeout true).run (world.openLog said) =
      (.ok (world.firstFetch invocation.source).1.result, world.firstLog invocation said) :=
  rfl

theorem secondFetch_run (world : World State) (invocation : Invocation) (said : Text) :
    (fetchOnce world invocation.source invocation.timeout false).run
        { world.firstLog invocation said with
          errors := (world.firstLog invocation said).errors ++ retryNotice } =
      (.ok (world.secondFetch invocation.source).1.result, world.secondLog invocation said) :=
  rfl

theorem fetchUnchecked_run (world : World State) (invocation : Invocation) (said : Text) :
    (fetchUnchecked world invocation.source invocation.timeout).run
        (world.firstLog invocation said) =
      ((world.secondFetch invocation.source).1.result.mapError fun error =>
        .crash (.fetch error), world.secondLog invocation said) := by
  rw [fetchUnchecked, run_bind, report_run]
  dsimp only
  rw [run_bind, secondFetch_run]
  cases (world.secondFetch invocation.source).1.result <;> rfl

theorem fetch_run_of_error {world : World State} {invocation : Invocation} {error : FetchError}
    (first : (world.firstFetch invocation.source).1.result = .error error) (said : Text) :
    (fetch world invocation.source invocation.timeout).run (world.openLog said) =
      (if rejectsCertificate error then fetchUnchecked world invocation.source invocation.timeout
        else refuse invocation.source error).run (world.firstLog invocation said) := by
  rw [fetch, run_bind, firstFetch_run, first]
  rfl

theorem refuse_run (url : Text) (error : FetchError) (log : Log State) :
    (refuse url error).run log =
      (.error (if isExchangeFailure error then .complaint (refusal url error)
        else .crash (.fetch error)), log) := by
  rw [refuse, refusal]
  cases isExchangeFailure error with
  | false => rfl
  | true => cases isConnectionFailure error <;> rfl

namespace World

theorem Fetches.fetch_run {world : World State} {invocation : Invocation}
    {outcome : Except Stop FetchedPage} (fetches : world.Fetches invocation.source outcome)
    (said : Text) :
    ∃ later, (fetch world invocation.source invocation.timeout).run (world.openLog said) =
        (outcome, later) ∧ world.IsPending invocation later := by
  cases fetches with
  | accepted first =>
      rw [fetch, run_bind, firstFetch_run, first]
      exact ⟨_, rfl, isPending_firstLog⟩
  | refused first certified regular =>
      rw [fetch_run_of_error first, certified, if_neg Bool.false_ne_true, refuse_run, regular]
      exact ⟨_, rfl, isPending_firstLog⟩
  | misused first certified misuse =>
      rw [fetch_run_of_error first, certified, if_neg Bool.false_ne_true, refuse_run, misuse]
      exact ⟨_, rfl, isPending_firstLog⟩
  | acceptedUnchecked first rejected second =>
      rw [fetch_run_of_error first, rejected, if_pos rfl, fetchUnchecked_run, second]
      exact ⟨_, rfl, isPending_secondLog first rejected⟩
  | unexplained first rejected second =>
      rw [fetch_run_of_error first, rejected, if_pos rfl, fetchUnchecked_run, second]
      exact ⟨_, rfl, isPending_secondLog first rejected⟩

/-- A notice is made, or it is the end. -/
theorem exists_mention_run (world : World State) (invocation : Invocation) (form : Text → Text)
    (notice : Text) :
    ∃ said, (mention world invocation.verbose form notice).run (startLog world) =
      (if world.announces invocation notice then .ok () else .error (.crash .styles),
        world.openLog said) := by
  unfold announces mention
  cases invocation.verbose with
  | false => exact ⟨[], rfl⟩
  | true =>
      rw [if_pos rfl, announce_run]
      cases world.readStyles notice with
      | none => exact ⟨[], rfl⟩
      | some shown => exact ⟨[] ++ form shown, rfl⟩

theorem Fetches.readFetched_run {world : World State} {invocation : Invocation}
    {outcome : Except Stop FetchedPage} (fetches : world.Fetches invocation.source outcome)
    (said : Text) :
    ∃ later, (readFetched world invocation.source invocation.timeout).run (world.openLog said) =
        (outcome.bind fun page =>
          if 400 ≤ page.status then .error (.complaint
            ("HTTP ".toList ++ Text.numeral page.status ++ " fetching ".toList ++
              invocation.source))
          else .ok { html := page.html, place := page.url }, later) ∧
      world.IsPending invocation later := by
  obtain ⟨later, run, pending⟩ := fetches.fetch_run said
  refine ⟨{ later with errors := later.errors ++ ['\n'] }, ?_, pending.of_said _⟩
  rw [readFetched, run_bind, closingProgress_run, run]
  cases outcome with
  | error stop => rfl
  | ok page =>
      dsimp only [Except.bind]
      split <;> rfl

theorem readPage_run_of_unannounced {world : World State} {invocation : Invocation}
    (unannounced : world.announces invocation (pageNotice invocation.source) = false) :
    ∃ later, (readPage world invocation.source invocation.timeout invocation.verbose).run
        (startLog world) = (.error (.crash .styles), later) ∧
      world.IsPending invocation later := by
  obtain ⟨said, mentioned⟩ := exists_mention_run world invocation Text.framed
    (pageNotice invocation.source)
  rw [readPage, run_bind, mentioned, unannounced]
  exact ⟨_, rfl, isPending_openLog⟩

/-- Once its notice is made, a page is fetched. -/
theorem readPage_run_of_announced {world : World State} {invocation : Invocation}
    (announced : world.announces invocation (pageNotice invocation.source) = true) :
    ∃ said, (readPage world invocation.source invocation.timeout invocation.verbose).run
        (startLog world) =
      (readFetched world invocation.source invocation.timeout).run (world.openLog said) := by
  obtain ⟨said, mentioned⟩ := exists_mention_run world invocation Text.framed
    (pageNotice invocation.source)
  refine ⟨said, ?_⟩
  rw [readPage, run_bind, mentioned, announced]
  rfl

/-- A file that was found is read once its notice is made. -/
theorem exists_readFile_run {world : World State} {invocation : Invocation} {content : Bytes}
    (sought : world.files.refuses invocation.source = false)
    (found : world.files.fileAt? invocation.source = some content) :
    ∃ later, (readFile world invocation.source invocation.verbose).run (startLog world) =
        (if world.announces invocation (fileNotice invocation.source) then .ok {
            html := Text.unifyLineEnds (Utf8.decode content)
            place := FilePath.normal invocation.source }
          else .error (.crash .styles), later) ∧
      world.IsPending invocation later := by
  obtain ⟨said, mentioned⟩ := exists_mention_run world invocation Text.terminalLine
    (fileNotice invocation.source)
  refine ⟨world.openLog said, ?_, isPending_openLog⟩
  rw [readFile, sought, if_neg Bool.false_ne_true, found]
  dsimp only
  rw [run_bind, mentioned]
  cases world.announces invocation (fileNotice invocation.source) <;> rfl

theorem Reads.readSource_run {world : World State} {invocation : Invocation}
    {outcome : Except Stop Source} (reads : world.Reads invocation outcome) :
    ∃ later, (readSource world invocation).run (startLog world) = (outcome, later) ∧
      world.IsPending invocation later := by
  have inputSource (named : invocation.source = ['-']) :
      readSource world invocation = readInput world := by
    rw [readSource, if_pos named]
  have remoteSource (remote : (networkAddress? invocation.source).isSome = true) :
      readSource world invocation =
        readPage world invocation.source invocation.timeout invocation.verbose := by
    have other : invocation.source ≠ ['-'] := by
      intro named
      rw [named] at remote
      cases remote
    rw [readSource, if_neg other, if_pos remote]
  have nearSource (other : invocation.source ≠ ['-'])
      (near : networkAddress? invocation.source = none) :
      readSource world invocation = readFile world invocation.source invocation.verbose := by
    rw [readSource, if_neg other, near]
    rfl
  cases reads with
  | input named decoded =>
      rw [inputSource named, readInput, decoded]
      exact ⟨_, rfl, isPending_openLog⟩
  | undecodable named undecoded =>
      rw [inputSource named, readInput, undecoded]
      exact ⟨_, rfl, isPending_openLog⟩
  | unannouncedPage remote unannounced =>
      rw [remoteSource remote]
      exact readPage_run_of_unannounced unannounced
  | page remote announced fetched success =>
      obtain ⟨said, spoken⟩ := readPage_run_of_announced announced
      obtain ⟨later, run, pending⟩ := fetched.readFetched_run said
      rw [remoteSource remote, spoken, run]
      refine ⟨later, ?_, pending⟩
      simp [Except.bind, Nat.not_le.2 success]
  | status remote announced fetched failure =>
      obtain ⟨said, spoken⟩ := readPage_run_of_announced announced
      obtain ⟨later, run, pending⟩ := fetched.readFetched_run said
      rw [remoteSource remote, spoken, run]
      refine ⟨later, ?_, pending⟩
      simp [Except.bind, failure]
  | unfetched remote announced unfetched =>
      obtain ⟨said, spoken⟩ := readPage_run_of_announced announced
      obtain ⟨later, run, pending⟩ := unfetched.readFetched_run said
      rw [remoteSource remote, spoken, run]
      exact ⟨later, rfl, pending⟩
  | overlong named near refused =>
      rw [nearSource named near, readFile, refused, if_pos rfl]
      exact ⟨_, rfl, isPending_openLog⟩
  | missing named near sought missing =>
      rw [nearSource named near, readFile, sought, if_neg Bool.false_ne_true, missing]
      exact ⟨_, rfl, isPending_openLog⟩
  | unannouncedFile named near sought found unannounced =>
      obtain ⟨later, run, pending⟩ := exists_readFile_run sought found
      rw [nearSource named near, run, unannounced]
      exact ⟨later, rfl, pending⟩
  | file named near sought found announced =>
      obtain ⟨later, run, pending⟩ := exists_readFile_run sought found
      rw [nearSource named near, run, announced]
      exact ⟨later, rfl, pending⟩

theorem excerpt_run (world : World State) (invocation : Invocation) (source : Source)
    {log : Log State} (pending : world.IsPending invocation log) :
    ∃ later, (excerpt world invocation source).run log =
        ((world.excerptOf invocation source).mapError fun error => .crash (.selector error),
          later) ∧
      world.IsPending invocation later := by
  unfold excerpt excerptOf
  cases Excerpt.ofPage source.html (invocation.selector.getD []) invocation.readable with
  | error error => exact ⟨log, rfl, pending⟩
  | ok excerpt =>
      dsimp only
      cases excerpt.isSummary with
      | false => exact ⟨log, rfl, pending⟩
      | true => exact ⟨_, rfl, ⟨pending.files, pending.output, pending.careful⟩⟩

theorem markdown_run (world : World State) (invocation : Invocation) (html : Text)
    (log : Log State) :
    (markdown world invocation html).run log =
      ((world.markdownOf invocation html).mapError fun failure =>
        if failure.isConfiguration then
          .complaint ("Conversion failed: ".toList ++ failure.message.toList)
        else .crash (.conversion failure), log) := by
  unfold markdown markdownOf
  cases convertPage html { gfm := invocation.gfm, base := world.base } [] with
  | ok text => rfl
  | error failure =>
      dsimp only [Except.mapError]
      cases failure.isConfiguration <;> rfl

end World

/-- What there is to see of the Markdown. -/
def Outcome.Delivers (outcome : Outcome State) (world : World State) : Delivery → Prop
  | .nothing => outcome.log.files = world.files ∧ outcome.log.output = []
  | .printed text => outcome.log.files = world.files ∧ outcome.log.output = text ++ ['\n']
  | .saved path text =>
      world.files.write path (saving text) = (outcome.log.files, none) ∧
        outcome.log.files.fileAt? path = some (saving text) ∧ outcome.log.output = []
  | .unsaved path text =>
      outcome.log.files = (world.files.write path (saving text)).1 ∧
        outcome.log.files.files = world.files.files ∧ outcome.log.output = []

/-- What there is to see of the reason why a run has stopped. -/
def Outcome.Stops (outcome : Outcome State) : Option Stop → Prop
  | none => outcome.status = 0 ∧ outcome.crash = none
  | some (.complaint message) =>
      outcome.status = 1 ∧ outcome.crash = none ∧
        ∃ before, outcome.log.errors = before ++ complaint message
  | some (.crash crash) => outcome.status = 1 ∧ outcome.crash = some crash

/-- All that there is to see of a run with an end. -/
structure World.Shows (world : World State) (invocation : Invocation) (outcome : Outcome State)
    (delivery : Delivery) (stop : Option Stop) : Prop where
  delivers : outcome.Delivers world delivery
  stops : outcome.Stops stop
  careful : world.IsCareful invocation outcome.log

namespace World

variable {world : World State} {invocation : Invocation} {log : Log State}

/-- A run that stops before its Markdown is made shows why, and nothing else. -/
theorem IsPending.shows_error (pending : world.IsPending invocation log) (stop : Stop) :
    world.Shows invocation (outcomeOf (.error stop, log)) .nothing (some stop) := by
  cases stop with
  | complaint message =>
      exact ⟨⟨pending.files, pending.output⟩, ⟨rfl, rfl, log.errors, rfl⟩, pending.careful⟩
  | crash crash => exact ⟨⟨pending.files, pending.output⟩, ⟨rfl, rfl⟩, pending.careful⟩

/-- Once an excerpt is taken, the run goes on with its Markdown. -/
theorem Extracts.run {source : Source} {html : Text}
    (extracted : world.Extracts invocation source html) :
    ∃ later, (CommandLine.convert world invocation).run (startLog world) =
        (markdown world invocation html >>= deliver world invocation source).run later ∧
      world.IsPending invocation later := by
  obtain ⟨between, read, pending⟩ := extracted.read.readSource_run
  obtain ⟨later, taken, still⟩ := excerpt_run world invocation source pending
  refine ⟨later, ?_, still⟩
  rw [CommandLine.convert, run_bind, read]
  dsimp only
  rw [run_bind, taken, extracted.taken]
  rfl

/-- Once the Markdown is made, it is delivered. -/
theorem Extracts.run_of_ok {source : Source} {html text : Text}
    (extracted : world.Extracts invocation source html)
    (converted : world.markdownOf invocation html = .ok text) :
    ∃ later, (CommandLine.convert world invocation).run (startLog world) =
        (deliver world invocation source text).run later ∧ world.IsPending invocation later := by
  obtain ⟨later, run, pending⟩ := extracted.run
  refine ⟨later, ?_, pending⟩
  rw [run, run_bind, markdown_run, converted]
  rfl

theorem Extracts.run_of_error {source : Source} {html : Text} {failure : Failure}
    (extracted : world.Extracts invocation source html)
    (failed : world.markdownOf invocation html = .error failure) :
    ∃ later, (CommandLine.convert world invocation).run (startLog world) =
        (.error (if failure.isConfiguration then
            .complaint ("Conversion failed: ".toList ++ failure.message.toList)
          else .crash (.conversion failure)), later) ∧
      world.IsPending invocation later := by
  obtain ⟨later, run, pending⟩ := extracted.run
  refine ⟨later, ?_, pending⟩
  rw [run, run_bind, markdown_run, failed]
  rfl

theorem deliver_run_of_shown {source : Source} {text : Text}
    (shown : invocation.output.getD [] = []) :
    (deliver world invocation source text).run log =
      (.ok (), { log with output := log.output ++ (text ++ ['\n']) }) := by
  rw [deliver, shown]
  rfl

theorem Makes.run {source : Source} {text : Text} (made : world.Makes invocation source text) :
    ∃ later, (CommandLine.convert world invocation).run (startLog world) =
        (if world.files.refuses (invocation.output.getD []) then crash (.storage .nameTooLong)
          else
            match outputPath world source (invocation.output.getD []) with
            | .error error => crash (.address error)
            | .ok path => save world path text : Run State Unit).run later ∧
      world.IsPending invocation later := by
  obtain ⟨html, extracted, converted⟩ := made.extracted
  obtain ⟨later, run, pending⟩ := extracted.run_of_ok converted
  refine ⟨later, run.trans ?_, pending⟩
  have kept := made.kept
  unfold deliver
  cases asked : invocation.output.getD [] with
  | nil => exact absurd asked kept
  | cons letter rest => rfl

theorem Names.run {path text : Text} (named : world.Names invocation path text) :
    ∃ later, (CommandLine.convert world invocation).run (startLog world) =
        (save world path text).run later ∧ world.IsPending invocation later := by
  obtain ⟨source, made, target⟩ := named.made
  obtain ⟨later, run, pending⟩ := made.run
  refine ⟨later, ?_, pending⟩
  rw [run, named.sought, if_neg Bool.false_ne_true, target]

theorem save_run (path text : Text) (pending : world.IsPending invocation log) :
    (save world path text).run log =
      match world.files.write path (saving text) with
      | (later, some error) => (.error (.crash (.storage error)), { log with files := later })
      | (later, none) =>
          (announce world Text.terminalLine (saveNotice path)).run { log with files := later } := by
  have seen : (get : Run State (Log State)).run log = (.ok log, log) := rfl
  rw [save, run_bind, seen]
  dsimp only
  rw [pending.files, ← saving]
  rcases world.files.write path (saving text) with ⟨later, _ | error⟩ <;> rfl

/-- What comes of a run can be seen. -/
theorem Ends.shows {delivery : Delivery} {stop : Option Stop}
    (ends : world.Ends invocation delivery stop) :
    world.Shows invocation
      (outcomeOf ((CommandLine.convert world invocation).run (startLog world))) delivery stop := by
  cases ends with
  | unread unread =>
      obtain ⟨later, run, pending⟩ := unread.readSource_run
      rw [CommandLine.convert, run_bind, run]
      exact pending.shows_error _
  | unselected read misread =>
      obtain ⟨between, run, pending⟩ := read.readSource_run
      obtain ⟨later, stopped, still⟩ := excerpt_run world invocation _ pending
      rw [CommandLine.convert, run_bind, run]
      dsimp only
      rw [run_bind, stopped, misread]
      exact still.shows_error _
  | misconfigured extracted failed configuration =>
      obtain ⟨later, run, pending⟩ := extracted.run_of_error failed
      rw [run, if_pos configuration]
      exact pending.shows_error _
  | unconverted extracted failed configured =>
      obtain ⟨later, run, pending⟩ := extracted.run_of_error failed
      rw [run, configured, if_neg Bool.false_ne_true]
      exact pending.shows_error _
  | printed extracted converted shown =>
      obtain ⟨later, run, pending⟩ := extracted.run_of_ok converted
      rw [run, deliver_run_of_shown shown, pending.output]
      exact ⟨⟨pending.files, rfl⟩, ⟨rfl, rfl⟩, pending.careful⟩
  | overlong made refused =>
      obtain ⟨later, run, pending⟩ := made.run
      rw [run, refused, if_pos rfl]
      exact pending.shows_error _
  | unnamed made sought unnamed =>
      obtain ⟨later, run, pending⟩ := made.run
      rw [run, sought, if_neg Bool.false_ne_true, unnamed]
      exact pending.shows_error _
  | unsaved named unwritten =>
      obtain ⟨later, run, pending⟩ := named.run
      rw [run, save_run _ _ pending, unwritten]
      exact ⟨⟨(congrArg Prod.fst unwritten).symm, FileTree.files_write_of_some unwritten,
        pending.output⟩, ⟨rfl, rfl⟩, pending.careful⟩
  | unannounced named written unannounced =>
      obtain ⟨later, run, pending⟩ := named.run
      rw [run, save_run _ _ pending, written]
      dsimp only
      rw [announce_run, unannounced]
      exact ⟨⟨written, FileTree.fileAt?_write written, pending.output⟩, ⟨rfl, rfl⟩,
        pending.careful⟩
  | saved named written announced =>
      obtain ⟨later, run, pending⟩ := named.run
      rw [run, save_run _ _ pending, written]
      dsimp only
      rw [announce_run, announced]
      exact ⟨⟨written, FileTree.fileAt?_write written, pending.output⟩, ⟨rfl, rfl⟩,
        pending.careful⟩

end World

end

end PageMark.CommandLine
