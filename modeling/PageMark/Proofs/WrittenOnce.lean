import Mathlib.Logic.Function.Basic
import PageMark.Conversion.Session
import PageMark.Proofs.Positions
import PageMark.Rules.Registry

/-!
# Replacements are written once

A session is asked to convert nodes, to record replacements and to look them up,
in any order.  A call that fails leaves the session as it was, one that looks
something up changes nothing, and one that writes adds the entry of its own node,
where there was none.  So an entry stays as it is for the rest of the session.
-/

namespace PageMark

/-! ## Elements by their paths -/

theorem Position.splitAtChild_eq_some_iff {index : Nat} {children before after : List Node}
    {node : Node} :
    splitAtChild index children = some (before, node, after) ↔
      children = before ++ node :: after ∧ before.length = index := by
  induction children generalizing index before with
  | nil => simp [splitAtChild]
  | cons first rest ih =>
      cases index with
      | zero =>
          simp only [splitAtChild, Option.some.injEq, Prod.mk.injEq, List.length_eq_zero_iff]
          constructor
          · rintro ⟨rfl, rfl, rfl⟩
            exact ⟨rfl, rfl⟩
          · rintro ⟨whole, rfl⟩
            cases whole
            exact ⟨rfl, rfl, rfl⟩
      | succ index =>
          simp only [splitAtChild, Option.map_eq_some_iff, Prod.mk.injEq]
          constructor
          · rintro ⟨⟨left, found, right⟩, split, rfl, rfl, rfl⟩
            obtain ⟨rfl, rfl⟩ := ih.1 split
            exact ⟨rfl, rfl⟩
          · rintro ⟨whole, count⟩
            cases before with
            | nil => cases count
            | cons head tail =>
                cases whole
                exact ⟨_, ih.2 ⟨rfl, Nat.succ.inj count⟩, rfl, rfl, rfl⟩

/-- The address of an element leads back to its path. -/
theorem Position.exists_pathOf {position found : Position} {path : Path}
    (reached : position.descendWith splitAtChild path = some found)
    (isElement : found.node.isElement = true) :
    ∃ steps, found.address = position.address ++ steps ∧ position.node.pathOf steps = path := by
  induction path generalizing position with
  | nil =>
      cases reached
      exact ⟨[], (List.append_nil _).symm, rfl⟩
  | cons index rest ih =>
      rw [descendWith] at reached
      split at reached
      · next tag children shape =>
          split at reached
          · next before node after split =>
              obtain ⟨rfl, rfl⟩ := splitAtChild_eq_some_iff.1 split
              obtain ⟨steps, address, back⟩ := ih reached
              have nodeIsElement : node.isElement = true := by
                cases rest with
                | nil =>
                    cases reached
                    exact isElement
                | cons next others =>
                    cases node with
                    | element tag children => rfl
                    | text kind content => cases reached
                    | mark kind content => cases reached
              have placed : splitAtElement (PageMark.elementCount before)
                  (before ++ node :: after) = some (before, node, after) :=
                splitAtElement_eq_some_iff.2 ⟨rfl, nodeIsElement, rfl⟩
              refine ⟨PageMark.elementCount before :: steps, ?_, ?_⟩
              · rw [address, child, List.append_assoc]
                rfl
              · have same : node.pathOf steps = rest := back
                rw [shape, Node.pathOf, Node.children, placed]
                exact congrArg (before.length :: ·) same
          · cases reached
      · cases reached

/-- Elements at different paths have different addresses. -/
theorem Document.pathOf_address {document : Document} {path : Path} {position : Position}
    (found : document.nodeAt? path = some position)
    (isElement : position.node.isElement = true) : document.pathOf position.address = path := by
  obtain ⟨steps, address, back⟩ := Position.exists_pathOf found isElement
  have same : position.address = steps := address
  rw [same]
  exact back

/-! ## Calls -/

/-- What can be asked about replacements. -/
inductive Call where
  | process
  | record (text : Text)
  | replacement
  | isConverted
  | content
deriving DecidableEq, Repr

namespace Call

def step : Call → Step
  | process => .process
  | record text => .record text
  | replacement => .replacement
  | isConverted => .isConverted
  | content => .content

def isWriting : Call → Bool
  | process => true
  | record _ => true
  | _ => false

/-- What a call has recorded if this was its answer. -/
def written? : Call → Answer → Option Text
  | process, .text text => some text
  | record text, .done => some text
  | _, _ => none

end Call

namespace Session

/-- What is recorded for a node, given its path and its position. -/
def entry? (session : Session) (path : Path) (position : Position) : Option Text :=
  match position.node with
  | .element _ _ => session.replacements.find? position.address
  | _ => session.others.find? path

/-- What is recorded for the node at a path. -/
def recorded? (session : Session) (path : Path) : Option Text :=
  (session.document.nodeAt? path).bind (session.entry? path)

def call (session : Session) (path : Path) (call : Call) : Session × Except Failure Answer :=
  session.perform path call.step

/-- The session after calls that are made one after the other, whether they fail or not. -/
def callEach (session : Session) : List (Path × Call) → Session
  | [] => session
  | (path, call) :: rest => (session.call path call).1.callEach rest

theorem callEach_append (session : Session) (first second : List (Path × Call)) :
    session.callEach (first ++ second) = (session.callEach first).callEach second := by
  induction first generalizing session with
  | nil => rfl
  | cons entry rest ih => exact ih (session.call entry.1 entry.2).1

/-! ## Looking up -/

section

variable {session : Session} {path : Path} {position : Position}

theorem recorded?_of_nodeAt? (found : session.document.nodeAt? path = some position) :
    session.recorded? path = session.entry? path position := by
  rw [recorded?, found, Option.bind_some]

theorem replacementOf_eq_ok_iff {text : Text} :
    session.replacementOf path position = .ok text ↔ session.entry? path position = some text := by
  unfold replacementOf entry?
  cases position.node with
  | element tag children => exact Replacements.get_eq_ok_iff
  | text kind content => exact Replacements.get_eq_ok_iff
  | mark kind content => exact Replacements.get_eq_ok_iff

theorem isRecorded_eq :
    session.isRecorded path position = (session.entry? path position).isSome := by
  unfold isRecorded entry?
  cases position.node <;> rfl

/-! ## Writing -/

variable {later : Session} {text : Text}

/-- What a recording does to the two tables: the entry of the one node is new. -/
theorem recordText_eq_ok_iff :
    session.recordText path position text = .ok later ↔
      session.entry? path position = none ∧
        later = match position.node with
          | .element _ _ =>
              { session with replacements :=
                  { entries := (position.address, text) :: session.replacements.entries } }
          | _ =>
              { session with others := { entries := (path, text) :: session.others.entries } } := by
  have stores : ∀ (replacements : Replacements) address name (change : Replacements → Session),
      (replacements.record address name text).map change = .ok later ↔
        replacements.find? address = none ∧
          later = change { entries := (address, text) :: replacements.entries } := by
    intro replacements address name change
    cases known : replacements.find? address <;>
      simp [Replacements.record, Replacements.has, known, Except.map, eq_comm]
  unfold recordText entry?
  cases position.node with
  | element tag children => exact stores _ _ _ _
  | text kind content => exact stores _ _ _ _
  | mark kind content => exact stores _ _ _ _

theorem document_of_recordText (done : session.recordText path position text = .ok later) :
    later.document = session.document := by
  obtain ⟨-, rfl⟩ := recordText_eq_ok_iff.1 done
  cases position.node <;> rfl

theorem registry_of_recordText (done : session.recordText path position text = .ok later) :
    later.registry = session.registry := by
  obtain ⟨-, rfl⟩ := recordText_eq_ok_iff.1 done
  cases position.node <;> rfl

/-- The entry of one node is no news of any other. -/
theorem entry?_recordText (found : session.document.nodeAt? path = some position)
    (done : session.recordText path position text = .ok later) {other : Path} {place : Position}
    (placed : session.document.nodeAt? other = some place) :
    later.entry? other place = if other = path then some text else session.entry? other place := by
  by_cases same : other = path
  · subst same
    cases found.symm.trans placed
    rw [if_pos rfl]
    obtain ⟨-, rfl⟩ := recordText_eq_ok_iff.1 done
    unfold entry?
    cases node : position.node <;> simp [Replacements.find?]
  · rw [if_neg same]
    obtain ⟨-, rfl⟩ := recordText_eq_ok_iff.1 done
    have differ : position.node.isElement = true → place.node.isElement = true →
        position.address ≠ place.address := by
      intro isElement placeIsElement address
      apply same
      rw [← Document.pathOf_address placed placeIsElement, ← address,
        Document.pathOf_address found isElement]
    have kept : ∀ (replacements : Replacements) {address elsewhere : Address},
        address ≠ elsewhere →
          ({ entries := (address, text) :: replacements.entries } : Replacements).find? elsewhere =
            replacements.find? elsewhere := by
      intro replacements address elsewhere apart
      simp [Replacements.find?, apart]
    unfold entry?
    cases node : position.node with
    | element tag children =>
        cases placeNode : place.node with
        | element otherTag otherChildren =>
            apply kept
            apply differ
            · rw [node, Node.isElement]
            · rw [placeNode, Node.isElement]
        | text kind content => rfl
        | mark kind content => rfl
    | text kind content =>
        cases place.node with
        | element tag children => rfl
        | text otherKind otherContent => exact kept _ (Ne.symm same)
        | mark otherKind otherContent => exact kept _ (Ne.symm same)
    | mark kind content =>
        cases place.node with
        | element tag children => rfl
        | text otherKind otherContent => exact kept _ (Ne.symm same)
        | mark otherKind otherContent => exact kept _ (Ne.symm same)

/-- A recording gives its own node the entry that it had not, and leaves every other. -/
theorem recorded?_recordText (found : session.document.nodeAt? path = some position)
    (done : session.recordText path position text = .ok later) :
    session.recorded? path = none ∧
      later.recorded? = Function.update session.recorded? path (some text) := by
  constructor
  · rw [recorded?_of_nodeAt? found]
    exact (recordText_eq_ok_iff.1 done).1
  · funext other
    rw [Function.update_apply, recorded?, document_of_recordText done]
    cases placed : session.document.nodeAt? other with
    | none =>
        have differ : other ≠ path := by
          rintro rfl
          cases found.symm.trans placed
        rw [if_neg differ, recorded?, placed]
        rfl
    | some place =>
        rw [Option.bind_some, entry?_recordText found done placed, recorded?_of_nodeAt? placed]

/-- A conversion fails, or it is the recording of the text that it answers with. -/
theorem performAt_process_cases (session : Session) (path : Path) (position : Position) :
    (∃ failure, session.performAt path position .process = (session, .error failure)) ∨
      ∃ text later, session.performAt path position .process = (later, .ok (.text text)) ∧
        session.recordText path position text = .ok later := by
  rw [performAt]
  cases converted : session.registry.process position session.replacements with
  | error failure => exact .inl ⟨failure, rfl⟩
  | ok result =>
      obtain ⟨text, recorded⟩ := result
      refine .inr ⟨text, _, rfl, ?_⟩
      unfold Registry.process at converted
      unfold recordText
      cases node : position.node with
      | text kind content => simp [node] at converted
      | mark kind content => simp [node] at converted
      | element tag children =>
          simp only [node] at converted
          cases markdown : session.registry.markdownAt position session.replacements with
          | error failure =>
              rw [markdown] at converted
              cases converted
          | ok made =>
              rw [markdown, ok_bind] at converted
              cases stored : session.replacements.record position.address tag.name made with
              | error failure =>
                  rw [stored] at converted
                  cases converted
              | ok kept =>
                  rw [stored] at converted
                  cases converted
                  simp only [stored, Except.map]

theorem performAt_record_cases (session : Session) (path : Path) (position : Position)
    (text : Text) :
    (∃ failure, session.performAt path position (.record text) = (session, .error failure)) ∨
      ∃ later, session.performAt path position (.record text) = (later, .ok .done) ∧
        session.recordText path position text = .ok later := by
  rw [performAt]
  cases stored : session.recordText path position text with
  | error failure => exact .inl ⟨failure, rfl⟩
  | ok later => exact .inr ⟨later, rfl, rfl⟩

end

/-! ## Single calls -/

section

variable {session : Session} {path : Path}

theorem locate_eq_ok_iff {position : Position} :
    session.locate path = .ok position ↔ session.document.nodeAt? path = some position := by
  unfold locate
  cases session.document.nodeAt? path with
  | some place => simp
  | none => cases session.document.root.blocks path <;> simp

/-- A call fails and does nothing, or looks something up, or records one text. -/
theorem call_cases (session : Session) (path : Path) (call : Call) :
    (∃ failure, session.call path call = (session, .error failure)) ∨
      (call.isWriting = false ∧ ∃ answer, session.call path call = (session, .ok answer)) ∨
      (call.isWriting = true ∧ ∃ position text answer later,
        session.document.nodeAt? path = some position ∧ call.written? answer = some text ∧
        session.call path call = (later, .ok answer) ∧
        session.recordText path position text = .ok later) := by
  unfold Session.call perform
  cases located : session.locate path with
  | error failure => exact .inl ⟨failure, rfl⟩
  | ok position =>
      have found := locate_eq_ok_iff.1 located
      have reads : ∀ step, (∃ failure, (session, session.answer path position step) =
            (session, .error failure)) ∨
          ∃ answer, (session, session.answer path position step) = (session, .ok answer) := by
        intro step
        cases session.answer path position step with
        | error failure => exact .inl ⟨failure, rfl⟩
        | ok answer => exact .inr ⟨answer, rfl⟩
      cases call with
      | process =>
          obtain failed | ⟨text, later, outcome, stored⟩ :=
            performAt_process_cases session path position
          · exact .inl failed
          · exact .inr (.inr ⟨rfl, position, text, _, later, found, rfl, outcome, stored⟩)
      | record text =>
          obtain failed | ⟨later, outcome, stored⟩ :=
            performAt_record_cases session path position text
          · exact .inl failed
          · exact .inr (.inr ⟨rfl, position, text, _, later, found, rfl, outcome, stored⟩)
      | replacement => exact (reads .replacement).imp id fun read => .inl ⟨rfl, read⟩
      | isConverted => exact (reads .isConverted).imp id fun read => .inl ⟨rfl, read⟩
      | content => exact (reads .content).imp id fun read => .inl ⟨rfl, read⟩

end

/-- What a call does to the session, whatever comes of it. -/
structure Effect (session : Session) (path : Path) (call : Call) : Prop where
  document : (session.call path call).1.document = session.document
  registry : (session.call path call).1.registry = session.registry
  atomic : ∀ failure, (session.call path call).2 = .error failure →
    (session.call path call).1 = session
  reading : call.isWriting = false → (session.call path call).1 = session
  writing : call.isWriting = true → ∀ answer, (session.call path call).2 = .ok answer →
    session.recorded? path = none ∧ ∃ text, call.written? answer = some text ∧
      (session.call path call).1.recorded? =
        Function.update session.recorded? path (some text)

/-- Every call keeps to its effect. -/
theorem effect_call (session : Session) (path : Path) (call : Call) :
    session.Effect path call := by
  obtain ⟨failure, outcome⟩ | ⟨reads, answer, outcome⟩ |
    ⟨writes, position, text, answer, later, found, answered, outcome, stored⟩ :=
    call_cases session path call
  · constructor <;> simp [outcome]
  · constructor <;> simp [outcome, reads]
  · constructor
    · rw [outcome]
      exact document_of_recordText stored
    · rw [outcome]
      exact registry_of_recordText stored
    · simp [outcome]
    · simp [writes]
    · intro _ other succeeded
      rw [outcome] at succeeded ⊢
      cases succeeded
      obtain ⟨fresh, updated⟩ := recorded?_recordText found stored
      exact ⟨fresh, text, answered, updated⟩

/-- An entry outlives every call. -/
theorem recorded?_call {session : Session} {path : Path} {text : Text}
    (known : session.recorded? path = some text) (other : Path) (call : Call) :
    (session.call other call).1.recorded? path = some text := by
  have effect := effect_call session other call
  cases writes : call.isWriting with
  | false => rw [effect.reading writes, known]
  | true =>
      cases outcome : (session.call other call).2 with
      | error failure => rw [effect.atomic failure outcome, known]
      | ok answer =>
          obtain ⟨fresh, written, -, updated⟩ := effect.writing writes answer outcome
          have differ : path ≠ other := by
            rintro rfl
            cases known.symm.trans fresh
          rw [updated, Function.update_of_ne differ, known]

/-! ## Runs of calls -/

/-- An entry outlives every run. -/
theorem recorded?_callEach {session : Session} {path : Path} {text : Text}
    (known : session.recorded? path = some text) (calls : List (Path × Call)) :
    (session.callEach calls).recorded? path = some text := by
  induction calls generalizing session with
  | nil => exact known
  | cons entry rest ih => exact ih (recorded?_call known entry.1 entry.2)

/-- What is recorded can be looked up. -/
theorem call_of_recorded? {session : Session} {path : Path} {text : Text}
    (known : session.recorded? path = some text) :
    session.call path .replacement = (session, .ok (.text text)) ∧
      session.call path .isConverted = (session, .ok (.flag true)) := by
  rw [recorded?] at known
  obtain ⟨position, found, entry⟩ := Option.bind_eq_some_iff.1 known
  have located : ∀ call, session.call path call = session.performAt path position call.step := by
    intro call
    rw [Session.call, perform, locate_eq_ok_iff.2 found]
  rw [located, located]
  change (session, session.answer path position .replacement) = _ ∧
    (session, session.answer path position .isConverted) = _
  rw [answer, answer, replacementOf_eq_ok_iff.2 entry, isRecorded_eq, entry]
  exact ⟨rfl, rfl⟩

/-- However calls follow each other, each of them keeps to its effect, and what is
recorded at some point can be looked up ever after. -/
theorem entries_written_once (session : Session) (calls : List (Path × Call)) :
    (∀ earlier path call rest, calls = earlier ++ (path, call) :: rest →
      (session.callEach earlier).Effect path call) ∧
    ∀ earlier rest, calls = earlier ++ rest →
      ∀ path text, (session.callEach earlier).recorded? path = some text →
        (session.callEach calls).recorded? path = some text ∧
          (session.callEach calls).call path .replacement =
            (session.callEach calls, .ok (.text text)) ∧
          (session.callEach calls).call path .isConverted =
            (session.callEach calls, .ok (.flag true)) := by
  constructor
  · intro earlier path call _ _
    exact effect_call (session.callEach earlier) path call
  · rintro earlier rest rfl path text known
    have kept : (session.callEach (earlier ++ rest)).recorded? path = some text := by
      rw [callEach_append]
      exact recorded?_callEach known rest
    exact ⟨kept, call_of_recorded? kept⟩

/-- The second paragraph is recorded by hand. -/
def twoParagraphs : Session :=
  start
    { nodes := ["one", "two"].map fun words =>
        .element { name := "p", attributes := [] } [.text .plain words.toList] }
    { converters := ({} : Flavor).rules }

theorem twoParagraphs_entries_written_once :
    let calls := [([1], Call.record "kept".toList), ([1], .process), ([0], .process)]
    (twoParagraphs.call [1] (.record "kept".toList)).2 = .ok .done ∧
      (twoParagraphs.callEach calls).call [1] .replacement =
        (twoParagraphs.callEach calls, .ok (.text "kept".toList)) ∧
      ((twoParagraphs.callEach calls).recorded? [0]).isSome := by
  refine ⟨by decide, ?_, by decide +kernel⟩
  have kept := (entries_written_once twoParagraphs _).2
    [([1], .record "kept".toList)] [([1], .process), ([0], .process)] rfl
  exact (kept [1] "kept".toList (by decide)).2.1

end Session

end PageMark
