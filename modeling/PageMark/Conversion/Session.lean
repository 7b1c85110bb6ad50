import PageMark.Collapse.Survivor
import PageMark.Conversion.Process

/-!
# Sessions

One document with one registry and the replacements recorded so far, and the
single steps that can be asked of it.  A step that fails leaves the replacements
as they were; converting all elements below a node keeps what was recorded
before the failure.

A text or a mark can be given a replacement too, which is for looking up only:
no content is made of it, and it is lost with its node.
-/

namespace PageMark

/-- What is recorded for texts and marks is kept by path, in `others`. -/
structure Session where
  document : Document
  registry : Registry
  replacements : Replacements
  others : Replacements

inductive Step where
  | process
  | processBelow
  | record (text : Text)
  | replacement
  | isConverted
  | content
  | find
  | flanking
  | collapse
  | tree
  | innerMarkup
  | outerMarkup (content : Text)
  | textContent
  | levelOrder
  | childNames
  | indexOf (target : Path) (amongElements : Bool)
  | classify
deriving DecidableEq, Repr

/-- What can be told about a node by itself. -/
structure Classification where
  isElement : Bool
  isText : Bool
  name : String
  isBlock : Bool
  isVoid : Bool
deriving DecidableEq, Repr

inductive Answer where
  | done
  | text (text : Text)
  | flag (value : Bool)
  | found (index : Option Nat)
  | number (value : Nat)
  | flanking (flanking : Flanking)
  | node (node : Node)
  | places (entries : List (String × Path))
  | names (names : List String)
  | classified (classification : Classification)
deriving DecidableEq, Repr

def Node.classification (node : Node) : Classification where
  isElement := node.isElement
  isText := node.isText
  name := node.kind
  isBlock := node.isBlock
  isVoid := node.isVoid

def Node.name? (node : Node) : Option String :=
  node.tag?.map Tag.name

namespace Session

def start (document : Document) (registry : Registry) : Session where
  document := document
  registry := registry
  replacements := Replacements.empty
  others := Replacements.empty

/-- The node that a step is about. -/
def locate (session : Session) (path : Path) : Except Failure Position :=
  match session.document.nodeAt? path with
  | some position => .ok position
  | none =>
      if session.document.root.blocks path then .error .notAnElement
      else .error .noSuchChild

def element (position : Position) : Except Failure Tag :=
  match position.node with
  | .element tag _ => .ok tag
  | _ => .error .notAnElement

/-- The name of texts and marks in failures. -/
def nameless : String :=
  "None"

def recordText (session : Session) (path : Path) (position : Position) (text : Text) :
    Except Failure Session :=
  match position.node with
  | .element tag _ =>
      (session.replacements.record position.address tag.name text).map fun recorded =>
        { session with replacements := recorded }
  | _ =>
      (session.others.record path nameless text).map fun recorded =>
        { session with others := recorded }

def replacementOf (session : Session) (path : Path) (position : Position) :
    Except Failure Text :=
  match position.node with
  | .element tag _ => session.replacements.get position.address tag.name
  | _ => session.others.get path nameless

def isRecorded (session : Session) (path : Path) (position : Position) : Bool :=
  match position.node with
  | .element _ _ => session.replacements.has position.address
  | _ => session.others.has path

/-- Converts everything below the node and answers with the node's content. -/
def convertBelow (session : Session) (position : Position) :
    Session × Except Failure Answer :=
  match position.node with
  | .element _ _ =>
      let outcome :=
        session.registry.processBelow session.document position session.replacements
      let later := { session with replacements := outcome.1 }
      match outcome.2 with
      | some failure => (later, .error failure)
      | none => (later, (outcome.1.contentAt position).map Answer.text)
  | _ => (session, .error .notAnElement)

/-- The place of a node among the children of `container`, found by identity. -/
def indexOf (session : Session) (container : Position) (path target : Path)
    (amongElements : Bool) : Except Failure Answer := do
  let _ ← element container
  let found ← session.locate target
  if target.isEmpty || target.dropLast != path || (amongElements && !found.node.isElement) then
    throw (.notAmongChildren found.node.name?)
  else
    return .number (if amongElements then found.elementIndex else found.index)

def places (session : Session) (position : Position) : Answer :=
  .places ((position.node.levelEntries position.address).map fun entry =>
    ((entry.2.name?).getD "", session.document.pathOf entry.1))

/-- Everything below an element is collapsed; what was recorded for texts and
marks stays with those that are still there. -/
def collapseBelow (session : Session) (path : Path) (node : Node) : Session :=
  let move := fun (entry : Path × Text) =>
    match path.isPrefixOf? entry.1 with
    | none => some entry
    | some rest => (node.survivor rest).map fun kept => (path ++ kept, entry.2)
  { session with
    document := session.document.changeAt path Node.collapse
    others := { entries := session.others.entries.filterMap move } }

/-- Steps that leave the session as it is. -/
def answer (session : Session) (path : Path) (position : Position) :
    Step → Except Failure Answer
  | .replacement => (session.replacementOf path position).map .text
  | .isConverted => .ok (.flag (session.isRecorded path position))
  | .content => (session.replacements.contentAt position).map .text
  | .find =>
      (session.registry.find position session.replacements).map fun choice =>
        .found (choice.map Choice.index)
  | .flanking => (element position).map fun _ => .flanking position.flanking
  | .tree => .ok (.node position.node)
  | .innerMarkup => (element position).map fun _ => .text position.node.innerMarkup
  | .outerMarkup content => (element position).map fun tag => .text (tag.around content)
  | .textContent => .ok (.text position.node.textContent)
  | .levelOrder => (element position).map fun _ => session.places position
  | .childNames =>
      (element position).map fun _ =>
        .names ((elementsAmong position.node.children).map fun child => child.1.name)
  | .indexOf target amongElements => session.indexOf position path target amongElements
  | .classify => .ok (.classified position.node.classification)
  | _ => .ok .done

def performAt (session : Session) (path : Path) (position : Position) :
    Step → Session × Except Failure Answer
  | .process =>
      match session.registry.process position session.replacements with
      | .ok (text, recorded) => ({ session with replacements := recorded }, .ok (.text text))
      | .error failure => (session, .error failure)
  | .processBelow => session.convertBelow position
  | .record text =>
      match session.recordText path position text with
      | .ok later => (later, .ok .done)
      | .error failure => (session, .error failure)
  | .collapse =>
      match element position with
      | .ok _ => (session.collapseBelow path position.node, .ok .done)
      | .error failure => (session, .error failure)
  | step => (session, session.answer path position step)

def perform (session : Session) (path : Path) (step : Step) :
    Session × Except Failure Answer :=
  match session.locate path with
  | .ok position => session.performAt path position step
  | .error failure => (session, .error failure)

end Session

end PageMark
