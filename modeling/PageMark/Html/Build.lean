import PageMark.Html.Token
import PageMark.Html.Nesting
import PageMark.Document.Build

/-!
# Documents from HTML

Tokens are turned into a document with a stack of open elements.  Missing
`html`, `head` and `body` elements are opened when their content begins, and
repeated ones are passed over.
-/

namespace PageMark.Html

/-- An open element with the children it has so far, last child first. -/
structure Frame where
  name : String
  attributes : List (Text × Text)
  children : List Node

/-- The open elements, innermost first, and what is known besides them: the
nodes outside of all elements, last first; the text that has not become a node
yet, last piece first; whether a head or a body has been opened; and the number
of passed over start tags whose end tags are still to come. -/
structure Builder where
  frames : List Frame
  outside : List Node
  pending : List Text
  headOpened : Bool
  bodyOpened : Bool
  passedOver : Nat

/-- The part of a name after a namespace in braces. -/
def localName (name : Text) : Text :=
  match name with
  | '{' :: rest => if rest.contains '}' then (rest.dropWhile (· != '}')).drop 1 else name
  | _ => name

namespace Frame

def toNode (frame : Frame) : Node :=
  .element
    (Tag.ofPairs frame.name (frame.attributes.map fun entry =>
      (String.ofList (localName entry.1), entry.2)))
    frame.children.reverse

/-- Space in these elements stays as it is. -/
def keepsSpace (frame : Frame) : Bool :=
  frame.name == "pre" || frame.name == "textarea"

end Frame

/-- A text of nothing but space becomes one line feed or one space. -/
def shortenSpace (text : Text) : Text :=
  if text.all isSpace then
    if text.contains '\n' then ['\n'] else [' ']
  else text

namespace Builder

def start : Builder where
  frames := []
  outside := []
  pending := []
  headOpened := false
  bodyOpened := false
  passedOver := 0

def openNames (builder : Builder) : List String :=
  builder.frames.map Frame.name

def isOpen (builder : Builder) (name : String) : Bool :=
  builder.openNames.contains name

def innermost? (builder : Builder) : Option String :=
  builder.frames.head?.map Frame.name

def normalizeSpace (builder : Builder) (text : Text) : Text :=
  if builder.frames.any Frame.keepsSpace then text else shortenSpace text

def append (builder : Builder) (node : Node) : Builder :=
  match builder.frames with
  | [] => { builder with outside := node :: builder.outside }
  | frame :: others =>
      { builder with frames := { frame with children := node :: frame.children } :: others }

/-! ## Text -/

/-- The pending text becomes a node of the innermost element. -/
def flush (builder : Builder) : Builder :=
  if builder.pending.isEmpty then builder
  else
    let text := builder.normalizeSpace builder.pending.reverse.flatten
    { builder with pending := [] }.append (.text .plain text)

def addPending (builder : Builder) (text : Text) : Builder :=
  if text.isEmpty then builder else { builder with pending := text :: builder.pending }

/-! ## Elements -/

def openElement (builder : Builder) (name : String) (attributes : List (Text × Text)) :
    Builder :=
  let flushed := builder.flush
  { flushed with
    frames := { name := name, attributes := attributes, children := [] } :: flushed.frames
    headOpened := flushed.headOpened || name == "head" || name == "body"
    bodyOpened := flushed.bodyOpened || name == "body" }

def closeInnermost (builder : Builder) : Builder :=
  let flushed := builder.flush
  match flushed.frames with
  | [] => flushed
  | frame :: others => { flushed with frames := others }.append frame.toNode

/-- Closes as many elements. -/
def closeMany : Nat → Builder → Builder
  | 0, builder => builder
  | count + 1, builder => closeMany count builder.closeInnermost

/-- The innermost elements that the start of `name` ends. -/
def closeImplied (builder : Builder) (name : String) : Builder :=
  closeMany (builder.openNames.takeWhile (endsAtStart name)).length builder

/-- The elements that must be open around an element of the given name. -/
def openImplied (builder : Builder) (name : String) : Builder :=
  if name == "html" then builder
  else
    let builder := if builder.frames.isEmpty then builder.openElement "html" [] else builder
    if name == "body" || name == "head" then builder
    else if builder.frames.length ≤ 1 && headContent.contains name then
      if builder.headOpened then builder else builder.openElement "head" []
    else if framesetContent.contains name then builder
    else if builder.bodyOpened || builder.isOpen "body" || builder.isOpen "head" then builder
    else builder.openElement "body" []

/-- A second `html` or `body`, and a `head` in the wrong place. -/
def isMisplaced (builder : Builder) (name : String) : Bool :=
  (name == "html" && !builder.frames.isEmpty) ||
    (name == "head" && builder.frames.length != 1) ||
    (name == "body" && builder.isOpen "body")

/-- The open elements that an element of the given name begins in. -/
def makeRoom (builder : Builder) (name : String) : Builder :=
  (builder.closeImplied name).openImplied name

/-- A tag that is passed over but closes itself closes the innermost element. -/
def passOver (builder : Builder) (tag : StartTag) : Builder :=
  let builder := { builder with passedOver := builder.passedOver + 1 }
  if tag.closesItself then builder.closeInnermost else builder

def startTag (builder : Builder) (tag : StartTag) : Builder :=
  let name := String.ofList tag.name
  let builder := builder.makeRoom name
  if builder.isMisplaced name then builder.passOver tag
  else
    let builder := builder.openElement name tag.attributes
    if tag.closesItself || emptyElements.contains name then builder.closeInnermost else builder

def frameNames : List String :=
  ["html", "body", "head"]

def endTag (builder : Builder) (name : String) : Builder :=
  if 0 < builder.passedOver && frameNames.contains name then
    { builder with passedOver := builder.passedOver - 1 }
  else if canClose name builder.openNames then
    closeMany ((builder.openNames.takeWhile (· != name)).length + 1) builder
  else builder

/-! ## Tokens -/

/-- Text in the body's place opens the body; space before it stays outside. -/
def text (builder : Builder) (content : Text) : Builder :=
  match builder.innermost? with
  | some name =>
      if name == "html" || name == "head" then beforeBody builder content
      else builder.addPending content
  | none => beforeBody builder content
where
  beforeBody (builder : Builder) (content : Text) : Builder :=
    let builder := builder.addPending (content.takeWhile isSpace)
    let visible := content.dropWhile isSpace
    if visible.isEmpty then builder
    else
      let builder :=
        if builder.innermost? == some "head" then builder.closeImplied "p" else builder
      (builder.openImplied "p").addPending visible

def mark (builder : Builder) (kind : MarkKind) (content : Text) : Builder :=
  let flushed := builder.flush
  flushed.append (.mark kind (flushed.normalizeSpace content))

def token (builder : Builder) : Token → Builder
  | .text content => builder.text content
  | .startTag tag => builder.startTag tag
  | .cutStartTag name => builder.makeRoom (String.ofList name)
  | .endTag name => builder.endTag (String.ofList name)
  | .comment content => builder.mark .comment content
  | .doctype content => builder.mark .doctype content

def finish (builder : Builder) : List Node :=
  let closed := closeMany builder.frames.length builder
  closed.flush.outside.reverse

end Builder

end PageMark.Html

namespace PageMark

/-- The document that a page of HTML stands for. -/
def Document.ofHtml (page : Text) : Document :=
  Document.ofNodes
    ((Html.tokensOf page).foldl Html.Builder.token Html.Builder.start).finish

end PageMark
