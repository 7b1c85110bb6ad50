import PageMark.Rules.Converter
import PageMark.Rules.Place
import PageMark.Document.TextContent
import PageMark.Text.Cleanup
import PageMark.Document.Markup

/-!
# Rules for plain Markdown

The first rule that selects an element converts it.  The last two rules keep
unknown elements as markup, so no element is without a rule.
-/

namespace PageMark.Base

/-- An empty line before and after. -/
def paragraphs (content : Text) : Text :=
  "\n\n".toList ++ content ++ "\n\n".toList

def ofContent (render : Text → Text) : Option Rendering :=
  some fun content _ _ => .ok (render content)

def ofNode (render : Text → Position → Text) : Option Rendering :=
  some fun content position _ => .ok (render content position)

/-- Of a rule that reads what not every node has. -/
def ofPart (render : Text → Position → Except Failure Text) : Option Rendering :=
  some fun content position _ => render content position

def when (holds : Position → Bool) : Filter :=
  .predicate fun position _ => .ok (holds position)

/-- The tag of the node; a node that is no element has no name and no
attributes. -/
def tagOf (position : Position) : Tag :=
  (position.node.tag?).getD { name := "", attributes := [] }

theorem tagOf_of_element {position : Position} {tag : Tag} {children : List Node}
    (shape : position.node = .element tag children) : tagOf position = tag := by
  rw [tagOf, shape]
  rfl

/-! ## Texts and headings -/

def lineBreak (_ : Text) : Text :=
  "  \n".toList

/-- The level is the digit in the element's name. -/
def headingLevel (name : String) : Except Failure Nat :=
  match name.toList with
  | _ :: digit :: _ => Text.readNumeral [digit]
  | _ => .error .noSuchChild

def heading (content : Text) (position : Position) : Except Failure Text := do
  let level ← headingLevel position.node.kind
  return paragraphs (List.replicate level '#' ++ ' ' :: content)

def thematicBreak (_ : Text) : Text :=
  paragraphs "* * *".toList

def emphasis (content : Text) : Text :=
  '_' :: content ++ ['_']

def strong (content : Text) : Text :=
  "**".toList ++ content ++ "**".toList

/-! ## Code -/

def isOnlyChild (position : Position) : Bool :=
  position.previousSibling?.isNone && position.nextSibling?.isNone

/-- Code that is all there is in a preformatted element is a block. -/
def isInlineCode (position : Position) : Bool :=
  position.node.kind == "code" && !(position.parentKind == "pre" && isOnlyChild position)

def inlineCode (content : Text) : Text :=
  '`' :: content ++ ['`']

def firstChild? (position : Position) : Option Node :=
  position.node.children.head?

/-- The text content of the first child; `missing` is the failure without one. -/
def firstChildText (missing : Failure) (position : Position) : Except Failure Text :=
  match firstChild? position with
  | some child => .ok child.textContent
  | none => .error missing

def isCodeBlock (position : Position) : Bool :=
  position.node.kind == "pre" && (firstChild? position).any fun child => child.kind == "code"

def listMargin : Text :=
  "    ".toList

def codeBlock (_ : Text) (position : Position) : Except Failure Text := do
  let code ← firstChildText .notAnElement position
  return paragraphs (listMargin ++ Text.indentLines listMargin code)

/-! ## Links and images -/

def titlePart (tag : Tag) : Text :=
  let title := tag.textOf "title"
  if title.isEmpty then [] else " \"".toList ++ title ++ ['"']

def isLink (position : Position) : Bool :=
  position.node.kind == "a" && !((tagOf position).textOf "href").isEmpty

def link (content : Text) (position : Position) : Text :=
  let tag := tagOf position
  '[' :: content ++ "](".toList ++ tag.textOf "href" ++ titlePart tag ++ [')']

/-- An image without a source leaves nothing. -/
def image (_ : Text) (position : Position) : Text :=
  let tag := tagOf position
  let source := tag.textOf "src"
  if source.isEmpty then []
  else "![".toList ++ tag.textOf "alt" ++ "](".toList ++ source ++ titlePart tag ++ [')']

/-! ## Quotations -/

def quoteMargin : Text :=
  "> ".toList

def blockquote (content : Text) : Text :=
  paragraphs
    (quoteMargin ++ Text.indentLines quoteMargin (Text.capBreaks (Text.trimSpacing content)))

/-! ## Lists -/

/-- The number of the first item: the start attribute if all its characters
are digits, else one. -/
def listStart (list : Tag) : Except Failure Nat :=
  let start := list.textOf "start"
  if !start.isEmpty && start.all Text.isDigit then Text.readNumeral start else .ok 1

def itemMark (position : Position) : Except Failure Text :=
  match position.surroundings with
  | some surroundings =>
      if surroundings.parent.kind = "ol" then do
        let start ← listStart surroundings.parent
        let place ← position.placeAmongElements (tagOf position).name
        let number ← Text.writeNumeral (start + place)
        return number ++ ".  ".toList
      else .ok "*   ".toList
  | none => .ok "*   ".toList

def listItem : Rendering := fun content position _ => do
  let mark ← itemMark position
  return mark ++ Text.indentLines listMargin (content.dropWhile Text.isBlank)

/-- A list inside an item follows the item's text directly. -/
def list : Rendering := fun _ position replacements => do
  let items ← replacements.childTexts position.address 0 position.node.children
  let lines := Text.joinWith ['\n'] items
  if position.parentKind = "li" then return '\n' :: lines
  else return paragraphs lines

/-! ## Elements kept as markup -/

def blockMarkup (content : Text) (position : Position) : Text :=
  paragraphs ((tagOf position).around content)

def inlineMarkup (content : Text) (position : Position) : Text :=
  (tagOf position).around content

/-! ## The rules in order -/

def rules : List Converter :=
  [{ filter := .exact "p", rendering := ofContent paragraphs },
    { filter := .exact "br", rendering := ofContent lineBreak },
    { filter := .oneOf ["h1", "h2", "h3", "h4", "h5", "h6"], rendering := ofPart heading },
    { filter := .exact "hr", rendering := ofContent thematicBreak },
    { filter := .oneOf ["em", "i"], rendering := ofContent emphasis },
    { filter := .oneOf ["strong", "b"], rendering := ofContent strong },
    { filter := when isInlineCode, rendering := ofContent inlineCode },
    { filter := when isLink, rendering := ofNode link },
    { filter := .exact "img", rendering := ofNode image },
    { filter := when isCodeBlock, rendering := ofPart codeBlock },
    { filter := .exact "blockquote", rendering := ofContent blockquote },
    { filter := .exact "li", rendering := some listItem },
    { filter := .oneOf ["ul", "ol"], rendering := some list },
    { filter := .oneOf ["div", "section", "article", "main", "header", "footer"],
      rendering := ofContent paragraphs },
    { filter := when fun position => position.node.isBlock, rendering := ofNode blockMarkup },
    { filter := when fun _ => true, rendering := ofNode inlineMarkup }]

end PageMark.Base
