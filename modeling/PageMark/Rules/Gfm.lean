import PageMark.Rules.Base

/-!
# Rules of GitHub Flavored Markdown

Tables, struck text, task lists and fenced code.  These rules come before those
for plain Markdown.
-/

namespace PageMark.Gfm

open PageMark.Base

def lineBreak (_ : Text) : Text :=
  ['\n']

def strikethrough (content : Text) : Text :=
  "~~".toList ++ content ++ "~~".toList

/-! ## Task lists -/

def isTaskCheckbox (position : Position) : Bool :=
  position.node.kind == "input" &&
    Text.lower ((tagOf position).textOf "type") == "checkbox".toList &&
    position.parentKind == "li"

def taskCheckbox (_ : Text) (position : Position) : Text :=
  if (tagOf position).has "checked" then "[x] ".toList else "[ ] ".toList

/-! ## Tables -/

/-- The cell that is the first child of its row opens the line with a bar. -/
def cell (index : Nat) (content : Text) : Text :=
  (if index = 0 then "| ".toList else [' ']) ++ content ++ " |".toList

def tableCell (content : Text) (position : Position) : Except Failure Text := do
  let place ← position.place (tagOf position).name
  return cell place content

def alignmentBorder (tag : Tag) : Text :=
  let align := Text.lower (tag.textOf "align")
  if align == "left".toList then ":--".toList
  else if align == "right".toList then "--:".toList
  else if align == "center".toList then ":-:".toList
  else "---".toList

/-- The border under a head row, with a cell for each element in the row.  The
elements of the row at `address` are numbered from `index`, and `addresses` are
those of all its children. -/
def borderCells (addresses : List (Option Address)) (address : Address) (index : Nat) :
    List Node → Except Failure Text
  | [] => .ok []
  | .element tag _ :: rest => do
      let place ← placeIn addresses (address ++ [index]) tag.name
      let others ← borderCells addresses address (index + 1) rest
      return cell place (alignmentBorder tag) ++ others
  | _ :: rest => borderCells addresses address index rest

/-- Only a row of the table's head has a border under it. -/
def rowBorder (position : Position) : Except Failure Text :=
  if position.parentKind == "thead" then
    borderCells (childAddresses position.address 0 position.node.children) position.address 0
      position.node.children
  else .ok []

def tableRow (content : Text) (position : Position) : Except Failure Text := do
  let border ← rowBorder position
  return '\n' :: content ++ (if border.isEmpty then [] else '\n' :: border)

def tableSection (content : Text) : Text :=
  content

/-! ## Fenced code -/

def fence (language code : Text) : Text :=
  "\n\n```".toList ++ language ++ '\n' :: code ++ "\n```\n\n".toList

def fencedCode (_ : Text) (position : Position) : Except Failure Text := do
  let code ← firstChildText .noSuchChild position
  return fence [] code

def highlightKey : Text :=
  "highlight highlight-".toList

/-- The language named in a class of highlighted code. -/
def languageIn : Text → Option Text
  | [] => none
  | character :: rest =>
      let text := character :: rest
      let language :=
        (text.drop highlightKey.length).takeWhile fun next => !Text.isBlank next
      if highlightKey.isPrefixOf text && !language.isEmpty then some language
      else languageIn rest

def highlightLanguage? (tag : Tag) : Option Text :=
  languageIn (tag.textOf "class")

def parentLanguage? (position : Position) : Option Text :=
  position.parentTag?.bind highlightLanguage?

def isHighlightedPre (position : Position) : Bool :=
  position.node.kind == "pre" && position.parentKind == "div" &&
    (parentLanguage? position).isSome

def highlightedPre (_ : Text) (position : Position) : Except Failure Text :=
  match parentLanguage? position with
  | some language => .ok (fence language position.node.textContent)
  | none => .error .notAnElement

def isHighlightWrapper (position : Position) : Bool :=
  position.node.kind == "div" && (highlightLanguage? (tagOf position)).isSome

/-! ## The rules in order -/

def rules : List Converter :=
  [{ filter := .exact "br", rendering := ofContent lineBreak },
    { filter := .oneOf ["del", "s", "strike"], rendering := ofContent strikethrough },
    { filter := when isTaskCheckbox, rendering := ofNode taskCheckbox },
    { filter := .oneOf ["th", "td"], rendering := ofPart tableCell },
    { filter := .exact "tr", rendering := ofPart tableRow },
    { filter := .exact "table", rendering := ofContent paragraphs },
    { filter := .oneOf ["thead", "tbody", "tfoot"], rendering := ofContent tableSection },
    { filter := when isCodeBlock, rendering := ofPart fencedCode },
    { filter := when isHighlightedPre, rendering := ofPart highlightedPre },
    { filter := when isHighlightWrapper, rendering := ofContent paragraphs }]

end PageMark.Gfm
