import PageMark.Conversion.Flanking
import PageMark.Document.LevelOrder
import PageMark.Rules.Converter

/-!
# Converting elements

An element is converted when all elements below it are.  An element without
visible content leaves nothing, unless it is void or an anchor; any other takes
the first converter that selects it.
-/

namespace PageMark

/-- Nothing is left of a blank element.  Void elements show something by
themselves, and anchors may be link targets. -/
def Node.isBlank (node : Node) (content : Text) : Bool :=
  !node.isVoid && node.kind != "a" && Text.isAllBlank content

/-- The content that a rendering gets: the spacing that is put back around the
element is taken off. -/
def Position.givenContent (position : Position) (content : Text) : Text :=
  if position.flanking.isSome then Text.trimSpacing content else content

namespace Registry

def markdownAt (registry : Registry) (position : Position) (replacements : Replacements) :
    Except Failure Text := do
  let content ← replacements.contentAt position
  if position.node.isBlank content then return []
  else
    match ← registry.find position replacements with
    | none => throw (.noConverter position.node.kind)
    | some choice =>
        let text ← choice.rendering (position.givenContent content) position replacements
        return position.flanking.around text

/-- The Markdown of the element is recorded. -/
def process (registry : Registry) (position : Position) (replacements : Replacements) :
    Except Failure (Text × Replacements) :=
  match position.node with
  | .element tag _ => do
      let text ← registry.markdownAt position replacements
      let recorded ← replacements.record position.address tag.name text
      return (text, recorded)
  | _ => .error .notAnElement

/-- Elements are converted one after the other, up to the first failure. -/
def processEach (registry : Registry) (document : Document) :
    List Address → Replacements → Replacements × Option Failure
  | [], replacements => (replacements, none)
  | address :: rest, replacements =>
      match document.elementAt? address with
      | none => processEach registry document rest replacements
      | some position =>
          match registry.process position replacements with
          | .ok (_, recorded) => processEach registry document rest recorded
          | .error failure => (replacements, some failure)

/-- Deepest level first, so that children come before their parents. -/
def processBelow (registry : Registry) (document : Document) (position : Position)
    (replacements : Replacements) : Replacements × Option Failure :=
  registry.processEach document (position.node.levelOrder position.address).reverse
    replacements

end Registry

end PageMark
