import PageMark.Document.Position
import PageMark.Document.Classify
import PageMark.Document.TextContent
import PageMark.Document.Markup

/-!
# Spaces around inline elements

Spacing at the edge of an inline element's markup is put back as one space
outside of the element's Markdown, unless the neighbouring sibling has it.
-/

namespace PageMark

structure Flanking where
  leading : Bool
  trailing : Bool
deriving DecidableEq, Repr

namespace Flanking

def none : Flanking where
  leading := false
  trailing := false

def isSome (flanking : Flanking) : Bool :=
  flanking.leading || flanking.trailing

def space (present : Bool) : Text :=
  if present then [' '] else []

def around (flanking : Flanking) (text : Text) : Text :=
  space flanking.leading ++ text ++ space flanking.trailing

end Flanking

/-- The text that a sibling shows at its edge: blocks and marks show none. -/
def Node.edgeText? : Node → Option Text
  | .text _ content => some content
  | .mark _ _ => none
  | .element tag children =>
      if tag.isBlock then none else some (textContentOf tag children)

namespace Position

def hasSpaceBefore (position : Position) : Bool :=
  match position.previousSibling?.bind Node.edgeText? with
  | some text => Text.lastLineEndsWithSpace text
  | none => false

def hasSpaceAfter (position : Position) : Bool :=
  match position.nextSibling?.bind Node.edgeText? with
  | some text => Text.startsWithSpace text
  | none => false

def flanking (position : Position) : Flanking :=
  if position.node.isBlock then Flanking.none
  else
    let markup := position.node.innerMarkup
    { leading := Text.startsWithSpacing markup && !position.hasSpaceBefore
      trailing := Text.endsWithSpacing markup && !position.hasSpaceAfter }

end Position

end PageMark
