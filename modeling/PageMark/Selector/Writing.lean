import PageMark.Selector.Basic
import PageMark.Selector.Element

/-!
# Direction of writing of elements

An element states its direction, takes it from its text, or inherits it from its
parent.  Without any statement the root is written from left to right.
-/

namespace PageMark

/-- What an element says about its direction. -/
inductive DirectionStatement where
  | fixed (direction : WritingDirection)
  | automatic
deriving DecidableEq, Repr

namespace Tag

/-- An unknown word states nothing. -/
def directionStatement? (tag : Tag) : Option DirectionStatement :=
  match (tag.keyword? "dir").map String.ofList with
  | some "ltr" => some (.fixed .leftToRight)
  | some "rtl" => some (.fixed .rightToLeft)
  | some "auto" => some .automatic
  | _ => none

/-- Elements whose text has no part in the direction of the element around
them. -/
def isIsolated (tag : Tag) : Bool :=
  ["bdi", "script", "style", "textarea", "iframe"].any (fun name =>
    tag.plainName == name.toList) || tag.directionStatement?.isSome

end Tag

mutual

/-- The direction of the first text that has one. -/
def Node.textDirection? : Node → Option WritingDirection
  | .text _ content => Text.direction? content
  | .mark _ _ => none
  | .element tag children => if tag.isIsolated then none else textDirectionOf? children

def textDirectionOf? : List Node → Option WritingDirection
  | [] => none
  | node :: rest => node.textDirection?.or (textDirectionOf? rest)

end

namespace Tag

def isTextInput (tag : Tag) : Bool :=
  tag.plainName == "input".toList &&
    ["text", "search", "tel", "url", "email"].any fun kind => tag.hasKeyword "type" kind

def isTelephone (tag : Tag) : Bool :=
  tag.plainName == "input".toList && tag.hasKeyword "type" "tel"

/-- The text that is edited in a control. -/
def editedText? (tag : Tag) (children : List Node) : Option Text :=
  if tag.plainName == "textarea".toList then some (ownTexts children).flatten
  else if tag.isTextInput then some ((tag.valueIgnoringCase? "value".toList).getD [])
  else none

/-- The direction of an automatic element by its content.  Edited text without
any letter is written from left to right. -/
def contentDirection? (tag : Tag) (children : List Node) : Option WritingDirection :=
  match tag.editedText? children with
  | some text =>
      if text.isEmpty then none else some ((Text.direction? text).getD .leftToRight)
  | none => textDirectionOf? children

/-- The direction that an element has by itself. -/
def ownDirection? (tag : Tag) (isRoot : Bool) (children : List Node) :
    Option WritingDirection :=
  let byRoot := if isRoot then some .leftToRight else none
  match tag.directionStatement? with
  | some (.fixed direction) => some direction
  | some .automatic => (tag.contentDirection? children).or byRoot
  | none =>
      if isRoot || tag.isTelephone then some .leftToRight
      else if tag.plainName == "bdi".toList then textDirectionOf? children
      else none

end Tag

namespace Spot

/-- The nearest direction, from the element outwards. -/
def direction? (spot : Spot) : Option WritingDirection :=
  (spot :: spot.ancestors).findSome? fun place =>
    place.tag.ownDirection? place.isFirstElement place.children

end Spot

end PageMark
