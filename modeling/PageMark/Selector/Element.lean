import PageMark.Html.Token
import PageMark.Selector.Spot

/-!
# Elements as selectors see them

Names and attributes are found without regard to the case of ASCII letters, and
the content of a frame is not looked into.
-/

namespace PageMark

namespace Tag

/-- The name by which selectors know an element. -/
def plainName (tag : Tag) : Text :=
  Html.asciiLower tag.name.toList

/-- The value of an attribute whose name is compared without case. -/
def valueIgnoringCase? (tag : Tag) (name : Text) : Option Text :=
  (tag.attributes.find? fun entry =>
    Html.asciiLower entry.name.toList == Html.asciiLower name).map fun entry =>
      entry.value.toText

/-- The value of an attribute in lower case. -/
def keyword? (tag : Tag) (name : String) : Option Text :=
  (tag.valueIgnoringCase? name.toList).map Html.asciiLower

def hasKeyword (tag : Tag) (name keyword : String) : Bool :=
  tag.keyword? name == some keyword.toList

end Tag

/-- The content of a frame is another document and is not looked into. -/
def contentsOf (tag : Tag) (children : List Node) : List Node :=
  if tag.plainName == "iframe".toList then [] else children

mutual

def Node.allText : Node → Text
  | .text _ content => content
  | .mark _ _ => []
  | .element tag children =>
      if tag.plainName == "iframe".toList then [] else allTextOf children

def allTextOf : List Node → Text
  | [] => []
  | node :: rest => node.allText ++ allTextOf rest

end

def ownTexts (nodes : List Node) : List Text :=
  nodes.filterMap fun node =>
    match node with
    | .text _ content => some content
    | _ => none

/-- A node that a root element may have beside it. -/
def Node.isIgnorable : Node → Bool
  | .element _ _ => false
  | .text _ content => Text.isAllBlank content
  | .mark kind _ => kind != .cdata

/-- A node that an empty element may hold. -/
def Node.isHollow : Node → Bool
  | .element _ _ => false
  | .text _ content => content.all Html.isSpace
  | .mark _ _ => true

namespace Spot

def isNamed (spot : Spot) (name : String) : Bool :=
  spot.tag.plainName == name.toList

def firstChildNamed? (spot : Spot) (name : String) : Option Spot :=
  spot.elementChildren.find? fun child => child.isNamed name

def outermost : Spot → Spot
  | document nodes => document nodes
  | inside parent _ _ _ _ => parent.outermost

def contents (spot : Spot) : List Node :=
  contentsOf spot.tag spot.children

def isFirstElement : Spot → Bool
  | inside (document _) before _ _ _ => before.all fun node => !node.isElement
  | _ => false

def isRoot (spot : Spot) : Bool :=
  spot.isFirstElement && spot.nodesBefore.all Node.isIgnorable &&
    spot.nodesAfter.all Node.isIgnorable

end Spot

end PageMark
