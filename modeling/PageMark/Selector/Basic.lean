import PageMark.Text.WritingDirection
import PageMark.Selector.Progression

/-!
# Selectors

A selector describes elements by their own traits and by the elements around
them.  The forms are those of a small logic: traits, conjunction, disjunction,
negation, and the existence of an element in one direction.
-/

namespace PageMark

/-- How the value of an attribute is compared with a given text. -/
inductive Comparison where
  | equal
  | word
  | beforeDash
  | start
  | finish
  | part
deriving DecidableEq, Repr

/-- An attribute is present and its value compares as asked. -/
structure AttributeTest where
  name : Text
  comparison : Option (Comparison × Text)
  ignoresCase : Bool
deriving DecidableEq, Repr

/-- One of the texts occurs in an element, or in one of its own texts. -/
structure Occurrence where
  own : Bool
  texts : List Text
deriving DecidableEq, Repr

inductive Trait where
  | named (name : Text)
  /-- The element's name belongs to the given space of names. -/
  | ofSpace (space : Text)
  | identified (identifier : Text)
  | ofClass (name : Text)
  | attribute (test : AttributeTest)
  /-- The first element of the document. -/
  | first
  /-- The first element of the document, if nothing stands beside it. -/
  | root
  | empty
  /-- No text but perhaps one line feed. -/
  | unfilled
  /-- A name without a dash belongs to a known kind of element. -/
  | defined
  /-- All that is asked about the text of one element. -/
  | containing (occurrences : List Occurrence)
  | inLanguage (ranges : List Text)
  | directed (direction : WritingDirection)
  /-- The value of an input lies inside its range, or outside of it. -/
  | ranged (inside : Bool)
  /-- The first button of its form that submits it. -/
  | submitsByDefault
  /-- A radio button in whose group none is checked. -/
  | inUnsetGroup
deriving DecidableEq, Repr

/-- Where, seen from an element, other elements are looked for. -/
inductive Direction where
  | parent
  | ancestors
  | previousSibling
  | earlierSiblings
  | children
  | descendants
  | nextSibling
  | laterSiblings
deriving DecidableEq, Repr

/-- Places counted among siblings, from either end, perhaps of one name only.
The last node of the parent may be left out of the count. -/
structure Counting where
  progression : Progression
  ofType : Bool
  fromEnd : Bool
  leavesOutLast : Bool
deriving DecidableEq, Repr

inductive Selector where
  | always
  | never
  | having (trait : Trait)
  | both (left right : Selector)
  | either (left right : Selector)
  | negation (selector : Selector)
  /-- Some element in the direction is selected. -/
  | toward (direction : Direction) (selector : Selector)
  /-- The element is selected, and its place among those that are is chosen. -/
  | counted (counting : Counting) (among : Selector)
deriving DecidableEq, Repr

namespace Selector

def anyOf : List Selector → Selector
  | [] => never
  | first :: rest => either first (anyOf rest)

def allOf : List Selector → Selector
  | [] => always
  | first :: rest => both first (allOf rest)

/-- All elements of a page are in the space of names that is called `html`, where
that name is known. -/
def knowingHtml : Selector → Selector
  | having (.ofSpace space) =>
      if space = "html".toList then always else having (.ofSpace space)
  | both left right => both left.knowingHtml right.knowingHtml
  | either left right => either left.knowingHtml right.knowingHtml
  | negation selector => negation selector.knowingHtml
  | toward direction selector => toward direction selector.knowingHtml
  | counted counting among => counted counting among.knowingHtml
  | other => other

end Selector

/-- How two parts of a selector are joined. -/
inductive Combinator where
  | descendant
  | child
  | nextSibling
  | laterSibling
deriving DecidableEq, Repr

namespace Combinator

/-- Where the left part stands, seen from the right one. -/
def backward : Combinator → Direction
  | descendant => .ancestors
  | child => .parent
  | nextSibling => .previousSibling
  | laterSibling => .earlierSiblings

/-- Where the right part stands, seen from the left one. -/
def forward : Combinator → Direction
  | descendant => .descendants
  | child => .children
  | nextSibling => .nextSibling
  | laterSibling => .laterSiblings

end Combinator

/-- Why a text is not accepted as a selector, or a page cannot be searched by
one. -/
inductive SelectorError where
  | invalid
  /-- Parts of elements and rules cannot be selected. -/
  | notSupported
  /-- An escape has a number beyond all characters. -/
  | beyondCharacters
  /-- An input without a type has no range. -/
  | untypedInput
  /-- The weeks of a year are known if it has four digits. -/
  | unknownYear (year : Nat)
deriving DecidableEq, Repr

namespace SelectorError

def message : SelectorError → String
  | invalid => "The selector is not valid"
  | notSupported => "The selector is not supported"
  | beyondCharacters => "chr() arg not in range(0x110000)"
  | untypedInput => "'NoneType' object is not iterable"
  | unknownYear year =>
      if year < 10000 then
        "time data '12-31-" ++ Nat.repr year ++ "' does not match format '%m-%d-%Y'"
      else "unconverted data remains: " ++ String.ofList ((Nat.repr year).toList.drop 4)

end SelectorError

end PageMark
