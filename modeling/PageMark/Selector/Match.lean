import PageMark.Selector.InputValue
import PageMark.Selector.Language
import PageMark.Selector.Writing
import PageMark.Text.CaseFold

/-!
# Matching

Which elements of a document a selector selects.  A search goes through the
elements in document order and may fail; from one element to the next it
remembers whether the head of the page has been searched for a language.
-/

namespace PageMark

/-- What a search remembers: whether a language was looked for in the head and
not found.  From then on the language of the page is the empty one. -/
structure Memory where
  headSearched : Bool
deriving DecidableEq, Repr

abbrev Matching := StateT Memory (Except SelectorError)

/-! ## Attributes -/

namespace Comparison

/-- A comparison that reaches to the end of the value does not see one line
feed there.  No value starts, ends or continues with nothing. -/
def holds (comparison : Comparison) (expected value : Text) : Bool :=
  match comparison with
  | equal => value == expected || Text.withoutFinalBreak value == expected
  | word =>
      !expected.isEmpty && !expected.any Html.isSpace &&
        (Text.pieces Html.isSpace value).contains expected
  | beforeDash =>
      value == expected || Text.withoutFinalBreak value == expected ||
        (expected ++ ['-']).isPrefixOf value
  | start => !expected.isEmpty && expected.isPrefixOf value
  | finish =>
      !expected.isEmpty &&
        (expected.isSuffixOf value || expected.isSuffixOf (Text.withoutFinalBreak value))
  | part => !expected.isEmpty && Text.containsPattern expected value

end Comparison

namespace AttributeTest

def holds (test : AttributeTest) (tag : Tag) : Bool :=
  match tag.valueIgnoringCase? test.name, test.comparison with
  | none, _ => false
  | some _, none => true
  | some value, some (comparison, expected) =>
      if test.ignoresCase then
        comparison.holds (Text.foldCase expected) (Text.foldCase value)
      else comparison.holds expected value

end AttributeTest

/-! ## Texts -/

/-- The text of an element as it is looked into: as a whole, or as a list of
texts of its own. -/
inductive SearchedText where
  | whole (text : Text)
  | pieces (texts : List Text)
deriving DecidableEq, Repr

namespace SearchedText

def ofElement (own : Bool) (contents : List Node) : SearchedText :=
  if own then pieces (ownTexts contents) else whole (allTextOf contents)

/-- Own texts are searched one by one, and a text that is searched as a whole is
looked at character by character where own texts are asked for.  Among own texts
a text that may stand anywhere has to be one of them. -/
def shows (searched : SearchedText) (own : Bool) (text : Text) : Bool :=
  match searched, own with
  | whole content, false => Text.containsPattern text content
  | whole content, true => content.any fun character => Text.containsPattern text [character]
  | pieces texts, true => texts.any fun piece => Text.containsPattern text piece
  | pieces texts, false => texts.contains text

end SearchedText

/-- The first occurrence asked for decides how the text is searched. -/
def Occurrence.allHold (occurrences : List Occurrence) (contents : List Node) : Bool :=
  match occurrences with
  | [] => true
  | first :: _ =>
      let searched := SearchedText.ofElement first.own contents
      occurrences.all fun occurrence =>
        occurrence.texts.any fun text => searched.shows occurrence.own text

namespace Spot

/-! ## Languages -/

/-- The language of an element.  The search of the head that finds nothing is
for an element without a language; later ones have the empty language. -/
def language? (spot : Spot) : Matching (Option Text) := do
  match spot.ownLanguage?, spot.head? with
  | some language, _ => return some language
  | none, none => return none
  | none, some head =>
      match head.announcedLanguage? with
      | some language => return some language
      | none =>
          let memory ← get
          set { memory with headSearched := true }
          return if memory.headSearched then some [] else none

/-! ## Forms -/

def isSubmitter (spot : Spot) : Bool :=
  (spot.isNamed "input" || spot.isNamed "button") && spot.tag.hasKeyword "type" "submit"

def form? (spot : Spot) : Option Spot :=
  spot.ancestors.find? fun place => place.isNamed "form"

def submitsByDefault (spot : Spot) : Bool :=
  match spot.form? with
  | none => false
  | some form =>
      let inForm := form.descendants.takeWhile fun place => !place.isNamed "form"
      match inForm.find? isSubmitter with
      | some found => found.place == spot.place
      | none => false

/-- The form of an element, or the document if it is in no form. -/
def formOrDocument (spot : Spot) : Spot :=
  spot.form?.getD spot.outermost

def isCheckedRadio (name : Option Text) (spot : Spot) : Bool :=
  spot.isNamed "input" && spot.tag.hasKeyword "type" "radio" &&
    spot.tag.valueIgnoringCase? "name".toList == name &&
    (spot.tag.valueIgnoringCase? "checked".toList).isSome

def isInUnsetGroup (spot : Spot) : Bool :=
  let form := spot.formOrDocument
  !form.descendants.any fun place =>
    place.place != spot.place && place.formOrDocument.place == form.place &&
      isCheckedRadio (spot.tag.valueIgnoringCase? "name".toList) place

/-- Without a value an input is inside its range; without a least and a greatest
value it has no range. -/
def isRanged (spot : Spot) (inside : Bool) : Except SelectorError Bool :=
  match spot.tag.keyword? "type" with
  | none => .error .untypedInput
  | some type => do
      let given := fun (name : String) =>
        InputValue.readGiven type (spot.tag.valueIgnoringCase? name.toList)
      let least ← given "min"
      let greatest ← given "max"
      if least.isNone && greatest.isNone then return false
      else
        let value ← given "value"
        return (value.any (InputValue.isOutside type least greatest)) != inside

/-! ## Directions -/

/-- Siblings that may stand anywhere after an element are looked for beyond the
node right after it, and all over the parent if there is none. -/
def followers (spot : Spot) : List Spot :=
  match spot, spot.nodesAfter with
  | document _, _ => []
  | inside parent _ _ _ _, [] => parent.elementChildren
  | inside .., node :: _ => if node.isElement then spot.laterSiblings.drop 1 else spot.laterSiblings

def toward (spot : Spot) : Direction → List Spot
  | .parent => spot.parent?.toList
  | .ancestors => spot.ancestors
  | .previousSibling => spot.earlierSiblings.take 1
  | .earlierSiblings => spot.earlierSiblings
  | .children => spot.elementChildren
  | .descendants => spot.descendants
  | .nextSibling => spot.laterSiblings.take 1
  | .laterSiblings => spot.followers

end Spot

/-! ## Selectors -/

namespace Trait

def holds (trait : Trait) (spot : Spot) : Matching Bool :=
  match trait with
  | named name => return spot.tag.plainName == Html.asciiLower name
  | ofSpace _ => return false
  | identified identifier =>
      return (spot.tag.value? "id").any fun value => value.toText == identifier
  | ofClass name =>
      match spot.tag.value? "class" with
      | some (.tokens values) => return values.contains name
      | some (.single value) => return (Text.pieces Html.isSpace value).contains name
      | none => return false
  | .attribute test => return test.holds spot.tag
  | first => return spot.isFirstElement
  | root => return spot.isRoot
  | empty => return spot.contents.all Node.isHollow
  | unfilled =>
      let content := allTextOf spot.children
      return content.isEmpty || content == ['\n']
  | defined => return !spot.tag.plainName.contains '-' || spot.tag.plainName.contains ':'
  | containing occurrences => return Occurrence.allHold occurrences spot.contents
  | inLanguage ranges => do
      let language ← spot.language?
      return language.any fun language =>
        ranges.any fun range => Language.inRange range language
  | directed direction => return spot.direction? == some direction
  | ranged inside => spot.isRanged inside
  | submitsByDefault => return spot.submitsByDefault
  | inUnsetGroup => return spot.isInUnsetGroup

end Trait

namespace Counting

/-- Whether an element can have a place, or can count for the place of another
one. -/
def includes (counting : Counting) (spot : Spot) : Bool :=
  !counting.leavesOutLast || !spot.nodesAfter.isEmpty

/-- Whether a sibling counts toward the place of an element. -/
def counts (counting : Counting) (spot sibling : Spot) : Bool :=
  counting.includes sibling &&
    (!counting.ofType || sibling.tag.plainName == spot.tag.plainName)

/-- The siblings that stand between an element and the end that is counted
from. -/
def preceding (counting : Counting) (spot : Spot) : List Spot :=
  let siblings := if counting.fromEnd then spot.laterSiblings else spot.earlierSiblings
  siblings.filter (counting.counts spot)

end Counting

namespace Selector

/-- What is asked later is not looked at if the answer is known. -/
def selects : Selector → Spot → Matching Bool
  | always, _ => return true
  | never, _ => return false
  | having trait, spot => trait.holds spot
  | both left right, spot => do
      if ← left.selects spot then right.selects spot else return false
  | either left right, spot => do
      if ← left.selects spot then return true else right.selects spot
  | negation selector, spot => do return !(← selector.selects spot)
  | toward direction selector, spot =>
      (spot.toward direction).anyM fun place => selector.selects place
  | counted counting among, spot => do
      if ← among.selects spot then
        let preceding ← (counting.preceding spot).filterM fun place => among.selects place
        return counting.includes spot && counting.progression.selects (preceding.length + 1)
      else return false

end Selector

/-- The elements that a selector selects, in document order. -/
def Document.select (document : Document) (selector : Selector) :
    Except SelectorError (List Spot) :=
  (document.spots.filterM selector.selects).run' { headSearched := false }

def Spot.node (spot : Spot) : Node :=
  .element spot.tag spot.children

end PageMark
