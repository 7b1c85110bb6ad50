import PageMark.Selector.Element

/-!
# Languages of elements

The language of an element is given on it, around it, or in the head of the
page.  A language belongs to a range if its subtags are those of the range, in
order, with other subtags between them.
-/

namespace PageMark

namespace Language

/-- Subtags of a language against the later parts of a range.  A part may be
met after subtags of more than one character. -/
def restMatches : List Text → List Text → Bool
  | [], _ => true
  | _ :: _, [] => false
  | part :: parts, subtag :: subtags =>
      if part.isEmpty then false
      else if subtag == part then restMatches parts subtags
      else if subtag.length == 1 then false
      else restMatches (part :: parts) subtags
termination_by parts subtags => parts.length + subtags.length

/-- Wildcards between other parts say nothing, and one at the end is an empty
part. -/
def withoutWildcards : List Text → List Text
  | [] => []
  | [['*']] => [[]]
  | part :: rest =>
      if part == ['*'] then withoutWildcards rest else part :: withoutWildcards rest

def rangeParts (range : Text) : List Text :=
  match Text.parts '-' (Text.lower range) with
  | [] => []
  | first :: rest => first :: withoutWildcards rest

def inRange (range language : Text) : Bool :=
  match rangeParts range, Text.parts '-' (Text.lower language) with
  | [[]], [[]] => true
  | first :: parts, subtag :: subtags =>
      (if first == ['*'] then !(subtags.isEmpty && subtag.isEmpty) else first == subtag) &&
        restMatches parts subtags
  | _, _ => false

end Language

namespace Spot

/-- The nearest language given on an element or around it.  An empty one counts
only if no other is found. -/
def ownLanguage? (spot : Spot) : Option Text :=
  let given := (spot :: spot.ancestors).filterMap fun place =>
    place.tag.valueIgnoringCase? "lang".toList
  match given.find? fun language => !language.isEmpty with
  | some language => some language
  | none => given.getLast?

def head? (spot : Spot) : Option Spot :=
  (spot.outermost.firstChildNamed? "html").bind fun page => page.firstChildNamed? "head"

/-- The language that a `meta` element announces. -/
def announcement? (spot : Spot) : Option Text :=
  if spot.isNamed "meta" && spot.tag.hasKeyword "http-equiv" "content-language" then
    (spot.tag.valueIgnoringCase? "content".toList).filter fun language => !language.isEmpty
  else none

def announcedLanguage? (head : Spot) : Option Text :=
  head.elementChildren.findSome? announcement?

end Spot

end PageMark
