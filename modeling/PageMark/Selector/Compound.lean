import PageMark.Selector.Basic

/-!
# Compounds

A compound is what a selector asks of one element.  Its parts are tested in a
fixed order, whatever the order in which they are written: traits, languages,
selectors in parentheses, the elements around, directions and texts.
-/

namespace PageMark.Selector

structure Compound where
  traits : List Selector
  languages : List Selector
  nested : List Selector
  directions : List Selector
  occurrences : List Occurrence
deriving DecidableEq, Repr

namespace Compound

def empty : Compound where
  traits := []
  languages := []
  nested := []
  directions := []
  occurrences := []

def add (compound : Compound) (selector : Selector) : Compound :=
  match selector with
  | having (.inLanguage _) =>
      { compound with languages := compound.languages ++ [selector] }
  | having (.directed _) => { compound with directions := compound.directions ++ [selector] }
  | both _ _ => { compound with nested := compound.nested ++ [selector] }
  | either _ _ => { compound with nested := compound.nested ++ [selector] }
  | negation _ => { compound with nested := compound.nested ++ [selector] }
  | _ => { compound with traits := compound.traits ++ [selector] }

def addName (compound : Compound) (selector : Selector) : Compound :=
  { compound with traits := compound.traits ++ [selector] }

def addOccurrence (compound : Compound) (occurrence : Occurrence) : Compound :=
  { compound with occurrences := compound.occurrences ++ [occurrence] }

/-- The text of an element is searched once for all that is asked about it. -/
def textual (compound : Compound) : List Selector :=
  if compound.occurrences.isEmpty then [] else [having (.containing compound.occurrences)]

/-- `around` is asked of the elements around. -/
def toSelector (compound : Compound) (around : Option Selector) : Selector :=
  allOf (compound.traits ++ compound.languages ++ compound.nested ++ around.toList ++
    compound.directions ++ compound.textual)

end Compound

/-- Some traits are asked in terms of pages alone; where they stand, the space of
names of pages is known. -/
def isOfPages : Selector → Bool
  | having .defined => true
  | having (.directed _) => true
  | _ => false

end PageMark.Selector
