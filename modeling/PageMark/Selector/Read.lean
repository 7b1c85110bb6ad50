import PageMark.Selector.Compound
import PageMark.Selector.Token

/-!
# Reading selectors

The tokens of a selector are read from left to right.  Parentheses open a group;
a closed group becomes a simple selector of the group around it.
-/

namespace PageMark.Selector

/-- A list of selectors that is being read.  A group without a purpose is the
whole text. -/
structure Group where
  purpose : Option Purpose
  /-- Selectors before the last comma, last one first. -/
  finished : List Selector
  /-- What stands before the part that is being read. -/
  earlier : Option Selector
  /-- In a group that looks forward, the parts before this one with the
  combinators before them, last one first. -/
  chain : List (Combinator × Compound)
  /-- In a group that looks forward, the combinator before this part. -/
  leading : Combinator
  current : Compound
  started : Bool
  /-- Whether the space of names of pages is known here. -/
  ofPages : Bool

namespace Group

def start (purpose : Option Purpose) : Group where
  purpose := purpose
  finished := []
  earlier := none
  chain := []
  leading := .descendant
  current := Compound.empty
  started := false
  ofPages := false

def looksForward (group : Group) : Bool :=
  group.purpose == some .having

def isForgiving (group : Group) : Bool :=
  group.purpose == some (.anyOf true)

def change (group : Group) (compound : Compound) : Group :=
  { group with current := compound, started := true }

def add (group : Group) (selector : Selector) : Group :=
  { group.change (group.current.add selector) with
    ofPages := group.ofPages || selector.isOfPages }

def addName (group : Group) (selector : Selector) : Group :=
  group.change (group.current.addName selector)

def addOccurrence (group : Group) (occurrence : Occurrence) : Group :=
  group.change (group.current.addOccurrence occurrence)

/-- The part that is being read, with what stands before it. -/
def part (group : Group) : Selector :=
  group.current.toSelector group.earlier

def nextPart (group : Group) : Group :=
  { group with current := Compound.empty, started := false }

/-- The parts of a chain, last one first, after which `later` follows. -/
def chained (later : Selector) : List (Combinator × Compound) → Selector
  | [] => later
  | (combinator, compound) :: before =>
      chained (toward combinator.forward (compound.toSelector (some later))) before

/-- The chain with the part that is being read at its end. -/
def wholeChain (group : Group) : Selector :=
  chained (toward group.leading.forward (group.current.toSelector none)) group.chain

/-- The selector that ends here. -/
def item (group : Group) : Selector :=
  if group.looksForward then group.wholeChain else group.part

def finish (group : Group) (selector : Selector) : Group :=
  { group with
    finished := selector :: group.finished, earlier := none, chain := [], leading := .descendant,
    current := Compound.empty, started := false }

def comma (group : Group) : Except SelectorError Group :=
  if group.started then .ok (group.finish group.item)
  else if group.isForgiving then .ok (group.finish never)
  else .error .invalid

def joinForward (group : Group) (combinator : Combinator) : Except SelectorError Group :=
  if group.started then
    .ok { group.nextPart with
          chain := (group.leading, group.current) :: group.chain, leading := combinator }
  else if group.leading = .descendant then .ok { group with leading := combinator }
  else .error .invalid

def joinBackward (group : Group) (combinator : Combinator) : Except SelectorError Group :=
  if group.started then
    .ok { group.nextPart with earlier := some (toward combinator.backward group.part) }
  else .error .invalid

def join (group : Group) (combinator : Combinator) : Except SelectorError Group :=
  if group.looksForward then group.joinForward combinator else group.joinBackward combinator

/-- The selectors of the group, last one first. -/
def union (group : Group) (selectors : List Selector) : Selector :=
  let all := Selector.anyOf selectors.reverse
  if group.ofPages then all.knowingHtml else all

/-- A forgiving group may end with an empty place. -/
def close (group : Group) : Except SelectorError Selector :=
  if group.started then .ok (group.union (group.item :: group.finished))
  else if group.isForgiving && (group.finished.isEmpty || group.earlier.isNone) then
    .ok (group.union (never :: group.finished))
  else .error .invalid

end Group

/-- The simple selector that a group with its selectors is. -/
def Purpose.wrap (selector : Selector) : Purpose → Selector
  | .anyOf _ => selector
  | .noneOf => negation selector
  | .having => selector
  | .counting places => counted places selector
  | .ignored => never

/-- `outer` holds the groups around the one that is being read. -/
def ofTokens : List Token → Group → List Group → Except SelectorError Selector
  | [], group, [] => group.close
  | [], _, _ :: _ => .error .invalid
  | .mistake error :: _, _, _ => .error error
  | .simple selector :: rest, group, outer => ofTokens rest (group.add selector) outer
  | .name selector :: rest, group, outer =>
      if group.started then .error .invalid else ofTokens rest (group.addName selector) outer
  | .occurrence occurrence :: rest, group, outer =>
      ofTokens rest (group.addOccurrence occurrence) outer
  | .comma :: rest, group, outer => do ofTokens rest (← group.comma) outer
  | .combinator combinator :: rest, group, outer => do
      ofTokens rest (← group.join combinator) outer
  | .opening purpose :: rest, group, outer =>
      ofTokens rest (Group.start (some purpose)) (group :: outer)
  | .closing :: rest, group, outer =>
      match group.purpose, outer with
      | some purpose, around :: others => do
          let selector ← group.close
          ofTokens rest (around.add (purpose.wrap selector)) others
      | _, _ => .error .invalid

def read (text : Text) : Except SelectorError Selector :=
  ofTokens (tokensOf text) (Group.start none) []

end PageMark.Selector
