import PageMark.Rules.Replacements
import PageMark.Document.Classify

/-!
# Converters

A converter pairs a filter, which tells the elements it is for, with the
function that makes their Markdown.  A registry is a list of converters in
order of precedence.
-/

namespace PageMark

/-- A test of a node in its place, which may look at earlier replacements. -/
abbrev Predicate := Position → Replacements → Except Failure Bool

/-- Makes the Markdown of a node from its converted content. -/
abbrev Rendering := Text → Position → Replacements → Except Failure Text

inductive Filter where
  | exact (name : String)
  | oneOf (names : List String)
  | predicate (holds : Predicate)

namespace Filter

/-- Names are compared with the lower-case name of the node. -/
def selects (filter : Filter) (position : Position) (replacements : Replacements) :
    Except Failure Bool :=
  match filter with
  | exact name => .ok (position.node.kind == name)
  | oneOf names => .ok (names.contains position.node.kind)
  | predicate holds => holds position replacements

end Filter

/-- A converter without a rendering can be built around the checks; it fails
when it is chosen. -/
structure Converter where
  filter : Filter
  rendering : Option Rendering

/-- A converter as it is found for a node. -/
structure Choice where
  index : Nat
  rendering : Rendering

structure Registry where
  converters : List Converter

namespace Registry

/-- The first converter that selects the node; `index` is the place of the
first one in the list. -/
def findFrom (position : Position) (replacements : Replacements) (index : Nat) :
    List Converter → Except Failure (Option Choice)
  | [] => .ok none
  | converter :: rest => do
      if ← converter.filter.selects position replacements then
        match converter.rendering with
        | some rendering => return some { index := index, rendering := rendering }
        | none => throw .invalidReplacement
      else
        findFrom position replacements (index + 1) rest

def find (registry : Registry) (position : Position) (replacements : Replacements) :
    Except Failure (Option Choice) :=
  findFrom position replacements 0 registry.converters

def size (registry : Registry) : Nat :=
  registry.converters.length

end Registry

end PageMark
