import PageMark.Rules.Value

/-!
# Definitions of converters

A definition is a converter, a mapping or an object with a filter and a
replacement.  It is checked when the converter is built, the filter first.

What a function can be called with is not checked.  A condition asked for a
text, or a template asked for an answer, fails when it is called.
-/

namespace PageMark

/-- The failure of a function called with other arguments than it takes. -/
def miscalled (function : Value) : Failure :=
  .notText function.written

namespace Filter

def ofNames (names : List String) : Filter :=
  .oneOf ((names.map Text.lowerName).eraseDups)

/-- The filter of an already normalised value. -/
def ofNormalised? : Value → Option Filter
  | .exactName name => some (.exact name)
  | .nameSet names => some (.oneOf names.eraseDups)
  | .conditionFilter condition => some condition.toFilter
  | _ => none

def ofCollection (items : List Value) : Except Failure Filter :=
  match Value.names? items with
  | some names => .ok (ofNames names)
  | none => .error .invalidFilter

/-- A name, a collection of names, a normalised filter or a function. -/
def ofValue : Value → Except Failure Filter
  | .exactName name => .ok (.exact name)
  | .nameSet names => .ok (.oneOf names.eraseDups)
  | .conditionFilter condition => .ok condition.toFilter
  | .text content => .ok (.exact (Text.lowerName (String.ofList content)))
  | .list items => ofCollection items
  | .tuple items => ofCollection items
  | .set items => ofCollection items
  | .frozenSet items => ofCollection items
  | .condition condition => .ok condition.toFilter
  | .template template =>
      .ok (.predicate fun _ _ => .error (miscalled (.template template)))
  | _ => .error .invalidFilter

/-- Only normalised filters are accepted. -/
def ofNormalised (value : Value) : Except Failure Filter :=
  match ofNormalised? value with
  | some filter => .ok filter
  | none => .error (.unknownFilterType value.typeName)

end Filter

/-- Any function passes for a rendering, but only a template makes texts. -/
def renderingOf? : Value → Option Rendering
  | .template template => some template.toRendering
  | .condition condition => some fun _ _ _ => .error (miscalled (.condition condition))
  | _ => none

namespace Converter

def build (filter replacement : Value) : Except Failure Converter := do
  let filter ← Filter.ofValue filter
  match renderingOf? replacement with
  | some rendering => return { filter := filter, rendering := some rendering }
  | none => throw .invalidReplacement

/-- A converter for one name that fails when it is chosen. -/
def broken (name : String) : Converter where
  filter := .exact name
  rendering := none

end Converter

def filterKey : String := "filter"

def replacementKey : String := "replacement"

inductive Definition where
  | value (value : Value)
  | converter (converter : Converter)

namespace Definition

def requirePart (key : String) (entries : List (Text × Value)) : Except Failure Value :=
  match Value.entry? key.toList entries with
  | some part => .ok part
  | none => .error (.missingPart key)

def toConverter : Definition → Except Failure Converter
  | .converter built => .ok built
  | .value (.mapping entries) => do
      let filter ← requirePart filterKey entries
      let replacement ← requirePart replacementKey entries
      Converter.build filter replacement
  | .value (.object attributes) =>
      match Value.lookup? filterKey attributes, Value.lookup? replacementKey attributes with
      | some filter, some replacement => Converter.build filter replacement
      | _, _ => .error (.notADefinition (Value.object attributes).written)
  | .value other => .error (.notADefinition other.written)

end Definition

end PageMark
