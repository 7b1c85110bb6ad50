import PageMark.Collapse.Basic
import PageMark.Conversion.Process
import PageMark.Rules.Registry
import PageMark.Text.Cleanup

/-!
# Converting documents

The document is collapsed, every element below its body is converted, and the
body's content is cleaned up.
-/

namespace PageMark

mutual

/-- The address of the first element of the given name, in document order. -/
def Node.firstNamed? (name : String) (address : Address) : Node → Option Address
  | .element tag children =>
      if tag.name = name then some address else firstNamedAmong? name address 0 children
  | _ => none

def firstNamedAmong? (name : String) (address : Address) (index : Nat) :
    List Node → Option Address
  | [] => none
  | .element tag children :: rest =>
      match Node.firstNamed? name (address ++ [index]) (.element tag children) with
      | some found => some found
      | none => firstNamedAmong? name address (index + 1) rest
  | .text _ _ :: rest => firstNamedAmong? name address index rest
  | .mark _ _ :: rest => firstNamedAmong? name address index rest

end

/-- The body, wherever it stands. -/
def Document.body? (document : Document) : Option Position :=
  (firstNamedAmong? "body" [] 0 document.nodes).bind document.elementAt?

/-- A finished conversion: the Markdown and the replacements it was made of. -/
structure Conversion where
  markdown : Text
  replacements : Replacements

namespace Registry

def convertBelow (registry : Registry) (document : Document) (body : Position) :
    Except Failure Conversion :=
  match registry.processBelow document body Replacements.empty with
  | (_, some failure) => .error failure
  | (replacements, none) => do
      let content ← replacements.contentAt body
      return { markdown := Text.cleanUp content, replacements := replacements }

end Registry

namespace Document

/-- The conversion of a collapsed document.  A document without a body has
nothing to show, and its definitions are not looked at. -/
def convertCollapsed (document : Document) (flavor : Flavor) (definitions : List Definition) :
    Except Failure Conversion :=
  match document.body? with
  | none => .ok { markdown := [], replacements := Replacements.empty }
  | some body => do
      let registry ← Registry.build flavor definitions
      registry.convertBelow document body

def convert (document : Document) (flavor : Flavor) (definitions : List Definition) :
    Except Failure Conversion :=
  document.collapse.convertCollapsed flavor definitions

/-- The lower-case names of the elements for which a converter was looked up, in
the order in which they were converted. -/
def namesLookedUp (document : Document) (conversion : Conversion) : List String :=
  let collapsed := document.collapse
  conversion.replacements.entries.reverse.filterMap fun entry =>
    match collapsed.elementAt? entry.1 with
    | none => none
    | some position =>
        match conversion.replacements.contentAt position with
        | .ok content =>
            if position.node.isBlank content then none else some position.node.kind
        | .error _ => none

end Document

end PageMark
