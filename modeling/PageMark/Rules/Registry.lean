import PageMark.Rules.Definition
import PageMark.Rules.Base
import PageMark.Rules.Gfm

/-!
# Building registries

The given converters come first, in their order, then the rules of GitHub
Flavored Markdown if they are wanted, then the rules for plain Markdown.
-/

namespace PageMark

/-- Which built-in rules take part. -/
structure Flavor where
  gfm : Bool := false
  base : Bool := true
deriving DecidableEq, Repr

namespace Flavor

def rules (flavor : Flavor) : List Converter :=
  (if flavor.gfm then Gfm.rules else []) ++ (if flavor.base then Base.rules else [])

end Flavor

namespace Registry

/-- A registry of these definitions only. -/
def ofDefinitions (definitions : List Definition) : Except Failure Registry := do
  let converters ← definitions.mapM Definition.toConverter
  return { converters := converters }

def build (flavor : Flavor) (definitions : List Definition) : Except Failure Registry := do
  let converters ← definitions.mapM Definition.toConverter
  return { converters := converters ++ flavor.rules }

end Registry

end PageMark
