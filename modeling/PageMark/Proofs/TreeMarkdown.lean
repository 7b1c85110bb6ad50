import PageMark.Proofs.LevelOrder

/-!
# Markdown by recursion over the tree

The Markdown of an element is made of what its children become: their content
joined, blank elements left out, the first rule that selects the element, and
the spaces put back around it.  No table of replacements is kept on the way; a
rule is shown the replacements of the element's own children and nothing else.
-/

namespace PageMark

/-- What the children of an element become: their content and the Markdown of
the elements among them. -/
structure Inside where
  content : Text
  items : List Text
deriving DecidableEq, Repr

namespace Inside

def empty : Inside where
  content := []
  items := []

def addText (text : Text) (inside : Inside) : Inside :=
  { inside with content := text ++ inside.content }

def addItem (markdown : Text) (inside : Inside) : Inside where
  content := markdown ++ inside.content
  items := markdown :: inside.items

/-- Replacements of the element children at `address`, numbered from `index`. -/
def entriesFrom (address : Address) (index : Nat) : List Text → List (Address × Text)
  | [] => []
  | item :: rest => (address ++ [index], item) :: entriesFrom address (index + 1) rest

def table (inside : Inside) (address : Address) : Replacements where
  entries := entriesFrom address 0 inside.items

end Inside

namespace Registry

/-- The Markdown of an element whose children are done. -/
def finish (registry : Registry) (position : Position) (inside : Inside) :
    Except Failure Text :=
  if position.node.isBlank inside.content then .ok []
  else do
    match ← registry.find position (inside.table position.address) with
    | none => throw (.noConverter position.node.kind)
    | some choice =>
        let text ← choice.rendering (position.givenContent inside.content) position
          (inside.table position.address)
        return position.flanking.around text

mutual

/-- The Markdown of a node in its place. -/
def markdownOf (registry : Registry) (address : Address) (surroundings : Option Surroundings) :
    Node → Except Failure Text
  | .element tag children => do
      let inside ← insideOf registry address tag [] children
      registry.finish
        { address := address, node := .element tag children, surroundings := surroundings } inside
  | _ => .error .notAnElement

/-- What these children of the element at `address` become; `before` are the
children before them. -/
def insideOf (registry : Registry) (address : Address) (tag : Tag) (before : List Node) :
    List Node → Except Failure Inside
  | [] => .ok Inside.empty
  | .text kind content :: rest => do
      let others ← insideOf registry address tag (before ++ [.text kind content]) rest
      return others.addText content
  | .mark kind content :: rest =>
      insideOf registry address tag (before ++ [.mark kind content]) rest
  | .element own inner :: rest => do
      let first ← markdownOf registry (address ++ [elementCount before])
        (some { parent := tag, before := before, after := rest }) (.element own inner)
      let others ← insideOf registry address tag (before ++ [.element own inner]) rest
      return others.addItem first

end

/-- The Markdown of the element at a position. -/
def markdownHere (registry : Registry) (position : Position) : Except Failure Text :=
  registry.markdownOf position.address position.surroundings position.node

/-- What the children of the element at a position become. -/
def insideHere (registry : Registry) (position : Position) : Except Failure Inside :=
  match position.node with
  | .element tag children => registry.insideOf position.address tag [] children
  | _ => .error .notAnElement

/-- The rules that are there without any definitions. -/
def builtIn (gfm : Bool) : Registry where
  converters := ({ gfm := gfm } : Flavor).rules

end Registry

/-- The Markdown of a document that is already collapsed. -/
def Document.treeMarkdown (document : Document) (gfm : Bool) : Except Failure Text :=
  match document.body? with
  | none => .ok []
  | some body => do
      let inside ← (Registry.builtIn gfm).insideHere body
      return Text.cleanUp inside.content

end PageMark
