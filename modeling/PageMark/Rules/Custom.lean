import PageMark.Rules.Converter
import PageMark.Document.TextContent
import PageMark.Document.Markup

/-!
# Rules written as data

Conditions on a node and templates for its Markdown, from which filters and
renderings are made without writing a function.
-/

namespace PageMark

inductive Condition where
  | constant (holds : Bool)
  | named (name : String)
  | hasAttribute (name : String)
  | parentNamed (name : String)
  | block (expected : Bool)
  | void (expected : Bool)
  | contains (part : Text)
  | childrenDone (expected : Bool)
  | all (conditions : List Condition)
  | any (conditions : List Condition)
  | negation (condition : Condition)

namespace Condition

def ofElement (position : Position) (test : Tag → Bool) : Except Failure Bool :=
  match position.node with
  | .element tag _ => .ok (test tag)
  | _ => .error .notAnElement

mutual

/-- Conditions are tested in order, and no further than needed. -/
def holds (position : Position) (replacements : Replacements) :
    Condition → Except Failure Bool
  | constant value => .ok value
  | named name => .ok (position.node.kind == name)
  | hasAttribute name => ofElement position fun tag => tag.has name
  | parentNamed name => .ok (position.parentKind == name)
  | block expected => .ok (position.node.isBlock == expected)
  | void expected => .ok (position.node.isVoid == expected)
  | contains part => do
      let content ← replacements.contentAt position
      return Text.containsPattern part content
  | childrenDone expected =>
      ofElement position fun _ =>
        replacements.coversBelow position.address position.node == expected
  | all conditions => allHold position replacements conditions
  | any conditions => anyHolds position replacements conditions
  | negation condition => do
      let value ← holds position replacements condition
      return !value

def allHold (position : Position) (replacements : Replacements) :
    List Condition → Except Failure Bool
  | [] => .ok true
  | condition :: rest => do
      if ← holds position replacements condition then allHold position replacements rest
      else return false

def anyHolds (position : Position) (replacements : Replacements) :
    List Condition → Except Failure Bool
  | [] => .ok false
  | condition :: rest => do
      if ← holds position replacements condition then return true
      else anyHolds position replacements rest

end

def toFilter (condition : Condition) : Filter :=
  .predicate fun position replacements => condition.holds position replacements

end Condition

/-- The node itself or its parent. -/
inductive Subject where
  | self
  | parent
deriving DecidableEq, Repr

/-- A piece of a template. -/
inductive Piece where
  | literal (text : Text)
  | content
  | trimmedContent
  | outer (content : Option Text)
  | contentOf (subject : Subject)
  | replacementOf (subject : Subject)
  | name
  | attributeText (key : String)
  | children (separator : Text)
  | textContent
  | innerMarkup
deriving DecidableEq, Repr

namespace Piece

def ofTag (position : Position) (render : Tag → Text) : Except Failure Text :=
  match position.node with
  | .element tag _ => .ok (render tag)
  | _ => .error .notAnElement

def render (given : Text) (position : Position) (replacements : Replacements) :
    Piece → Except Failure Text
  | literal text => .ok text
  | content => .ok given
  | trimmedContent => .ok (Text.trimSpacing given)
  | outer inside => ofTag position fun tag => tag.around (inside.getD given)
  | contentOf .self => replacements.contentAt position
  | contentOf .parent => replacements.parentContent position
  | replacementOf .self => replacements.atPosition position
  | replacementOf .parent => replacements.parentText position
  | name => .ok position.node.kind.toList
  | attributeText key => ofTag position fun tag => tag.textOf key
  | children separator => do
      let texts ← replacements.childTexts position.address 0 position.node.children
      return Text.joinWith separator texts
  | textContent => .ok position.node.textContent
  | innerMarkup => .ok position.node.innerMarkup

end Piece

/-- The pieces of a template, one after the other. -/
structure Template where
  pieces : List Piece
deriving DecidableEq, Repr

def Template.toRendering (template : Template) : Rendering :=
  fun given position replacements => do
    let texts ← template.pieces.mapM (Piece.render given position replacements)
    return texts.flatten

end PageMark
