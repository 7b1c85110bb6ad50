import PageMark.Collapse.Gap
import PageMark.Document.Node

/-!
# Labelled trees and their edits

In a tree that is changed while someone goes through it, a node is known by its
label.  A text that is put in another's place gets a new label, so whoever still
holds the old one will not find it again.
-/

namespace PageMark

/-- The node from which it all began, and how often another text has taken its
place since. -/
structure Label where
  origin : Nat
  generation : Nat
deriving DecidableEq, Repr

namespace Label

def renewed (label : Label) : Label :=
  { label with generation := label.generation + 1 }

/-- A text is replaced only if its content changes. -/
def replaced (label : Label) (before after : Text) : Label :=
  if after = before then label else label.renewed

@[simp] theorem renewed_origin (label : Label) : label.renewed.origin = label.origin :=
  rfl

@[simp] theorem replaced_origin (label : Label) (before after : Text) :
    (label.replaced before after).origin = label.origin := by
  unfold replaced
  split <;> rfl

end Label

inductive Labelled where
  | text (label : Label) (kind : TextKind) (content : Text)
  | mark (label : Label) (kind : MarkKind) (content : Text)
  | element (label : Label) (tag : Tag) (children : List Labelled)

namespace Labelled

def label : Labelled → Label
  | text label _ _ => label
  | mark label _ _ => label
  | element label _ _ => label

def children : Labelled → List Labelled
  | element _ _ children => children
  | _ => []

def isElement : Labelled → Bool
  | element _ _ _ => true
  | _ => false

def isPreformatted : Labelled → Bool
  | element _ tag _ => tag.isPreformatted
  | _ => false

end Labelled

mutual

/-- The node without its labels. -/
def Labelled.erase : Labelled → Node
  | .text _ kind content => .text kind content
  | .mark _ kind content => .mark kind content
  | .element _ tag children => .element tag (eraseAll children)

def eraseAll : List Labelled → List Node
  | [] => []
  | node :: rest => node.erase :: eraseAll rest

end

mutual

/-- Where the node and everything below it come from, in document order. -/
def Labelled.origins : Labelled → List Nat
  | .text label _ _ => [label.origin]
  | .mark label _ _ => [label.origin]
  | .element label _ children => label.origin :: originsOf children

def originsOf : List Labelled → List Nat
  | [] => []
  | node :: rest => node.origins ++ originsOf rest

end

mutual

/-- The node with a label for every node, in document order, and the next number. -/
def Node.numbered (next : Nat) : Node → Labelled × Nat
  | .text kind content => (.text { origin := next, generation := 0 } kind content, next + 1)
  | .mark kind content => (.mark { origin := next, generation := 0 } kind content, next + 1)
  | .element tag children =>
      let inside := numberedAll (next + 1) children
      (.element { origin := next, generation := 0 } tag inside.1, inside.2)

def numberedAll (next : Nat) : List Node → List Labelled × Nat
  | [] => ([], next)
  | node :: rest =>
      let first := node.numbered next
      let others := numberedAll first.2 rest
      (first.1 :: others.1, others.2)

end

/-! ## Finding a node -/

/-- A node, the element it stands in and the node next to it. -/
structure Site where
  node : Labelled
  parent : Option Label
  next : Option Label

/-- On to the next node, or else back to the parent. -/
def Site.outward (site : Site) : Option Label :=
  site.next.or site.parent

mutual

def Labelled.siteBelow? (label : Label) : Labelled → Option Site
  | .element owner _ children => siteAmong? label (some owner) children
  | _ => none

/-- The site of a label among the children of this parent and below them. -/
def siteAmong? (label : Label) (parent : Option Label) : List Labelled → Option Site
  | [] => none
  | node :: rest =>
      if node.label = label then
        some { node := node, parent := parent, next := rest.head?.map Labelled.label }
      else (node.siteBelow? label).or (siteAmong? label parent rest)

end

def site? (tree : List Labelled) (label : Label) : Option Site :=
  siteAmong? label none tree

/-! ## Edits -/

/-- A node is taken out, or a plain text is put in its place. -/
inductive Edit where
  | remove (target : Label)
  | rewrite (target : Label) (content : Text)

namespace Edit

def target : Edit → Label
  | remove target => target
  | rewrite target _ => target

/-- What stands in the place of the target afterwards. -/
def outcome : Edit → List Labelled
  | remove _ => []
  | rewrite target content => [.text target.renewed .plain content]

end Edit

mutual

def Labelled.edited (edit : Edit) : Labelled → List Labelled
  | .text label kind content =>
      if label = edit.target then edit.outcome else [.text label kind content]
  | .mark label kind content =>
      if label = edit.target then edit.outcome else [.mark label kind content]
  | .element label tag children =>
      if label = edit.target then edit.outcome
      else [.element label tag (editedAll edit children)]

def editedAll (edit : Edit) : List Labelled → List Labelled
  | [] => []
  | node :: rest => node.edited edit ++ editedAll edit rest

end

/-- One edit after the other. -/
def applied : List Edit → List Labelled → List Labelled
  | [], tree => tree
  | edit :: edits, tree => applied edits (editedAll edit tree)

/-- Nothing is done to a text whose content stays the same. -/
def replacing (label : Label) (before after : Text) : List Edit :=
  if after = before then [] else [.rewrite label after]

end PageMark
