import PageMark.Collapse.Gap
import PageMark.Document.Build

/-!
# Collapsing spacing

Spacing in texts is reduced to what a reader of the page would see.  A first
pass from left to right squeezes every text, drops leading spaces and removes
empty texts and all marks; a second pass from right to left drops trailing
spaces.  Preformatted elements are passed over.
-/

namespace PageMark

/-- A text that has changed is plain. -/
def textAfter (kind : TextKind) (before after : Text) : Node :=
  .text (if after = before then kind else .plain) after

/-! ## From left to right -/

mutual

def Node.squeezeFrom (gap : Gap) : Node → Gap × Option Node
  | .text kind content =>
      if (gap.shorten content).isEmpty then (gap, none)
      else
        (gap.afterText (gap.shorten content),
          some (textAfter kind content (gap.shorten content)))
  | .mark _ _ => (gap, none)
  | .element tag children =>
      if tag.isPreformatted then (gap.pass tag.separation, some (.element tag children))
      else
        let inside := squeezeAll (gap.pass tag.separation) children
        (inside.1.pass tag.separation, some (.element tag inside.2))

def squeezeAll (gap : Gap) : List Node → Gap × List Node
  | [] => (gap, [])
  | node :: rest =>
      let first := node.squeezeFrom gap
      let others := squeezeAll first.1 rest
      (others.1, first.2.toList ++ others.2)

end

theorem squeezeAll_append (gap : Gap) (left right : List Node) :
    squeezeAll gap (left ++ right) =
      ((squeezeAll (squeezeAll gap left).1 right).1,
        (squeezeAll gap left).2 ++ (squeezeAll (squeezeAll gap left).1 right).2) := by
  induction left generalizing gap with
  | nil => rfl
  | cons node rest ih => simp only [List.cons_append, squeezeAll, ih, List.append_assoc]

/-! ## From right to left -/

mutual

def Node.settleBefore (edge : Edge) : Node → Edge × Option Node
  | .text kind content =>
      if edge.drops content then (.inline, none)
      else (.inline, some (textAfter kind content (edge.shorten content)))
  | .mark kind content => (edge, some (.mark kind content))
  | .element tag children =>
      if tag.isPreformatted then (edge.pass tag.separation, some (.element tag children))
      else
        let inside := settleAll (edge.pass tag.separation) children
        (inside.1.pass tag.separation, some (.element tag inside.2))

def settleAll (edge : Edge) : List Node → Edge × List Node
  | [] => (edge, [])
  | node :: rest =>
      let others := settleAll edge rest
      let first := node.settleBefore others.1
      (first.1, first.2.toList ++ others.2)

end

theorem settleAll_append (edge : Edge) (left right : List Node) :
    settleAll edge (left ++ right) =
      ((settleAll (settleAll edge right).1 left).1,
        (settleAll (settleAll edge right).1 left).2 ++ (settleAll edge right).2) := by
  induction left with
  | nil => rfl
  | cons node rest ih => rw [List.cons_append, settleAll, ih, settleAll, List.append_assoc]

/-- The children of one root, collapsed. -/
def collapseChildren (children : List Node) : List Node :=
  (settleAll .finish (squeezeAll .atBoundary children).2).2

/-- Everything below an element is collapsed, unless it is preformatted. -/
def Node.collapse : Node → Node
  | .element tag children =>
      if tag.isPreformatted then .element tag children
      else .element tag (collapseChildren children)
  | node => node

def Document.collapse (document : Document) : Document :=
  { nodes := collapseChildren document.nodes }

end PageMark
