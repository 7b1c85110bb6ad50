import PageMark.Collapse.Basic
import PageMark.Document.Position

/-!
# Nodes that outlive collapsing

Collapsing removes marks and empty texts, and a text that it changes is replaced
by another one.  All other nodes stay, and their paths may become shorter ones
at places where siblings before them are gone.
-/

namespace PageMark

/-- The path, from the same parent, of the child that `path` leads to before
these children are collapsed; nothing if that child is gone or replaced. -/
def survivorAmong (gap : Gap) (edge : Edge) (children : List Node) : Path → Option Path
  | [] => some []
  | index :: rest =>
      match Position.splitAtChild index children with
      | none => none
      | some (before, node, after) =>
          let left := squeezeAll gap before
          let squeezed := node.squeezeFrom left.1
          let right := settleAll edge (squeezeAll squeezed.1 after).2
          let settled := squeezed.2.map (Node.settleBefore right.1)
          let place := (settleAll ((settled.map Prod.fst).getD right.1) left.2).2.length
          match node with
          | .element tag inside =>
              if tag.isPreformatted then some (place :: rest)
              else
                (survivorAmong (left.1.pass tag.separation) (right.1.pass tag.separation)
                  inside rest).map (place :: ·)
          | unchanged => if settled.bind Prod.snd = some unchanged then some [place] else none

/-- The path below `node` after collapsing of what `path` leads to before. -/
def Node.survivor (node : Node) (path : Path) : Option Path :=
  match node with
  | .element tag children =>
      if tag.isPreformatted then some path
      else survivorAmong .atBoundary .finish children path
  | _ => some path

end PageMark
