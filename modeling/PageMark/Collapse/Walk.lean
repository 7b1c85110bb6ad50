import PageMark.Collapse.Labelled

/-!
# Collapsing on a walk

A tree can be collapsed in place by someone who walks through it and remembers
two labels, where he is and where he was before.  That he has come back to an
element from below shows only in that the node before is a child of it.  On the
way, texts are replaced and nodes are taken out, among them texts that have been
left behind.

Beside the walk stands what it amounts to: a traversal from left to right, by
recursion over the tree, that threads the last text through.
-/

namespace PageMark

/-- What is remembered of the way: the last text since the last separation, and
whether that was an inline void element. -/
structure Trail where
  lastText : Option (Label × Text)
  afterVoid : Bool

namespace Trail

def start : Trail where
  lastText := none
  afterVoid := false

def gap (trail : Trail) : Gap where
  lastEndsInSpace := trail.lastText.map fun last => Text.endsWithSpace last.2
  afterVoid := trail.afterVoid

/-! ## Texts -/

/-- What a text is replaced by; if nothing is left of it, it goes. -/
def takingText (trail : Trail) (label : Label) (content : Text) : List Edit :=
  if (trail.gap.shorten content).isEmpty then [.remove label]
  else replacing label content (trail.gap.shorten content)

def takeText (trail : Trail) (label : Label) (content : Text) : Trail :=
  if (trail.gap.shorten content).isEmpty then trail
  else
    { trail with
      lastText := some (label.replaced content (trail.gap.shorten content),
        trail.gap.shorten content) }

/-! ## Separations -/

/-- The last text loses the space at its end. -/
def strip (trail : Trail) : List Edit :=
  match trail.lastText with
  | some (label, content) => replacing label content (Text.dropTrailingSpace content)
  | none => []

/-- The label under which the last text is found when it has been stripped. -/
def renamed (trail : Trail) (label : Label) : Label :=
  match trail.lastText with
  | some (last, content) =>
      if label = last then last.replaced content (Text.dropTrailingSpace content) else label
  | none => label

def passing (trail : Trail) : Separation → List Edit
  | .boundary => trail.strip
  | _ => []

def pass (trail : Trail) : Separation → Trail
  | .boundary => start
  | .inlineVoid => { lastText := none, afterVoid := true }
  | .none => trail

/-- At the end a last text of which nothing is left goes too. -/
def finish (trail : Trail) : List Edit :=
  match trail.lastText with
  | some (label, content) =>
      replacing label content (Text.dropTrailingSpace content) ++
        if (Text.dropTrailingSpace content).isEmpty then
          [.remove (label.replaced content (Text.dropTrailingSpace content))]
        else []
  | none => []

end Trail

/-! ## The walk -/

/-- The tree as it is by now, what is remembered of the way, and two labels. -/
structure Walk where
  tree : List Labelled
  trail : Trail
  previous : Option Label
  current : Option Label

/-- From a preformatted element, and from an element that is left again, the way
leads outward; otherwise into the element. -/
def onward (tree : List Labelled) (previous : Option Label) (site : Site) : Option Label :=
  if (previous.bind (site? tree)).bind Site.parent = some site.node.label ∨
      site.node.isPreformatted then site.outward
  else (site.node.children.head?.map Labelled.label).or site.outward

namespace Walk

/-- On from the node with this label, which has been dealt with. -/
def proceed (walk : Walk) (label : Label) : Option Walk := do
  let site ← site? walk.tree label
  some
    { walk with
      previous := some label
      current := onward walk.tree walk.previous site }

def takeOut (walk : Walk) (site : Site) : Walk :=
  { walk with
    tree := editedAll (.remove site.node.label) walk.tree
    current := site.outward }

def takeText (walk : Walk) (label : Label) (content : Text) : Walk :=
  { walk with
    tree := applied (walk.trail.takingText label content) walk.tree
    trail := walk.trail.takeText label content }

/-- If the node before is the text that is stripped, it is remembered by its new
label. -/
def pass (walk : Walk) (separation : Separation) : Walk where
  tree := applied (walk.trail.passing separation) walk.tree
  trail := walk.trail.pass separation
  previous :=
    if separation = .boundary then walk.previous.map walk.trail.renamed else walk.previous
  current := walk.current

/-- The current node is dealt with.  There is no going on from nowhere. -/
def advance (walk : Walk) : Option Walk := do
  let label ← walk.current
  let site ← site? walk.tree label
  match site.node with
  | .text _ _ content =>
      if (walk.trail.gap.shorten content).isEmpty then some (walk.takeOut site)
      else
        (walk.takeText label content).proceed
          (label.replaced content (walk.trail.gap.shorten content))
  | .mark _ _ _ => some (walk.takeOut site)
  | .element _ tag _ => (walk.pass tag.separation).proceed label

/-- The walk goes on, and the labels of the nodes that are dealt with one after
the other are these; none of them is the root. -/
inductive Goes (root : Label) : Walk → List Label → Walk → Prop
  | stay {walk : Walk} : Goes root walk [] walk
  | step {walk after last : Walk} {label : Label} {visited : List Label}
      (here : walk.current = some label) (underway : label ≠ root)
      (advances : walk.advance = some after) (rest : Goes root after visited last) :
      Goes root walk (label :: visited) last

end Walk

/-- The tree is collapsed below the root: which nodes are dealt with one after
the other until the walk is back at the root, and what the tree is then. -/
inductive Collapses (tree : List Labelled) (root : Label) : List Label → List Labelled → Prop
  | untouched {site : Site} (found : site? tree root = some site)
      (still : site.node.children = [] ∨ site.node.isPreformatted = true) :
      Collapses tree root [] tree
  | walked {site : Site} {visited : List Label} {last : Walk}
      (found : site? tree root = some site) (nonempty : site.node.children ≠ [])
      (open' : site.node.isPreformatted = false)
      (goes : Walk.Goes root
        { tree := tree, trail := .start, previous := none, current := onward tree none site }
        visited last)
      (back : last.current = some root) :
      Collapses tree root visited (applied last.trail.finish last.tree)

/-! ## The traversal -/

mutual

/-- What is done to a node and below it, and what is remembered afterwards.  An
element is met on entering it and again on leaving it. -/
def Labelled.traverse (trail : Trail) : Labelled → List Edit × Trail
  | .text label _ content => (trail.takingText label content, trail.takeText label content)
  | .mark label _ _ => ([.remove label], trail)
  | .element _ tag children =>
      let entered := trail.pass tag.separation
      let inside := if tag.isPreformatted then ([], entered) else traverseAll entered children
      (trail.passing tag.separation ++ inside.1 ++ inside.2.passing tag.separation,
        inside.2.pass tag.separation)

def traverseAll (trail : Trail) : List Labelled → List Edit × Trail
  | [] => ([], trail)
  | node :: rest =>
      let first := node.traverse trail
      let others := traverseAll first.2 rest
      (first.1 ++ others.1, others.2)

end

/-- All that is done below a root, unless it is preformatted. -/
def Labelled.traversal : Labelled → List Edit
  | .element _ tag children =>
      if tag.isPreformatted then []
      else (traverseAll .start children).1 ++ (traverseAll .start children).2.finish
  | _ => []

end PageMark
