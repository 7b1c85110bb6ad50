import PageMark.Document.Classify

/-!
# Gaps between texts

What decides about the spacing at the edge of a text is the nearest thing
before it and the nearest thing after it.  A gap records what lies before: the
last text since the last boundary, and whether an inline void element has been
met since.  An edge records what lies after.
-/

namespace PageMark

namespace Text

/-- `inRun` tells that the character before is spacing. -/
def squeezeAfter (inRun : Bool) : Text → Text
  | [] => []
  | character :: rest =>
      if isSpacing character then
        if inRun then squeezeAfter true rest else ' ' :: squeezeAfter true rest
      else character :: squeezeAfter false rest

/-- Every run of spacing becomes one space. -/
def squeeze (text : Text) : Text :=
  squeezeAfter false text

theorem squeezeAfter_squeezeAfter (inRun : Bool) (text : Text) :
    squeezeAfter inRun (squeezeAfter inRun text) = squeezeAfter inRun text := by
  induction text generalizing inRun with
  | nil => rfl
  | cons character rest ih =>
      cases spacing : isSpacing character with
      | true =>
          cases inRun with
          | true => simpa [squeezeAfter, spacing] using ih true
          | false =>
              have space : isSpacing ' ' = true := rfl
              simpa [squeezeAfter, spacing, space] using ih true
      | false => simpa [squeezeAfter, spacing] using ih false

theorem squeeze_squeeze (text : Text) : squeeze (squeeze text) = squeeze text :=
  squeezeAfter_squeezeAfter false text

def dropLeadingSpace : Text → Text
  | ' ' :: rest => rest
  | text => text

def dropTrailingSpace (text : Text) : Text :=
  (dropLeadingSpace text.reverse).reverse

end Text

/-- How a tag separates the texts on its two sides. -/
inductive Separation where
  | boundary
  | inlineVoid
  | none
deriving DecidableEq, Repr

/-- Blocks and line breaks are boundaries. -/
def Tag.separation (tag : Tag) : Separation :=
  if tag.isBlock || tag.kind == "br" then .boundary
  else if tag.isVoid then .inlineVoid
  else .none

theorem Tag.separation_of_isBlock {tag : Tag} (block : tag.isBlock = true) :
    tag.separation = .boundary := by
  simp [separation, block]

/-- Content of this element keeps its spacing. -/
def Tag.isPreformatted (tag : Tag) : Bool :=
  tag.kind == "pre"

/-- What lies before a text: whether the last text ends in a space, if there is
one, and whether an inline void element has come since the last boundary. -/
structure Gap where
  lastEndsInSpace : Option Bool
  afterVoid : Bool
deriving DecidableEq, Repr

namespace Gap

def atBoundary : Gap where
  lastEndsInSpace := none
  afterVoid := false

def pass (gap : Gap) : Separation → Gap
  | .boundary => atBoundary
  | .inlineVoid => { lastEndsInSpace := none, afterVoid := true }
  | .none => gap

/-- An element is passed on entering and on leaving; without content in between
that makes no difference. -/
theorem pass_pass (gap : Gap) (separation : Separation) :
    (gap.pass separation).pass separation = gap.pass separation := by
  cases separation <;> rfl

/-- A leading space would stand at a boundary or next to another space. -/
def dropsLeadingSpace (gap : Gap) : Bool :=
  gap.lastEndsInSpace != some false && !gap.afterVoid

def shorten (gap : Gap) (content : Text) : Text :=
  if gap.dropsLeadingSpace then Text.dropLeadingSpace (Text.squeeze content)
  else Text.squeeze content

def afterText (gap : Gap) (content : Text) : Gap :=
  { gap with lastEndsInSpace := some (Text.endsWithSpace content) }

end Gap

/-- What lies after a text: something inline, a boundary, or the end of all
that is collapsed. -/
inductive Edge where
  | inline
  | boundary
  | finish
deriving DecidableEq, Repr

namespace Edge

def pass (edge : Edge) : Separation → Edge
  | .boundary => .boundary
  | .inlineVoid => .inline
  | .none => edge

theorem pass_pass (edge : Edge) (separation : Separation) :
    (edge.pass separation).pass separation = edge.pass separation := by
  cases separation <;> rfl

def shorten : Edge → Text → Text
  | .inline, content => content
  | _, content => Text.dropTrailingSpace content

theorem shorten_of_ne_inline {edge : Edge} (closed : edge ≠ .inline) :
    edge.shorten = Text.dropTrailingSpace := by
  cases edge with
  | inline => exact absurd rfl closed
  | boundary => rfl
  | finish => rfl

/-- A text that is empty in the end is kept before a boundary only. -/
def drops (edge : Edge) (content : Text) : Bool :=
  edge == .finish && (edge.shorten content).isEmpty

end Edge

end PageMark
