import PageMark.Proofs.WalkRuns

/-!
# What the walk leaves in place

Whatever stands around the root, and whatever stands in preformatted elements,
is left as it is.  Below the root all elements stay where they are, the marks are
gone, and of the texts only spacing is.
-/

namespace PageMark

/-! ## Elements and marks -/

mutual

/-- The element without the texts and marks below it. -/
def Labelled.skeleton : Labelled → List Labelled
  | .text _ _ _ => []
  | .mark _ _ _ => []
  | .element label tag children => [.element label tag (skeletonAll children)]

def skeletonAll : List Labelled → List Labelled
  | [] => []
  | node :: rest => node.skeleton ++ skeletonAll rest

end

mutual

/-- No mark stands outside of preformatted elements. -/
def Labelled.hasNoMarks : Labelled → Bool
  | .text _ _ _ => true
  | .mark _ _ _ => false
  | .element _ tag children => tag.isPreformatted || haveNoMarks children

def haveNoMarks : List Labelled → Bool
  | [] => true
  | node :: rest => node.hasNoMarks && haveNoMarks rest

end

namespace Framed

variable {before after : List Labelled}

/-- The same elements with the same tags, in the same order and nested alike. -/
theorem skeletonAll_eq (framed : Framed before after) : skeletonAll after = skeletonAll before := by
  induction framed with
  | nil => rfl
  | text _ _ _ ih => simpa [skeletonAll, Labelled.skeleton] using ih
  | blankText _ _ ih => simpa [skeletonAll, Labelled.skeleton] using ih
  | mark _ ih => simpa [skeletonAll, Labelled.skeleton] using ih
  | preformatted _ _ ih => simpa [skeletonAll, Labelled.skeleton] using ih
  | element _ _ _ ihInside ih => simp [skeletonAll, Labelled.skeleton, ihInside, ih]

theorem haveNoMarks (framed : Framed before after) : haveNoMarks after = true := by
  induction framed with
  | nil => rfl
  | text _ _ _ ih => simpa [PageMark.haveNoMarks, Labelled.hasNoMarks] using ih
  | blankText _ _ ih => exact ih
  | mark _ ih => exact ih
  | preformatted passedOver _ ih =>
      simpa [PageMark.haveNoMarks, Labelled.hasNoMarks, passedOver] using ih
  | element _ _ _ ihInside ih =>
      simp [PageMark.haveNoMarks, Labelled.hasNoMarks, ihInside, ih]

end Framed

/-! ## The frame of the walk -/

/-- Wherever the root stands, the walk ends with the same tree around the root,
and below it everything is in its frame. -/
theorem walk_leaves_frame (context : Context) (before after : List Labelled) (root : Label)
    (tag : Tag) (children : List Labelled)
    (distinct :
      (originsOf (context.plug (before ++ .element root tag children :: after))).Nodup) :
    ∃ visited children',
      (∀ visited' result,
        Collapses (context.plug (before ++ .element root tag children :: after)) root
            visited' result ↔
          visited' = visited ∧
            result = context.plug (before ++ .element root tag children' :: after)) ∧
      (Labelled.element root tag children').erase =
        (Labelled.element root tag children).erase.collapse ∧
      Framed [.element root tag children] [.element root tag children'] ∧
      skeletonAll children' = skeletonAll children ∧
      (tag.isPreformatted = false → haveNoMarks children' = true) := by
  have collapses := collapses_traversal distinct
  obtain ⟨children', inPlace, collapsed, framed⟩ := Context.exists_applied_traversal distinct
  rw [inPlace] at collapses
  refine ⟨_, children', fun visited' result => ⟨fun other => other.unique collapses, ?_⟩,
    collapsed, framed, ?_, fun open' => ?_⟩
  · rintro ⟨rfl, rfl⟩
    exact collapses
  · simpa [skeletonAll, Labelled.skeleton] using framed.skeletonAll_eq
  · simpa [haveNoMarks, Labelled.hasNoMarks, open'] using framed.haveNoMarks

/-- A text that is shortened twice, one of which nothing is left, a mark, and a
preformatted element with a mark in it. -/
def framedChildren : List Labelled :=
  let tag (name : String) : Tag := { name := name, attributes := [] }
  let words (content : String) : Node := .text .plain content.toList
  (numberedAll 2
    [words " one  ", .mark .comment "no".toList,
      .element (tag "p") [.element (tag "i") [words "\n"], words "two"],
      .element (tag "pre") [words " three ", .mark .comment "yes".toList]]).1

theorem framedChildren_frame :
    ∃ visited children',
      Collapses [.text { origin := 0, generation := 0 } .plain " ".toList,
        .element { origin := 1, generation := 0 } { name := "div", attributes := [] } framedChildren]
        { origin := 1, generation := 0 } visited
        [.text { origin := 0, generation := 0 } .plain " ".toList,
          .element { origin := 1, generation := 0 } { name := "div", attributes := [] } children'] ∧
      Framed [.element { origin := 1, generation := 0 } { name := "div", attributes := [] }
          framedChildren]
        [.element { origin := 1, generation := 0 } { name := "div", attributes := [] } children'] := by
  obtain ⟨visited, children', collapses, -, framed, -, -⟩ :=
    walk_leaves_frame [] [.text { origin := 0, generation := 0 } .plain " ".toList] []
      { origin := 1, generation := 0 } { name := "div", attributes := [] } framedChildren
      (by decide +kernel)
  exact ⟨visited, children', (collapses visited _).2 ⟨rfl, rfl⟩, framed⟩

end PageMark
