import Mathlib.Data.List.Forall2
import PageMark.Collapse.Basic
import PageMark.Proofs.Squeezing

/-!
# Stretches between boundaries

In document order, and outside of preformatted elements, the texts below a root
stand between boundaries: the edges of blocks, line breaks and the edges of the
root.  Collapsing makes the text of every stretch without an inline void element
normal, however it is spread over nodes.
-/

namespace PageMark

/-- What is met on the way through a tree. -/
inductive Landmark where
  | text (content : Text)
  | boundary
  | inlineVoid
deriving DecidableEq

def Separation.landmarks : Separation → List Landmark
  | .boundary => [.boundary]
  | .inlineVoid => [.inlineVoid]
  | .none => []

mutual

/-- An element is met on entering and on leaving. -/
def Node.landmarks : Node → List Landmark
  | .text _ content => [.text content]
  | .mark _ _ => []
  | .element tag children =>
      if tag.isPreformatted then tag.separation.landmarks ++ tag.separation.landmarks
      else tag.separation.landmarks ++ landmarksOf children ++ tag.separation.landmarks

/-- What is met among these nodes and below them, in document order. -/
def landmarksOf : List Node → List Landmark
  | [] => []
  | node :: rest => node.landmarks ++ landmarksOf rest

end

theorem landmarksOf_append (left right : List Node) :
    landmarksOf (left ++ right) = landmarksOf left ++ landmarksOf right := by
  induction left with
  | nil => rfl
  | cons node rest ih => rw [List.cons_append, landmarksOf, landmarksOf, ih, List.append_assoc]

/-- What is met between boundaries; there is one more stretch than boundaries. -/
def stretches : List Landmark → List (List Landmark)
  | [] => [[]]
  | .boundary :: rest => [] :: stretches rest
  | landmark :: rest => (stretches rest).modifyHead (landmark :: ·)

/-- The texts on the way, put together. -/
def textAlong : List Landmark → Text
  | [] => []
  | .text content :: rest => content ++ textAlong rest
  | _ :: rest => textAlong rest

/-! ## Collapsing on the way -/

/-- Texts are squeezed from left to right, and empty ones go. -/
def squeezeAlong (gap : Gap) : List Landmark → List Landmark
  | [] => []
  | .text content :: rest =>
      if (gap.shorten content).isEmpty then squeezeAlong gap rest
      else .text (gap.shorten content) :: squeezeAlong (gap.afterText (gap.shorten content)) rest
  | .boundary :: rest => .boundary :: squeezeAlong (gap.pass .boundary) rest
  | .inlineVoid :: rest => .inlineVoid :: squeezeAlong (gap.pass .inlineVoid) rest

/-- Texts are settled from right to left, with what lies after them in view. -/
def settleAlong (edge : Edge) : List Landmark → Edge × List Landmark
  | [] => (edge, [])
  | .text content :: rest =>
      let others := settleAlong edge rest
      if others.1.drops content then (.inline, others.2)
      else (.inline, .text (others.1.shorten content) :: others.2)
  | .boundary :: rest => (.boundary, .boundary :: (settleAlong edge rest).2)
  | .inlineVoid :: rest => (.inline, .inlineVoid :: (settleAlong edge rest).2)

theorem squeezeAlong_landmarks (gap : Gap) (separation : Separation) (rest : List Landmark) :
    squeezeAlong gap (separation.landmarks ++ rest) =
      separation.landmarks ++ squeezeAlong (gap.pass separation) rest := by
  cases separation <;> rfl

theorem settleAlong_landmarks (edge : Edge) (separation : Separation) (rest : List Landmark) :
    settleAlong edge (separation.landmarks ++ rest) =
      ((settleAlong edge rest).1.pass separation,
        separation.landmarks ++ (settleAlong edge rest).2) := by
  cases separation <;> rfl

mutual

theorem landmarks_squeezeFrom (gap : Gap) (rest : List Landmark) : (node : Node) →
    landmarksOf (node.squeezeFrom gap).2.toList ++ squeezeAlong (node.squeezeFrom gap).1 rest =
      squeezeAlong gap (node.landmarks ++ rest)
  | .text kind content => by
      simp only [Node.squeezeFrom, Node.landmarks, List.singleton_append, squeezeAlong]
      split <;> rfl
  | .mark kind content => rfl
  | .element tag children => by
      simp only [Node.squeezeFrom, Node.landmarks]
      split
      · next preformatted =>
          rw [List.append_assoc, squeezeAlong_landmarks, squeezeAlong_landmarks, Gap.pass_pass]
          simp [landmarksOf, Node.landmarks, preformatted]
      · next other =>
          rw [List.append_assoc, List.append_assoc, squeezeAlong_landmarks,
            ← landmarksOf_squeezeAll _ _ children, squeezeAlong_landmarks]
          simp [landmarksOf, Node.landmarks, other]

/-- Squeezing the nodes is squeezing what is met on the way through them. -/
theorem landmarksOf_squeezeAll (gap : Gap) (rest : List Landmark) : (nodes : List Node) →
    landmarksOf (squeezeAll gap nodes).2 ++ squeezeAlong (squeezeAll gap nodes).1 rest =
      squeezeAlong gap (landmarksOf nodes ++ rest)
  | [] => rfl
  | node :: others => by
      rw [squeezeAll, landmarksOf_append, landmarksOf, List.append_assoc, List.append_assoc,
        ← landmarks_squeezeFrom gap _ node, ← landmarksOf_squeezeAll _ rest others]

end

mutual

theorem landmarks_settleBefore (edge : Edge) (rest : List Landmark) : (node : Node) →
    settleAlong edge (node.landmarks ++ rest) =
      ((node.settleBefore (settleAlong edge rest).1).1,
        landmarksOf (node.settleBefore (settleAlong edge rest).1).2.toList ++
          (settleAlong edge rest).2)
  | .text kind content => by
      simp only [Node.settleBefore, Node.landmarks, List.singleton_append, settleAlong]
      split <;> rfl
  | .mark kind content => rfl
  | .element tag children => by
      simp only [Node.settleBefore, Node.landmarks]
      split
      · next preformatted =>
          rw [List.append_assoc, settleAlong_landmarks, settleAlong_landmarks, Edge.pass_pass]
          simp [landmarksOf, Node.landmarks, preformatted]
      · next other =>
          rw [List.append_assoc, List.append_assoc, settleAlong_landmarks,
            landmarksOf_settleAll _ _ children, settleAlong_landmarks]
          simp [landmarksOf, Node.landmarks, other]

/-- Settling the nodes is settling what is met on the way through them. -/
theorem landmarksOf_settleAll (edge : Edge) (rest : List Landmark) : (nodes : List Node) →
    settleAlong edge (landmarksOf nodes ++ rest) =
      ((settleAll (settleAlong edge rest).1 nodes).1,
        landmarksOf (settleAll (settleAlong edge rest).1 nodes).2 ++ (settleAlong edge rest).2)
  | [] => rfl
  | node :: others => by
      rw [landmarksOf, List.append_assoc, landmarks_settleBefore edge _ node,
        landmarksOf_settleAll edge rest others]
      simp only [settleAll, landmarksOf_append, List.append_assoc]

end

/-- Both passes, with what lies before the nodes and what lies after them. -/
def collapseBetween (gap : Gap) (edge : Edge) (nodes : List Node) : List Node :=
  (settleAll edge (squeezeAll gap nodes).2).2

theorem landmarksOf_collapseBetween (gap : Gap) (edge : Edge) (nodes : List Node) :
    landmarksOf (collapseBetween gap edge nodes) =
      (settleAlong edge (squeezeAlong gap (landmarksOf nodes))).2 := by
  have squeezed := landmarksOf_squeezeAll gap [] nodes
  have settled := landmarksOf_settleAll edge [] (squeezeAll gap nodes).2
  simp only [squeezeAlong, List.append_nil] at squeezed
  simp only [settleAlong, List.append_nil] at settled
  rw [collapseBetween, ← squeezed, settled]

/-! ## Normal stretches -/

/-- The gap after a text knows whether the text ends in a run. -/
theorem Gap.dropsLeadingSpace_afterText {gap : Gap} {content : Text}
    (noVoid : gap.afterVoid = false) (nonempty : gap.shorten content ≠ []) :
    (gap.afterText (gap.shorten content)).dropsLeadingSpace =
      Text.endsInRun gap.dropsLeadingSpace content := by
  rw [Gap.shorten_eq] at nonempty ⊢
  rw [← Text.endsWithSpace_squeezeAfter nonempty]
  simp only [Gap.afterText, Gap.dropsLeadingSpace, noVoid]
  cases Text.endsWithSpace _ <;> rfl

/-- What becomes of the first stretch, which goes on from a gap. -/
structure Continues (gap : Gap) (edge : Edge) (before after : List Landmark) : Prop where
  text : textAlong after =
    Text.dropTrailingSpace (Text.squeezeAfter gap.dropsLeadingSpace (textAlong before))
  edge : edge = .inline ↔ Text.squeezeAfter gap.dropsLeadingSpace (textAlong before) ≠ []

/-- A stretch without inline void elements comes out with a normal text. -/
def BecomesNormal (before after : List Landmark) : Prop :=
  .inlineVoid ∉ before →
    textAlong after = Text.normal (textAlong before) ∧ (textAlong after).IsNormal

theorem Continues.becomesNormal {edge : Edge} {before after : List Landmark}
    (continues : .inlineVoid ∉ before → Continues .atBoundary edge before after) :
    BecomesNormal before after := by
  intro noVoid
  have text := (continues noVoid).text
  rw [show Gap.atBoundary.dropsLeadingSpace = true from rfl, ← Text.normal_eq] at text
  exact ⟨text, text ▸ Text.isNormal_normal _⟩

/-- The text of a stretch that begins with a text, if an edge is known after it. -/
theorem Continues.text_cons {gap : Gap} {edge : Edge} {content : Text}
    {before after : List Landmark} (nonempty : gap.shorten content ≠ [])
    (noVoid : gap.afterVoid = false)
    (rest : Continues (gap.afterText (gap.shorten content)) edge before after) :
    Text.dropTrailingSpace
        (Text.squeezeAfter gap.dropsLeadingSpace (content ++ textAlong before)) =
      edge.shorten (gap.shorten content) ++ textAlong after := by
  have text := rest.text
  have visible := rest.edge
  rw [Gap.dropsLeadingSpace_afterText noVoid nonempty] at text visible
  rw [Text.squeezeAfter_append, ← Gap.shorten_eq, text]
  by_cases nothing :
      Text.squeezeAfter (Text.endsInRun gap.dropsLeadingSpace content) (textAlong before) = []
  · have closed : edge ≠ .inline := fun inner => visible.1 inner nothing
    rw [nothing, Edge.shorten_of_ne_inline closed, List.append_nil]
    exact (List.append_nil _).symm
  · have inner : edge = .inline := visible.2 nothing
    rw [inner, Text.dropTrailingSpace_append nothing]
    rfl

/-- Collapsing takes stretch to stretch: the first goes on from the gap, and all
later ones are normal unless an inline void element stands in them. -/
def Collapsed (gap : Gap) (before : List Landmark) (edge : Edge) (after : List Landmark) : Prop :=
  ∃ first others first' others',
    stretches before = first :: others ∧ stretches after = first' :: others' ∧
      (.inlineVoid ∉ first → gap.afterVoid = false → Continues gap edge first first') ∧
        List.Forall₂ BecomesNormal others others'

namespace Collapsed

variable {gap : Gap} {edge : Edge} {before after : List Landmark}

theorem boundary (rest : Collapsed .atBoundary before edge after) :
    Collapsed gap (.boundary :: before) .boundary (.boundary :: after) := by
  obtain ⟨first, others, first', others', shape, shape', continues, normal⟩ := rest
  refine ⟨[], first :: others, [], first' :: others', ?_, ?_, fun _ _ => ⟨rfl, ?_⟩,
    .cons (Continues.becomesNormal fun noVoid => continues noVoid rfl) normal⟩
  · rw [stretches, shape]
  · rw [stretches, shape']
  · simp [textAlong, Text.squeezeAfter]

theorem inlineVoid {gap' : Gap} (rest : Collapsed gap' before edge after) :
    Collapsed gap (.inlineVoid :: before) .inline (.inlineVoid :: after) := by
  obtain ⟨first, others, first', others', shape, shape', -, normal⟩ := rest
  refine ⟨.inlineVoid :: first, others, .inlineVoid :: first', others', ?_, ?_, ?_, normal⟩
  · simp [stretches, shape]
  · simp [stretches, shape']
  · intro noVoid
    exact absurd List.mem_cons_self noVoid

/-- A text of which nothing is left leaves the gap as it is. -/
theorem emptied {content : Text} (nothing : gap.shorten content = [])
    (rest : Collapsed gap before edge after) :
    Collapsed gap (.text content :: before) edge after := by
  obtain ⟨first, others, first', others', shape, shape', continues, normal⟩ := rest
  refine ⟨.text content :: first, others, first', others', by simp [stretches, shape], shape',
    fun noVoid inline => ?_, normal⟩
  obtain ⟨text, visible⟩ := continues (fun member => noVoid (.tail _ member)) inline
  rw [Gap.shorten_eq] at nothing
  have whole : Text.squeezeAfter gap.dropsLeadingSpace (content ++ textAlong first) =
      Text.squeezeAfter gap.dropsLeadingSpace (textAlong first) := by
    rw [Text.squeezeAfter_append, nothing, Text.endsInRun_of_squeezeAfter_eq_nil nothing]
    rfl
  exact ⟨by rw [textAlong, whole, text], by rw [textAlong, whole, visible]⟩

theorem text {content : Text} (nonempty : gap.shorten content ≠ [])
    (rest : Collapsed (gap.afterText (gap.shorten content)) before edge after) :
    Collapsed gap (.text content :: before) .inline
      (if edge.drops (gap.shorten content) then after
        else .text (edge.shorten (gap.shorten content)) :: after) := by
  obtain ⟨first, others, first', others', shape, shape', continues, normal⟩ := rest
  have visible : Text.squeezeAfter gap.dropsLeadingSpace (content ++ textAlong first) ≠ [] := by
    rw [Text.squeezeAfter_append, ← Gap.shorten_eq]
    exact List.append_ne_nil_of_left_ne_nil nonempty _
  have whole (noVoid : .inlineVoid ∉ .text content :: first) (inline : gap.afterVoid = false) :=
    (continues (fun member => noVoid (.tail _ member)) inline).text_cons nonempty inline
  split
  · next dropped =>
      have gone : edge.shorten (gap.shorten content) = [] := by
        rw [Edge.drops, Bool.and_eq_true] at dropped
        exact List.isEmpty_iff.1 dropped.2
      refine ⟨.text content :: first, others, first', others', by simp [stretches, shape], shape',
        fun noVoid inline => ⟨?_, by simpa [textAlong] using visible⟩, normal⟩
      rw [textAlong, whole noVoid inline, gone]
      rfl
  · refine ⟨.text content :: first, others, .text (edge.shorten (gap.shorten content)) :: first',
      others', by simp [stretches, shape], by simp [stretches, shape'],
      fun noVoid inline => ⟨?_, by simpa [textAlong] using visible⟩, normal⟩
    exact (whole noVoid inline).symm

end Collapsed

/-- The gap before a landmark is known from the left, the edge behind it from
what the landmarks on its right have become. -/
theorem collapsed_along (gap : Gap) {outer : Edge} (closed : outer ≠ .inline)
    (landmarks : List Landmark) :
    Collapsed gap landmarks (settleAlong outer (squeezeAlong gap landmarks)).1
      (settleAlong outer (squeezeAlong gap landmarks)).2 := by
  induction landmarks generalizing gap with
  | nil =>
      refine ⟨[], [], [], [], rfl, rfl, fun _ _ => ⟨rfl, ?_⟩, .nil⟩
      simpa [settleAlong, squeezeAlong, textAlong, Text.squeezeAfter] using closed
  | cons landmark rest ih =>
      cases landmark with
      | boundary => exact (ih .atBoundary).boundary
      | inlineVoid => exact (ih (gap.pass .inlineVoid)).inlineVoid
      | text content =>
          by_cases nothing : gap.shorten content = []
          · have gone : squeezeAlong gap (.text content :: rest) = squeezeAlong gap rest := by
              simp [squeezeAlong, nothing]
            rw [gone]
            exact (ih gap).emptied nothing
          · have kept : squeezeAlong gap (.text content :: rest) = .text (gap.shorten content) ::
                squeezeAlong (gap.afterText (gap.shorten content)) rest := by
              simp [squeezeAlong, nothing]
            have both := (ih (gap.afterText (gap.shorten content))).text nothing
            rw [kept, settleAlong]
            simp only [apply_ite Prod.fst, apply_ite Prod.snd, ite_self]
            exact both

/-- Every stretch without an inline void element has come out normal. -/
def NormalStretches (before after : List Node) : Prop :=
  List.Forall₂ BecomesNormal (stretches (landmarksOf before)) (stretches (landmarksOf after))

theorem normalStretches_collapseBetween {outer : Edge} (closed : outer ≠ .inline)
    (nodes : List Node) : NormalStretches nodes (collapseBetween .atBoundary outer nodes) := by
  obtain ⟨first, others, first', others', shape, shape', continues, normal⟩ :=
    collapsed_along .atBoundary closed (landmarksOf nodes)
  rw [NormalStretches, landmarksOf_collapseBetween, shape, shape']
  exact .cons (Continues.becomesNormal fun noVoid => continues noVoid rfl) normal

/-- Below any root that is not preformatted, and in a whole document, collapsing
makes the text of every stretch normal. -/
theorem collapse_normalStretches :
    (∀ tag children, tag.isPreformatted = false →
      NormalStretches children (Node.element tag children).collapse.children) ∧
        ∀ document : Document, NormalStretches document.nodes document.collapse.nodes := by
  have finish (nodes : List Node) : NormalStretches nodes (collapseChildren nodes) :=
    normalStretches_collapseBetween Edge.noConfusion nodes
  refine ⟨fun tag children other => ?_, fun document => finish document.nodes⟩
  have shape : (Node.element tag children).collapse.children = collapseChildren children := by
    simp [Node.collapse, other, Node.children]
  rw [shape]
  exact finish children

/-- Spacing at the edges, in a nested element and around a mark, and a block. -/
def looseChildren : List Node :=
  let tag (name : String) : Tag := { name := name, attributes := [] }
  let words (content : String) : Node := .text .plain content.toList
  [words "\n one ", .element (tag "em") [words " two\t", .mark .comment "no".toList], words " ",
    .element (tag "p") [words " three"], words "\n"]

theorem looseChildren_normalStretches :
    NormalStretches looseChildren
        (Node.element { name := "div", attributes := [] } looseChildren).collapse.children ∧
      (stretches (landmarksOf looseChildren)).map textAlong =
        ["\n one  two\t ".toList, " three".toList, "\n".toList] ∧
      (stretches (landmarksOf
        (Node.element { name := "div", attributes := [] } looseChildren).collapse.children)).map
          textAlong = ["one two".toList, "three".toList, []] :=
  ⟨collapse_normalStretches.1 _ _ (by decide +kernel), by decide +kernel, by decide +kernel⟩

end PageMark
