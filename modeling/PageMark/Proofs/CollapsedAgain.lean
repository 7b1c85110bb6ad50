import PageMark.Proofs.BlockByBlock
import PageMark.Proofs.Joints

/-!
# Collapsing once more

What has been collapsed is squeezed, so squeezing it again takes out nothing but the
empty texts that were left before boundaries.  Settling it again changes nothing if
no space was left at an edge; and that happens only behind an inline void element,
where a text of spacing alone vanishes after one that ends in spacing.
-/

namespace PageMark

/-! ## Squeezing again -/

namespace Text

/-- A part at the start of a squeezed text is squeezed. -/
theorem squeezeAfter_of_append {inRun : Bool} {left right : Text}
    (squeezed : squeezeAfter inRun (left ++ right) = left ++ right) :
    squeezeAfter inRun left = left := by
  induction left generalizing inRun with
  | nil => rfl
  | cons character rest ih =>
      rw [List.cons_append] at squeezed
      cases spacing : isSpacing character with
      | true =>
          cases inRun with
          | true =>
              have start := startsWithSpacing_squeezeAfter (character :: (rest ++ right))
              rw [squeezed, startsWithSpacing, spacing] at start
              cases start
          | false =>
              simp only [squeezeAfter, spacing, if_true, Bool.false_eq_true, if_false,
                List.cons.injEq] at squeezed ⊢
              exact ⟨squeezed.1, ih squeezed.2⟩
      | false =>
          simp only [squeezeAfter, spacing, Bool.false_eq_true, if_false, List.cons.injEq,
            true_and] at squeezed ⊢
          exact ih squeezed

end Text

theorem Edge.exists_shorten (edge : Edge) (content : Text) :
    ∃ tail, content = edge.shorten content ++ tail := by
  by_cases inner : edge = .inline
  · subst inner
    exact ⟨[], (List.append_nil content).symm⟩
  · obtain ⟨tail, whole⟩ := Text.exists_dropTrailingSpace content
    rw [shorten_of_ne_inline inner]
    exact ⟨tail, whole⟩

/-- After the same gap a settled text stays as it is. -/
theorem Gap.shorten_settled (gap : Gap) (edge : Edge) (content : Text) :
    gap.shorten (edge.shorten (gap.shorten content)) = edge.shorten (gap.shorten content) := by
  obtain ⟨tail, whole⟩ := edge.exists_shorten (gap.shorten content)
  have again : gap.shorten (gap.shorten content) = gap.shorten content := by
    rw [gap.shorten_eq, gap.shorten_eq, Text.squeezeAfter_squeezeAfter]
  rw [whole, gap.shorten_eq (edge.shorten _ ++ tail)] at again
  rw [gap.shorten_eq (edge.shorten _)]
  exact Text.squeezeAfter_of_append again

/-- Unless an edge comes next, the second time the gap is as it was the first time. -/
def SameBefore (edge : Edge) (gap gap' : Gap) : Prop :=
  edge = .inline → gap' = gap

theorem SameBefore.pass {edge : Edge} {separation : Separation} {gap gap' : Gap}
    (same : SameBefore (edge.pass separation) gap gap') :
    SameBefore edge (gap.pass separation) (gap'.pass separation) := by
  intro inner
  cases separation with
  | boundary => rfl
  | inlineVoid => rfl
  | none => exact same inner

/-- A text that stays as it is after a gap. -/
theorem squeezeAll_text {gap : Gap} {content : Text} (nonempty : content ≠ [])
    (same : gap.shorten content = content) (kind : TextKind) :
    squeezeAll gap [.text kind content] = (gap.afterText content, [.text kind content]) := by
  simp [squeezeAll, Node.squeezeFrom, same, nonempty, textAfter]

theorem squeezeAll_empty (gap : Gap) (kind : TextKind) :
    squeezeAll gap [.text kind []] = (gap, []) := by
  simp [squeezeAll, Node.squeezeFrom, gap.shorten_nil]

/-- What a squeezed text has become is squeezed again. -/
theorem squeezeAll_settled_text {gap : Gap} (edge : Edge) (kind : TextKind) {content : Text}
    (nonempty : gap.shorten content ≠ []) :
    (squeezeAll gap (settleAll edge [.text kind (gap.shorten content)]).2).2 =
        withoutEmptyTexts (settleAll edge [.text kind (gap.shorten content)]).2 ∧
      SameBefore edge (gap.afterText (gap.shorten content))
        (squeezeAll gap (settleAll edge [.text kind (gap.shorten content)]).2).1 := by
  have again := gap.shorten_settled edge content
  by_cases empty : edge.shorten (gap.shorten content) = []
  · have closed : edge ≠ .inline := by
      rintro rfl
      exact nonempty empty
    cases dropped : edge.drops (gap.shorten content) with
    | true =>
        have settled : (settleAll edge [.text kind (gap.shorten content)]).2 = [] := by
          simp [settleAll, Node.settleBefore, dropped]
        rw [settled]
        exact ⟨rfl, fun inner => absurd inner closed⟩
    | false =>
        obtain ⟨kind', settled⟩ : ∃ kind',
            (settleAll edge [.text kind (gap.shorten content)]).2 = [.text kind' []] := by
          simp [settleAll, Node.settleBefore, dropped, empty, textAfter]
        rw [settled, squeezeAll_empty]
        exact ⟨rfl, fun inner => absurd inner closed⟩
  · have dropped : edge.drops (gap.shorten content) = false := by
      rw [Edge.drops, Bool.eq_false_iff.2 (mt List.isEmpty_iff.1 empty), Bool.and_false]
    obtain ⟨kind', settled⟩ : ∃ kind', (settleAll edge [.text kind (gap.shorten content)]).2 =
        [.text kind' (edge.shorten (gap.shorten content))] := by
      simp [settleAll, Node.settleBefore, dropped, textAfter]
    rw [settled, squeezeAll_text empty again]
    refine ⟨by simp [withoutEmptyTexts, Node.withoutEmptyTexts, empty], ?_⟩
    rintro rfl
    rfl

mutual

theorem Node.squeezeAll_collapsed {gap gap' : Gap} {edge : Edge} : (node : Node) →
    SameBefore (settleAll edge (node.squeezeFrom gap).2.toList).1 gap gap' →
      (squeezeAll gap' (settleAll edge (node.squeezeFrom gap).2.toList).2).2 =
          PageMark.withoutEmptyTexts (settleAll edge (node.squeezeFrom gap).2.toList).2 ∧
        SameBefore edge (node.squeezeFrom gap).1
          (squeezeAll gap' (settleAll edge (node.squeezeFrom gap).2.toList).2).1
  | .text kind content => by
      intro same
      by_cases nothing : gap.shorten content = []
      · simp only [Node.squeezeFrom, nothing] at same ⊢
        exact ⟨rfl, same⟩
      · simp only [Node.squeezeFrom, List.isEmpty_iff, nothing, if_false] at same ⊢
        obtain rfl : gap' = gap := same (Node.settleBefore_text_fst edge _ _)
        exact squeezeAll_settled_text edge _ nothing
  | .mark kind content => fun same => ⟨rfl, same⟩
  | .element tag children => by
      intro same
      cases preformatted : tag.isPreformatted with
      | true =>
          simp only [Node.squeezeFrom, Node.settleBefore, settleAll, preformatted, if_true,
            Option.toList_some, List.append_nil, squeezeAll] at same ⊢
          exact ⟨by simp [withoutEmptyTexts, Node.withoutEmptyTexts, preformatted], same.pass⟩
      | false =>
          simp only [Node.squeezeFrom, Node.settleBefore, settleAll, preformatted, if_false,
            Bool.false_eq_true, Option.toList_some, List.append_nil, squeezeAll] at same ⊢
          obtain ⟨inside, after⟩ := squeezeAll_collapsed children same.pass
          refine ⟨?_, after.pass⟩
          simp [PageMark.withoutEmptyTexts, Node.withoutEmptyTexts, preformatted, inside]

/-- The second time nothing is squeezed away but empty texts. -/
theorem squeezeAll_collapsed {gap gap' : Gap} {edge : Edge} : (nodes : List Node) →
    SameBefore (settleAll edge (squeezeAll gap nodes).2).1 gap gap' →
      (squeezeAll gap' (settleAll edge (squeezeAll gap nodes).2).2).2 =
          withoutEmptyTexts (settleAll edge (squeezeAll gap nodes).2).2 ∧
        SameBefore edge (squeezeAll gap nodes).1
          (squeezeAll gap' (settleAll edge (squeezeAll gap nodes).2).2).1
  | [] => fun same => ⟨rfl, same⟩
  | node :: rest => by
      rw [squeezeAll, settleAll_append]
      intro same
      obtain ⟨first, between⟩ := node.squeezeAll_collapsed same
      obtain ⟨others, after⟩ := squeezeAll_collapsed rest between
      rw [squeezeAll_append, withoutEmptyTexts_append]
      exact ⟨congrArg₂ (· ++ ·) first others, after⟩

end

/-! ## Settling again -/

/-- No text that is the last one before an edge ends in a space. -/
def EndsTightly : List Landmark → Prop
  | [] => True
  | .text content :: rest =>
      (reachesEdge rest = true → Text.endsWithSpace content = false) ∧ EndsTightly rest
  | _ :: rest => EndsTightly rest

theorem EndsTightly.of_append {left right : List Landmark}
    (tight : EndsTightly (left ++ right)) : EndsTightly right := by
  induction left with
  | nil => exact tight
  | cons landmark rest ih =>
      cases landmark with
      | text content => exact ih tight.2
      | boundary => exact ih tight
      | inlineVoid => exact ih tight

/-- An edge is known to come next where one does. -/
def KnownBefore (edge : Edge) (rest : List Landmark) : Prop :=
  edge ≠ .inline → reachesEdge rest = true

theorem KnownBefore.pass {edge : Edge} {rest : List Landmark} (known : KnownBefore edge rest)
    (separation : Separation) :
    KnownBefore (edge.pass separation) (separation.landmarks ++ rest) := by
  intro closed
  cases separation with
  | boundary => rfl
  | inlineVoid => exact absurd rfl closed
  | none => exact known closed

theorem Text.dropTrailingSpace_of_not_endsWithSpace {text : Text}
    (tight : endsWithSpace text = false) : dropTrailingSpace text = text := by
  rcases List.eq_nil_or_concat' text with rfl | ⟨before, last, rfl⟩
  · rfl
  · have other : last ≠ ' ' := by
      rintro rfl
      simp [endsWithSpace, startsWithSpace] at tight
    simp [dropTrailingSpace, dropLeadingSpace, other]

/-- A text that does not end in a space before an edge stays as it is. -/
theorem Edge.shorten_of_tight {edge : Edge} {content : Text}
    (tight : edge ≠ .inline → Text.endsWithSpace content = false) :
    edge.shorten content = content := by
  by_cases inner : edge = .inline
  · rw [inner]
    rfl
  · rw [shorten_of_ne_inline inner, Text.dropTrailingSpace_of_not_endsWithSpace (tight inner)]

section Element

variable {tag : Tag} (edge : Edge) (children : List Node)

theorem settleAll_preformatted (preformatted : tag.isPreformatted = true) :
    settleAll edge [.element tag children] =
      (edge.pass tag.separation, [.element tag children]) := by
  simp [settleAll, Node.settleBefore, preformatted]

theorem settleAll_element (other : tag.isPreformatted = false) :
    settleAll edge [.element tag children] =
      ((settleAll (edge.pass tag.separation) children).1.pass tag.separation,
        [.element tag (settleAll (edge.pass tag.separation) children).2]) := by
  simp [settleAll, Node.settleBefore, other]

end Element

mutual

theorem Node.settleAll_tight {edge : Edge} {rest : List Landmark}
    (known : KnownBefore edge rest) : (node : Node) → EndsTightly (node.landmarks ++ rest) →
      (settleAll edge node.withoutEmptyTexts).2 = node.withoutEmptyTexts ∧
        KnownBefore (settleAll edge node.withoutEmptyTexts).1 (node.landmarks ++ rest)
  | .text kind content => by
      intro tight
      by_cases empty : content = []
      · subst empty
        exact ⟨rfl, known⟩
      · have same : edge.shorten content = content :=
          Edge.shorten_of_tight fun closed => tight.1 (known closed)
        have kept : edge.drops content = false := by simp [Edge.drops, same, empty]
        simp only [Node.withoutEmptyTexts, List.isEmpty_iff, empty, if_false]
        simp [settleAll, Node.settleBefore, kept, same, textAfter, KnownBefore]
  | .mark kind content => fun _ => ⟨rfl, known⟩
  | .element tag children => by
      intro tight
      rw [Node.landmarks] at tight ⊢
      cases preformatted : tag.isPreformatted with
      | true =>
          have twice := (known.pass tag.separation).pass tag.separation
          rw [Edge.pass_pass, ← List.append_assoc] at twice
          rw [Node.withoutEmptyTexts, preformatted, if_pos rfl, if_pos rfl,
            settleAll_preformatted edge children preformatted]
          exact ⟨rfl, twice⟩
      | false =>
          rw [preformatted, if_neg Bool.false_ne_true, List.append_assoc, List.append_assoc]
            at tight
          obtain ⟨inside, before⟩ := settleAll_tight (known.pass tag.separation) children
            (EndsTightly.of_append tight)
          rw [Node.withoutEmptyTexts, preformatted, if_neg Bool.false_ne_true,
            if_neg Bool.false_ne_true, settleAll_element edge _ preformatted, inside,
            List.append_assoc, List.append_assoc]
          exact ⟨rfl, before.pass tag.separation⟩

/-- Without its empty texts, what ends tightly stays as it is. -/
theorem settleAll_tight {edge : Edge} {rest : List Landmark} (known : KnownBefore edge rest) :
    (nodes : List Node) → EndsTightly (landmarksOf nodes ++ rest) →
      (settleAll edge (withoutEmptyTexts nodes)).2 = withoutEmptyTexts nodes ∧
        KnownBefore (settleAll edge (withoutEmptyTexts nodes)).1 (landmarksOf nodes ++ rest)
  | [] => fun _ => ⟨rfl, known⟩
  | node :: others => by
      rw [landmarksOf, List.append_assoc, withoutEmptyTexts, settleAll_append]
      intro tight
      obtain ⟨behind, between⟩ := settleAll_tight known others tight.of_append
      obtain ⟨first, before⟩ := node.settleAll_tight between tight
      exact ⟨congrArg₂ (· ++ ·) first behind, before⟩

end

/-! ## Spaces left at edges -/

/-- Behind an inline void element nothing vanishes right after spacing. -/
def Joint.IsKept (joint : Joint) : Prop :=
  joint.afterVoid = true → Text.endsWithSpacing joint.left = true → joint.vanishes = false

instance (joint : Joint) : Decidable joint.IsKept :=
  inferInstanceAs (Decidable (joint.afterVoid = true → _ → joint.vanishes = false))

theorem Text.endsWithSpacing_of_endsWithSpace {text : Text} (space : endsWithSpace text = true) :
    endsWithSpacing text = true := by
  rw [endsWithSpace] at space
  rw [endsWithSpacing]
  cases shape : text.reverse with
  | nil =>
      rw [shape] at space
      cases space
  | cons last others =>
      by_cases own : last = ' '
      · rw [own]
        rfl
      · simp [shape, startsWithSpace, own] at space

theorem Edge.endsWithSpace_shorten {edge : Edge} (closed : edge ≠ .inline) (gap : Gap)
    (content : Text) : Text.endsWithSpace (edge.shorten (gap.shorten content)) = false := by
  rw [shorten_of_ne_inline closed, gap.shorten_eq, ← Bool.not_eq_true]
  intro space
  have spacing := Text.endsWithSpacing_of_endsWithSpace space
  rw [(Text.isSqueezed_squeezeAfter _ content).endsWithSpacing_dropTrailingSpace] at spacing
  cases spacing

/-- A text that is squeezed to a space, of which nothing is left before an edge, does not come
after a space. -/
theorem lastEndsInSpace_of_vanishing {gap : Gap} {last : Option Text} {content : Text}
    {atEdge : Bool}
    (kept : gap.afterVoid = true → ∀ left ∈ last,
      Joint.IsKept { left := left, right := content, afterVoid := true, atEdge := atEdge })
    (known : gap.afterVoid = true → gap.lastEndsInSpace = last.map Text.endsWithSpacing)
    (edge : gap.afterVoid = true → atEdge = true)
    (nonempty : gap.shorten content ≠ [])
    (spacing : ∀ character ∈ content, Text.isSpacing character = true) :
    gap.lastEndsInSpace ≠ some true := by
  intro space
  cases afterVoid : gap.afterVoid with
  | false =>
      have drops : gap.dropsLeadingSpace = true := by
        simp [Gap.dropsLeadingSpace, space, afterVoid]
      rw [gap.shorten_eq, drops] at nonempty
      exact nonempty (Text.squeezeAfter_eq_nil spacing)
  | true =>
      rw [known afterVoid] at space
      obtain ⟨left, before, ends⟩ := Option.map_eq_some_iff.1 space
      have stays := kept afterVoid left before rfl ends
      rw [Joint.vanishes, edge afterVoid, Bool.true_and, ← Bool.not_eq_true,
        List.all_eq_true] at stays
      exact stays spacing

theorem EndsTightly.settleText {edge : Edge} {content : Text} {rest : List Landmark}
    (tight : EndsTightly rest)
    (own : reachesEdge rest = true → Text.endsWithSpace (edge.shorten content) = false) :
    EndsTightly (edge.settleText content rest) := by
  rw [Edge.settleText]
  split
  · exact tight
  · exact ⟨own, tight⟩

/-- No edge comes next unless nothing is left of the text. -/
theorem Edge.shorten_of_reachesEdge {edge : Edge} {content : Text} {rest : List Landmark}
    (next : reachesEdge (edge.settleText content rest) = true) : edge.shorten content = [] := by
  rw [settleText] at next
  split at next
  · next dropped =>
      rw [drops, Bool.and_eq_true] at dropped
      exact List.isEmpty_iff.1 dropped.2
  · rw [reachesEdge, Bool.and_eq_true] at next
    exact List.isEmpty_iff.1 next.1

/-- One text in front of what has been collapsed. -/
theorem endsTightly_text {gap : Gap} {last : Option Text} {content : Text} {atEdge : Bool}
    {edge : Edge} {after : List Landmark}
    (kept : ∀ joint ∈ Joint.ofLast last content gap.afterVoid atEdge, joint.IsKept)
    (known : gap.afterVoid = true → gap.lastEndsInSpace = last.map Text.endsWithSpacing)
    (edgeNext : gap.afterVoid = true → edge ≠ .inline → atEdge = true)
    (nonempty : gap.shorten content ≠ []) (tight : EndsTightly after)
    (before : edge = .inline → reachesEdge after = true →
      Text.endsWithSpace (gap.shorten content) = false) :
    EndsTightly (edge.settleText (gap.shorten content) after) ∧
      (reachesEdge (edge.settleText (gap.shorten content) after) = true →
        gap.lastEndsInSpace ≠ some true) := by
  refine ⟨tight.settleText fun next => ?_, fun next => ?_⟩
  · by_cases inner : edge = .inline
    · have own := before inner next
      rwa [inner]
    · exact Edge.endsWithSpace_shorten inner gap content
  · have gone := Edge.shorten_of_reachesEdge next
    have closed : edge ≠ .inline := by
      rintro rfl
      exact nonempty gone
    rw [Edge.shorten_of_ne_inline closed, gap.shorten_eq,
      Text.dropTrailingSpace_squeezeAfter_eq_nil_iff] at gone
    refine lastEndsInSpace_of_vanishing (fun afterVoid left before => ?_) known
      (fun afterVoid => edgeNext afterVoid closed) nonempty gone
    refine kept _ (Joint.mem_ofLast_iff.2 ⟨left, before, ?_⟩)
    rw [afterVoid]

/-- What is collapsed ends tightly; and where nothing is left before an edge, although there
were texts, the last text before them does not end in a space. -/
theorem endsTightly_collapsed {outer : Edge} (closed : outer ≠ .inline) {gap : Gap}
    {last : Option Text} (landmarks : List Landmark)
    (kept : ∀ joint ∈ jointsFrom last gap.afterVoid landmarks, joint.IsKept)
    (known : gap.afterVoid = true → gap.lastEndsInSpace = last.map Text.endsWithSpacing) :
    EndsTightly (settleAlong outer (squeezeAlong gap landmarks)).2 ∧
      ((settleAlong outer (squeezeAlong gap landmarks)).1 = .inline →
        reachesEdge (settleAlong outer (squeezeAlong gap landmarks)).2 = true →
          gap.lastEndsInSpace ≠ some true) := by
  induction landmarks generalizing gap last with
  | nil => exact ⟨trivial, fun inner => absurd inner closed⟩
  | cons landmark rest ih =>
      cases landmark with
      | boundary => exact ⟨(@ih .atBoundary none kept (fun _ => rfl)).1, Edge.noConfusion⟩
      | inlineVoid =>
          refine ⟨(@ih (gap.pass .inlineVoid) none kept (fun _ => rfl)).1, fun _ edge => ?_⟩
          cases edge
      | text content =>
          by_cases empty : content = []
          · subst empty
            rw [squeezeAlong_text_of_nil gap.shorten_nil]
            exact ih kept known
          rw [jointsFrom, if_neg (by simpa using empty), List.forall_mem_append] at kept
          by_cases nothing : gap.shorten content = []
          · have inline := Gap.afterVoid_of_shorten_eq_nil empty nothing
            rw [squeezeAlong_text_of_nil nothing]
            exact ih kept.2 (by simp [inline])
          · have further (afterVoid : gap.afterVoid = true) :
                (gap.afterText (gap.shorten content)).lastEndsInSpace =
                  (some content).map Text.endsWithSpacing := by
              simp [Gap.afterText, Text.endsWithSpacing_eq, gap.shorten_afterVoid afterVoid]
            obtain ⟨tight, before⟩ :=
              @ih (gap.afterText (gap.shorten content)) (some content) kept.2 further
            obtain ⟨tight', before'⟩ := endsTightly_text kept.1 known
              (fun afterVoid => (@settleAlong_ne_inline_iff outer closed
                (gap.afterText (gap.shorten content)) afterVoid rest).1)
              nothing tight (fun inner next => by simpa [Gap.afterText] using before inner next)
            rw [settleAlong_squeezeAlong_text outer nothing]
            exact ⟨tight', fun _ => before'⟩

/-! ## Collapsing again -/

/-- What has been collapsed only loses its empty texts. -/
theorem collapseChildren_collapseChildren {nodes : List Node}
    (kept : ∀ joint ∈ jointsOf nodes, joint.IsKept) :
    collapseChildren (collapseChildren nodes) = withoutEmptyTexts (collapseChildren nodes) := by
  have squeezed : (squeezeAll .atBoundary (collapseChildren nodes)).2 =
      withoutEmptyTexts (collapseChildren nodes) :=
    (@squeezeAll_collapsed .atBoundary .atBoundary .finish nodes fun _ => rfl).1
  have tight : EndsTightly (landmarksOf (collapseChildren nodes) ++ []) := by
    have shape : landmarksOf (collapseChildren nodes) = _ :=
      landmarksOf_collapseBetween .atBoundary .finish nodes
    rw [List.append_nil, shape]
    exact (@endsTightly_collapsed .finish Edge.noConfusion .atBoundary none _ kept
      fun _ => rfl).1
  have known : KnownBefore .finish [] := fun _ => rfl
  calc collapseChildren (collapseChildren nodes)
      = (settleAll .finish (squeezeAll .atBoundary (collapseChildren nodes)).2).2 := rfl
    _ = (settleAll .finish (withoutEmptyTexts (collapseChildren nodes))).2 := by rw [squeezed]
    _ = withoutEmptyTexts (collapseChildren nodes) := (settleAll_tight known _ tight).1

/-- Unless a text of spacing alone vanishes behind an inline void element right after another
one that ends in spacing, collapsing once more deletes the empty texts outside of preformatted
elements and changes nothing else. -/
theorem collapse_again :
    (∀ tag children, (tag.isPreformatted = false → ∀ joint ∈ jointsOf children, joint.IsKept) →
      [(Node.element tag children).collapse.collapse] =
        (Node.element tag children).collapse.withoutEmptyTexts) ∧
    ∀ document : Document, (∀ joint ∈ jointsOf document.nodes, joint.IsKept) →
      document.collapse.collapse.nodes = withoutEmptyTexts document.collapse.nodes := by
  refine ⟨fun tag children kept => ?_, fun document kept => ?_⟩
  · cases preformatted : tag.isPreformatted with
    | true => simp [Node.collapse, Node.withoutEmptyTexts, preformatted]
    | false =>
        simp [Node.collapse, Node.withoutEmptyTexts, preformatted,
          collapseChildren_collapseChildren (kept preformatted)]
  · exact collapseChildren_collapseChildren kept

/-- Behind images a space before a paragraph, and texts with spaces on both sides. -/
def spacesBehindImages : List Node :=
  let tag (name : String) : Tag := { name := name, attributes := [] }
  let words (content : String) : Node := .text .plain content.toList
  [words " a ", .element (tag "img") [], words " ",
    .element (tag "p") [words "b ", .element (tag "em") [words " c"], words " "],
    .element (tag "img") [], words "d ", .element (tag "em") [words "\n e "]]

theorem spacesBehindImages_collapse_again :
    (∀ joint ∈ jointsOf spacesBehindImages, joint.IsKept) ∧
      [(Node.element { name := "div", attributes := [] } spacesBehindImages).collapse.collapse] =
        (Node.element { name := "div", attributes := [] }
          spacesBehindImages).collapse.withoutEmptyTexts ∧
      .text .plain [] ∈
        (Node.element { name := "div", attributes := [] }
          spacesBehindImages).collapse.children := by
  have kept : ∀ joint ∈ jointsOf spacesBehindImages, joint.IsKept := by decide +kernel
  exact ⟨kept, collapse_again.1 _ _ fun _ => kept, by decide +kernel⟩

/-- Behind an image a space after another one, before a line break. -/
def spacesBeforeBreak : List Node :=
  let tag (name : String) : Tag := { name := name, attributes := [] }
  let words (content : String) : Node := .text .plain content.toList
  [.element (tag "img") [], words "a ", .element (tag "em") [words " "], .element (tag "br") []]

/-- The empty text before the paragraph is deleted the second time; and the space before the
line break was left the first time. -/
theorem spaces_not_collapsed_once :
    (¬ ∀ tag children, (Node.element tag children).collapse.collapse =
      (Node.element tag children).collapse) ∧
    ¬ ∀ tag children, [(Node.element tag children).collapse.collapse] =
      (Node.element tag children).collapse.withoutEmptyTexts := by
  constructor
  · intro stable
    have children := congrArg Node.children
      (stable { name := "div", attributes := [] } spacesBehindImages)
    revert children
    decide +kernel
  · intro stable
    have same := stable { name := "p", attributes := [] } spacesBeforeBreak
    revert same
    decide +kernel

end PageMark
