import PageMark.Proofs.Stretches
import PageMark.Proofs.Words

/-!
# Where texts meet

Two texts meet if neither is empty and nothing but empty texts stands between them.
Up to the first inline void element of a stretch, collapsing leaves no space on
both sides of a joint.  Behind it every text keeps the space at its start, however
the text before ends, and so a space is doubled where there was spacing on both
sides.
-/

namespace PageMark

/-- Two texts that meet: whether an inline void element has come since the last boundary,
and whether a boundary or the end comes next. -/
structure Joint where
  left : Text
  right : Text
  afterVoid : Bool
  atEdge : Bool
deriving DecidableEq

/-- Nothing but empty texts comes before the next boundary or the end. -/
def reachesEdge : List Landmark → Bool
  | [] => true
  | .text content :: rest => content.isEmpty && reachesEdge rest
  | .boundary :: _ => true
  | .inlineVoid :: _ => false

namespace Joint

/-- There is no joint before the first text. -/
def ofLast (last : Option Text) (right : Text) (afterVoid atEdge : Bool) : List Joint :=
  (last.map fun left =>
    { left := left, right := right, afterVoid := afterVoid, atEdge := atEdge }).toList

theorem mem_ofLast_iff {last : Option Text} {right : Text} {afterVoid atEdge : Bool}
    {joint : Joint} :
    joint ∈ ofLast last right afterVoid atEdge ↔
      ∃ left ∈ last, joint =
        { left := left, right := right, afterVoid := afterVoid, atEdge := atEdge } := by
  cases last <;> simp [ofLast]

/-- A space on both sides. -/
def isDoubled (joint : Joint) : Bool :=
  Text.endsWithSpace joint.left && Text.startsWithSpace joint.right

/-- Spacing on both sides. -/
def isLoose (joint : Joint) : Bool :=
  Text.endsWithSpacing joint.left && Text.startsWithSpacing joint.right

/-- Of the second text, which is the last one before an edge, nothing will be left. -/
def vanishes (joint : Joint) : Bool :=
  joint.atEdge && joint.right.all Text.isSpacing

end Joint

/-- The joints on the way, with the last text before it. -/
def jointsFrom (last : Option Text) (afterVoid : Bool) : List Landmark → List Joint
  | [] => []
  | .text content :: rest =>
      if content.isEmpty then jointsFrom last afterVoid rest
      else
        Joint.ofLast last content afterVoid (reachesEdge rest) ++
          jointsFrom (some content) afterVoid rest
  | .boundary :: rest => jointsFrom none false rest
  | .inlineVoid :: rest => jointsFrom none true rest

/-- The joints among these nodes and below them, in document order. -/
def jointsOf (nodes : List Node) : List Joint :=
  jointsFrom none false (landmarksOf nodes)

/-! ## Edges -/

/-- Right before an edge it does not matter which text is the last. -/
theorem jointsFrom_of_reachesEdge {landmarks : List Landmark}
    (edge : reachesEdge landmarks = true) (last last' : Option Text) (afterVoid : Bool) :
    jointsFrom last afterVoid landmarks = jointsFrom last' afterVoid landmarks := by
  induction landmarks with
  | nil => rfl
  | cons landmark rest ih =>
      cases landmark with
      | boundary => rfl
      | inlineVoid => cases edge
      | text content =>
          rw [reachesEdge, Bool.and_eq_true] at edge
          rw [jointsFrom, jointsFrom, if_pos edge.1, if_pos edge.1, ih edge.2]

theorem reachesEdge_settleAlong {outer : Edge} {landmarks : List Landmark}
    (closed : (settleAlong outer landmarks).1 ≠ .inline) :
    reachesEdge (settleAlong outer landmarks).2 = true := by
  cases landmarks with
  | nil => rfl
  | cons landmark rest =>
      cases landmark with
      | boundary => rfl
      | inlineVoid => exact absurd rfl closed
      | text content =>
          refine absurd ?_ closed
          simp only [settleAlong, apply_ite Prod.fst, ite_self]

/-- Behind an inline void element no text is squeezed away. -/
theorem Gap.shorten_afterVoid {gap : Gap} (afterVoid : gap.afterVoid = true) (content : Text) :
    gap.shorten content = Text.squeeze content := by
  simp [Gap.shorten, Gap.dropsLeadingSpace, afterVoid]

theorem Gap.afterVoid_of_shorten_eq_nil {gap : Gap} {content : Text} (nonempty : content ≠ [])
    (nothing : gap.shorten content = []) : gap.afterVoid = false := by
  rw [← Bool.not_eq_true]
  intro afterVoid
  rw [gap.shorten_afterVoid afterVoid] at nothing
  exact nonempty (Text.squeezeAfter_false_eq_nil_iff.1 nothing)

/-- A squeezed text is settled in front of what comes after it. -/
def Edge.settleText (edge : Edge) (content : Text) (rest : List Landmark) : List Landmark :=
  if edge.drops content then rest else .text (edge.shorten content) :: rest

theorem settleAlong_squeezeAlong_text (outer : Edge) {gap : Gap} {content : Text}
    (nonempty : gap.shorten content ≠ []) (rest : List Landmark) :
    settleAlong outer (squeezeAlong gap (.text content :: rest)) =
      (.inline,
        (settleAlong outer (squeezeAlong (gap.afterText (gap.shorten content)) rest)).1.settleText
          (gap.shorten content)
          (settleAlong outer (squeezeAlong (gap.afterText (gap.shorten content)) rest)).2) := by
  rw [squeezeAlong, if_neg (by simpa using nonempty), settleAlong, Edge.settleText]
  split <;> rfl

theorem squeezeAlong_text_of_nil {gap : Gap} {content : Text} (nothing : gap.shorten content = [])
    (rest : List Landmark) :
    squeezeAlong gap (.text content :: rest) = squeezeAlong gap rest := by
  rw [squeezeAlong, nothing]
  rfl

/-- Behind an inline void element an edge is in view exactly where it was in view before. -/
theorem settleAlong_ne_inline_iff {outer : Edge} (closed : outer ≠ .inline) {gap : Gap}
    (afterVoid : gap.afterVoid = true) (landmarks : List Landmark) :
    (settleAlong outer (squeezeAlong gap landmarks)).1 ≠ .inline ↔
      reachesEdge landmarks = true := by
  induction landmarks with
  | nil => simpa [squeezeAlong, settleAlong, reachesEdge] using closed
  | cons landmark rest ih =>
      cases landmark with
      | boundary => simp [squeezeAlong, settleAlong, reachesEdge]
      | inlineVoid => simp [squeezeAlong, settleAlong, reachesEdge]
      | text content =>
          by_cases empty : content = []
          · subst empty
            rw [squeezeAlong_text_of_nil gap.shorten_nil, ih, reachesEdge]
            rfl
          · have nonempty : gap.shorten content ≠ [] := fun nothing =>
              absurd afterVoid (by simp [Gap.afterVoid_of_shorten_eq_nil empty nothing])
            rw [settleAlong_squeezeAlong_text outer nonempty]
            simp [reachesEdge, empty]

/-! ## One text -/

/-- A settled text makes one joint at most, and the next one as it was before. -/
theorem jointsFrom_settleText {edge : Edge} {content : Text} {rest : List Landmark}
    (nonempty : content ≠ []) (closed : edge ≠ .inline → reachesEdge rest = true)
    (last : Option Text) (afterVoid : Bool) :
    jointsFrom last afterVoid (edge.settleText content rest) =
      (if (edge.shorten content).isEmpty then []
        else Joint.ofLast last (edge.shorten content) afterVoid (reachesEdge rest)) ++
          jointsFrom (some content) afterVoid rest := by
  rw [Edge.settleText]
  by_cases inner : edge = .inline
  · subst inner
    have kept : Edge.drops .inline content = false := rfl
    rw [kept, if_neg Bool.false_ne_true, jointsFrom]
    simp [Edge.shorten, nonempty]
  · have same (last last' : Option Text) :=
      jointsFrom_of_reachesEdge (closed inner) last last' afterVoid
    cases empty : (edge.shorten content).isEmpty with
    | true =>
        have nothing : ∀ dropped : Bool, jointsFrom last afterVoid
            (if dropped then rest else .text (edge.shorten content) :: rest) =
              jointsFrom last afterVoid rest := by
          intro dropped
          cases dropped with
          | true => rfl
          | false => rw [if_neg Bool.false_ne_true, jointsFrom, if_pos empty]
        rw [nothing, same last (some content)]
        rfl
    | false =>
        have kept : edge.drops content = false := by rw [Edge.drops, empty, Bool.and_false]
        rw [kept, if_neg Bool.false_ne_true, jointsFrom, empty, if_neg Bool.false_ne_true,
          if_neg Bool.false_ne_true, same (some _) (some content)]

/-! ## Spaces at the edges of texts -/

namespace Text

theorem startsWithSpace_squeeze (text : Text) :
    startsWithSpace (squeeze text) = startsWithSpacing text := by
  cases text with
  | nil => rfl
  | cons character rest =>
      cases spacing : isSpacing character with
      | true => simp [squeeze, squeezeAfter, startsWithSpace, startsWithSpacing, spacing]
      | false =>
          have different := ne_space_of_not_isSpacing spacing
          simp [squeeze, squeezeAfter, startsWithSpace, startsWithSpacing, spacing, different]

theorem startsWithSpace_squeezeAfter_true (text : Text) :
    startsWithSpace (squeezeAfter true text) = false := by
  have start := startsWithSpacing_squeezeAfter text
  cases shape : squeezeAfter true text with
  | nil => rfl
  | cons character rest =>
      rw [shape] at start
      have different := ne_space_of_not_isSpacing start
      simp [startsWithSpace, different]

theorem startsWithSpace_dropTrailingSpace (text : Text) :
    startsWithSpace (dropTrailingSpace text) =
      (startsWithSpace text && !(dropTrailingSpace text).isEmpty) := by
  obtain ⟨tail, whole⟩ := exists_dropTrailingSpace text
  cases kept : dropTrailingSpace text with
  | nil => simp [startsWithSpace]
  | cons first rest =>
      rw [kept] at whole
      rw [whole]
      by_cases space : first = ' ' <;> simp [startsWithSpace, space]

/-- Nothing is left before an edge of spacing alone. -/
theorem dropTrailingSpace_squeezeAfter_eq_nil_iff {inRun : Bool} {text : Text} :
    dropTrailingSpace (squeezeAfter inRun text) = [] ↔
      ∀ character ∈ text, isSpacing character = true := by
  rw [← solid_eq_nil_iff]
  constructor
  · intro nothing
    rw [← solid_squeezeAfter inRun, ← solid_dropTrailingSpace, nothing]
    rfl
  · intro nothing
    have all := solid_eq_nil_iff.1 nothing
    cases text with
    | nil => rfl
    | cons character rest =>
        rw [List.forall_mem_cons] at all
        cases inRun <;> simp [squeezeAfter, all.1, squeezeAfter_eq_nil all.2, dropTrailingSpace,
          dropLeadingSpace]

end Text

theorem Edge.startsWithSpace_shorten (edge : Edge) (content : Text) :
    Text.startsWithSpace (edge.shorten content) =
      (Text.startsWithSpace content && !(edge.shorten content).isEmpty) := by
  by_cases inner : edge = .inline
  · subst inner
    cases content with
    | nil => rfl
    | cons first rest => exact (Bool.and_true _).symm
  · rw [shorten_of_ne_inline inner]
    exact Text.startsWithSpace_dropTrailingSpace content

/-! ## Before inline void elements -/

/-- A space is doubled behind an inline void element only. -/
theorem afterVoid_of_isDoubled (outer : Edge) {gap : Gap} {last : Option Text}
    (landmarks : List Landmark)
    (ends : gap.afterVoid = false →
      ∀ left ∈ last, Text.endsWithSpace left = true → gap.dropsLeadingSpace = true) :
    ∀ joint ∈ jointsFrom last gap.afterVoid (settleAlong outer (squeezeAlong gap landmarks)).2,
      joint.isDoubled = true → joint.afterVoid = true := by
  induction landmarks generalizing gap last with
  | nil => simp [squeezeAlong, settleAlong, jointsFrom]
  | cons landmark rest ih =>
      cases landmark with
      | boundary => exact @ih .atBoundary none (by simp)
      | inlineVoid => exact @ih (gap.pass .inlineVoid) none (by simp)
      | text content =>
          by_cases nothing : gap.shorten content = []
          · rw [squeezeAlong_text_of_nil nothing]
            exact ih ends
          · have further := @ih (gap.afterText (gap.shorten content)) (some (gap.shorten content))
              (by
                rintro inline _ ⟨⟩ space
                have inline : gap.afterVoid = false := inline
                simp [Gap.dropsLeadingSpace, Gap.afterText, space, inline])
            rw [settleAlong_squeezeAlong_text outer nothing,
              jointsFrom_settleText nothing reachesEdge_settleAlong]
            intro joint member doubled
            rcases List.mem_append.1 member with here | later
            · split at here
              · cases here
              · obtain ⟨left, known, rfl⟩ := Joint.mem_ofLast_iff.1 here
                rw [Joint.isDoubled, Bool.and_eq_true, Edge.startsWithSpace_shorten,
                  Bool.and_eq_true] at doubled
                rw [← Bool.not_eq_false]
                intro inline
                have starts := doubled.2.1
                rw [gap.shorten_eq, ends inline left known doubled.1,
                  Text.startsWithSpace_squeezeAfter_true] at starts
                cases starts
            · exact further joint later doubled

/-! ## Behind inline void elements -/

/-- What becomes of a joint behind an inline void element. -/
def Joint.squeezed (joint : Joint) : Option (Text × Text) :=
  if joint.vanishes then none
  else
    some (Text.squeeze joint.left,
      if joint.atEdge then Text.dropTrailingSpace (Text.squeeze joint.right)
      else Text.squeeze joint.right)

def Joint.texts (joint : Joint) : Text × Text :=
  (joint.left, joint.right)

theorem Joint.squeezed_eq {edge : Edge} {content : Text} (nonempty : content ≠ [])
    {atEdge : Bool} (known : edge ≠ .inline ↔ atEdge = true) (left : Text) (afterVoid : Bool) :
    Joint.squeezed ⟨left, content, afterVoid, atEdge⟩ =
      if (edge.shorten (Text.squeeze content)).isEmpty then none
      else some (Text.squeeze left, edge.shorten (Text.squeeze content)) := by
  cases atEdge with
  | false =>
      have inner : edge = .inline := by simpa using known
      have kept := mt Text.squeezeAfter_false_eq_nil_iff.1 nonempty
      simp [squeezed, vanishes, inner, Edge.shorten, Text.squeeze, kept]
  | true =>
      have gone : Text.dropTrailingSpace (Text.squeeze content) = [] ↔
          ∀ character ∈ content, Text.isSpacing character = true :=
        Text.dropTrailingSpace_squeezeAfter_eq_nil_iff
      rw [Edge.shorten_of_ne_inline (known.2 rfl)]
      by_cases spacing : ∀ character ∈ content, Text.isSpacing character = true
      · have vanishes : Joint.vanishes ⟨left, content, afterVoid, true⟩ = true := by
          simpa [Joint.vanishes] using spacing
        rw [squeezed, if_pos vanishes, if_pos (List.isEmpty_iff.2 (gone.2 spacing))]
      · have stays : ¬ Joint.vanishes ⟨left, content, afterVoid, true⟩ = true := by
          simpa [Joint.vanishes] using spacing
        rw [squeezed, if_neg stays, if_pos rfl,
          if_neg fun nothing => spacing (gone.1 (List.isEmpty_iff.1 nothing))]

/-- The joint that one text makes, before and after. -/
theorem map_texts_ofLast {edge : Edge} {content shorter : Text} {last last' : Option Text}
    {afterVoid atEdge : Bool} (nonempty : content ≠ [])
    (kept : afterVoid = true → shorter = Text.squeeze content)
    (same : afterVoid = true → last' = last.map Text.squeeze)
    (known : afterVoid = true → (edge ≠ .inline ↔ atEdge = true)) (atEdge' : Bool) :
    ((if (edge.shorten shorter).isEmpty then []
      else Joint.ofLast last' (edge.shorten shorter) afterVoid atEdge').filter
        Joint.afterVoid).map Joint.texts =
      ((Joint.ofLast last content afterVoid atEdge).filter Joint.afterVoid).filterMap
        Joint.squeezed := by
  cases afterVoid with
  | false =>
      have none (last : Option Text) (right : Text) (atEdge : Bool) :
          (Joint.ofLast last right false atEdge).filter Joint.afterVoid = [] := by
        cases last <;> rfl
      rw [none]
      split
      · rfl
      · rw [none]
        rfl
  | true =>
      rw [kept rfl, same rfl]
      cases last with
      | none => split <;> rfl
      | some left =>
          have one := Joint.squeezed_eq nonempty (known rfl) left true
          cases gone : (edge.shorten (Text.squeeze content)).isEmpty <;>
            simp [gone, one, Joint.ofLast, Joint.texts]

/-- Behind inline void elements every joint comes out squeezed on its own, unless it
vanishes. -/
theorem map_texts_jointsFrom {outer : Edge} (closed : outer ≠ .inline) {gap : Gap}
    {last last' : Option Text} (landmarks : List Landmark)
    (same : gap.afterVoid = true → last' = last.map Text.squeeze) :
    ((jointsFrom last' gap.afterVoid (settleAlong outer (squeezeAlong gap landmarks)).2).filter
        Joint.afterVoid).map Joint.texts =
      ((jointsFrom last gap.afterVoid landmarks).filter Joint.afterVoid).filterMap
        Joint.squeezed := by
  induction landmarks generalizing gap last last' with
  | nil => rfl
  | cons landmark rest ih =>
      cases landmark with
      | boundary => exact @ih .atBoundary none none (by simp)
      | inlineVoid => exact @ih (gap.pass .inlineVoid) none none (by simp)
      | text content =>
          by_cases empty : content = []
          · subst empty
            rw [squeezeAlong_text_of_nil gap.shorten_nil, jointsFrom, if_pos List.isEmpty_nil,
              ih same]
          · have kept : gap.afterVoid = true → gap.shorten content = Text.squeeze content :=
              fun afterVoid => gap.shorten_afterVoid afterVoid content
            rw [jointsFrom, if_neg (by simpa using empty), List.filter_append,
              List.filterMap_append]
            by_cases nothing : gap.shorten content = []
            · have inline := Gap.afterVoid_of_shorten_eq_nil empty nothing
              rw [squeezeAlong_text_of_nil nothing,
                ih (show gap.afterVoid = true → last' = (some content).map Text.squeeze by
                  simp [inline]), inline]
              cases last <;> rfl
            · have further := @ih (gap.afterText (gap.shorten content)) (some content)
                (some (gap.shorten content)) fun afterVoid => congrArg some (kept afterVoid)
              rw [settleAlong_squeezeAlong_text outer nothing,
                jointsFrom_settleText nothing reachesEdge_settleAlong, List.filter_append,
                List.map_append]
              refine congrArg₂ (· ++ ·) (map_texts_ofLast empty kept same ?_ _) further
              intro afterVoid
              exact settleAlong_ne_inline_iff closed (show (gap.afterText _).afterVoid = true from
                afterVoid) rest

/-! ## Doubled spaces -/

/-- Spaces are on both sides of a squeezed joint if spacing was there before. -/
theorem Joint.isLoose_of_squeezed {joint : Joint} {left right : Text}
    (squeezed : joint.squeezed = some (left, right)) :
    (Text.endsWithSpace left && Text.startsWithSpace right) = joint.isLoose := by
  rw [Joint.squeezed] at squeezed
  split at squeezed
  · cases squeezed
  · next stays =>
      simp only [Option.some.injEq, Prod.mk.injEq] at squeezed
      obtain ⟨rfl, rfl⟩ := squeezed
      rw [isLoose, Text.endsWithSpacing_eq, ← Text.startsWithSpace_squeeze]
      split
      · next atEdge =>
          have kept : (Text.dropTrailingSpace (Text.squeeze joint.right)).isEmpty = false := by
            rw [← Bool.not_eq_true, List.isEmpty_iff, Text.squeeze,
              Text.dropTrailingSpace_squeezeAfter_eq_nil_iff]
            simpa [vanishes, atEdge] using stays
          rw [Text.startsWithSpace_dropTrailingSpace, kept, Bool.not_false, Bool.and_true]
      · rfl

theorem Joint.exists_squeezed_iff {joint : Joint} :
    (∃ texts, joint.squeezed = some texts) ↔ joint.vanishes = false := by
  rw [squeezed]
  cases joint.vanishes <;> simp

/-- Where spaces are doubled: behind inline void elements only, and there wherever spacing
was on both sides and does not vanish. -/
structure DoublesBehindVoid (before after : List Node) : Prop where
  afterVoid : ∀ joint ∈ jointsOf after, joint.isDoubled = true → joint.afterVoid = true
  squeezed :
    ((jointsOf after).filter Joint.afterVoid).map Joint.texts =
      ((jointsOf before).filter Joint.afterVoid).filterMap Joint.squeezed
  doubled_iff :
    (∃ joint ∈ jointsOf after, joint.isDoubled = true) ↔
      ∃ joint ∈ jointsOf before,
        joint.afterVoid = true ∧ joint.isLoose = true ∧ joint.vanishes = false

theorem doublesBehindVoid_collapseBetween {outer : Edge} (closed : outer ≠ .inline)
    (nodes : List Node) : DoublesBehindVoid nodes (collapseBetween .atBoundary outer nodes) := by
  have shape := landmarksOf_collapseBetween .atBoundary outer nodes
  have behind : ∀ joint ∈ jointsOf (collapseBetween .atBoundary outer nodes),
      joint.isDoubled = true → joint.afterVoid = true := by
    rw [jointsOf, shape]
    exact @afterVoid_of_isDoubled outer .atBoundary none _ (by simp)
  have squeezed : ((jointsOf (collapseBetween .atBoundary outer nodes)).filter
      Joint.afterVoid).map Joint.texts =
        ((jointsOf nodes).filter Joint.afterVoid).filterMap Joint.squeezed := by
    rw [jointsOf, jointsOf, shape]
    exact @map_texts_jointsFrom outer closed .atBoundary none none _ (fun _ => rfl)
  refine ⟨behind, squeezed, ?_, ?_⟩
  · rintro ⟨joint, member, doubled⟩
    have listed : joint.texts ∈ ((jointsOf nodes).filter Joint.afterVoid).filterMap
        Joint.squeezed := by
      rw [← squeezed]
      exact List.mem_map_of_mem (List.mem_filter.2 ⟨member, behind joint member doubled⟩)
    obtain ⟨original, kept, becomes⟩ := List.mem_filterMap.1 listed
    obtain ⟨among, afterVoid⟩ := List.mem_filter.1 kept
    exact ⟨original, among, afterVoid, (Joint.isLoose_of_squeezed becomes).symm.trans doubled,
      Joint.exists_squeezed_iff.1 ⟨_, becomes⟩⟩
  · rintro ⟨original, among, afterVoid, loose, stays⟩
    obtain ⟨texts, becomes⟩ := Joint.exists_squeezed_iff.2 stays
    have listed : texts ∈ ((jointsOf (collapseBetween .atBoundary outer nodes)).filter
        Joint.afterVoid).map Joint.texts := by
      rw [squeezed]
      exact List.mem_filterMap.2 ⟨original, List.mem_filter.2 ⟨among, afterVoid⟩, becomes⟩
    obtain ⟨joint, kept, rfl⟩ := List.mem_map.1 listed
    exact ⟨joint, (List.mem_filter.1 kept).1, (Joint.isLoose_of_squeezed becomes).trans loose⟩

/-- Below any root that is not preformatted, and in a whole document, collapsing doubles
spaces behind inline void elements and nowhere else. -/
theorem collapse_doublesBehindVoid (nodes : List Node) :
    (∀ tag : Tag, tag.isPreformatted = false →
      DoublesBehindVoid nodes (Node.element tag nodes).collapse.children) ∧
    DoublesBehindVoid nodes (Document.collapse { nodes := nodes }).nodes := by
  have finish : DoublesBehindVoid nodes (collapseChildren nodes) :=
    doublesBehindVoid_collapseBetween Edge.noConfusion nodes
  refine ⟨fun tag other => ?_, finish⟩
  have shape : (Node.element tag nodes).collapse.children = collapseChildren nodes := by
    simp [Node.collapse, other, Node.children]
  rw [shape]
  exact finish

/-- Texts on both sides of an image, and behind it an element that begins with a space. -/
def imageChildren : List Node :=
  let tag (name : String) : Tag := { name := name, attributes := [] }
  let words (content : String) : Node := .text .plain content.toList
  [words "x ", .element (tag "em") [words " y "], .element (tag "img") [], words " a ",
    .element (tag "em") [words "\n b "], words " "]

theorem imageChildren_doublesBehindVoid :
    DoublesBehindVoid imageChildren
        (Node.element { name := "p", attributes := [] } imageChildren).collapse.children ∧
      (jointsOf (Node.element { name := "p", attributes := [] }
        imageChildren).collapse.children).map Joint.texts = [("x ".toList, "y ".toList), (" a ".toList, " b ".toList)] :=
  ⟨(collapse_doublesBehindVoid _).1 _ (by decide +kernel), by decide +kernel⟩

/-- Behind the image a space ends one text and begins the next one. -/
theorem imageChildren_double_space :
    ¬ ∀ (tag : Tag) (children : List Node), tag.isPreformatted = false →
      ∀ joint ∈ jointsOf (Node.element tag children).collapse.children,
        ¬ (Text.endsWithSpace joint.left = true ∧ Text.startsWithSpace joint.right = true) := by
  intro single
  have member : { left := " a ".toList, right := " b ".toList, afterVoid := true, atEdge := true } ∈
      jointsOf (Node.element { name := "p", attributes := [] }
        imageChildren).collapse.children := by
    decide +kernel
  exact single _ _ (by decide +kernel) _ member (by decide)

end PageMark
