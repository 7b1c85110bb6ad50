import PageMark.Proofs.InlineText
import PageMark.Proofs.Joints
import PageMark.Proofs.Openings

/-!
# Next to an element

What is met before a place in the tree may end in a text, and what is met from there
on may begin with one.  After collapsing there is no spacing on both sides, unless an
inline void element has come since the last boundary.
-/

namespace PageMark

/-! ## The texts on both sides -/

/-- The last text that is not empty, if nothing but texts came since; `last` came before. -/
def lastText (last : Option Text) : List Landmark → Option Text
  | [] => last
  | .text content :: rest => lastText (if content.isEmpty then last else some content) rest
  | _ :: rest => lastText none rest

/-- The first text that is not empty, if nothing but texts comes before. -/
def firstText : List Landmark → Option Text
  | .text content :: rest => if content.isEmpty then firstText rest else some content
  | _ => none

/-- Whether an inline void element has come since the last boundary. -/
def endsBehindVoid (afterVoid : Bool) : List Landmark → Bool
  | [] => afterVoid
  | .text _ :: rest => endsBehindVoid afterVoid rest
  | .boundary :: rest => endsBehindVoid false rest
  | .inlineVoid :: rest => endsBehindVoid true rest

theorem lastText_append (last : Option Text) (left right : List Landmark) :
    lastText last (left ++ right) = lastText (lastText last left) right := by
  induction left generalizing last with
  | nil => rfl
  | cons landmark rest ih => cases landmark <;> exact ih _

theorem mem_of_lastText {last : Option Text} {landmarks : List Landmark} {content : Text}
    (ends : lastText last landmarks = some content) :
    last = some content ∨ .text content ∈ landmarks := by
  induction landmarks generalizing last with
  | nil => exact .inl ends
  | cons landmark rest ih =>
      cases landmark with
      | boundary => exact .inr (List.mem_cons_of_mem _ ((ih ends).resolve_left nofun))
      | inlineVoid => exact .inr (List.mem_cons_of_mem _ ((ih ends).resolve_left nofun))
      | text other =>
          rcases ih ends with before | later
          · split at before
            · exact .inl before
            · cases before
              exact .inr List.mem_cons_self
          · exact .inr (List.mem_cons_of_mem _ later)

theorem mem_of_firstText {landmarks : List Landmark} {content : Text}
    (starts : firstText landmarks = some content) : .text content ∈ landmarks := by
  induction landmarks with
  | nil => cases starts
  | cons landmark rest ih =>
      cases landmark with
      | boundary => cases starts
      | inlineVoid => cases starts
      | text other =>
          rw [firstText] at starts
          split at starts
          · exact List.mem_cons_of_mem _ (ih starts)
          · cases starts
            exact List.mem_cons_self

/-- The first text meets the one before. -/
theorem exists_joint_firstText {afterVoid : Bool} {behind : List Landmark} {left right : Text}
    (starts : firstText behind = some right) :
    ∃ joint ∈ jointsFrom (some left) afterVoid behind, joint.left = left ∧
      joint.right = right ∧ joint.afterVoid = afterVoid := by
  induction behind with
  | nil => cases starts
  | cons landmark rest ih =>
      cases landmark with
      | boundary => cases starts
      | inlineVoid => cases starts
      | text content =>
          rw [firstText] at starts
          rw [jointsFrom]
          split at starts
          · next empty =>
              rw [if_pos empty]
              exact ih starts
          · next shown =>
              cases starts
              rw [if_neg shown]
              exact ⟨_, List.mem_append_left _ (List.mem_singleton_self _), rfl, rfl, rfl⟩

/-- The texts on both sides meet. -/
theorem exists_joint {last : Option Text} {afterVoid : Bool} {before behind : List Landmark}
    {left right : Text} (ends : lastText last before = some left)
    (starts : firstText behind = some right) :
    ∃ joint ∈ jointsFrom last afterVoid (before ++ behind), joint.left = left ∧
      joint.right = right ∧ joint.afterVoid = endsBehindVoid afterVoid before := by
  induction before generalizing last afterVoid with
  | nil =>
      obtain rfl : last = some left := ends
      exact exists_joint_firstText starts
  | cons landmark rest ih =>
      cases landmark with
      | boundary => exact ih ends
      | inlineVoid => exact ih ends
      | text content =>
          rw [lastText] at ends
          rw [List.cons_append, jointsFrom]
          split at ends
          · next empty =>
              rw [if_pos empty]
              exact ih ends
          · next shown =>
              rw [if_neg shown]
              obtain ⟨joint, member, facts⟩ := @ih (some content) afterVoid ends
              exact ⟨joint, List.mem_append_right _ member, facts⟩

/-! ## In a collapsed document -/

mutual

theorem Node.HasSpacesOnly.of_mem_landmarks {content : Text} : (node : Node) →
    node.HasSpacesOnly → .text content ∈ node.landmarks → content.HasSpacesOnly
  | .text _ _, spaces, member => by
      cases List.mem_singleton.1 member
      exact spaces
  | .mark _ _, _, member => by cases member
  | .element tag children, spaces, member => by
      have other : .text content ∉ tag.separation.landmarks := by
        cases tag.separation <;> simp [Separation.landmarks]
      rw [Node.landmarks] at member
      split at member
      · rcases List.mem_append.1 member with front | back
        · exact absurd front other
        · exact absurd back other
      · next open' =>
          rcases List.mem_append.1 member with front | back
          · rcases List.mem_append.1 front with entering | inside
            · exact absurd entering other
            · exact HaveSpacesOnly.of_mem_landmarks children (spaces.resolve_left open') inside
          · exact absurd back other

theorem HaveSpacesOnly.of_mem_landmarks {content : Text} : (nodes : List Node) →
    HaveSpacesOnly nodes → .text content ∈ landmarksOf nodes → content.HasSpacesOnly
  | [], _, member => by cases member
  | node :: rest, spaces, member => by
      rcases List.mem_append.1 member with here | later
      · exact Node.HasSpacesOnly.of_mem_landmarks node spaces.1 here
      · exact HaveSpacesOnly.of_mem_landmarks rest spaces.2 later

end

theorem Text.HasSpacesOnly.startsWithSpace {text : Text} (spaces : text.HasSpacesOnly)
    (starts : text.startsWithSpacing = true) : text.startsWithSpace = true := by
  cases text with
  | nil => cases starts
  | cons first rest =>
      rw [spaces first List.mem_cons_self starts]
      rfl

/-- There is no spacing on both sides of a place in the document. -/
theorem Document.not_spaced {document : Document} {before behind : List Landmark}
    (shape : landmarksOf document.collapse.nodes = before ++ behind)
    (inline : endsBehindVoid false before = false) {left right : Text}
    (ends : lastText none before = some left) (starts : firstText behind = some right)
    (spacing : left.endsWithSpacing = true) : right.startsWithSpacing = false := by
  rw [← Bool.not_eq_true]
  intro spacing'
  have spaces : HaveSpacesOnly document.collapse.nodes :=
    haveSpacesOnly_collapseBetween .atBoundary .finish document.nodes
  have spacesLeft : left.HasSpacesOnly := by
    refine HaveSpacesOnly.of_mem_landmarks _ spaces ?_
    rw [shape]
    exact List.mem_append_left _ ((mem_of_lastText ends).resolve_left nofun)
  have spacesRight : right.HasSpacesOnly := by
    refine HaveSpacesOnly.of_mem_landmarks _ spaces ?_
    rw [shape]
    exact List.mem_append_right _ (mem_of_firstText starts)
  obtain ⟨joint, member, rfl, rfl, afterVoid⟩ := @exists_joint none false _ _ _ _ ends starts
  rw [← shape] at member
  have doubled : joint.isDoubled = true := by
    rw [Joint.isDoubled, Bool.and_eq_true]
    exact ⟨spacesLeft.reverse.startsWithSpace spacing, spacesRight.startsWithSpace spacing'⟩
  have behindVoid := (collapse_doublesBehindVoid document.nodes).2.afterVoid joint member doubled
  rw [afterVoid, inline] at behindVoid
  cases behindVoid

/-! ## On the way to an element -/

/-- What is met before the content of the element at an address, unless something preformatted is
on the way. -/
def landmarksTo : List Node → Address → Option (List Landmark)
  | _, [] => some []
  | nodes, index :: rest =>
      match Position.splitAtElement index nodes with
      | some (before, .element tag children, _) =>
          if tag.isPreformatted then none
          else (landmarksTo children rest).map (landmarksOf before ++ tag.separation.landmarks ++ ·)
      | _ => none

theorem exists_of_landmarksTo_cons {nodes : List Node} {index : Nat} {rest : Address}
    {onWay : List Landmark} (met : landmarksTo nodes (index :: rest) = some onWay) :
    ∃ front tag children back further,
      Position.splitAtElement index nodes = some (front, .element tag children, back) ∧
        tag.isPreformatted = false ∧ landmarksTo children rest = some further ∧
          onWay = landmarksOf front ++ tag.separation.landmarks ++ further := by
  rw [landmarksTo] at met
  split at met
  · next front tag children back split =>
      cases preformatted : tag.isPreformatted with
      | true => simp [preformatted] at met
      | false =>
          rw [preformatted, if_neg Bool.false_ne_true] at met
          obtain ⟨further, met', rfl⟩ := Option.map_eq_some_iff.1 met
          exact ⟨front, tag, children, back, further, split, preformatted, met', rfl⟩
  · cases met

/-- The element between its siblings, with all that is met around them. -/
structure StandsBetween (nodes : List Node) (position : Position) (onWay : List Landmark)
    (tag : Tag) (children front back : List Node) : Prop where
  node : position.node = .element tag children
  surroundings : ∃ parent, position.surroundings = some ⟨parent, front, back⟩
  ahead : ∃ around, onWay = around ++ landmarksOf front ++ tag.separation.landmarks
  whole : ∃ behind, landmarksOf nodes = onWay ++ landmarksOf children ++
    tag.separation.landmarks ++ landmarksOf back ++ behind

theorem landmarksOf_split {tag : Tag} (open' : tag.isPreformatted = false)
    (front children back : List Node) :
    landmarksOf (front ++ .element tag children :: back) =
      landmarksOf front ++ tag.separation.landmarks ++ landmarksOf children ++
        tag.separation.landmarks ++ landmarksOf back := by
  rw [landmarksOf_append, landmarksOf, Node.landmarks, open', if_neg Bool.false_ne_true]
  simp only [List.append_assoc]

theorem exists_standsBetween {top position : Position} {outer : Tag} {nodes : List Node}
    {address : Address} {onWay : List Landmark} (shape : top.node = .element outer nodes)
    (below : address ≠ [])
    (reached : top.descendWith Position.splitAtElement address = some position)
    (met : landmarksTo nodes address = some onWay) :
    ∃ tag children front back, StandsBetween nodes position onWay tag children front back := by
  induction address generalizing top outer nodes onWay with
  | nil => exact absurd rfl below
  | cons index rest ih =>
      obtain ⟨front, tag, children, back, further, split, open', met', rfl⟩ :=
        exists_of_landmarksTo_cons met
      obtain ⟨rfl, -, -⟩ := Position.splitAtElement_eq_some_iff.1 split
      rw [Position.descendWith, shape] at reached
      simp only [split] at reached
      have whole := landmarksOf_split open' front children back
      by_cases here : rest = []
      · subst here
        cases reached
        cases met'
        exact ⟨tag, children, front, back, rfl, ⟨outer, rfl⟩, ⟨[], by simp⟩, [], by simp [whole]⟩
      · obtain ⟨own, inner, front', back', stands⟩ := ih rfl here reached met'
        obtain ⟨around, rfl⟩ := stands.ahead
        obtain ⟨behind, inside⟩ := stands.whole
        refine ⟨own, inner, front', back', stands.node, stands.surroundings,
          ⟨landmarksOf front ++ tag.separation.landmarks ++ around, by simp⟩,
          behind ++ tag.separation.landmarks ++ landmarksOf back, ?_⟩
        rw [whole, inside]
        simp only [List.append_assoc]

/-- An inline element that is not void is not met itself. -/
theorem Document.exists_sides {document : Document} {position : Position} {tag : Tag}
    {children : List Node} (placed : document.elementAt? position.address = some position)
    (below : position.address ≠ []) (shape : position.node = .element tag children)
    (separation : tag.separation = .none) {onWay : List Landmark}
    (met : landmarksTo document.nodes position.address = some onWay) :
    ∃ parent front back around behind, position.surroundings = some ⟨parent, front, back⟩ ∧
      onWay = around ++ landmarksOf front ∧
        landmarksOf document.nodes =
          onWay ++ (landmarksOf children ++ (landmarksOf back ++ behind)) := by
  obtain ⟨own, inner, front, back, stands⟩ := exists_standsBetween rfl below placed met
  obtain ⟨rfl, rfl⟩ := Node.element.inj (shape.symm.trans stands.node)
  obtain ⟨parent, surroundings⟩ := stands.surroundings
  obtain ⟨around, ahead⟩ := stands.ahead
  obtain ⟨behind, whole⟩ := stands.whole
  refine ⟨parent, front, back, around, behind, surroundings, ?_, ?_⟩
  · simpa [separation, Separation.landmarks] using ahead
  · simpa [separation, Separation.landmarks] using whole

/-! ## Neighbours of running text -/

/-- A text of the page, or an inline element with nothing but such texts in it. -/
structure Node.IsRunningText (node : Node) : Prop where
  inline : node.isInline = true
  plain : ∀ kind content, .text kind content ∈ nodesWithin [node] → kind = .plain

/-- Blocks, marks and running text show at their edges what stands there. -/
def Node.IsPlainNeighbour (node : Node) : Prop :=
  node.edgeText? = none ∨ node.IsRunningText

mutual

/-- An element that asks for texts of a kind of its own has none of these. -/
theorem Node.textsOf_of_plain {wanted : Option TextKind} : (node : Node) → node.isInline = true →
    (∀ kind content, .text kind content ∈ node.withDescendants → kind = .plain) →
      node.textsOf wanted = if TextKind.plain.counts wanted then node.wholeText else []
  | .text kind content, _, plain => by
      obtain rfl := plain kind content List.mem_cons_self
      rfl
  | .mark _ _, inline, _ => by cases inline
  | .element tag children, inline, plain => by
      obtain ⟨-, -, inside⟩ := Node.isInline_element_iff.1 inline
      rw [Node.textsOf, Node.wholeText]
      exact textsOfAll_of_plain children inside fun kind content member =>
        plain kind content (List.mem_cons_of_mem _ member)

theorem textsOfAll_of_plain {wanted : Option TextKind} : (nodes : List Node) →
    areInline nodes = true →
    (∀ kind content, .text kind content ∈ nodesWithin nodes → kind = .plain) →
      textsOfAll wanted nodes = if TextKind.plain.counts wanted then wholeTextOf nodes else []
  | [], _, _ => (ite_self _).symm
  | node :: rest, inline, plain => by
      rw [areInline, Bool.and_eq_true] at inline
      rw [textsOfAll, Node.textsOf_of_plain node inline.1 fun kind content member =>
          plain kind content (List.mem_append_left _ member),
        textsOfAll_of_plain rest inline.2 fun kind content member =>
          plain kind content (List.mem_append_right _ member), wholeTextOf]
      split <;> rfl

end

/-- Running text shows all of its text or nothing. -/
theorem Node.IsRunningText.eq_of_edgeText? {node : Node} (running : node.IsRunningText)
    {text : Text} (shown : node.edgeText? = some text) (some : text ≠ []) :
    text = node.wholeText := by
  have whole : nodesWithin [node] = node.withDescendants := List.append_nil _
  have plain := running.plain
  rw [whole] at plain
  cases node with
  | mark kind content => cases shown
  | text kind content =>
      cases shown
      rfl
  | element tag children =>
      rw [edgeText?] at shown
      split at shown
      · cases shown
      · cases shown
        have counted := @Node.textsOf_of_plain (TextKind.ofContainer? tag.name)
          (.element tag children) running.inline plain
        rw [textsOf] at counted
        rw [textContentOf, counted] at some ⊢
        split
        · rfl
        · next other => exact absurd (if_neg other) some

namespace OnlyTexts

variable {landmarks : List Landmark} {text : Text}

theorem tail {first : Landmark} (texts : OnlyTexts (first :: landmarks) text) :
    ∃ content, first = .text content ∧ OnlyTexts landmarks (textAlong landmarks) ∧
      text = content ++ textAlong landmarks := by
  obtain ⟨content, rfl⟩ := texts.texts first List.mem_cons_self
  exact ⟨content, rfl, ⟨rfl, fun other member => texts.texts other (List.mem_cons_of_mem _ member)⟩,
    texts.along.symm⟩

theorem lastText_eq (texts : OnlyTexts landmarks []) (last : Option Text) :
    lastText last landmarks = last := by
  induction landmarks with
  | nil => rfl
  | cons landmark rest ih =>
      obtain ⟨content, rfl, others, nothing⟩ := texts.tail
      obtain ⟨rfl, nothing⟩ := List.append_eq_nil_iff.1 nothing.symm
      exact ih (nothing ▸ others)

theorem exists_lastText (texts : OnlyTexts landmarks text) (some : text ≠ [])
    (last : Option Text) :
    ∃ front left, lastText last landmarks = .some left ∧ left ≠ [] ∧ text = front ++ left := by
  induction landmarks generalizing text last with
  | nil => exact absurd texts.along.symm some
  | cons landmark rest ih =>
      obtain ⟨content, rfl, others, rfl⟩ := texts.tail
      by_cases nothing : textAlong rest = []
      · rw [nothing] at others some ⊢
        rw [List.append_nil] at some ⊢
        rw [lastText, if_neg (by simpa using some), others.lastText_eq]
        exact ⟨[], content, rfl, some, rfl⟩
      · obtain ⟨front, left, ends, shown, shape⟩ := ih others nothing _
        exact ⟨content ++ front, left, ends, shown, by rw [shape, List.append_assoc]⟩

theorem exists_firstText (texts : OnlyTexts landmarks text) (some : text ≠ [])
    (behind : List Landmark) :
    ∃ right back, firstText (landmarks ++ behind) = .some right ∧ right ≠ [] ∧
      text = right ++ back := by
  induction landmarks generalizing text with
  | nil => exact absurd texts.along.symm some
  | cons landmark rest ih =>
      obtain ⟨content, rfl, others, rfl⟩ := texts.tail
      rw [List.cons_append, firstText]
      by_cases nothing : content = []
      · subst nothing
        exact ih others some
      · rw [if_neg (by simpa using nothing)]
        exact ⟨content, _, rfl, nothing, rfl⟩

end OnlyTexts

namespace Text

theorem ne_nil_of_startsWithSpacing {text : Text} (spacing : startsWithSpacing text = true) :
    text ≠ [] := by
  rintro rfl
  cases spacing

theorem ne_nil_of_endsWithSpacing {text : Text} (spacing : endsWithSpacing text = true) :
    text ≠ [] := by
  rintro rfl
  cases spacing

end Text

namespace Node

variable {sibling : Node} (plain : sibling.IsPlainNeighbour) {text : Text}
  (shown : sibling.edgeText? = some text)

include plain shown

/-- What a neighbour shows is all that is met in it. -/
theorem onlyTexts_of_edgeText? (some : text ≠ []) : OnlyTexts sibling.landmarks text := by
  have running : sibling.IsRunningText :=
    plain.resolve_left fun nothing => by
      rw [nothing] at shown
      cases shown
  rw [running.eq_of_edgeText? shown some]
  exact sibling.onlyTexts_landmarks running.inline

theorem exists_lastText_of_endsWithSpacing (spacing : text.endsWithSpacing = true)
    (last : Option Text) :
    ∃ left, lastText last sibling.landmarks = .some left ∧ left.endsWithSpacing = true := by
  have some := Text.ne_nil_of_endsWithSpacing spacing
  obtain ⟨front, left, ends, nonempty, rfl⟩ :=
    (onlyTexts_of_edgeText? plain shown some).exists_lastText some last
  rw [Text.endsWithSpacing_append _ nonempty] at spacing
  exact ⟨left, ends, spacing⟩

theorem exists_firstText_of_startsWithSpacing (spacing : text.startsWithSpacing = true)
    (behind : List Landmark) :
    ∃ right, firstText (sibling.landmarks ++ behind) = .some right ∧
      right.startsWithSpacing = true := by
  have some := Text.ne_nil_of_startsWithSpacing spacing
  obtain ⟨right, back, starts, nonempty, rfl⟩ :=
    (onlyTexts_of_edgeText? plain shown some).exists_firstText some behind
  rw [Text.startsWithSpacing_append _ nonempty] at spacing
  exact ⟨right, starts, spacing⟩

end Node

namespace Position

variable {position : Position} {parent : Tag} {front back : List Node}
  (surroundings : position.surroundings = some ⟨parent, front, back⟩)

include surroundings

theorem exists_lastText_of_hasSpaceBefore (supplied : position.hasSpaceBefore = true)
    (plain : ∀ sibling ∈ position.previousSibling?, sibling.IsPlainNeighbour)
    (last : Option Text) :
    ∃ left, lastText last (landmarksOf front) = some left ∧ left.endsWithSpacing = true := by
  rw [hasSpaceBefore] at supplied
  split at supplied
  · next text shown =>
      obtain ⟨sibling, known, shown⟩ := Option.bind_eq_some_iff.1 shown
      have own := plain sibling known
      rw [previousSibling?, surroundings, Option.bind_some] at known
      obtain ⟨others, rfl⟩ := List.getLast?_eq_some_iff.1 known
      rw [landmarksOf_append, lastText_append, landmarksOf, landmarksOf, List.append_nil]
      exact Node.exists_lastText_of_endsWithSpacing own shown
        (Text.endsWithSpacing_of_lastLine supplied) _
  · cases supplied

theorem exists_firstText_of_hasSpaceAfter (supplied : position.hasSpaceAfter = true)
    (plain : ∀ sibling ∈ position.nextSibling?, sibling.IsPlainNeighbour)
    (behind : List Landmark) :
    ∃ right, firstText (landmarksOf back ++ behind) = some right ∧
      right.startsWithSpacing = true := by
  rw [hasSpaceAfter] at supplied
  split at supplied
  · next text shown =>
      obtain ⟨sibling, known, shown⟩ := Option.bind_eq_some_iff.1 shown
      have own := plain sibling known
      rw [nextSibling?, surroundings, Option.bind_some] at known
      obtain ⟨others, rfl⟩ := List.head?_eq_some_iff.1 known
      rw [landmarksOf, List.append_assoc]
      exact Node.exists_firstText_of_startsWithSpacing own shown
        (Text.startsWithSpacing_of_startsWithSpace supplied) _
  · cases supplied

end Position

end PageMark
