import PageMark.Collapse.Basic
import PageMark.Collapse.Walk
import PageMark.Proofs.Edits
import PageMark.Proofs.Squeezing

/-!
# The traversal in two passes

Collapsing by one traversal, which goes back to the last text to strip it, and
collapsing in two passes come to the same.  What is left open when a list of
siblings has been traversed is what becomes of the last text; an edge tells it,
and the second pass hands the same edge to the siblings before.
-/

namespace PageMark

theorem target_replacing {label : Label} {before after : Text} {edit : Edit}
    (member : edit ∈ replacing label before after) : edit.target = label := by
  rw [replacing] at member
  split at member
  · cases member
  · rw [List.mem_singleton] at member
    subst member
    rfl

theorem avoid_remove {label : Label} {origins : List Nat} (apart : label.origin ∉ origins) :
    Avoid [.remove label] origins := by
  intro edit member
  rw [List.mem_singleton] at member
  subst member
  exact apart

/-- A text that is replaced stands in its place under its new label. -/
theorem applied_replacing (label : Label) (kind : TextKind) (before after : Text) :
    applied (replacing label before after) [.text label kind before] =
      [.text (label.replaced before after) (if after = before then kind else .plain) after] := by
  by_cases same : after = before
  · simp [replacing, Label.replaced, same, applied]
  · simp [replacing, Label.replaced, same, applied, editedAll, Labelled.edited, Edit.target,
      Edit.outcome]

theorem editedAll_remove (label : Label) (kind : TextKind) (content : Text) :
    editedAll (.remove label) [.text label kind content] = [] := by
  simp [editedAll, Labelled.edited, Edit.target, Edit.outcome]

namespace Trail

/-- Where the last text comes from. -/
def origins (trail : Trail) : List Nat :=
  trail.lastText.toList.map fun last => last.1.origin

/-- What is still to be done to the last text when this comes next. -/
def closing (trail : Trail) : Edge → List Edit
  | .inline => []
  | .boundary => trail.strip
  | .finish => trail.finish

theorem gap_pass (trail : Trail) (separation : Separation) :
    (trail.pass separation).gap = trail.gap.pass separation := by
  cases separation <;> rfl

theorem pass_pass (trail : Trail) (separation : Separation) :
    (trail.pass separation).pass separation = trail.pass separation := by
  cases separation <;> rfl

theorem passing_pass (trail : Trail) (separation : Separation) :
    (trail.pass separation).passing separation = [] := by
  cases separation <;> rfl

/-- Passing a separation closes what is before it. -/
theorem passing_closing (trail : Trail) (separation : Separation) (edge : Edge) :
    trail.passing separation ++ (trail.pass separation).closing edge =
      trail.closing (edge.pass separation) := by
  cases separation with
  | boundary => cases edge <;> simp [passing, pass, closing, start, strip, finish, Edge.pass]
  | inlineVoid => cases edge <;> simp [passing, pass, closing, strip, finish, Edge.pass]
  | none => rfl

theorem origins_pass_subset (trail : Trail) (separation : Separation) :
    (trail.pass separation).origins ⊆ trail.origins := by
  cases separation <;> simp [pass, origins, start]

theorem target_closing {trail : Trail} {edge : Edge} {edit : Edit}
    (member : edit ∈ trail.closing edge) : edit.target.origin ∈ trail.origins := by
  obtain ⟨lastText, afterVoid⟩ := trail
  cases lastText with
  | none => cases edge <;> cases member
  | some last =>
      obtain ⟨label, content⟩ := last
      suffices same : edit.target.origin = label.origin by simp [origins, same]
      cases edge with
      | inline => cases member
      | boundary => rw [target_replacing member]
      | finish =>
          rcases List.mem_append.1 member with stripped | gone
          · rw [target_replacing stripped]
          · split at gone
            · rw [List.mem_singleton] at gone
              subst gone
              exact Label.replaced_origin label content _
            · cases gone

theorem avoid_closing {trail : Trail} {origins : List Nat}
    (apart : List.Disjoint trail.origins origins) (edge : Edge) :
    Avoid (trail.closing edge) origins :=
  fun _ member inside => apart (target_closing member) inside

theorem target_passing {trail : Trail} {separation : Separation} {edit : Edit}
    (member : edit ∈ trail.passing separation) : edit.target.origin ∈ trail.origins := by
  cases separation with
  | boundary => exact @target_closing trail .boundary edit member
  | inlineVoid => cases member
  | none => cases member

theorem avoid_passing {trail : Trail} {origins : List Nat}
    (apart : List.Disjoint trail.origins origins) (separation : Separation) :
    Avoid (trail.passing separation) origins :=
  fun _ member inside => apart (target_passing member) inside

end Trail

/-! ## What stays in place -/

/-- Elements stay in their places with their tags, preformatted ones with all they
contain.  Marks are gone.  A text stays in its place with its solid characters, or
is gone if it has none. -/
inductive Framed : List Labelled → List Labelled → Prop
  | nil : Framed [] []
  | text {label label' : Label} {kind kind' : TextKind} {before after : Text}
      {rest rest' : List Labelled} (place : label'.origin = label.origin)
      (solid : Text.solid after = Text.solid before) (further : Framed rest rest') :
      Framed (.text label kind before :: rest) (.text label' kind' after :: rest')
  | blankText {label : Label} {kind : TextKind} {content : Text} {rest rest' : List Labelled}
      (blank : ∀ character ∈ content, Text.isSpacing character = true)
      (further : Framed rest rest') : Framed (.text label kind content :: rest) rest'
  | mark {label : Label} {kind : MarkKind} {content : Text} {rest rest' : List Labelled}
      (further : Framed rest rest') : Framed (.mark label kind content :: rest) rest'
  | preformatted {label : Label} {tag : Tag} {children rest rest' : List Labelled}
      (passedOver : tag.isPreformatted = true) (further : Framed rest rest') :
      Framed (.element label tag children :: rest) (.element label tag children :: rest')
  | element {label : Label} {tag : Tag} {children children' rest rest' : List Labelled}
      (open' : tag.isPreformatted = false) (inside : Framed children children')
      (further : Framed rest rest') :
      Framed (.element label tag children :: rest) (.element label tag children' :: rest')

namespace Framed

theorem append {left left' right right' : List Labelled} (first : Framed left left')
    (second : Framed right right') : Framed (left ++ right) (left' ++ right') := by
  induction first with
  | nil => exact second
  | text place solid _ ih => exact .text place solid ih
  | blankText blank _ ih => exact .blankText blank ih
  | mark _ ih => exact .mark ih
  | preformatted passedOver _ ih => exact .preformatted passedOver ih
  | element open' inside _ _ ih => exact .element open' inside ih

end Framed

/-! ## One traversal and two passes -/

/-- What is done to these nodes, together with what remains to be done when this
edge comes next, is what the two passes do.  To all that has been left behind it
is what would remain to be done if the edge before these nodes came next. -/
structure Traverses (trail : Trail) (nodes : List Labelled) (edits : List Edit)
    (after : Trail) : Prop where
  gap : after.gap = (squeezeAll trail.gap (eraseAll nodes)).1
  targets : ∀ edit ∈ edits, edit.target.origin ∈ trail.origins ++ originsOf nodes
  origins : after.origins ⊆ trail.origins ++ originsOf nodes
  settled (edge : Edge) :
    eraseAll (applied (edits ++ after.closing edge) nodes) =
      (settleAll edge (squeezeAll trail.gap (eraseAll nodes)).2).2
  before (edge : Edge) (left : List Labelled) :
    List.Disjoint (originsOf nodes) (originsOf left) →
      applied (edits ++ after.closing edge) left =
        applied (trail.closing (settleAll edge (squeezeAll trail.gap (eraseAll nodes)).2).1) left
  framed (edge : Edge) : Framed nodes (applied (edits ++ after.closing edge) nodes)

namespace Traverses

variable {trail after : Trail} {nodes : List Labelled} {edits : List Edit}

theorem avoid (traverses : Traverses trail nodes edits after) {origins : List Nat}
    (trailApart : List.Disjoint trail.origins origins)
    (nodesApart : List.Disjoint (originsOf nodes) origins) : Avoid edits origins := by
  intro edit member inside
  rcases List.mem_append.1 (traverses.targets edit member) with old | new
  · exact trailApart old inside
  · exact nodesApart new inside

theorem nil (trail : Trail) : Traverses trail [] [] trail where
  gap := rfl
  targets := by simp
  origins := List.subset_append_left _ _
  settled edge := by rw [applied_nil]; rfl
  before edge left _ := rfl
  framed edge := by
    rw [applied_nil]
    exact .nil

theorem cons {node : Labelled} {rest : List Labelled} {edits' : List Edit} {last : Trail}
    (distinct : (originsOf (node :: rest)).Nodup)
    (apart : List.Disjoint trail.origins (originsOf (node :: rest)))
    (first : Traverses trail [node] edits after) (others : Traverses after rest edits' last) :
    Traverses trail (node :: rest) (edits ++ edits') last := by
  rw [originsOf] at distinct apart
  have alone : originsOf [node] = node.origins := List.append_nil _
  have between : List.Disjoint (originsOf rest) node.origins :=
    fun _ inside member => List.disjoint_of_nodup_append distinct member inside
  have trailRest : List.Disjoint trail.origins (originsOf rest) :=
    (List.disjoint_append_right.1 apart).2
  have leftBehind (edge : Edge) (left : List Labelled)
      (away : List.Disjoint (originsOf rest) (originsOf left)) :
      applied (edits ++ edits' ++ last.closing edge) left =
        applied (edits ++
          after.closing (settleAll edge (squeezeAll after.gap (eraseAll rest)).2).1) left := by
    rw [List.append_assoc, applied_both, applied_both edits]
    exact others.before edge _ fun origin inside member =>
      away inside ((originsOf_applied edits left).subset member)
  have onNode (edge : Edge) := leftBehind edge [node] (alone ▸ between)
  have onRest (edge : Edge) : applied (edits ++ edits' ++ last.closing edge) rest =
      applied (edits' ++ last.closing edge) rest := by
    rw [List.append_assoc, applied_both,
      (first.avoid trailRest (alone ▸ List.disjoint_of_nodup_append distinct)).applied]
  have fromFirst : trail.origins ++ originsOf [node] ⊆
      trail.origins ++ originsOf (node :: rest) := by
    intro origin
    simp only [originsOf, List.append_nil, List.mem_append]
    exact Or.imp_right .inl
  have fromOthers : after.origins ++ originsOf rest ⊆
      trail.origins ++ originsOf (node :: rest) := by
    refine List.append_subset.2 ⟨fun origin member => fromFirst (first.origins member), ?_⟩
    intro origin member
    exact List.mem_append_right _ (List.mem_append_right _ member)
  have shape : eraseAll (node :: rest) = node.erase :: eraseAll rest := rfl
  have squeezed (gap : Gap) : squeezeAll gap (node.erase :: eraseAll rest) = _ :=
    squeezeAll_append gap [node.erase] (eraseAll rest)
  have single : [node.erase] = eraseAll [node] := rfl
  constructor
  · rw [shape, squeezed, single, ← first.gap, others.gap]
  · intro edit member
    rcases List.mem_append.1 member with member | member
    · exact fromFirst (first.targets edit member)
    · exact fromOthers (others.targets edit member)
  · exact fun origin member => fromOthers (others.origins member)
  · intro edge
    rw [applied_cons, eraseAll_append, onNode, onRest, first.settled, others.settled, shape,
      squeezed, settleAll_append, single, ← first.gap]
  · intro edge left away
    rw [originsOf] at away
    rw [leftBehind edge left (List.disjoint_append_left.1 away).2,
      first.before _ left (alone ▸ (List.disjoint_append_left.1 away).1), shape, squeezed,
      settleAll_append, single, ← first.gap]
  · intro edge
    rw [applied_cons, onNode, onRest]
    exact (first.framed _).append (others.framed edge)

/-- A node of which nothing is left. -/
theorem removed {label : Label} {node : Labelled} (trail : Trail)
    (origin : node.origins = [label.origin]) (gone : editedAll (.remove label) [node] = [])
    (squeezed : node.erase.squeezeFrom trail.gap = (trail.gap, none))
    (framed : Framed [node] []) : Traverses trail [node] [.remove label] trail := by
  have nothing : squeezeAll trail.gap (eraseAll [node]) = (trail.gap, []) := by
    simp [eraseAll, squeezeAll, squeezed]
  have emptied (edge : Edge) : applied (.remove label :: trail.closing edge) [node] = [] := by
    rw [applied, gone, applied_nil]
  constructor
  · rw [nothing]
  · intro edit member
    rw [List.mem_singleton] at member
    subst member
    simp [originsOf, origin, Edit.target]
  · exact List.subset_append_left _ _
  · intro edge
    rw [List.singleton_append, emptied, nothing]
    rfl
  · intro edge left away
    have apart : label.origin ∉ originsOf left := fun member =>
      away (by simp [originsOf, origin]) member
    rw [nothing, applied_both, (avoid_remove apart).applied]
    rfl
  · intro edge
    rw [List.singleton_append, emptied]
    exact framed

theorem mark (trail : Trail) (label : Label) (kind : MarkKind) (content : Text) :
    Traverses trail [.mark label kind content] [.remove label] trail :=
  removed trail rfl (by simp [editedAll, Labelled.edited, Edit.target, Edit.outcome]) rfl (.mark .nil)

/-- What is done to the last text is what the second pass does to it. -/
theorem applied_closing (label : Label) (kind : TextKind) (content : Text) (afterVoid : Bool)
    (edge : Edge) :
    applied (Trail.closing { lastText := some (label, content), afterVoid := afterVoid } edge)
        [.text label kind content] =
      if edge.drops content then []
      else [.text (label.replaced content (edge.shorten content))
        (if edge.shorten content = content then kind else .plain) (edge.shorten content)] := by
  cases edge with
  | inline => simp [Trail.closing, applied, Edge.drops, Edge.shorten, Label.replaced]
  | boundary => exact applied_replacing label kind content (Text.dropTrailingSpace content)
  | finish =>
      simp only [Trail.closing, Trail.finish, Edge.drops, Edge.shorten]
      rw [applied_both, applied_replacing]
      by_cases nothing : (Text.dropTrailingSpace content).isEmpty = true
      · simp [nothing, applied, editedAll_remove]
      · simp only [nothing, applied, beq_self_eq_true, Bool.and_false, Bool.false_eq_true, if_false]
        rfl

theorem text (trail : Trail) (label : Label) (kind : TextKind) (content : Text) :
    Traverses trail [.text label kind content] (trail.takingText label content)
      (trail.takeText label content) := by
  have solid := trail.gap.solid_shorten content
  by_cases nothing : (trail.gap.shorten content).isEmpty = true
  · rw [List.isEmpty_iff.1 nothing, eq_comm] at solid
    have blank := Text.solid_eq_nil_iff.1 solid
    rw [Trail.takingText, Trail.takeText, if_pos nothing, if_pos nothing]
    exact removed trail rfl (editedAll_remove label kind content)
      (by simp [Labelled.erase, Node.squeezeFrom, nothing]) (.blankText blank .nil)
  · rw [Trail.takingText, Trail.takeText, if_neg nothing, if_neg nothing]
    have squeezed : squeezeAll trail.gap (eraseAll [.text label kind content]) =
        (trail.gap.afterText (trail.gap.shorten content),
          [textAfter kind content (trail.gap.shorten content)]) := by
      simp [eraseAll, Labelled.erase, squeezeAll, Node.squeezeFrom, nothing]
    generalize trail.gap.shorten content = short at solid squeezed
    have settled (edge : Edge) :
        applied (replacing label content short ++ Trail.closing
          { trail with lastText := some (label.replaced content short, short) } edge)
            [.text label kind content] =
          if edge.drops short then []
          else [.text ((label.replaced content short).replaced short (edge.shorten short))
            (if edge.shorten short = short then if short = content then kind else .plain
              else .plain) (edge.shorten short)] := by
      rw [applied_both, applied_replacing, applied_closing]
    constructor
    · rw [squeezed]
      rfl
    · intro edit member
      simp [target_replacing member, originsOf, Labelled.origins]
    · simp [Trail.origins, originsOf, Labelled.origins]
    · intro edge
      rw [settled, squeezed]
      simp only [settleAll, textAfter, Node.settleBefore]
      split <;> rfl
    · intro edge left away
      have apart : label.origin ∉ originsOf left := fun member =>
        away (by simp [originsOf, Labelled.origins]) member
      have replaced : Avoid (replacing label content short) (originsOf left) :=
        fun edit member => target_replacing member ▸ apart
      have leave : (settleAll edge (squeezeAll trail.gap
          (eraseAll [.text label kind content])).2).1 = .inline := by
        rw [squeezed]
        simp only [settleAll, textAfter, Node.settleBefore]
        split <;> rfl
      have closing : Avoid (Trail.closing { trail with
          lastText := some (label.replaced content short, short) } edge) (originsOf left) :=
        Trail.avoid_closing (by simpa [Trail.origins] using apart) edge
      rw [leave, (replaced.both closing).applied]
      rfl
    · intro edge
      rw [settled]
      have same : Text.solid (edge.shorten short) = Text.solid content :=
        (edge.solid_shorten short).trans solid
      split
      · next dropped =>
          rw [Edge.drops, Bool.and_eq_true] at dropped
          rw [List.isEmpty_iff.1 dropped.2, eq_comm] at same
          exact .blankText (Text.solid_eq_nil_iff.1 same) .nil
      · exact .text (by simp) same .nil

/-- An element is left as it was entered if it is passed over. -/
theorem preformatted {tag : Tag} (passedOver : tag.isPreformatted = true) (trail : Trail)
    (label : Label) (children : List Labelled)
    (apart : List.Disjoint trail.origins (Labelled.element label tag children).origins) :
    Traverses trail [.element label tag children] (trail.passing tag.separation)
      (trail.pass tag.separation) := by
  have squeezed : squeezeAll trail.gap (eraseAll [.element label tag children]) =
      (trail.gap.pass tag.separation, eraseAll [.element label tag children]) := by
    simp [eraseAll, Labelled.erase, squeezeAll, Node.squeezeFrom, passedOver]
  have settled (edge : Edge) : settleAll edge (eraseAll [.element label tag children]) =
      (edge.pass tag.separation, eraseAll [.element label tag children]) := by
    simp [eraseAll, Labelled.erase, settleAll, Node.settleBefore, passedOver]
  have untouched (edge : Edge) :
      applied (trail.passing tag.separation ++ (trail.pass tag.separation).closing edge)
        [.element label tag children] = [.element label tag children] := by
    rw [Trail.passing_closing]
    exact (Trail.avoid_closing (by simpa [originsOf] using apart) _).applied
  constructor
  · rw [squeezed]
    exact trail.gap_pass tag.separation
  · exact fun edit member => List.mem_append_left _ (Trail.target_passing member)
  · exact fun origin member =>
      List.mem_append_left _ (trail.origins_pass_subset tag.separation member)
  · intro edge
    rw [untouched, squeezed, settled]
  · intro edge left _
    rw [Trail.passing_closing, squeezed, settled]
  · intro edge
    rw [untouched]
    exact .preformatted passedOver .nil

theorem element {label : Label} {tag : Tag} {children : List Labelled}
    (open' : tag.isPreformatted = false)
    (distinct : (Labelled.element label tag children).origins.Nodup)
    (apart : List.Disjoint trail.origins (Labelled.element label tag children).origins)
    (inside : Traverses (trail.pass tag.separation) children edits after) :
    Traverses trail [.element label tag children]
      (trail.passing tag.separation ++ edits ++ after.passing tag.separation)
      (after.pass tag.separation) := by
  rw [Labelled.origins] at distinct apart
  have squeezed : squeezeAll trail.gap (eraseAll [.element label tag children]) =
      (after.gap.pass tag.separation,
        [.element tag (squeezeAll (trail.pass tag.separation).gap (eraseAll children)).2]) := by
    simp [eraseAll, Labelled.erase, squeezeAll, Node.squeezeFrom, open', inside.gap,
      Trail.gap_pass]
  have settled (edge : Edge) (nodes : List Node) : settleAll edge [.element tag nodes] =
      ((settleAll (edge.pass tag.separation) nodes).1.pass tag.separation,
        [.element tag (settleAll (edge.pass tag.separation) nodes).2]) := by
    simp [settleAll, Node.settleBefore, open']
  have shape (edge : Edge) :
      trail.passing tag.separation ++ edits ++ after.passing tag.separation ++
          (after.pass tag.separation).closing edge =
        trail.passing tag.separation ++ (edits ++ after.closing (edge.pass tag.separation)) := by
    rw [List.append_assoc, List.append_assoc, Trail.passing_closing]
  have trailChildren : List.Disjoint trail.origins (originsOf children) :=
    fun origin member inner => apart member (.tail _ inner)
  have owner : label.origin ∉ trail.origins := fun member => apart member List.mem_cons_self
  have outside : label.origin ∉ (trail.pass tag.separation).origins ++ originsOf children := by
    rw [List.mem_append, not_or]
    exact ⟨fun member => owner (trail.origins_pass_subset tag.separation member),
      (List.nodup_cons.1 distinct).1⟩
  have whole : (trail.pass tag.separation).origins ++ originsOf children ⊆
      trail.origins ++ originsOf [.element label tag children] := by
    refine List.append_subset.2 ⟨fun origin member => ?_, fun origin member => ?_⟩
    · exact List.mem_append_left _ (trail.origins_pass_subset tag.separation member)
    · exact List.mem_append_right _ (by simp [originsOf, Labelled.origins, member])
  have onElement (edge : Edge) :
      applied (trail.passing tag.separation ++ edits ++ after.passing tag.separation ++
          (after.pass tag.separation).closing edge) [.element label tag children] =
        [.element label tag
          (applied (edits ++ after.closing (edge.pass tag.separation)) children)] := by
    have avoidOwner : Avoid (trail.passing tag.separation ++
        (edits ++ after.closing (edge.pass tag.separation))) [label.origin] := by
      refine (Trail.avoid_passing (by simpa using owner) _).both (Avoid.both ?_ ?_)
      · intro edit member same
        rw [← List.mem_singleton.1 same] at outside
        exact outside (inside.targets edit member)
      · refine Trail.avoid_closing (fun origin member same => ?_) _
        rw [← List.mem_singleton.1 same] at outside
        exact outside (inside.origins member)
    rw [shape, applied_element avoidOwner, applied_both,
      (Trail.avoid_passing trailChildren _).applied]
  constructor
  · rw [squeezed]
    exact after.gap_pass tag.separation
  · intro edit member
    rcases List.mem_append.1 member with member | leaving
    · rcases List.mem_append.1 member with entering | within
      · exact List.mem_append_left _ (Trail.target_passing entering)
      · exact whole (inside.targets edit within)
    · exact whole (inside.origins (Trail.target_passing leaving))
  · exact fun origin member => whole (inside.origins (after.origins_pass_subset _ member))
  · intro edge
    rw [onElement, squeezed, settled, ← inside.settled]
    rfl
  · intro edge left away
    rw [originsOf, originsOf, List.append_nil] at away
    rw [shape, applied_both, inside.before (edge.pass tag.separation) _ ?_, ← applied_both,
      Trail.passing_closing, squeezed, settled]
    exact fun origin member inner =>
      away (.tail _ member) ((originsOf_applied _ left).subset inner)
  · intro edge
    rw [onElement]
    exact .element open' (inside.framed _) .nil

end Traverses

mutual

theorem Labelled.traverses (trail : Trail) : (node : Labelled) → node.origins.Nodup →
    List.Disjoint trail.origins node.origins →
      Traverses trail [node] (node.traverse trail).1 (node.traverse trail).2
  | .text label kind content, _, _ => .text trail label kind content
  | .mark label kind content, _, _ => .mark trail label kind content
  | .element label tag children, distinct, apart => by
      rw [Labelled.traverse]
      split
      · next passedOver =>
          simp only [Trail.passing_pass, Trail.pass_pass, List.append_nil]
          exact .preformatted passedOver trail label children apart
      · next other =>
          have entered : List.Disjoint (trail.pass tag.separation).origins (originsOf children) :=
            fun origin member inner =>
              apart (trail.origins_pass_subset tag.separation member) (.tail _ inner)
          exact .element (by simpa using other) distinct apart
            (traverses_all _ children (List.nodup_cons.1 distinct).2 entered)

theorem traverses_all (trail : Trail) : (nodes : List Labelled) → (originsOf nodes).Nodup →
    List.Disjoint trail.origins (originsOf nodes) →
      Traverses trail nodes (traverseAll trail nodes).1 (traverseAll trail nodes).2
  | [], _, _ => .nil trail
  | node :: rest, distinct, apart => by
      have split := distinct
      rw [originsOf] at split
      have first := Labelled.traverses trail node (List.Nodup.of_append_left split)
        fun origin member inner => apart member (by simp [originsOf, inner])
      have others := traverses_all (node.traverse trail).2 rest (List.Nodup.of_append_right split)
        fun origin member inner => by
          rcases List.mem_append.1 (first.origins member) with old | new
          · exact apart old (by simp [originsOf, inner])
          · rw [originsOf, originsOf, List.append_nil] at new
            exact List.disjoint_of_nodup_append split new inner
      exact .cons distinct apart first others

end

/-! ## Below a root -/

theorem Labelled.target_traversal {label : Label} {tag : Tag} {children : List Labelled}
    (distinct : (originsOf children).Nodup) {edit : Edit}
    (member : edit ∈ (Labelled.element label tag children).traversal) :
    edit.target.origin ∈ originsOf children := by
  have traverses := traverses_all .start children distinct (by simp [Trail.origins, Trail.start])
  rw [traversal] at member
  split at member
  · cases member
  · rcases List.mem_append.1 member with inside | closing
    · exact traverses.targets edit inside
    · exact traverses.origins (@Trail.target_closing _ .finish edit closing)

/-- The traversal of a root collapses it and leaves in place what must stay. -/
theorem Labelled.exists_applied_traversal {label : Label} {tag : Tag} {children : List Labelled}
    (distinct : (Labelled.element label tag children).origins.Nodup) :
    ∃ children', applied (Labelled.element label tag children).traversal
        [.element label tag children] = [.element label tag children'] ∧
      (Labelled.element label tag children').erase =
        (Labelled.element label tag children).erase.collapse ∧
      Framed [.element label tag children] [.element label tag children'] := by
  rw [origins, List.nodup_cons] at distinct
  have avoid : Avoid (Labelled.element label tag children).traversal [label.origin] := by
    intro edit member same
    rw [← List.mem_singleton.1 same] at distinct
    exact distinct.1 (target_traversal distinct.2 member)
  refine ⟨_, applied_element avoid tag children, ?_⟩
  cases passedOver : tag.isPreformatted with
  | true =>
      have still : (Labelled.element label tag children).traversal = [] := by
        simp [traversal, passedOver]
      rw [still]
      exact ⟨by simp [erase, Node.collapse, passedOver, applied], .preformatted passedOver .nil⟩
  | false =>
      have traverses := traverses_all .start children distinct.2
        (by simp [Trail.origins, Trail.start])
      have all : (Labelled.element label tag children).traversal =
          (traverseAll .start children).1 ++ (traverseAll .start children).2.closing .finish := by
        simp [traversal, passedOver, Trail.closing]
      rw [all]
      refine ⟨?_, .element passedOver (traverses.framed .finish) .nil⟩
      rw [erase, traverses.settled .finish, erase, Node.collapse, passedOver, collapseChildren]
      rfl

/-- Nothing around the root is changed. -/
theorem Context.exists_applied_traversal {context : Context} {before after : List Labelled}
    {label : Label} {tag : Tag} {children : List Labelled}
    (distinct :
      (originsOf (context.plug (before ++ .element label tag children :: after))).Nodup) :
    ∃ children', PageMark.applied (Labelled.element label tag children).traversal
        (context.plug (before ++ .element label tag children :: after)) =
          context.plug (before ++ .element label tag children' :: after) ∧
      (Labelled.element label tag children').erase =
        (Labelled.element label tag children).erase.collapse ∧
      Framed [.element label tag children] [.element label tag children'] := by
  have siblings := nodup_of_plug distinct
  have around := disjoint_of_plug distinct
  rw [originsOf_append, originsOf] at siblings around
  have here := List.Nodup.of_append_left (List.Nodup.of_append_right siblings)
  have left := List.disjoint_of_nodup_append siblings
  have right := List.disjoint_of_nodup_append (List.Nodup.of_append_right siblings)
  have target {edit : Edit} (member : edit ∈ (Labelled.element label tag children).traversal) :
      edit.target.origin ∈ (Labelled.element label tag children).origins :=
    .tail _ (Labelled.target_traversal (List.nodup_cons.1 here).2 member)
  have avoidContext : Avoid (Labelled.element label tag children).traversal context.origins :=
    fun edit member outside => around outside
      (List.mem_append_right _ (List.mem_append_left _ (target member)))
  have avoidBefore : Avoid (Labelled.element label tag children).traversal (originsOf before) :=
    fun edit member outside => left outside (List.mem_append_left _ (target member))
  have avoidAfter : Avoid (Labelled.element label tag children).traversal (originsOf after) :=
    fun edit member outside => right (target member) outside
  obtain ⟨children', inPlace, collapsed, framed⟩ := Labelled.exists_applied_traversal here
  refine ⟨children', ?_, collapsed, framed⟩
  rw [applied_plug (avoidContext.mono context.owners_subset_origins),
    applied_of_avoid avoidContext, applied_append, applied_cons, avoidBefore.applied,
    avoidAfter.applied, inPlace]
  rfl

end PageMark
