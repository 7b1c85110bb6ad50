import PageMark.Proofs.Traversal

/-!
# One step of the walk

On its way the walk stands among the children of some element: it has dealt with
those on its left, and the node before is the last of them that is left, or else
lies outside.  So it never takes an element that it enters for one that it
leaves, and a step past a node does what the traversal does there.
-/

namespace PageMark

namespace Context

theorem site?_last {context : Context} {others right : List Labelled} {last : Labelled}
    (distinct : (originsOf (context.plug (others ++ [last] ++ right))).Nodup) :
    site? (context.plug (others ++ [last] ++ right)) last.label =
      some { node := last, parent := context.owner, next := right.head?.map Labelled.label } := by
  rw [List.append_assoc, List.singleton_append] at distinct ⊢
  exact site?_plug distinct

theorem site?_owner {layer : Layer} {outer : Context} {nodes : List Labelled}
    (distinct : (originsOf (Context.plug (layer :: outer) nodes)).Nodup) :
    site? (Context.plug (layer :: outer) nodes) layer.label =
      some
        { node := .element layer.label layer.tag nodes
          parent := owner outer
          next := layer.after.head?.map Labelled.label } :=
  site?_plug distinct

theorem applied_nil_edits (context : Context) : context.applied [] = context :=
  List.map_id context

theorem applied_both (first second : List Edit) (context : Context) :
    context.applied (first ++ second) = (context.applied first).applied second := by
  simp [applied, Layer.applied, PageMark.applied_both]

theorem applied_cons (edits : List Edit) (layer : Layer) (outer : Context) :
    Context.applied edits (layer :: outer) = layer.applied edits :: outer.applied edits :=
  rfl

/-- Edits at what is on the left leave what is on the right in its place. -/
theorem applied_siblings {context : Context} {edits : List Edit} {right : List Labelled}
    (avoid : Avoid edits (context.owners ++ originsOf right)) (left : List Labelled) :
    PageMark.applied edits (context.plug (left ++ right)) =
      (context.applied edits).plug (PageMark.applied edits left ++ right) := by
  have outside : Avoid edits context.owners := avoid.mono (List.subset_append_left _ _)
  have ahead : Avoid edits (originsOf right) := avoid.mono (List.subset_append_right _ _)
  rw [applied_plug outside, applied_append, ahead.applied]

end Context

/-! ## Standing in the tree -/

/-- The walk stands among siblings: those on the left are dealt with, those on the
right are not. -/
structure Walk.Stands (walk : Walk) (context : Context) (left right : List Labelled) : Prop where
  tree : walk.tree = context.plug (left ++ right)
  distinct : (originsOf walk.tree).Nodup
  apart : List.Disjoint walk.trail.origins (context.owners ++ originsOf right)
  previous : ∃ base, (base = none ∨ base = context.owner) ∧
    walk.previous = (left.getLast?.map Labelled.label).or base
  current : walk.current = (right.head?.map Labelled.label).or context.owner

namespace Walk.Stands

variable {walk : Walk} {context : Context} {left right : List Labelled}

theorem distinctHere (stands : walk.Stands context left right) :
    (originsOf (context.plug (left ++ right))).Nodup :=
  stands.tree ▸ stands.distinct

/-- Siblings on the right come from nowhere else. -/
theorem ownersApart (stands : walk.Stands context left right) :
    List.Disjoint context.owners (originsOf right) := by
  intro origin owner inside
  refine Context.disjoint_of_plug stands.distinctHere (context.owners_subset_origins owner) ?_
  rw [originsOf_append]
  exact List.mem_append_right _ inside

theorem distinctRight (stands : walk.Stands context left right) : (originsOf right).Nodup := by
  have siblings := Context.nodup_of_plug stands.distinctHere
  rw [originsOf_append] at siblings
  exact List.Nodup.of_append_right siblings

/-- The node before does not stand in an element that is still to be entered. -/
theorem parent_previous (stands : walk.Stands context left right) {label : Label}
    (parent : (walk.previous.bind (site? walk.tree)).bind Site.parent = some label) :
    label.origin ∈ context.owners := by
  obtain ⟨base, outside, previous⟩ := stands.previous
  have distinct := stands.distinctHere
  rw [previous, stands.tree] at parent
  rcases List.eq_nil_or_concat' left with rfl | ⟨others, last, rfl⟩
  · cases context with
    | nil =>
        have nowhere : base = none := outside.elim id id
        rw [nowhere] at parent
        cases parent
    | cons layer outer =>
        rcases outside with rfl | rfl
        · cases parent
        · change (site? _ layer.label).bind Site.parent = some label at parent
          rw [Context.site?_owner distinct] at parent
          have above : Context.owner outer = some label := parent
          cases outer with
          | nil => cases above
          | cons next further =>
              cases above
              simp [Context.owners]
  · rw [List.getLast?_concat] at parent
    change (site? _ last.label).bind Site.parent = some label at parent
    rw [Context.site?_last distinct] at parent
    have here : context.owner = some label := parent
    cases context with
    | nil => cases here
    | cons layer outer =>
        cases here
        simp [Context.owners]

/-- Into a node that has not been dealt with the way leads on unless there is no
way in. -/
theorem onward_entering {node : Labelled} (stands : walk.Stands context left (node :: right))
    (site : Site) (here : site.node = node) :
    onward walk.tree walk.previous site =
      if node.isPreformatted then site.outward
      else (node.children.head?.map Labelled.label).or site.outward := by
  have underway : (walk.previous.bind (site? walk.tree)).bind Site.parent ≠ some node.label := by
    intro parent
    exact stands.ownersApart (stands.parent_previous parent)
      (List.mem_append_left _ node.origin_mem)
  rw [onward, here]
  simp only [underway, false_or]

/-- From an element all of whose children have been dealt with it leads outward. -/
theorem onward_leaving {layer : Layer} {outer : Context}
    (stands : walk.Stands (layer :: outer) left []) (site : Site)
    (here : site.node = .element layer.label layer.tag left) :
    onward walk.tree walk.previous site = site.outward := by
  obtain ⟨base, outside, previous⟩ := stands.previous
  have distinct := stands.distinctHere
  rw [onward, here]
  split
  · rfl
  · next inward =>
      rcases List.eq_nil_or_concat' left with rfl | ⟨others, last, rfl⟩
      · rfl
      · refine absurd (.inl ?_) inward
        rw [previous, stands.tree, List.getLast?_concat]
        change (site? _ last.label).bind Site.parent = some layer.label
        rw [Context.site?_last distinct]
        rfl

end Walk.Stands

/-! ## One step -/

theorem Trail.renamed_of_not_mem {trail : Trail} {label : Label}
    (apart : label.origin ∉ trail.origins) : trail.renamed label = label := by
  obtain ⟨lastText, afterVoid⟩ := trail
  cases lastText with
  | none => rfl
  | some last =>
      have other : label ≠ last.1 := by
        rintro rfl
        exact apart (by simp [origins])
      simp [renamed, other]

/-- Stripping the last text renames the last of some nodes if it is that text. -/
theorem Trail.getLast?_strip (trail : Trail) (nodes : List Labelled) :
    (applied trail.strip nodes).getLast?.map Labelled.label =
      (nodes.getLast?.map Labelled.label).map trail.renamed := by
  obtain ⟨lastText, afterVoid⟩ := trail
  rcases List.eq_nil_or_concat' nodes with rfl | ⟨others, last, rfl⟩
  · simp [applied_nil]
  · rw [applied_append]
    cases lastText with
    | none => simp [strip, applied, renamed]
    | some text =>
        obtain ⟨label, content⟩ := text
        by_cases same : Text.dropTrailingSpace content = content
        · simp [strip, replacing, same, applied, renamed, Label.replaced]
        · obtain ⟨last', edited, known⟩ :=
            Labelled.edited_rewrite label (Text.dropTrailingSpace content) last
          have shape : strip { lastText := some (label, content), afterVoid := afterVoid } =
              [.rewrite label (Text.dropTrailingSpace content)] := by
            simp [strip, replacing, same]
          rw [shape, applied, applied, applied, applied, editedAll, edited, editedAll,
            List.append_nil, List.getLast?_concat, List.getLast?_concat]
          simp [renamed, known, Label.replaced, same]

/-- What stands in the place of a text of which something is left. -/
def Trail.takenText (trail : Trail) (label : Label) (kind : TextKind) (content : Text) : Labelled :=
  .text (label.replaced content (trail.gap.shorten content))
    (if trail.gap.shorten content = content then kind else .plain) (trail.gap.shorten content)

theorem Trail.applied_takingText {trail : Trail} {label : Label} {kind : TextKind} {content : Text}
    (kept : ¬ (trail.gap.shorten content).isEmpty = true) :
    applied (trail.takingText label content) [.text label kind content] =
      [trail.takenText label kind content] := by
  rw [takingText, if_neg kept, applied_replacing, takenText]

namespace Walk

section Steps

variable {walk : Walk} {context : Context} {left right : List Labelled}

/-- After the last text has been stripped the walk stands where it stood. -/
theorem Stands.pass (stands : walk.Stands context left right) (separation : Separation) :
    (walk.pass separation).Stands (context.applied (walk.trail.passing separation))
      (applied (walk.trail.passing separation) left) right where
  tree := by
    rw [Walk.pass, stands.tree]
    exact Context.applied_siblings (Trail.avoid_passing stands.apart separation) left
  distinct := (originsOf_applied _ walk.tree).nodup stands.distinct
  apart := by
    intro origin member outside
    rw [Context.owners_applied] at outside
    exact stands.apart (walk.trail.origins_pass_subset separation member) outside
  previous := by
    obtain ⟨base, outside, previous⟩ := stands.previous
    refine ⟨base, by rwa [Context.owner_applied], ?_⟩
    have away : base.map walk.trail.renamed = base := by
      rcases outside with rfl | rfl
      · rfl
      · cases context with
        | nil => rfl
        | cons layer outer =>
            have other : layer.label.origin ∉ walk.trail.origins := fun member =>
              stands.apart member (by simp [Context.owners])
            simp [Context.owner, Trail.renamed_of_not_mem other]
    cases separation with
    | boundary =>
        simp only [Walk.pass, if_true, Trail.passing, Trail.getLast?_strip, previous,
          Option.map_or, away]
    | inlineVoid => simpa [Walk.pass, Trail.passing, applied] using previous
    | none => simpa [Walk.pass, Trail.passing, applied] using previous
  current := by
    rw [Context.owner_applied]
    exact stands.current

variable {node : Labelled}

theorem Stands.traverses (stands : walk.Stands context left (node :: right)) :
    Traverses walk.trail [node] (node.traverse walk.trail).1 (node.traverse walk.trail).2 := by
  have distinct := stands.distinctRight
  rw [originsOf] at distinct
  refine Labelled.traverses walk.trail node (List.Nodup.of_append_left distinct) ?_
  exact fun origin member inside =>
    stands.apart member (List.mem_append_right _ (List.mem_append_left _ inside))

/-- What has been dealt with before, and the node itself, lie on the other side. -/
theorem Stands.apart_past (stands : walk.Stands context left (node :: right)) :
    List.Disjoint (walk.trail.origins ++ originsOf [node]) (context.owners ++ originsOf right) := by
  have apart := stands.apart
  have owners := stands.ownersApart
  have distinct := stands.distinctRight
  simp only [originsOf, List.append_nil, List.disjoint_append_left, List.disjoint_append_right]
    at apart owners distinct ⊢
  exact ⟨⟨apart.1, fun origin inside owner => owners.1 owner inside⟩, apart.2.2,
    List.disjoint_of_nodup_append distinct⟩

theorem Stands.avoid_traverse (stands : walk.Stands context left (node :: right)) :
    Avoid (node.traverse walk.trail).1 (context.owners ++ originsOf right) :=
  fun edit member outside => stands.apart_past (stands.traverses.targets edit member) outside

/-- The walk has dealt with a node and stands behind it. -/
structure Past (walk : Walk) (context : Context) (left : List Labelled) (node : Labelled)
    (right : List Labelled) (after : Walk) : Prop where
  stands : after.Stands (context.applied (node.traverse walk.trail).1)
    (applied (node.traverse walk.trail).1 (left ++ [node])) right
  tree : after.tree = applied (node.traverse walk.trail).1 walk.tree
  trail : after.trail = (node.traverse walk.trail).2

theorem Stands.past {after : Walk} (stands : walk.Stands context left (node :: right))
    (tree : after.tree = applied (node.traverse walk.trail).1 walk.tree)
    (trail : after.trail = (node.traverse walk.trail).2)
    (previous : ∃ base, (base = none ∨ base = context.owner) ∧ after.previous =
      ((applied (node.traverse walk.trail).1 (left ++ [node])).getLast?.map Labelled.label).or base)
    (current : after.current = (right.head?.map Labelled.label).or context.owner) :
    walk.Past context left node right after := by
  refine ⟨⟨?_, tree ▸ (originsOf_applied _ walk.tree).nodup stands.distinct, ?_,
    by rwa [Context.owner_applied], by rwa [Context.owner_applied]⟩, tree, trail⟩
  · rw [tree, stands.tree, ← Context.applied_siblings stands.avoid_traverse, List.append_assoc,
      List.singleton_append]
  · intro origin member outside
    rw [Context.owners_applied] at outside
    rw [trail] at member
    exact stands.apart_past (stands.traverses.origins member) outside

theorem Stands.site (stands : walk.Stands context left (node :: right)) :
    site? walk.tree node.label =
      some { node := node, parent := context.owner, next := right.head?.map Labelled.label } := by
  rw [stands.tree]
  exact Context.site?_plug stands.distinctHere

theorem Stands.current_eq (stands : walk.Stands context left (node :: right)) :
    walk.current = some node.label := by
  rw [stands.current, List.head?_cons, Option.map_some, Option.some_or]

theorem Stands.takeOut (stands : walk.Stands context left (node :: right))
    (traverse : node.traverse walk.trail = ([.remove node.label], walk.trail))
    (gone : editedAll (.remove node.label) [node] = []) :
    walk.Past context left node right
      (walk.takeOut
        { node := node, parent := context.owner, next := right.head?.map Labelled.label }) := by
  have apart : node.label.origin ∉ originsOf left := by
    have siblings := Context.nodup_of_plug stands.distinctHere
    rw [originsOf_append, originsOf] at siblings
    exact fun member => List.disjoint_of_nodup_append siblings member
      (List.mem_append_left _ node.origin_mem)
  obtain ⟨base, outside, previous⟩ := stands.previous
  refine stands.past (by rw [traverse]; rfl) (by rw [traverse]; rfl) ⟨base, outside, ?_⟩ rfl
  rw [traverse, applied_append, (avoid_remove apart).applied]
  change walk.previous = _
  simpa [applied, gone] using previous

theorem Stands.advance_mark {label : Label} {kind : MarkKind} {content : Text}
    (stands : walk.Stands context left (.mark label kind content :: right)) :
    ∃ after, walk.advance = some after ∧
      walk.Past context left (.mark label kind content) right after := by
  refine ⟨_, ?_, stands.takeOut rfl ?_⟩
  · rw [advance, stands.current_eq]
    simp only [Option.bind_eq_bind, Option.bind_some, stands.site]
  · simp [editedAll, Labelled.edited, Labelled.label, Edit.target, Edit.outcome]

theorem proceed_of_site {walk : Walk} {label : Label} {site : Site}
    (found : site? walk.tree label = some site) :
    walk.proceed label = some { walk with
      previous := some label, current := onward walk.tree walk.previous site } := by
  rw [proceed, found]
  rfl

theorem onward_childless {tree : List Labelled} {previous : Option Label} {site : Site}
    (childless : site.node.children = []) : onward tree previous site = site.outward := by
  rw [onward]
  split
  · rfl
  · rw [childless, List.head?_nil, Option.map_none, Option.none_or]

/-- Of a text in the way something is left, which is found under its new label. -/
theorem Stands.site_takeText {label : Label} {kind : TextKind} {content : Text}
    (stands : walk.Stands context left (.text label kind content :: right))
    (kept : ¬ (walk.trail.gap.shorten content).isEmpty = true) :
    applied ((Labelled.text label kind content).traverse walk.trail).1
        (left ++ [.text label kind content]) =
          applied (walk.trail.takingText label content) left ++
            [walk.trail.takenText label kind content] ∧
      site? (walk.takeText label content).tree (walk.trail.takenText label kind content).label =
        some
          { node := walk.trail.takenText label kind content
            parent := context.owner
            next := right.head?.map Labelled.label } := by
  have placed : applied ((Labelled.text label kind content).traverse walk.trail).1
      (left ++ [.text label kind content]) =
        applied (walk.trail.takingText label content) left ++
          [walk.trail.takenText label kind content] := by
    rw [Labelled.traverse, applied_append, Trail.applied_takingText kept]
  have tree : (walk.takeText label content).tree =
      (context.applied (walk.trail.takingText label content)).plug
        (applied (walk.trail.takingText label content) left ++
          walk.trail.takenText label kind content :: right) := by
    have siblings := Context.applied_siblings stands.avoid_traverse
      (left ++ [.text label kind content])
    rw [placed, List.append_assoc, List.append_assoc] at siblings
    rw [Walk.takeText, stands.tree]
    exact siblings
  have distinct : (originsOf (walk.takeText label content).tree).Nodup :=
    (originsOf_applied _ walk.tree).nodup stands.distinct
  have found := Context.site?_plug (tree ▸ distinct)
  rw [← tree, Context.owner_applied] at found
  exact ⟨placed, found⟩

theorem Stands.advance_text {label : Label} {kind : TextKind} {content : Text}
    (stands : walk.Stands context left (.text label kind content :: right)) :
    ∃ after, walk.advance = some after ∧
      walk.Past context left (.text label kind content) right after := by
  have site := stands.site
  by_cases nothing : (walk.trail.gap.shorten content).isEmpty = true
  · refine ⟨_, ?_, stands.takeOut ?_ (editedAll_remove label kind content)⟩
    · rw [advance, stands.current_eq]
      simp only [Option.bind_eq_bind, Option.bind_some, site, nothing, if_true]
    · simp [Labelled.traverse, Trail.takingText, Trail.takeText, nothing, Labelled.label]
  · obtain ⟨placed, found⟩ := stands.site_takeText nothing
    refine ⟨{ walk.takeText label content with
        previous := some (walk.trail.takenText label kind content).label
        current := (right.head?.map Labelled.label).or context.owner }, ?_,
      stands.past rfl rfl ⟨none, .inl rfl, ?_⟩ rfl⟩
    · rw [advance, stands.current_eq]
      simp only [Option.bind_eq_bind, Option.bind_some, site, nothing, Bool.false_eq_true, if_false]
      refine (proceed_of_site found).trans ?_
      rw [onward_childless rfl]
      rfl
    · rw [placed, List.getLast?_concat]
      rfl

variable {label : Label} {tag : Tag} {children : List Labelled}

theorem Stands.placed_element
    (stands : walk.Stands context left (.element label tag children :: right)) :
    ∃ children', applied ((Labelled.element label tag children).traverse walk.trail).1
        (left ++ [.element label tag children]) =
      applied ((Labelled.element label tag children).traverse walk.trail).1 left ++
        [.element label tag children'] := by
  have framed := stands.traverses.framed .inline
  rw [Trail.closing, List.append_nil] at framed
  rw [applied_append]
  generalize applied _ [.element label tag children] = here at framed ⊢
  cases framed with
  | preformatted _ further =>
      cases further
      exact ⟨_, rfl⟩
  | element _ _ further =>
      cases further
      exact ⟨_, rfl⟩

/-- Stepping on an element the walk deals with it and goes on, inside or outside. -/
theorem Stands.advance_element
    (stands : walk.Stands context left (.element label tag children :: right)) :
    walk.advance = some { walk.pass tag.separation with
      previous := some label
      current :=
        if tag.isPreformatted then (right.head?.map Labelled.label).or context.owner
        else (children.head?.map Labelled.label).or
          ((right.head?.map Labelled.label).or context.owner) } := by
  have site := stands.site
  have passed := stands.pass tag.separation
  have found := passed.site
  rw [Context.owner_applied] at found
  rw [advance, stands.current_eq]
  simp only [Option.bind_eq_bind, Option.bind_some, site]
  refine (proceed_of_site found).trans ?_
  rw [passed.onward_entering _ rfl]
  rfl

/-- Back at an element the walk goes on outside. -/
theorem Stands.advance_leaving {layer : Layer} {outer : Context}
    (stands : walk.Stands (layer :: outer) left []) :
    walk.advance = some { walk.pass layer.tag.separation with
      previous := some layer.label
      current := ((applied (walk.trail.passing layer.tag.separation) layer.after).head?.map
        Labelled.label).or outer.owner } := by
  have passed := stands.pass layer.tag.separation
  have site := Context.site?_owner stands.distinctHere
  rw [Context.applied_cons] at passed
  have found := Context.site?_owner passed.distinctHere
  rw [← stands.tree] at site
  rw [← passed.tree, Context.owner_applied] at found
  have here : walk.current = some layer.label := stands.current
  rw [advance, here]
  simp only [Option.bind_eq_bind, Option.bind_some, site]
  refine (proceed_of_site found).trans ?_
  rw [passed.onward_leaving _ (by rw [List.append_nil])]
  rfl

end Steps

end Walk

end PageMark
