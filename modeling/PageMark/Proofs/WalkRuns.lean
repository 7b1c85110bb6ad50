import PageMark.Proofs.WalkSteps

/-!
# The walk as a whole

Step by step the walk goes past all children of an element, and so it comes back
to its root with everything done that the traversal does.  There is one such walk.
-/

namespace PageMark

namespace Walk

theorem Goes.trans {root : Label} {walk after last : Walk} {visited visited' : List Label}
    (goes : Goes root walk visited after) (further : Goes root after visited' last) :
    Goes root walk (visited ++ visited') last := by
  induction goes with
  | stay => exact further
  | step here underway advances _ ih => exact .step here underway advances (ih further)

end Walk

mutual

/-- The nodes that are dealt with one after the other, from a node on until it is
left behind. -/
def Labelled.route : Labelled → List Label
  | .text label _ _ => [label]
  | .mark label _ _ => [label]
  | .element label tag children =>
      if tag.isPreformatted || children.isEmpty then [label]
      else label :: (routeAll children ++ [label])

def routeAll : List Labelled → List Label
  | [] => []
  | node :: rest => node.route ++ routeAll rest

end

namespace Walk

variable {root : Label} {context : Context}

theorem Stands.ne_root {walk : Walk} {left right : List Labelled} {node : Labelled}
    (stands : walk.Stands context left (node :: right)) (below : root.origin ∈ context.owners) :
    node.label ≠ root := by
  rintro rfl
  exact stands.ownersApart below (List.mem_append_left _ node.origin_mem)

/-- An element without a way in is met once. -/
theorem Stands.past_closed {walk : Walk} {left right children : List Labelled} {label : Label}
    {tag : Tag} (stands : walk.Stands context left (.element label tag children :: right))
    (closed : tag.isPreformatted = true ∨ children = []) :
    ∃ after, walk.advance = some after ∧
      walk.Past context left (.element label tag children) right after := by
  have traverse : (Labelled.element label tag children).traverse walk.trail =
      (walk.trail.passing tag.separation, walk.trail.pass tag.separation) := by
    rcases closed with passedOver | rfl
    · simp [Labelled.traverse, passedOver, Trail.passing_pass, Trail.pass_pass]
    · simp [Labelled.traverse, traverseAll, Trail.passing_pass, Trail.pass_pass]
  obtain ⟨children', placed⟩ := stands.placed_element
  refine ⟨_, stands.advance_element, stands.past (by rw [traverse]; rfl) (by rw [traverse]; rfl)
    ⟨none, .inl rfl, ?_⟩ ?_⟩
  · rw [placed, List.getLast?_concat]
    rfl
  · rcases closed with passedOver | rfl
    · exact if_pos passedOver
    · simp

/-- The walk enters an element and stands in front of its children. -/
theorem Stands.enter {walk : Walk} {left right children : List Labelled} {label : Label}
    {tag : Tag} (stands : walk.Stands context left (.element label tag children :: right))
    (open' : tag.isPreformatted = false) (nonempty : children ≠ []) :
    ∃ inside, walk.advance = some inside ∧
      inside.tree = (walk.pass tag.separation).tree ∧
      inside.trail = walk.trail.pass tag.separation ∧
      inside.Stands
        ({ label := label, tag := tag,
           before := applied (walk.trail.passing tag.separation) left, after := right } ::
          context.applied (walk.trail.passing tag.separation)) [] children := by
  have passed := stands.pass tag.separation
  refine ⟨_, stands.advance_element, rfl, rfl, passed.tree, passed.distinct, ?_, ?_, ?_⟩
  · intro origin member outside
    refine passed.apart member ?_
    simp only [Context.owners, List.map_cons, originsOf, Labelled.origins, List.cons_append,
      List.mem_cons, List.mem_append] at outside ⊢
    rcases outside with here | owner | inside
    · exact .inr (.inl here)
    · exact .inl owner
    · exact .inr (.inr (.inl inside))
  · exact ⟨some label, .inr rfl, rfl⟩
  · cases children with
    | nil => exact absurd rfl nonempty
    | cons first others => simp [open']

/-- Once the children have been dealt with, the walk is back at the element and
leaves it. -/
theorem Stands.leave {walk atEnd : Walk} {left right children before dealt : List Labelled}
    {label : Label} {tag : Tag} {outer : Context}
    (stands : walk.Stands context left (.element label tag children :: right))
    (open' : tag.isPreformatted = false)
    (back : atEnd.Stands
      (Layer.applied (traverseAll (walk.trail.pass tag.separation) children).1
        { label := label, tag := tag, before := before, after := right } :: outer) dealt [])
    (owner : outer.owner = context.owner)
    (tree : atEnd.tree = applied (traverseAll (walk.trail.pass tag.separation) children).1
      (walk.pass tag.separation).tree)
    (trail : atEnd.trail = (traverseAll (walk.trail.pass tag.separation) children).2) :
    ∃ after, atEnd.advance = some after ∧
      walk.Past context left (.element label tag children) right after := by
  have traverse : (Labelled.element label tag children).traverse walk.trail =
      (walk.trail.passing tag.separation ++
          (traverseAll (walk.trail.pass tag.separation) children).1 ++
          atEnd.trail.passing tag.separation,
        atEnd.trail.pass tag.separation) := by
    simp [Labelled.traverse, open', trail]
  obtain ⟨children', placed⟩ := stands.placed_element
  have behind : applied (atEnd.trail.passing tag.separation)
      (applied (traverseAll (walk.trail.pass tag.separation) children).1 right) = right := by
    rw [← applied_both]
    refine Avoid.applied fun edit member => ?_
    refine (stands.avoid_traverse.mono (List.subset_append_right _ _)) edit ?_
    rw [traverse, List.append_assoc]
    exact List.mem_append_right _ member
  have advances : atEnd.advance = some { atEnd.pass tag.separation with
      previous := some label
      current := ((applied (atEnd.trail.passing tag.separation)
        (applied (traverseAll (walk.trail.pass tag.separation) children).1 right)).head?.map
          Labelled.label).or outer.owner } :=
    back.advance_leaving
  rw [behind, owner] at advances
  refine ⟨_, advances, stands.past ?_ ?_ ⟨none, .inl rfl, ?_⟩ rfl⟩
  · rw [traverse, applied_both, applied_both]
    exact congrArg (applied (atEnd.trail.passing tag.separation)) tree
  · rw [traverse]
    rfl
  · rw [placed, List.getLast?_concat]
    rfl

end Walk

mutual

/-- What the walk does from a node on until it has left it behind is what the
traversal does at this node. -/
theorem Labelled.goes {root : Label} {walk : Walk} {context : Context} {left right : List Labelled}
    (below : root.origin ∈ context.owners) : (node : Labelled) →
    walk.Stands context left (node :: right) →
      ∃ after, Walk.Goes root walk node.route after ∧ walk.Past context left node right after
  | .text label kind content, stands => by
      obtain ⟨after, advances, past⟩ := stands.advance_text
      exact ⟨after, .step stands.current_eq (stands.ne_root below) advances .stay, past⟩
  | .mark label kind content, stands => by
      obtain ⟨after, advances, past⟩ := stands.advance_mark
      exact ⟨after, .step stands.current_eq (stands.ne_root below) advances .stay, past⟩
  | .element label tag children, stands => by
      by_cases closed : tag.isPreformatted = true ∨ children = []
      · obtain ⟨after, advances, past⟩ := stands.past_closed closed
        have once : (Labelled.element label tag children).route = [label] := by
          rw [Labelled.route]
          exact if_pos (by simpa using closed)
        rw [once]
        exact ⟨after, .step stands.current_eq (stands.ne_root below) advances .stay, past⟩
      · rw [not_or, Bool.not_eq_true] at closed
        have twice : (Labelled.element label tag children).route =
            label :: (routeAll children ++ [label]) := by
          simp [Labelled.route, closed.1, closed.2]
        obtain ⟨inside, enters, tree, trail, within⟩ := stands.enter closed.1 closed.2
        have belowHere : root.origin ∈ Context.owners
            ({ label := label, tag := tag,
               before := applied (walk.trail.passing tag.separation) left, after := right } ::
              context.applied (walk.trail.passing tag.separation)) := by
          refine .tail _ ?_
          change root.origin ∈ Context.owners _
          rwa [Context.owners_applied]
        obtain ⟨atEnd, goes, back, tree', trail'⟩ := goes_all belowHere children within
        rw [trail, Context.applied_cons] at back
        rw [trail, tree] at tree'
        rw [trail] at trail'
        obtain ⟨after, advances, past⟩ := stands.leave closed.1 back (by simp) tree' trail'
        rw [twice]
        refine ⟨after, .step stands.current_eq (stands.ne_root below) enters ?_, past⟩
        exact goes.trans (.step back.current (stands.ne_root below) advances .stay)

theorem goes_all {root : Label} {walk : Walk} {context : Context} {left : List Labelled}
    (below : root.origin ∈ context.owners) : (nodes : List Labelled) →
    walk.Stands context left nodes →
      ∃ after, Walk.Goes root walk (routeAll nodes) after ∧
        after.Stands (context.applied (traverseAll walk.trail nodes).1)
          (applied (traverseAll walk.trail nodes).1 (left ++ nodes)) [] ∧
        after.tree = applied (traverseAll walk.trail nodes).1 walk.tree ∧
        after.trail = (traverseAll walk.trail nodes).2
  | [], stands => by
      refine ⟨walk, .stay, ?_, rfl, rfl⟩
      rw [traverseAll, Context.applied_nil_edits, List.append_nil]
      exact stands
  | node :: rest, stands => by
      obtain ⟨after, goes, past⟩ := Labelled.goes below node stands
      obtain ⟨last, further, back, tree, trail⟩ :=
        goes_all (by rwa [Context.owners_applied]) rest past.stands
      rw [past.trail] at back tree trail
      have ahead : applied (node.traverse walk.trail).1 rest = rest :=
        (stands.avoid_traverse.mono (List.subset_append_right _ _)).applied
      refine ⟨last, goes.trans further, ?_, ?_, trail⟩
      · rw [← Context.applied_both] at back
        rw [traverseAll, applied_both, ← List.singleton_append, ← List.append_assoc,
          applied_append (node.traverse walk.trail).1, ahead]
        exact back
      · rw [tree, past.tree, traverseAll, applied_both]

end

/-! ## Back at the root -/

/-- From one walk there is one way back. -/
theorem Walk.Goes.unique {root : Label} {walk last last' : Walk} {visited visited' : List Label}
    (goes : Goes root walk visited last) (back : last.current = some root)
    (goes' : Goes root walk visited' last') (back' : last'.current = some root) :
    visited = visited' ∧ last = last' := by
  induction goes generalizing visited' with
  | stay =>
      cases goes' with
      | stay => exact ⟨rfl, rfl⟩
      | step here underway _ _ =>
          rw [back, Option.some.injEq] at here
          exact absurd here.symm underway
  | step here underway advances _ ih =>
      cases goes' with
      | stay =>
          rw [back', Option.some.injEq] at here
          exact absurd here.symm underway
      | step here' _ advances' rest =>
          rw [here, Option.some.injEq] at here'
          rw [advances, Option.some.injEq] at advances'
          subst here' advances'
          obtain ⟨rfl, rfl⟩ := ih back rest
          exact ⟨rfl, rfl⟩

theorem Collapses.unique {tree result result' : List Labelled} {root : Label}
    {visited visited' : List Label} (collapses : Collapses tree root visited result)
    (collapses' : Collapses tree root visited' result') :
    visited = visited' ∧ result = result' := by
  cases collapses with
  | untouched found still =>
      cases collapses' with
      | untouched _ _ => exact ⟨rfl, rfl⟩
      | walked found' nonempty open' _ _ =>
          cases found.symm.trans found'
          rcases still with childless | passedOver
          · exact absurd childless nonempty
          · rw [passedOver] at open'
            cases open'
  | walked found nonempty open' goes back =>
      cases collapses' with
      | untouched found' still =>
          cases found.symm.trans found'
          rcases still with childless | passedOver
          · exact absurd childless nonempty
          · rw [passedOver] at open'
            cases open'
      | walked found' _ _ goes' back' =>
          cases found.symm.trans found'
          obtain ⟨rfl, rfl⟩ := goes.unique back goes' back'
          exact ⟨rfl, rfl⟩

/-- The nodes that are dealt with below a root. -/
def Labelled.routeBelow : Labelled → List Label
  | .element _ tag children => if tag.isPreformatted then [] else routeAll children
  | _ => []

theorem collapses_traversal {context : Context} {before after : List Labelled} {root : Label}
    {tag : Tag} {children : List Labelled}
    (distinct :
      (originsOf (context.plug (before ++ .element root tag children :: after))).Nodup) :
    Collapses (context.plug (before ++ .element root tag children :: after)) root
      (Labelled.element root tag children).routeBelow
      (applied (Labelled.element root tag children).traversal
        (context.plug (before ++ .element root tag children :: after))) := by
  have found := Context.site?_plug distinct
  by_cases closed : tag.isPreformatted = true ∨ children = []
  · have nothing : (Labelled.element root tag children).routeBelow = [] ∧
        (Labelled.element root tag children).traversal = [] := by
      rcases closed with passedOver | rfl
      · simp [Labelled.routeBelow, Labelled.traversal, passedOver]
      · simp [Labelled.routeBelow, Labelled.traversal, routeAll, traverseAll, Trail.start,
          Trail.finish]
    rw [nothing.1, nothing.2]
    exact .untouched found closed.symm
  · rw [not_or, Bool.not_eq_true] at closed
    obtain ⟨open', nonempty⟩ := closed
    have stands : Walk.Stands
        { tree := context.plug (before ++ .element root tag children :: after), trail := .start,
          previous := none,
          current := onward (context.plug (before ++ .element root tag children :: after)) none
            { node := .element root tag children, parent := context.owner,
              next := after.head?.map Labelled.label } }
        ({ label := root, tag := tag, before := before, after := after } :: context) [] children := by
      refine ⟨rfl, distinct, by simp [Trail.origins, Trail.start], ⟨none, .inl rfl, rfl⟩, ?_⟩
      cases children with
      | nil => exact absurd rfl nonempty
      | cons first others => simp [onward, Labelled.isPreformatted, open', Labelled.children]
    have below : root.origin ∈ Context.owners
        ({ label := root, tag := tag, before := before, after := after } :: context) :=
      List.mem_cons_self
    obtain ⟨last, goes, back, tree, trail⟩ := goes_all below children stands
    have route : (Labelled.element root tag children).routeBelow = routeAll children := by
      simp [Labelled.routeBelow, open']
    have result : applied (Labelled.element root tag children).traversal
        (context.plug (before ++ .element root tag children :: after)) =
          applied last.trail.finish last.tree := by
      rw [tree, trail, ← applied_both]
      simp [Labelled.traversal, open']
    rw [route, result]
    exact .walked found nonempty open' goes back.current

end PageMark
