import PageMark.Proofs.WalkRuns

/-!
# The walk and the traversal

The walk refines the traversal.  It meets every text and every mark outside of
preformatted elements once and every element at most twice, and nothing else.
-/

namespace PageMark

/-! ## How often a node is met -/

mutual

/-- The node and what is met below it. -/
def Labelled.met : Labelled → List Labelled
  | .text label kind content => [.text label kind content]
  | .mark label kind content => [.mark label kind content]
  | .element label tag children =>
      .element label tag children :: if tag.isPreformatted then [] else metAll children

def metAll : List Labelled → List Labelled
  | [] => []
  | node :: rest => node.met ++ metAll rest

end

mutual

/-- Where that comes from which stands in preformatted elements. -/
def Labelled.passedOver : Labelled → List Nat
  | .text _ _ _ => []
  | .mark _ _ _ => []
  | .element _ tag children =>
      if tag.isPreformatted then originsOf children else passedOverAll children

def passedOverAll : List Labelled → List Nat
  | [] => []
  | node :: rest => node.passedOver ++ passedOverAll rest

end

mutual

theorem Labelled.origin_of_mem_met : (node : Labelled) → ∀ {inner : Labelled},
    inner ∈ node.met → inner.label.origin ∈ node.origins
  | .text _ _ _, _, member => by
      rw [Labelled.met, List.mem_singleton] at member
      exact member ▸ Labelled.origin_mem _
  | .mark _ _ _, _, member => by
      rw [Labelled.met, List.mem_singleton] at member
      exact member ▸ Labelled.origin_mem _
  | .element label tag children, inner, member => by
      rw [Labelled.met, List.mem_cons] at member
      rcases member with rfl | below
      · exact Labelled.origin_mem _
      · split at below
        · cases below
        · exact .tail _ (origin_of_mem_metAll children below)

theorem origin_of_mem_metAll : (nodes : List Labelled) → ∀ {inner : Labelled},
    inner ∈ metAll nodes → inner.label.origin ∈ originsOf nodes
  | node :: rest, inner, member => by
      rcases List.mem_append.1 member with here | further
      · exact List.mem_append_left _ (Labelled.origin_of_mem_met node here)
      · exact List.mem_append_right _ (origin_of_mem_metAll rest further)

end

mutual

theorem Labelled.label_mem_met : (node : Labelled) → ∀ {label : Label},
    label ∈ node.route → label ∈ node.met.map Labelled.label
  | .text _ _ _, _, member => member
  | .mark _ _ _, _, member => member
  | .element own tag children, label, member => by
      rw [Labelled.route] at member
      rw [Labelled.met, List.map_cons, List.mem_cons]
      split at member
      · exact .inl (List.mem_singleton.1 member)
      · next closed =>
          have open' : tag.isPreformatted = false := by
            simp at closed
            exact closed.1
          simp only [List.mem_cons, List.mem_append, List.not_mem_nil, or_false] at member
          rcases member with here | below | here
          · exact .inl here
          · refine .inr ?_
            rw [open']
            exact label_mem_metAll children below
          · exact .inl here

theorem label_mem_metAll : (nodes : List Labelled) → ∀ {label : Label},
    label ∈ routeAll nodes → label ∈ (metAll nodes).map Labelled.label
  | node :: rest, label, member => by
      rw [metAll, List.map_append]
      rcases List.mem_append.1 member with here | further
      · exact List.mem_append_left _ (Labelled.label_mem_met node here)
      · exact List.mem_append_right _ (label_mem_metAll rest further)

end

theorem origin_of_mem_routeAll {nodes : List Labelled} {label : Label}
    (member : label ∈ routeAll nodes) : label.origin ∈ originsOf nodes := by
  obtain ⟨inner, met, rfl⟩ := List.mem_map.1 (label_mem_metAll nodes member)
  exact origin_of_mem_metAll nodes met

mutual

theorem Labelled.passedOver_subset : (node : Labelled) → node.passedOver ⊆ node.origins
  | .text _ _ _ => List.nil_subset _
  | .mark _ _ _ => List.nil_subset _
  | .element label tag children => by
      rw [Labelled.passedOver, Labelled.origins]
      refine List.Subset.trans ?_ (List.subset_cons_self _ _)
      split
      · exact List.Subset.refl _
      · exact passedOverAll_subset children

theorem passedOverAll_subset : (nodes : List Labelled) → passedOverAll nodes ⊆ originsOf nodes
  | [] => List.nil_subset _
  | node :: rest => List.append_subset.2
      ⟨List.subset_append_of_subset_left _ (Labelled.passedOver_subset node),
        List.subset_append_of_subset_right _ (passedOverAll_subset rest)⟩

end

mutual

theorem Labelled.not_mem_passedOver : (node : Labelled) → node.origins.Nodup →
    ∀ {label : Label}, label ∈ node.route → label.origin ∉ node.passedOver
  | .text _ _ _, _, _, _ => List.not_mem_nil
  | .mark _ _ _, _, _, _ => List.not_mem_nil
  | .element own tag children, distinct, label, member => by
      rw [Labelled.origins, List.nodup_cons] at distinct
      rw [Labelled.passedOver]
      rw [Labelled.route] at member
      split at member
      · rw [List.mem_singleton] at member
        subst member
        split
        · exact distinct.1
        · exact fun inside => distinct.1 (passedOverAll_subset children inside)
      · next closed =>
          simp only [Bool.or_eq_true, not_or] at closed
          rw [if_neg closed.1]
          simp only [List.mem_cons, List.mem_append, List.not_mem_nil, or_false] at member
          rcases member with rfl | below | rfl
          · exact fun inside => distinct.1 (passedOverAll_subset children inside)
          · exact not_mem_passedOverAll children distinct.2 below
          · exact fun inside => distinct.1 (passedOverAll_subset children inside)

/-- What stands in preformatted elements is not dealt with. -/
theorem not_mem_passedOverAll : (nodes : List Labelled) → (originsOf nodes).Nodup →
    ∀ {label : Label}, label ∈ routeAll nodes → label.origin ∉ passedOverAll nodes
  | node :: rest, distinct, label, member => by
      rw [originsOf] at distinct
      have between := List.disjoint_of_nodup_append distinct
      rw [passedOverAll, List.mem_append, not_or]
      rcases List.mem_append.1 member with here | further
      · have origin : label.origin ∈ originsOf [node] :=
          origin_of_mem_routeAll (List.mem_append_left _ here)
        rw [originsOf, originsOf, List.append_nil] at origin
        exact ⟨Labelled.not_mem_passedOver node (List.Nodup.of_append_left distinct) here,
          fun inside => between origin (passedOverAll_subset rest inside)⟩
      · exact ⟨fun inside => between (Labelled.passedOver_subset node inside)
            (origin_of_mem_routeAll further),
          not_mem_passedOverAll rest (List.Nodup.of_append_right distinct) further⟩

end

/-- A node is met once, or twice if it is an element. -/
structure Labelled.MetOften (node : Labelled) (count : Nat) : Prop where
  atLeast : 1 ≤ count
  atMost : count ≤ 2
  once : node.isElement = false → count = 1

theorem Labelled.MetOften.one (node : Labelled) : node.MetOften 1 :=
  ⟨le_refl 1, by decide, fun _ => rfl⟩

theorem count_eq_zero_of_origin {labels : List Label} {label : Label}
    (apart : ∀ other ∈ labels, other.origin ≠ label.origin) : labels.count label = 0 :=
  List.count_eq_zero.2 fun member => apart label member rfl

mutual

theorem Labelled.metOften_route : (node : Labelled) → node.origins.Nodup →
    ∀ inner ∈ node.met, inner.MetOften (node.route.count inner.label)
  | .text label kind content, _, inner, member => by
      rw [Labelled.met, List.mem_singleton] at member
      subst member
      simpa [Labelled.route, Labelled.label] using Labelled.MetOften.one _
  | .mark label kind content, _, inner, member => by
      rw [Labelled.met, List.mem_singleton] at member
      subst member
      simpa [Labelled.route, Labelled.label] using Labelled.MetOften.one _
  | .element label tag children, distinct, inner, member => by
      rw [Labelled.origins, List.nodup_cons] at distinct
      have below : (routeAll children).count label = 0 := count_eq_zero_of_origin
        fun other inside same => distinct.1 (same ▸ origin_of_mem_routeAll inside)
      rw [Labelled.met, List.mem_cons] at member
      rw [Labelled.route]
      rcases member with rfl | member
      · split
        · simpa [Labelled.label] using Labelled.MetOften.one _
        · have twice : (label :: (routeAll children ++ [label])).count label = 2 := by
            simp [below]
          rw [Labelled.label, twice]
          exact ⟨by decide, le_refl 2, fun other => by cases other⟩
      · split at member
        · cases member
        · next open' =>
            have other : label ≠ inner.label := fun same =>
              distinct.1 (same ▸ origin_of_mem_metAll children member)
            have nonempty : children.isEmpty = false := by
              cases children with
              | nil => cases member
              | cons _ _ => rfl
            rw [if_neg (by simpa [nonempty] using open')]
            simpa [List.count_append, List.count_cons, other] using
              metOften_routeAll children distinct.2 inner member

theorem metOften_routeAll : (nodes : List Labelled) → (originsOf nodes).Nodup →
    ∀ inner ∈ metAll nodes, inner.MetOften ((routeAll nodes).count inner.label)
  | node :: rest, distinct, inner, member => by
      rw [originsOf] at distinct
      have between := List.disjoint_of_nodup_append distinct
      rw [routeAll, List.count_append]
      rcases List.mem_append.1 member with here | further
      · have none : (routeAll rest).count inner.label = 0 := count_eq_zero_of_origin
          fun other inside same => between (Labelled.origin_of_mem_met node here)
            (same ▸ origin_of_mem_routeAll inside)
        rw [none]
        exact Labelled.metOften_route node (List.Nodup.of_append_left distinct) inner here
      · have none : node.route.count inner.label = 0 := count_eq_zero_of_origin
          fun other inside same => by
            obtain ⟨met, member, known⟩ := List.mem_map.1 (Labelled.label_mem_met node inside)
            have origin := Labelled.origin_of_mem_met node member
            rw [known, same] at origin
            exact between origin (origin_of_mem_metAll rest further)
        rw [none, Nat.zero_add]
        exact metOften_routeAll rest (List.Nodup.of_append_right distinct) inner further

end

/-! ## The walk as a whole -/

/-- What is met below a root. -/
def Labelled.metBelow : Labelled → List Labelled
  | .element _ tag children => if tag.isPreformatted then [] else metAll children
  | _ => []

/-- The walk comes back to its root, and it has then done to the tree what the
traversal does; which nodes it has dealt with is known, and how often. -/
structure WalkRefines (tree : List Labelled) (root : Labelled) : Prop where
  collapses (visited : List Label) (result : List Labelled) :
    Collapses tree root.label visited result ↔
      visited = root.routeBelow ∧ result = applied root.traversal tree
  often : ∀ node ∈ root.metBelow, node.MetOften (root.routeBelow.count node.label)
  nothingElse : ∀ label ∈ root.routeBelow, label ∈ root.metBelow.map Labelled.label
  notInside : ∀ label ∈ root.routeBelow, label.origin ∉ root.passedOver

/-- Wherever the root stands in a tree, the walk below it ends and refines the
traversal, and the root is then collapsed with nothing changed around it. -/
theorem walk_refines_traversal (context : Context) (before after : List Labelled) (root : Label)
    (tag : Tag) (children : List Labelled)
    (distinct :
      (originsOf (context.plug (before ++ .element root tag children :: after))).Nodup) :
    WalkRefines (context.plug (before ++ .element root tag children :: after))
        (.element root tag children) ∧
      ∃ children', applied (Labelled.element root tag children).traversal
          (context.plug (before ++ .element root tag children :: after)) =
            context.plug (before ++ .element root tag children' :: after) ∧
        (Labelled.element root tag children').erase =
          (Labelled.element root tag children).erase.collapse := by
  have collapses := collapses_traversal distinct
  have siblings := Context.nodup_of_plug distinct
  rw [originsOf_append, originsOf] at siblings
  have here := List.Nodup.of_append_left (List.Nodup.of_append_right siblings)
  have inside := (List.nodup_cons.1 here).2
  refine ⟨⟨fun visited result => ?_, ?_, ?_, ?_⟩, ?_⟩
  · constructor
    · exact fun other => other.unique collapses
    · rintro ⟨rfl, rfl⟩
      exact collapses
  · intro node member
    rw [Labelled.metBelow] at member
    split at member
    · cases member
    · next open' =>
        rw [Labelled.routeBelow, if_neg open']
        exact metOften_routeAll children inside node member
  · intro label member
    rw [Labelled.routeBelow] at member
    split at member
    · cases member
    · next open' =>
        rw [Labelled.metBelow, if_neg open']
        exact label_mem_metAll children member
  · intro label member
    rw [Labelled.routeBelow] at member
    split at member
    · cases member
    · next open' =>
        rw [Labelled.passedOver, if_neg open']
        exact not_mem_passedOverAll children inside member
  · obtain ⟨children', inPlace, collapsed, -⟩ := Context.exists_applied_traversal distinct
    exact ⟨children', inPlace, collapsed⟩

/-- Nodes that vanish in an element, a text that is stripped once its element has
been left, and a preformatted element. -/
def unevenRoot : Labelled :=
  let tag (name : String) : Tag := { name := name, attributes := [] }
  let words (content : String) : Node := .text .plain content.toList
  .element { origin := 1, generation := 0 } (tag "div")
    (numberedAll 2
      [words " one ", .element (tag "em") [.mark .comment "no".toList, words " "],
        .element (tag "b") [words "two "], .element (tag "pre") [words " three "], words " "]).1

def unevenTree : List Labelled :=
  [.element { origin := 0, generation := 0 } { name := "body", attributes := [] }
    [.text { origin := 11, generation := 0 } .plain "out ".toList, unevenRoot]]

theorem unevenRoot_refines :
    (originsOf unevenTree).Nodup ∧ WalkRefines unevenTree unevenRoot ∧
      unevenRoot.routeBelow.map Label.origin = [2, 3, 4, 5, 3, 6, 7, 6, 8, 10] ∧
      eraseAll (applied unevenRoot.traversal [unevenRoot]) = [unevenRoot.erase.collapse] := by
  have distinct : (originsOf unevenTree).Nodup := by decide +kernel
  refine ⟨distinct, ?_, by decide +kernel, by decide +kernel⟩
  exact (walk_refines_traversal
    [{ label := { origin := 0, generation := 0 }, tag := { name := "body", attributes := [] },
       before := [], after := [] }]
    [.text { origin := 11, generation := 0 } .plain "out ".toList] [] _ _ _ distinct).1

end PageMark
