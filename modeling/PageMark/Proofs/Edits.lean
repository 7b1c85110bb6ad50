import Mathlib.Data.List.Nodup
import PageMark.Collapse.Labelled

/-!
# Edits in place

An edit reaches one node and leaves all others where they are.  A context is all
that stands around a list of siblings; editing a plugged context is editing the
context and what is plugged into it.  As long as no two nodes come from the same
origin, a label is found at one place only, and no edit changes that.
-/

namespace PageMark

/-! ## Parts of a forest -/

theorem originsOf_append (left right : List Labelled) :
    originsOf (left ++ right) = originsOf left ++ originsOf right := by
  induction left with
  | nil => rfl
  | cons node rest ih => rw [List.cons_append, originsOf, originsOf, ih, List.append_assoc]

theorem eraseAll_append (left right : List Labelled) :
    eraseAll (left ++ right) = eraseAll left ++ eraseAll right := by
  induction left with
  | nil => rfl
  | cons node rest ih => rw [List.cons_append, eraseAll, eraseAll, ih, List.cons_append]

theorem editedAll_append (edit : Edit) (left right : List Labelled) :
    editedAll edit (left ++ right) = editedAll edit left ++ editedAll edit right := by
  induction left with
  | nil => rfl
  | cons node rest ih => rw [List.cons_append, editedAll, editedAll, ih, List.append_assoc]

theorem applied_append (edits : List Edit) (left right : List Labelled) :
    applied edits (left ++ right) = applied edits left ++ applied edits right := by
  induction edits generalizing left right with
  | nil => rfl
  | cons edit edits ih => rw [applied, applied, applied, editedAll_append, ih]

theorem applied_cons (edits : List Edit) (node : Labelled) (rest : List Labelled) :
    applied edits (node :: rest) = applied edits [node] ++ applied edits rest :=
  applied_append edits [node] rest

theorem applied_nil (edits : List Edit) : applied edits [] = [] := by
  induction edits with
  | nil => rfl
  | cons edit edits ih => exact ih

theorem applied_both (first second : List Edit) (nodes : List Labelled) :
    applied (first ++ second) nodes = applied second (applied first nodes) := by
  induction first generalizing nodes with
  | nil => rfl
  | cons edit edits ih => exact ih (editedAll edit nodes)

theorem Labelled.origin_mem (node : Labelled) : node.label.origin ∈ node.origins := by
  cases node <;> simp [Labelled.label, Labelled.origins]

/-! ## Numbering -/

mutual

theorem erase_numbered (next : Nat) : (node : Node) → (node.numbered next).1.erase = node
  | .text _ _ => rfl
  | .mark _ _ => rfl
  | .element tag children => congrArg (Node.element tag) (eraseAll_numberedAll (next + 1) children)

theorem eraseAll_numberedAll (next : Nat) : (nodes : List Node) →
    eraseAll (numberedAll next nodes).1 = nodes
  | [] => rfl
  | node :: rest => congrArg₂ List.cons (erase_numbered next node) (eraseAll_numberedAll _ rest)

end

mutual

theorem origins_numbered (next : Nat) : (node : Node) → ∃ count,
    (node.numbered next).2 = next + count ∧
      (node.numbered next).1.origins = List.range' next count
  | .text _ _ => ⟨1, rfl, rfl⟩
  | .mark _ _ => ⟨1, rfl, rfl⟩
  | .element tag children => by
      obtain ⟨count, last, origins⟩ := originsOf_numberedAll (next + 1) children
      refine ⟨count + 1, ?_, ?_⟩
      · rw [Node.numbered, last]
        omega
      · rw [Node.numbered, Labelled.origins, origins, List.range'_succ]

/-- Consecutive numbers are given to the nodes. -/
theorem originsOf_numberedAll (next : Nat) : (nodes : List Node) → ∃ count,
    (numberedAll next nodes).2 = next + count ∧
      originsOf (numberedAll next nodes).1 = List.range' next count
  | [] => ⟨0, rfl, rfl⟩
  | node :: rest => by
      obtain ⟨count, last, origins⟩ := origins_numbered next node
      obtain ⟨count', last', origins'⟩ := originsOf_numberedAll (node.numbered next).2 rest
      refine ⟨count + count', ?_, ?_⟩
      · rw [numberedAll, last', last, Nat.add_assoc]
      · rw [numberedAll, originsOf, origins, origins', last, List.range'_append_1]

end

/-- Every forest can be labelled so that no two nodes come from the same origin. -/
theorem nodup_originsOf_numberedAll (next : Nat) (nodes : List Node) :
    (originsOf (numberedAll next nodes).1).Nodup := by
  obtain ⟨count, -, origins⟩ := originsOf_numberedAll next nodes
  rw [origins]
  exact List.nodup_range'

/-! ## What edits leave alone -/

mutual

theorem Labelled.edited_of_not_mem {edit : Edit} : (node : Labelled) →
    edit.target.origin ∉ node.origins → node.edited edit = [node]
  | .text label kind content, apart => by
      have other : label ≠ edit.target := fun same => apart (by simp [Labelled.origins, same])
      simp [Labelled.edited, other]
  | .mark label kind content, apart => by
      have other : label ≠ edit.target := fun same => apart (by simp [Labelled.origins, same])
      simp [Labelled.edited, other]
  | .element label tag children, apart => by
      have other : label ≠ edit.target := fun same => apart (by simp [Labelled.origins, same])
      have inside := editedAll_of_not_mem children fun member => apart (.tail _ member)
      simp [Labelled.edited, other, inside]

theorem editedAll_of_not_mem {edit : Edit} : (nodes : List Labelled) →
    edit.target.origin ∉ originsOf nodes → editedAll edit nodes = nodes
  | [], _ => rfl
  | node :: rest, apart => by
      rw [originsOf, List.mem_append, not_or] at apart
      rw [editedAll, Labelled.edited_of_not_mem node apart.1, editedAll_of_not_mem rest apart.2]
      rfl

end

/-- The edits are made at nodes of other origins. -/
def Avoid (edits : List Edit) (origins : List Nat) : Prop :=
  ∀ edit ∈ edits, edit.target.origin ∉ origins

theorem Avoid.both {first second : List Edit} {origins : List Nat} (left : Avoid first origins)
    (right : Avoid second origins) : Avoid (first ++ second) origins := by
  intro edit member
  rcases List.mem_append.1 member with member | member
  · exact left edit member
  · exact right edit member

theorem Avoid.mono {edits : List Edit} {origins origins' : List Nat} (avoid : Avoid edits origins)
    (subset : origins' ⊆ origins) : Avoid edits origins' :=
  fun edit member inside => avoid edit member (subset inside)

theorem Avoid.applied {edits : List Edit} {nodes : List Labelled}
    (avoid : Avoid edits (originsOf nodes)) : applied edits nodes = nodes := by
  induction edits with
  | nil => rfl
  | cons edit edits ih =>
      rw [PageMark.applied, editedAll_of_not_mem nodes (avoid edit List.mem_cons_self)]
      exact ih fun other member => avoid other (.tail _ member)

/-- An element that is not edited itself is edited inside. -/
theorem applied_element {edits : List Edit} {label : Label} (avoid : Avoid edits [label.origin])
    (tag : Tag) (children : List Labelled) :
    applied edits [.element label tag children] = [.element label tag (applied edits children)] := by
  induction edits generalizing children with
  | nil => rfl
  | cons edit edits ih =>
      have other : label ≠ edit.target := fun same =>
        avoid edit List.mem_cons_self (by simp [same])
      have one : editedAll edit [.element label tag children] =
          [.element label tag (editedAll edit children)] := by
        simp [editedAll, Labelled.edited, other]
      rw [applied, one]
      exact ih (fun other member => avoid other (.tail _ member)) (editedAll edit children)

/-- A new text has the renewed label; whatever else stands there keeps its label. -/
theorem Labelled.edited_rewrite (target : Label) (content : Text) (node : Labelled) :
    ∃ node', node.edited (.rewrite target content) = [node'] ∧
      node'.label = if node.label = target then target.renewed else node.label := by
  by_cases same : node.label = target
  · refine ⟨.text target.renewed .plain content, ?_, (if_pos same).symm⟩
    cases node <;> exact if_pos same
  · rw [if_neg same]
    cases node <;> exact ⟨_, if_neg same, rfl⟩

theorem Edit.originsOf_outcome (edit : Edit) (rest : List Nat) :
    (originsOf edit.outcome).Sublist (edit.target.origin :: rest) := by
  cases edit with
  | remove target => exact List.nil_sublist _
  | rewrite target content => exact (List.nil_sublist rest).cons_cons target.origin

mutual

theorem Labelled.origins_edited (edit : Edit) : (node : Labelled) →
    (originsOf (node.edited edit)).Sublist node.origins
  | .text label kind content => by
      rw [Labelled.edited]
      split
      · next same =>
          rw [Labelled.origins, same]
          exact edit.originsOf_outcome _
      · simp [originsOf]
  | .mark label kind content => by
      rw [Labelled.edited]
      split
      · next same =>
          rw [Labelled.origins, same]
          exact edit.originsOf_outcome _
      · simp [originsOf]
  | .element label tag children => by
      rw [Labelled.edited]
      split
      · next same =>
          rw [Labelled.origins, same]
          exact edit.originsOf_outcome _
      · simpa [originsOf, Labelled.origins] using originsOf_editedAll edit children

theorem originsOf_editedAll (edit : Edit) : (nodes : List Labelled) →
    (originsOf (editedAll edit nodes)).Sublist (originsOf nodes)
  | [] => List.Sublist.refl _
  | node :: rest => by
      rw [editedAll, originsOf_append, originsOf]
      exact (Labelled.origins_edited edit node).append (originsOf_editedAll edit rest)

end

/-- Edits bring in nothing that comes from elsewhere. -/
theorem originsOf_applied (edits : List Edit) (nodes : List Labelled) :
    (originsOf (applied edits nodes)).Sublist (originsOf nodes) := by
  induction edits generalizing nodes with
  | nil => exact List.Sublist.refl _
  | cons edit edits ih => exact (ih _).trans (originsOf_editedAll edit nodes)

/-! ## Contexts -/

/-- An element around something, with the siblings on its two sides. -/
structure Layer where
  label : Label
  tag : Tag
  before : List Labelled
  after : List Labelled

/-- The elements around something, the innermost first. -/
abbrev Context := List Layer

namespace Layer

def origins (layer : Layer) : List Nat :=
  layer.label.origin :: (originsOf layer.before ++ originsOf layer.after)

def applied (edits : List Edit) (layer : Layer) : Layer :=
  { layer with
    before := PageMark.applied edits layer.before
    after := PageMark.applied edits layer.after }

end Layer

namespace Context

def plug : Context → List Labelled → List Labelled
  | [], nodes => nodes
  | layer :: outer, nodes =>
      plug outer (layer.before ++ .element layer.label layer.tag nodes :: layer.after)

/-- The element right around. -/
def owner (context : Context) : Option Label :=
  context.head?.map Layer.label

/-- Where the elements around come from. -/
def owners (context : Context) : List Nat :=
  context.map fun layer => layer.label.origin

def origins (context : Context) : List Nat :=
  context.flatMap Layer.origins

def applied (edits : List Edit) (context : Context) : Context :=
  context.map (Layer.applied edits)

@[simp] theorem owner_applied (edits : List Edit) (context : Context) :
    (context.applied edits).owner = context.owner := by
  cases context <;> rfl

@[simp] theorem owners_applied (edits : List Edit) (context : Context) :
    (context.applied edits).owners = context.owners := by
  simp [applied, owners, Layer.applied]

theorem owners_subset_origins (context : Context) : context.owners ⊆ context.origins := by
  intro origin member
  obtain ⟨layer, inside, rfl⟩ := List.mem_map.1 member
  exact List.mem_flatMap.2 ⟨layer, inside, List.mem_cons_self⟩

theorem originsOf_plug (context : Context) (nodes : List Labelled) :
    (originsOf (context.plug nodes)).Perm (context.origins ++ originsOf nodes) := by
  induction context generalizing nodes with
  | nil => exact List.Perm.refl _
  | cons layer outer ih =>
      refine (ih _).trans ?_
      rw [List.perm_iff_count]
      intro origin
      simp only [origins, List.flatMap_cons, Layer.origins, originsOf_append, originsOf,
        Labelled.origins, List.count_append, List.count_cons]
      omega

theorem nodup_of_plug {context : Context} {nodes : List Labelled}
    (distinct : (originsOf (context.plug nodes)).Nodup) : (originsOf nodes).Nodup :=
  List.Nodup.of_append_right ((originsOf_plug context nodes).nodup_iff.1 distinct)

theorem disjoint_of_plug {context : Context} {nodes : List Labelled}
    (distinct : (originsOf (context.plug nodes)).Nodup) :
    List.Disjoint context.origins (originsOf nodes) :=
  List.disjoint_of_nodup_append ((originsOf_plug context nodes).nodup_iff.1 distinct)

theorem applied_plug {edits : List Edit} {context : Context} (avoid : Avoid edits context.owners)
    (nodes : List Labelled) :
    PageMark.applied edits (context.plug nodes) =
      (context.applied edits).plug (PageMark.applied edits nodes) := by
  induction context generalizing nodes with
  | nil => rfl
  | cons layer outer ih =>
      have outside : Avoid edits (owners outer) := avoid.mono (List.subset_cons_self _ _)
      have here : Avoid edits [layer.label.origin] := avoid.mono (by simp [owners])
      rw [plug, ih outside, applied_append, applied_cons, applied_element here]
      rfl

/-- A context is left as it is by edits elsewhere. -/
theorem applied_of_avoid {edits : List Edit} {context : Context}
    (avoid : Avoid edits context.origins) : context.applied edits = context := by
  induction context with
  | nil => rfl
  | cons layer outer ih =>
      have here : Avoid edits layer.origins := avoid.mono (List.subset_append_left _ _)
      have before : Avoid edits (originsOf layer.before) :=
        here.mono fun _ member => .tail _ (List.mem_append_left _ member)
      have after : Avoid edits (originsOf layer.after) :=
        here.mono fun _ member => .tail _ (List.mem_append_right _ member)
      have same : layer.applied edits = layer := by
        rw [Layer.applied, before.applied, after.applied]
      have others := ih (avoid.mono (List.subset_append_right _ _))
      exact congrArg₂ List.cons same others

end Context

/-! ## Finding a node again -/

mutual

theorem Labelled.siteBelow?_of_not_mem {label : Label} : (node : Labelled) →
    label.origin ∉ node.origins → node.siteBelow? label = none
  | .text _ _ _, _ => rfl
  | .mark _ _ _, _ => rfl
  | .element owner _ children, apart =>
      siteAmong?_of_not_mem (some owner) children fun member => apart (.tail _ member)

theorem siteAmong?_of_not_mem {label : Label} (parent : Option Label) : (nodes : List Labelled) →
    label.origin ∉ originsOf nodes → siteAmong? label parent nodes = none
  | [], _ => rfl
  | node :: rest, apart => by
      rw [originsOf, List.mem_append, not_or] at apart
      have other : node.label ≠ label := by
        rintro rfl
        exact apart.1 node.origin_mem
      rw [siteAmong?, if_neg other, Labelled.siteBelow?_of_not_mem node apart.1,
        siteAmong?_of_not_mem parent rest apart.2]
      rfl

end

theorem siteAmong?_append {label : Label} {parent : Option Label} {left : List Labelled}
    (apart : label.origin ∉ originsOf left) (right : List Labelled) :
    siteAmong? label parent (left ++ right) = siteAmong? label parent right := by
  induction left with
  | nil => rfl
  | cons node rest ih =>
      rw [originsOf, List.mem_append, not_or] at apart
      have other : node.label ≠ label := by
        rintro rfl
        exact apart.1 node.origin_mem
      rw [List.cons_append, siteAmong?, if_neg other,
        Labelled.siteBelow?_of_not_mem node apart.1, ih apart.2]
      rfl

namespace Context

variable {context : Context}

theorem siteAmong?_plug {nodes : List Labelled} {label : Label}
    (distinct : (originsOf (context.plug nodes)).Nodup) (member : label.origin ∈ originsOf nodes) :
    site? (context.plug nodes) label = siteAmong? label context.owner nodes := by
  induction context generalizing nodes with
  | nil => rfl
  | cons layer outer ih =>
      have inside := @nodup_of_plug outer _ distinct
      rw [originsOf_append, originsOf, Labelled.origins] at inside
      rw [plug, ih distinct (by simp [originsOf_append, originsOf, Labelled.origins, member])]
      have before : label.origin ∉ originsOf layer.before := fun also =>
        List.disjoint_of_nodup_append inside also (by simp [member])
      have after := List.Nodup.of_append_right inside
      rw [List.cons_append, List.nodup_cons, List.mem_append, not_or] at after
      have behind : label.origin ∉ originsOf layer.after := fun also =>
        List.disjoint_of_nodup_append after.2 member also
      have other : layer.label ≠ label := by
        rintro rfl
        exact after.1.1 member
      rw [siteAmong?_append before, siteAmong?, Labelled.label, if_neg other,
        siteAmong?_of_not_mem _ _ behind, Labelled.siteBelow?, Option.or_none]
      rfl

/-- A node in a context is found there and nowhere else. -/
theorem site?_plug {left rest : List Labelled} {node : Labelled}
    (distinct : (originsOf (context.plug (left ++ node :: rest))).Nodup) :
    site? (context.plug (left ++ node :: rest)) node.label =
      some { node := node, parent := context.owner, next := rest.head?.map Labelled.label } := by
  have inside := nodup_of_plug distinct
  rw [originsOf_append, originsOf] at inside
  have before : node.label.origin ∉ originsOf left := fun also =>
    List.disjoint_of_nodup_append inside also (by simp [node.origin_mem])
  rw [siteAmong?_plug distinct (by simp [originsOf_append, originsOf, node.origin_mem]),
    siteAmong?_append before, siteAmong?, if_pos rfl]

end Context

end PageMark
