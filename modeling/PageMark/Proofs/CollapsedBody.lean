import PageMark.Proofs.Stretches
import PageMark.Proofs.Thinning

/-!
# Elements in the collapsed document

An element outside of preformatted elements keeps its place when the document is
collapsed, and its children are collapsed between what lies before the element
and what lies after it.  For the body that is a boundary on both sides.
-/

namespace PageMark

theorem Thinned.elementCount_eq {before after : List Node} (thinned : Thinned before after) :
    elementCount after = elementCount before := by
  induction thinned with
  | nil => rfl
  | text _ _ _ ih => simp [ih, Node.isElement]
  | blankText _ _ ih => simp [ih, Node.isElement]
  | mark _ ih => simp [ih, Node.isElement]
  | droppedMark _ ih => simp [ih, Node.isElement]
  | element _ _ _ _ ih => simp [ih, Node.isElement]

theorem thinned_collapseBetween (gap : Gap) (edge : Edge) (nodes : List Node) :
    Thinned nodes (collapseBetween gap edge nodes) :=
  (thinned_squeezeAll gap nodes).trans (thinned_settleAll edge _)

/-- One child is collapsed between its siblings, unless it is preformatted. -/
theorem exists_collapseBetween_split (gap : Gap) (edge : Edge) (left right : List Node) (tag : Tag)
    (children : List Node) :
    ∃ left' right' inner outer,
      collapseBetween gap edge (left ++ .element tag children :: right) =
        left' ++ .element tag (if tag.isPreformatted then children
          else collapseBetween (Gap.pass inner tag.separation) (Edge.pass outer tag.separation)
            children) :: right' ∧
      elementCount left' = elementCount left := by
  have squeezed (gap : Gap) : ∃ gap',
      (squeezeAll gap (.element tag children :: right)).2 =
        .element tag (if tag.isPreformatted then children
          else (squeezeAll (gap.pass tag.separation) children).2) :: (squeezeAll gap' right).2 := by
    cases preformatted : tag.isPreformatted with
    | true => exact ⟨_, by simp [squeezeAll, Node.squeezeFrom, preformatted]; rfl⟩
    | false => exact ⟨_, by simp [squeezeAll, Node.squeezeFrom, preformatted]; rfl⟩
  have settled (inside others : List Node) :
      (settleAll edge (.element tag inside :: others)).2 =
        .element tag (if tag.isPreformatted then inside
          else (settleAll ((settleAll edge others).1.pass tag.separation) inside).2) ::
            (settleAll edge others).2 := by
    cases preformatted : tag.isPreformatted <;> simp [settleAll, Node.settleBefore, preformatted]
  obtain ⟨behind, shape⟩ := squeezed (squeezeAll gap left).1
  let later := (squeezeAll (squeezeAll gap left).1 (.element tag children :: right)).2
  have count : elementCount (settleAll (settleAll edge later).1 (squeezeAll gap left).2).2 =
      elementCount left :=
    (thinned_settleAll _ _).elementCount_eq.trans (thinned_squeezeAll gap left).elementCount_eq
  refine ⟨_, (settleAll edge (squeezeAll behind right).2).2, (squeezeAll gap left).1,
    (settleAll edge (squeezeAll behind right).2).1, ?_, count⟩
  simp only [later]
  rw [collapseBetween, squeezeAll_append, settleAll_append, shape, settled]
  cases tag.isPreformatted <;> rfl

/-! ## Down to an element -/

namespace Document

/-- The element at this address, or one around it, is preformatted. -/
def InPreformatted (document : Document) (address : Address) : Prop :=
  ∃ above position tag children, above <+: address ∧ document.elementAt? above = some position ∧
    position.node = .element tag children ∧ tag.isPreformatted = true

theorem not_inPreformatted_nil (document : Document) : ¬ document.InPreformatted [] := by
  rintro ⟨above, position, tag, children, isAbove, placed, shape, preformatted⟩
  obtain rfl := List.prefix_nil.1 isAbove
  cases placed
  cases shape
  have other : rootTag.isPreformatted = false := rfl
  rw [other] at preformatted
  cases preformatted

theorem inPreformatted_snoc_iff {document : Document} {address : Address} {index : Nat}
    {position : Position} {tag : Tag} {children : List Node}
    (placed : document.elementAt? (address ++ [index]) = some position)
    (shape : position.node = .element tag children) :
    document.InPreformatted (address ++ [index]) ↔
      document.InPreformatted address ∨ tag.isPreformatted = true := by
  constructor
  · rintro ⟨above, position', tag', children', isAbove, placed', shape', preformatted⟩
    rcases List.prefix_concat_iff.1 isAbove with rfl | isAbove
    · rw [placed] at placed'
      cases placed'
      rw [shape] at shape'
      cases shape'
      exact .inr preformatted
    · exact .inl ⟨above, position', tag', children', isAbove, placed', shape', preformatted⟩
  · rintro (⟨above, position', tag', children', isAbove, found⟩ | preformatted)
    · exact ⟨above, position', tag', children',
        isAbove.trans (List.prefix_append address [index]), found⟩
    · exact ⟨_, position, tag, children, List.prefix_refl _, placed, shape, preformatted⟩

/-- What is left of the children of the element at an address. -/
def Leaves (document : Document) (address : Address) (tag : Tag)
    (children rest : List Node) : Prop :=
  (document.InPreformatted address → rest = children) ∧
    (¬ document.InPreformatted address → ∃ gap edge,
      rest = collapseBetween (Gap.pass gap tag.separation) (Edge.pass edge tag.separation) children)

theorem exists_collapse_elementAt? {document : Document} {address : Address} {position : Position}
    (placed : document.elementAt? address = some position) :
    ∃ tag children left rest, position.node = .element tag children ∧
      document.collapse.elementAt? address = some left ∧ left.node = .element tag rest ∧
      document.Leaves address tag children rest := by
  induction address using List.reverseRecOn generalizing position with
  | nil =>
      cases placed
      have none : rootTag.separation = .none := rfl
      refine ⟨rootTag, document.nodes, Position.ofDocument document.collapse, _, rfl, rfl, rfl,
        fun inside => absurd inside document.not_inPreformatted_nil,
        fun _ => ⟨.atBoundary, .finish, ?_⟩⟩
      rw [none]
      rfl
  | append_singleton address index ih =>
      obtain ⟨parent, tag, before, node, after, above, shape, isElement, count, rfl⟩ :=
        elementAt?_snoc_iff.1 placed
      obtain ⟨tag', siblings, left, rest, shape', placed', shapeLeft, inside, outside⟩ := ih above
      rw [shape, Node.element.injEq] at shape'
      obtain ⟨rfl, rfl⟩ := shape'
      obtain ⟨own, children, rfl⟩ : ∃ own children, node = .element own children := by
        cases node with
        | text kind content => cases isElement
        | mark kind content => cases isElement
        | element own children => exact ⟨own, children, rfl⟩
      have within := inPreformatted_snoc_iff placed rfl
      by_cases preformatted : document.InPreformatted address
      · rw [inside preformatted] at shapeLeft
        exact ⟨own, children, _, children, rfl,
          elementAt?_snoc_iff.2 ⟨left, tag, before, _, after, placed', shapeLeft, rfl, count, rfl⟩,
          rfl, fun _ => rfl, fun other => absurd (within.2 (.inl preformatted)) other⟩
      · obtain ⟨gap, edge, rfl⟩ := outside preformatted
        obtain ⟨left', right', gap', edge', split, same⟩ := exists_collapseBetween_split
          (gap.pass tag.separation) (edge.pass tag.separation) before after own children
        rw [split] at shapeLeft
        refine ⟨own, children, _, _, rfl,
          elementAt?_snoc_iff.2 ⟨left, tag, left', _, right', placed', shapeLeft, rfl,
            same.trans count, rfl⟩, rfl, fun further => ?_, fun further => ⟨gap', edge', ?_⟩⟩
        · exact if_pos ((within.1 further).resolve_left preformatted)
        · exact if_neg fun here => further (within.2 (.inr here))

end Document

/-! ## The body -/

/-- The address that is found for a name leads to an element of that name. -/
theorem exists_of_firstNamedAmong? {name : String} {outer : Tag} {address found : Address} :
    (nodes before : List Node) →
    firstNamedAmong? name address (elementCount before) nodes = some found →
      ∃ steps tag children, found = address ++ steps ∧ tag.name = name ∧
        (Node.element outer (before ++ nodes)).elementBelow? steps = some (.element tag children)
  | .text kind content :: rest, before, search => by
      rw [firstNamedAmong?] at search
      rw [← @elementCount_snoc_other (.text kind content) rfl before] at search
      rw [← List.singleton_append, ← List.append_assoc]
      exact exists_of_firstNamedAmong? rest (before ++ [Node.text kind content]) search
  | .mark kind content :: rest, before, search => by
      rw [firstNamedAmong?] at search
      rw [← @elementCount_snoc_other (.mark kind content) rfl before] at search
      rw [← List.singleton_append, ← List.append_assoc]
      exact exists_of_firstNamedAmong? rest (before ++ [Node.mark kind content]) search
  | .element tag children :: rest, before, search => by
      rw [firstNamedAmong?, Node.firstNamed?] at search
      have below {steps : Address} {node : Node}
          (inner : (Node.element tag children).elementBelow? steps = some node) :
          (Node.element outer (before ++ .element tag children :: rest)).elementBelow?
            (elementCount before :: steps) = some node :=
        Node.elementBelow?_cons_iff.2 ⟨before, _, rest, rfl, rfl, rfl, inner⟩
      by_cases named : tag.name = name
      · rw [if_pos named] at search
        cases search
        exact ⟨[elementCount before], tag, children, rfl, named, below rfl⟩
      · rw [if_neg named] at search
        cases inside : firstNamedAmong? name (address ++ [elementCount before]) 0 children with
        | some inner =>
            rw [inside] at search
            cases search
            obtain ⟨steps, own, inner, rfl, named', leads⟩ :=
              @exists_of_firstNamedAmong? name tag _ _ children [] inside
            exact ⟨elementCount before :: steps, own, inner, by simp, named', below leads⟩
        | none =>
            rw [inside] at search
            have same : elementCount before + 1 =
                elementCount (before ++ [Node.element tag children]) :=
              (elementCount_snoc_element before tag children).symm
            change firstNamedAmong? name address (elementCount before + 1) rest = some found at search
            rw [same] at search
            rw [← List.singleton_append, ← List.append_assoc]
            exact exists_of_firstNamedAmong? rest (before ++ [Node.element tag children]) search

theorem Tag.kind_of_body {tag : Tag} (named : tag.name = "body") : tag.kind = "body" := by
  rw [kind, named]
  rfl

namespace Document

theorem exists_name_body? {document : Document} {body : Position}
    (found : document.body? = some body) :
    ∃ tag children, body.node = .element tag children ∧ tag.name = "body" := by
  obtain ⟨address, first, placed⟩ := Option.bind_eq_some_iff.1 found
  obtain ⟨steps, tag, children, reached, named, leads⟩ :=
    @exists_of_firstNamedAmong? "body" rootTag [] address document.nodes [] first
  rw [List.nil_append] at reached leads
  subst reached
  have below : document.root.elementBelow? address = some body.node := by
    rw [← map_node_elementAt?]
    exact congrArg (Option.map Position.node) placed
  exact ⟨tag, children, Option.some.inj (below.symm.trans leads), named⟩

/-- The body is found again.  Inside of a preformatted element it is as it was,
and elsewhere it is collapsed between boundaries. -/
theorem exists_collapse_body? {document : Document} {body : Position}
    (found : document.body? = some body) :
    ∃ tag children left rest, body.node = .element tag children ∧
      document.collapse.body? = some left ∧ left.node = .element tag rest ∧
      (document.InPreformatted body.address → rest = children) ∧
      (¬ document.InPreformatted body.address →
        rest = collapseBetween .atBoundary .boundary children) := by
  obtain ⟨own, inner, named', named⟩ := exists_name_body? found
  obtain ⟨address, first, placed⟩ := Option.bind_eq_some_iff.1 found
  have known := address_of_elementAt? placed
  obtain ⟨tag, children, left, rest, shape, placed', shapeLeft, inside, outside⟩ :=
    exists_collapse_elementAt? placed
  obtain ⟨rfl, rfl⟩ := Node.element.inj (named'.symm.trans shape)
  have boundary : own.separation = .boundary := by
    simp [Tag.separation, Tag.isBlock, Tag.kind_of_body named, isBlockName, blockNames]
  have again : document.collapse.body? = some left := by
    refine Option.bind_eq_some_iff.2 ⟨_, ?_, placed'⟩
    exact ((thinned_collapseChildren document.nodes).firstNamedAmong?_eq "body" [] 0).trans first
  rw [known]
  refine ⟨own, inner, left, rest, shape, again, shapeLeft, inside, fun other => ?_⟩
  obtain ⟨gap, edge, rfl⟩ := outside other
  rw [boundary]
  rfl

end Document

end PageMark
