import PageMark.Proofs.CollapsedBody
import PageMark.Proofs.RelocatedRuns

/-!
# Only the body shows

Nothing outside of the body and no mark in it leaves a trace in the Markdown.  The
body is collapsed between boundaries, so what is around it does not matter; marks
are gone after that, except inside of preformatted elements; and the conversion of
what is left does not depend on where the body stands.
-/

namespace PageMark

/-! ## Nodes without marks -/

mutual

def Node.withoutMarks : Node → List Node
  | .text kind content => [.text kind content]
  | .mark _ _ => []
  | .element tag children =>
      [.element tag (if tag.isPreformatted then children else withoutMarks children)]

/-- All marks are deleted, except inside of preformatted elements. -/
def withoutMarks : List Node → List Node
  | [] => []
  | node :: rest => node.withoutMarks ++ withoutMarks rest

end

mutual

theorem Node.squeezeAll_withoutMarks (gap : Gap) : (node : Node) →
    squeezeAll gap node.withoutMarks =
      ((node.squeezeFrom gap).1, (node.squeezeFrom gap).2.toList)
  | .text kind content => by
      simp [Node.withoutMarks, squeezeAll]
  | .mark kind content => by
      simp [Node.withoutMarks, squeezeAll, Node.squeezeFrom]
  | .element tag children => by
      have inside := PageMark.squeezeAll_withoutMarks (gap.pass tag.separation) children
      cases preformatted : tag.isPreformatted with
      | true => simp [Node.withoutMarks, squeezeAll, preformatted]
      | false => simp [Node.withoutMarks, squeezeAll, Node.squeezeFrom, preformatted, inside]

/-- Marks have no part in collapsing. -/
theorem squeezeAll_withoutMarks (gap : Gap) : (nodes : List Node) →
    squeezeAll gap (withoutMarks nodes) = squeezeAll gap nodes
  | [] => rfl
  | node :: rest => by
      rw [withoutMarks, squeezeAll_append, Node.squeezeAll_withoutMarks gap node,
        squeezeAll_withoutMarks _ rest, squeezeAll]

end

theorem collapseBetween_withoutMarks (gap : Gap) (edge : Edge) (nodes : List Node) :
    collapseBetween gap edge (withoutMarks nodes) = collapseBetween gap edge nodes := by
  rw [collapseBetween, collapseBetween, squeezeAll_withoutMarks]

/-! ## Bodies that are the same -/

namespace Document

variable {document document' : Document} {body body' : Position} {tag : Tag}
  {children children' : List Node}

theorem address_of_collapse_body? {left : Position} (found : document.body? = some body)
    (again : document.collapse.body? = some left) : left.address = body.address := by
  obtain ⟨address, first, placed⟩ := Option.bind_eq_some_iff.1 found
  obtain ⟨address', first', placed'⟩ := Option.bind_eq_some_iff.1 again
  have same := (thinned_collapseChildren document.nodes).firstNamedAmong?_eq "body" [] 0
  have both : some address' = some address := first'.symm.trans (same.trans first)
  rw [address_of_elementAt? placed, address_of_elementAt? placed', Option.some.inj both]

/-- Documents with the same body, wherever it stands, have the same Markdown. -/
theorem markdown_convert_congr
    (found : document.body? = some body) (found' : document'.body? = some body')
    (outside : ¬ document.InPreformatted body.address)
    (outside' : ¬ document'.InPreformatted body'.address)
    (shape : body.node = .element tag children) (shape' : body'.node = .element tag children')
    (same : withoutMarks children = withoutMarks children') (flavor : Flavor)
    (definitions : List Definition)
    (alike : ∀ converter, .converter converter ∈ definitions →
      converter.ActsAlikeBelow (.element tag (collapseBetween .atBoundary .boundary children))
        body.address body'.address) :
    (document.convert flavor definitions).map Conversion.markdown =
      (document'.convert flavor definitions).map Conversion.markdown := by
  obtain ⟨_, _, left, rest, own, again, shapeLeft, -, collapsed⟩ := exists_collapse_body? found
  obtain ⟨_, _, left', rest', own', again', shapeLeft', -, collapsed'⟩ :=
    exists_collapse_body? found'
  obtain ⟨rfl, rfl⟩ := Node.element.inj (own.symm.trans shape)
  obtain ⟨rfl, rfl⟩ := Node.element.inj (own'.symm.trans shape')
  obtain rfl := collapsed outside
  obtain rfl := collapsed' outside'
  have node : left.node = left'.node := by
    rw [shapeLeft, shapeLeft', ← collapseBetween_withoutMarks, same, collapseBetween_withoutMarks]
  rw [← address_of_collapse_body? found again, ← address_of_collapse_body? found' again',
    ← shapeLeft] at alike
  rw [convert, convert, convertCollapsed, convertCollapsed, again, again']
  dsimp only
  cases built : Registry.build flavor definitions with
  | error failure => rfl
  | ok registry =>
      exact Registry.markdown_convertBelow_congr (elementAt?_of_body? again)
        (elementAt?_of_body? again') node (Registry.actsAlikeBelow_build built alike)

end Document

/-! ## What is around the body -/

section Search

variable {name : String}

theorem firstNamedAmong?_append (address : Address) (index : Nat) (left right : List Node) :
    firstNamedAmong? name address index (left ++ right) =
      (firstNamedAmong? name address index left).or
        (firstNamedAmong? name address (index + elementCount left) right) := by
  induction left generalizing index with
  | nil => rfl
  | cons node rest ih =>
      cases node with
      | text kind content =>
          simp only [List.cons_append, firstNamedAmong?, ih, elementCount_cons, Node.isElement]
          simp
      | mark kind content =>
          simp only [List.cons_append, firstNamedAmong?, ih, elementCount_cons, Node.isElement]
          simp
      | element tag children =>
          have next : index + elementCount (.element tag children :: rest) =
              index + 1 + elementCount rest := by
            simp only [elementCount_cons, Node.isElement, if_true]
            omega
          rw [List.cons_append, firstNamedAmong?, firstNamedAmong?, ih, next]
          cases Node.firstNamed? name (address ++ [index]) (.element tag children) <;> rfl

mutual

theorem Node.firstNamed?_eq_none (address : Address) : (node : Node) →
    (∀ tag children, .element tag children ∈ node.withDescendants → tag.name ≠ name) →
    node.firstNamed? name address = none
  | .text _ _, _ => rfl
  | .mark _ _, _ => rfl
  | .element tag children, others => by
      rw [Node.firstNamed?, if_neg (others tag children List.mem_cons_self)]
      exact firstNamedAmong?_eq_none address 0 children fun tag inner member =>
        others tag inner (List.mem_cons_of_mem _ member)

theorem firstNamedAmong?_eq_none (address : Address) (index : Nat) : (nodes : List Node) →
    (∀ tag children, .element tag children ∈ nodesWithin nodes → tag.name ≠ name) →
    firstNamedAmong? name address index nodes = none
  | [], _ => rfl
  | .text _ _ :: rest, others =>
      firstNamedAmong?_eq_none address index rest fun tag children member =>
        others tag children (List.mem_append_right _ member)
  | .mark _ _ :: rest, others =>
      firstNamedAmong?_eq_none address index rest fun tag children member =>
        others tag children (List.mem_append_right _ member)
  | .element tag children :: rest, others => by
      have own := Node.firstNamed?_eq_none (address ++ [index]) (.element tag children)
        fun tag inner member => others tag inner (List.mem_append_left _ member)
      rw [firstNamedAmong?, own]
      exact firstNamedAmong?_eq_none address (index + 1) rest fun tag children member =>
        others tag children (List.mem_append_right _ member)

end

end Search

namespace Document

/-- All of a document but its body, which is a child of the top-level element: what stands
above and below that element, and what is in it ahead of the body and behind the body. -/
structure Frame where
  attributes : List Attribute
  above : List Node
  ahead : List Node
  behind : List Node
  below : List Node
  bodyless : ∀ tag children,
    .element tag children ∈ nodesWithin above ++ nodesWithin ahead → tag.name ≠ "body"

namespace Frame

def outerTag (frame : Frame) : Tag where
  name := "html"
  attributes := frame.attributes

def document (frame : Frame) (body : Node) : Document where
  nodes :=
    frame.above ++ .element frame.outerTag (frame.ahead ++ body :: frame.behind) :: frame.below

def bodyAddress (frame : Frame) : Address :=
  [elementCount frame.above, elementCount frame.ahead]

variable (frame : Frame) {tag : Tag} (children : List Node)

theorem firstNamedAmong?_document (named : tag.name = "body") :
    firstNamedAmong? "body" [] 0 (frame.document (.element tag children)).nodes =
      some frame.bodyAddress := by
  have above : firstNamedAmong? "body" [] 0 frame.above = none :=
    firstNamedAmong?_eq_none [] 0 frame.above fun tag children member =>
      frame.bodyless tag children (List.mem_append_left _ member)
  have ahead (address : Address) : firstNamedAmong? "body" address 0 frame.ahead = none :=
    firstNamedAmong?_eq_none address 0 frame.ahead fun tag children member =>
      frame.bodyless tag children (List.mem_append_right _ member)
  have outer : frame.outerTag.name ≠ "body" := by
    simp [outerTag]
  rw [document, firstNamedAmong?_append, above, firstNamedAmong?, Node.firstNamed?, if_neg outer,
    firstNamedAmong?_append, ahead, firstNamedAmong?, Node.firstNamed?, if_pos named]
  simp [bodyAddress]

theorem exists_body? (named : tag.name = "body") :
    ∃ body, (frame.document (.element tag children)).body? = some body ∧
      body.address = frame.bodyAddress ∧ body.node = .element tag children ∧
      ¬ (frame.document (.element tag children)).InPreformatted body.address := by
  let whole := frame.document (.element tag children)
  have outer := @elementAt?_child whole [] _ rootTag frame.above frame.below _ rfl rfl
    (rfl : (Node.element frame.outerTag _).isElement = true)
  have inner := elementAt?_child outer rfl (rfl : (Node.element tag children).isElement = true)
  have found := Option.bind_eq_some_iff.2
    ⟨_, frame.firstNamedAmong?_document children named, inner⟩
  refine ⟨_, found, rfl, rfl, fun formatted => ?_⟩
  have notOuter : frame.outerTag.isPreformatted = false := by
    have kind : frame.outerTag.kind = "html" :=
      (rfl : Text.lowerName "html" = "html")
    simp [Tag.isPreformatted, kind]
  have notInner : tag.isPreformatted = false := by
    have kind : tag.kind = "body" := by
      rw [Tag.kind, named]
      rfl
    simp [Tag.isPreformatted, kind]
  rcases (inPreformatted_snoc_iff inner rfl).1 formatted with around | own
  · rcases (inPreformatted_snoc_iff outer rfl).1 around with top | own
    · exact not_inPreformatted_nil whole top
    · rw [notOuter] at own
      cases own
  · rw [notInner] at own
    cases own

end Frame

/-- Whatever is around two bodies that have the same nodes, up to marks outside of
preformatted elements, and wherever the bodies stand, the Markdown is the same, or the
failure.  Definitions may use converters that look at nothing but the body. -/
theorem only_body_shows (frame frame' : Frame) {tag : Tag} (named : tag.name = "body")
    {children children' : List Node} (same : withoutMarks children = withoutMarks children')
    (flavor : Flavor) (definitions : List Definition)
    (alike : ∀ converter, .converter converter ∈ definitions →
      converter.ActsAlikeBelow (.element tag (collapseBetween .atBoundary .boundary children))
        frame.bodyAddress frame'.bodyAddress) :
    ((frame.document (.element tag children)).convert flavor definitions).map
        Conversion.markdown =
      ((frame'.document (.element tag children')).convert flavor definitions).map
        Conversion.markdown := by
  obtain ⟨body, found, address, shape, outside⟩ := frame.exists_body? children named
  obtain ⟨body', found', address', shape', outside'⟩ := frame'.exists_body? children' named
  rw [← address, ← address'] at alike
  exact markdown_convert_congr found found' outside outside' shape shape' same flavor definitions
    alike

section Pages

def bareFrame : Frame where
  attributes := []
  above := []
  ahead := []
  behind := []
  below := []
  bodyless := fun _ _ member => by cases member

def headNodes : List Node :=
  [.element (plainTag "head") [.element (plainTag "title") [words "t "]], words "stray "]

/-- A frame with a head, with marks and with text in places where text should not be. -/
def fullFrame : Frame where
  attributes := [{ name := "lang", value := .single "en".toList }]
  above := [.mark .doctype "html".toList, .mark .comment "top".toList]
  ahead := headNodes
  behind := [.mark .comment "end".toList, words "stray"]
  below := [words "\n", .mark .instruction "x".toList]
  bodyless := fun tag children member => by
    have other : ∀ node ∈
        nodesWithin [.mark .doctype "html".toList, .mark .comment "top".toList] ++
          nodesWithin headNodes, (node.tag?.all fun tag => tag.name != "body") = true := by
      decide +kernel
    exact bne_iff_ne.1 (other _ member)

/-- A converter that is not written as data. -/
def marker : Converter where
  filter := .exact "em"
  rendering := Base.ofContent Base.strong

theorem marker_isRelocatable : marker.IsRelocatable :=
  .of_some (fun _ _ _ => rfl) fun _ _ _ _ => rfl

def formatted : Node :=
  .element (plainTag "pre") [.mark .comment "kept".toList, words " b"]

def emphasized : Node :=
  .element (plainTag "em") [words "e"]

def markedChildren : List Node :=
  [.element (plainTag "p") [words "a ", .mark .comment "gone".toList, emphasized],
    .mark .cdata "gone".toList, formatted]

def unmarkedChildren : List Node :=
  [.element (plainTag "p") [words "a ", emphasized], formatted]

theorem framed_pages_alike :
    let marked := fullFrame.document (.element (plainTag "body") markedChildren)
    let unmarked := bareFrame.document (.element (plainTag "body") unmarkedChildren)
    (marked.convert {} [.converter marker]).map Conversion.markdown =
        (unmarked.convert {} [.converter marker]).map Conversion.markdown ∧
      (marked.convert {} [.converter marker]).toOption.map Conversion.markdown =
        some "a **e**\n\n<pre> b</pre>".toList := by
  intro marked unmarked
  constructor
  · refine only_body_shows fullFrame bareFrame rfl (by decide +kernel) {} _ ?_
    intro converter member
    obtain rfl : converter = marker := by simpa using member
    exact marker_isRelocatable.actsAlikeBelow _ _ _
  · decide +kernel

end Pages

end Document

end PageMark
