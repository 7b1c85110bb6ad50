import PageMark.Proofs.InlineText

/-!
# Text that is kept

Of inline text conversion leaves out what stands in blank elements, and the spacing at an
edge of an element that has spacing of its own at the other edge only.  In a collapsed
text the siblings of an element have no part in this: where the element has spacing they
have none.  It is otherwise where all spacing is kept, and next to an element with text
that it does not show.
-/

namespace PageMark

/-! ## Spacing at the edges of elements -/

/-- The text of a node that its siblings see: that of an element without texts of another
kind in it. -/
def Node.shownText : Node → Text
  | .text _ content => content
  | .mark _ _ => []
  | .element tag children => textContentOf tag children

def Node.hidesText (node : Node) : Bool :=
  node.shownText != node.wholeText

/-- A node has a space for the start of the element behind it. -/
def Node.suppliesStart (preformatted : Bool) (before : Node) : Bool :=
  (preformatted || before.hidesText) && Text.lastLineEndsWithSpace before.shownText

/-- A node has a space for the end of the element before it. -/
def Node.suppliesEnd (preformatted : Bool) (behind : Node) : Bool :=
  (preformatted || behind.hidesText) && Text.startsWithSpace behind.shownText

/-- The text before the first element in it starts with spacing that no sibling supplies. -/
def hasSpacedStart (preformatted : Bool) (previous : Option Node) (children : List Node) : Bool :=
  (textInFront children).startsWithSpacing && !previous.any (Node.suppliesStart preformatted)

/-- The text behind the last element in it ends with spacing that no sibling supplies. -/
def hasSpacedEnd (preformatted : Bool) (next : Option Node) (children : List Node) : Bool :=
  (textAtEnd children).endsWithSpacing && !next.any (Node.suppliesEnd preformatted)

/-! ## The kept text -/

/-- An element without anything to see is left out, unless it is an anchor. -/
def isLeftOut (tag : Tag) (children : List Node) : Bool :=
  tag.kind != "a" && Text.isAllBlank (wholeTextOf children)

mutual

/-- The text of a node between two siblings as far as it is kept: nothing of an element that is
left out, and of any other what its own spacing keeps. -/
def Node.keptText (preformatted : Bool) (previous next : Option Node) : Node → Text
  | .text _ content => content
  | .mark _ _ => []
  | .element tag children =>
      if isLeftOut tag children then []
      else
        (keptTextOf preformatted none children).keptBetween
          (hasSpacedStart preformatted previous children)
          (hasSpacedEnd preformatted next children)

/-- The kept texts of siblings behind another. -/
def keptTextOf (preformatted : Bool) (previous : Option Node) : List Node → Text
  | [] => []
  | node :: rest =>
      node.keptText preformatted previous rest.head? ++ keptTextOf preformatted (some node) rest

end

mutual

/-- Nothing is lost of a node between two siblings. -/
def Node.isKept (preformatted : Bool) (previous next : Option Node) : Node → Bool
  | .text _ _ => true
  | .mark _ _ => true
  | .element tag children =>
      (!isLeftOut tag children || (wholeTextOf children).isEmpty) &&
        !(wholeTextOf children).losesEdge (hasSpacedStart preformatted previous children)
          (hasSpacedEnd preformatted next children) &&
        areKept preformatted none children

def areKept (preformatted : Bool) (previous : Option Node) : List Node → Bool
  | [] => true
  | node :: rest =>
      node.isKept preformatted previous rest.head? && areKept preformatted (some node) rest

end

mutual

theorem Node.keptText_eq {preformatted : Bool} {previous next : Option Node} : (node : Node) →
    node.isKept preformatted previous next = true →
      node.keptText preformatted previous next = node.wholeText
  | .text _ _, _ => rfl
  | .mark _ _, _ => rfl
  | .element tag children, isKept => by
      rw [Node.isKept, Bool.and_eq_true, Bool.and_eq_true, Bool.not_eq_true',
        Bool.or_eq_true] at isKept
      obtain ⟨⟨stays, edges⟩, inside⟩ := isKept
      rw [Node.keptText, Node.wholeText, keptTextOf_eq children inside]
      split
      · next leftOut =>
          have nothing : (wholeTextOf children).isEmpty = true := by simpa [leftOut] using stays
          exact (List.isEmpty_iff.1 nothing).symm
      · exact Text.keptBetween_eq edges

theorem keptTextOf_eq {preformatted : Bool} {previous : Option Node} : (nodes : List Node) →
    areKept preformatted previous nodes = true →
      keptTextOf preformatted previous nodes = wholeTextOf nodes
  | [], _ => rfl
  | node :: rest, areKept' => by
      rw [areKept, Bool.and_eq_true] at areKept'
      rw [keptTextOf, wholeTextOf, Node.keptText_eq node areKept'.1, keptTextOf_eq rest areKept'.2]

end

mutual

theorem Node.visible_keptText {preformatted : Bool} {previous next : Option Node} :
    (node : Node) →
      Text.visible (node.keptText preformatted previous next) = Text.visible node.wholeText
  | .text _ _ => rfl
  | .mark _ _ => rfl
  | .element tag children => by
      rw [Node.keptText, Node.wholeText]
      split
      · next leftOut =>
          rw [isLeftOut, Bool.and_eq_true] at leftOut
          exact (Text.visible_eq_nil_iff.2 leftOut.2).symm
      · rw [Text.visible_keptBetween, visible_keptTextOf children]

/-- Only blanks are left out. -/
theorem visible_keptTextOf {preformatted : Bool} {previous : Option Node} : (nodes : List Node) →
    Text.visible (keptTextOf preformatted previous nodes) = Text.visible (wholeTextOf nodes)
  | [] => rfl
  | node :: rest => by
      rw [keptTextOf, wholeTextOf, Text.visible_append, Text.visible_append,
        Node.visible_keptText node, visible_keptTextOf rest]

end

theorem isAllBlank_keptTextOf (preformatted : Bool) (previous : Option Node) (nodes : List Node) :
    Text.isAllBlank (keptTextOf preformatted previous nodes) = Text.isAllBlank (wholeTextOf nodes) :=
  Text.isAllBlank_eq_of_visible (visible_keptTextOf nodes)

/-! ## Texts at the edges are kept -/

section Edges

variable {preformatted : Bool} {previous : Option Node} {nodes : List Node}

/-- The kept text of what comes last is kept in the end, and of what comes before it all text
is kept if there is no element. -/
theorem exists_keptTextOf_append (preformatted : Bool) (previous : Option Node)
    (left right : List Node) :
    ∃ front previous', keptTextOf preformatted previous (left ++ right) =
        front ++ keptTextOf preformatted previous' right ∧
      ((∀ node ∈ left, node.isElement = false) → front = wholeTextOf left) := by
  induction left generalizing previous with
  | nil => exact ⟨[], previous, rfl, fun _ => rfl⟩
  | cons node rest ih =>
      obtain ⟨front, previous', kept, all⟩ := ih (some node)
      refine ⟨node.keptText preformatted previous (rest ++ right).head? ++ front, previous', ?_, ?_⟩
      · rw [List.cons_append, keptTextOf, kept, List.append_assoc]
      · intro others
        rw [List.forall_mem_cons] at others
        rw [wholeTextOf, all others.2]
        cases node with
        | text kind content => rfl
        | mark kind content => rfl
        | element tag children => cases others.1

theorem exists_textInFront_append (preformatted : Bool) (previous : Option Node)
    (nodes : List Node) :
    (∃ rest, wholeTextOf nodes = textInFront nodes ++ rest) ∧
      ∃ rest, keptTextOf preformatted previous nodes = textInFront nodes ++ rest := by
  have parts : nodes.takeWhile (!·.isElement) ++ nodes.dropWhile (!·.isElement) = nodes :=
    List.takeWhile_append_dropWhile
  have texts : ∀ node ∈ nodes.takeWhile (!·.isElement), node.isElement = false :=
    fun node member => by simpa using List.mem_takeWhile_imp member
  obtain ⟨front, previous', kept, all⟩ := exists_keptTextOf_append preformatted previous
    (nodes.takeWhile (!·.isElement)) (nodes.dropWhile (!·.isElement))
  rw [parts, all texts] at kept
  refine ⟨⟨wholeTextOf (nodes.dropWhile (!·.isElement)), ?_⟩, _, kept⟩
  conv_lhs => rw [← parts, wholeTextOf_append]
  rfl

theorem exists_append_textAtEnd (preformatted : Bool) (previous : Option Node)
    (nodes : List Node) :
    (∃ front, wholeTextOf nodes = front ++ textAtEnd nodes) ∧
      ∃ front, keptTextOf preformatted previous nodes = front ++ textAtEnd nodes := by
  have parts : nodes.rdropWhile (!·.isElement) ++ nodes.rtakeWhile (!·.isElement) = nodes :=
    List.rdropWhile_append_rtakeWhile ..
  have texts : ∀ node ∈ nodes.rtakeWhile (!·.isElement), node.isElement = false :=
    fun node member => by simpa using List.mem_rtakeWhile_imp member
  obtain ⟨front, previous', kept, -⟩ := exists_keptTextOf_append preformatted previous
    (nodes.rdropWhile (!·.isElement)) (nodes.rtakeWhile (!·.isElement))
  obtain ⟨back, last, keptBack, all⟩ := exists_keptTextOf_append preformatted previous'
    (nodes.rtakeWhile (!·.isElement)) []
  rw [List.append_nil, keptTextOf, List.append_nil, all texts] at keptBack
  rw [parts, keptBack] at kept
  refine ⟨⟨wholeTextOf (nodes.rdropWhile (!·.isElement)), ?_⟩, _, kept⟩
  conv_lhs => rw [← parts, wholeTextOf_append]
  rfl

/-- Spacing of its own is at the edge of all text of an element, and of the kept text. -/
theorem startsWithSpacing_of_textInFront (preformatted : Bool) (previous : Option Node)
    (starts : (textInFront nodes).startsWithSpacing = true) :
    (wholeTextOf nodes).startsWithSpacing = true ∧
      (keptTextOf preformatted previous nodes).startsWithSpacing = true := by
  obtain ⟨⟨rest, whole⟩, rest', kept⟩ := exists_textInFront_append preformatted previous nodes
  have nonempty : textInFront nodes ≠ [] := by
    intro nothing
    rw [nothing] at starts
    cases starts
  rw [whole, kept, Text.startsWithSpacing_append _ nonempty,
    Text.startsWithSpacing_append _ nonempty]
  exact ⟨starts, starts⟩

theorem endsWithSpacing_of_textAtEnd (preformatted : Bool) (previous : Option Node)
    (ends : (textAtEnd nodes).endsWithSpacing = true) :
    (wholeTextOf nodes).endsWithSpacing = true ∧
      (keptTextOf preformatted previous nodes).endsWithSpacing = true := by
  obtain ⟨⟨front, whole⟩, front', kept⟩ := exists_append_textAtEnd preformatted previous nodes
  have nonempty : textAtEnd nodes ≠ [] := by
    intro nothing
    rw [nothing] at ends
    cases ends
  rw [whole, kept, Text.endsWithSpacing_append _ nonempty, Text.endsWithSpacing_append _ nonempty]
  exact ⟨ends, ends⟩

end Edges

/-! ## The padding of an element in a collapsed text -/

theorem Node.edgeText?_of_isInline {node : Node} (inline : node.isInline = true) :
    node.edgeText? = some node.shownText := by
  cases node with
  | text kind content => rfl
  | mark kind content => cases inline
  | element tag children =>
      rw [edgeText?, (isInline_element_iff.1 inline).1, if_neg Bool.false_ne_true]
      rfl

/-- Where a text is collapsed and a sibling shows all its text, the sibling has no space beside
spacing, so it makes no difference that it is asked for one. -/
theorem Node.suppliesStart_eq {preformatted : Bool} {before node : Node}
    (squeezed : preformatted = false →
      Text.IsSqueezed (before.wholeText ++ node.wholeText))
    (starts : node.wholeText.startsWithSpacing = true) :
    before.suppliesStart preformatted = before.shownText.lastLineEndsWithSpace := by
  rw [suppliesStart]
  cases preformatted with
  | true => rfl
  | false =>
      cases hidden : before.hidesText with
      | true => rfl
      | false =>
          have whole : before.shownText = before.wholeText := by simpa [hidesText] using hidden
          rw [whole, Bool.or_false, Bool.false_and, eq_comm, Bool.eq_false_iff]
          intro space
          have apart := (squeezed rfl).not_both (Text.endsWithSpacing_of_lastLine space)
          rw [starts] at apart
          cases apart

theorem Node.suppliesEnd_eq {preformatted : Bool} {node behind : Node}
    (squeezed : preformatted = false →
      Text.IsSqueezed (node.wholeText ++ behind.wholeText))
    (ends : node.wholeText.endsWithSpacing = true) :
    behind.suppliesEnd preformatted = behind.shownText.startsWithSpace := by
  rw [suppliesEnd]
  cases preformatted with
  | true => rfl
  | false =>
      cases hidden : behind.hidesText with
      | true => rfl
      | false =>
          have whole : behind.shownText = behind.wholeText := by simpa [hidesText] using hidden
          rw [whole, Bool.or_false, Bool.false_and, eq_comm, Bool.eq_false_iff]
          intro space
          have apart := (squeezed rfl).not_both ends
          rw [Text.startsWithSpacing_of_startsWithSpace space] at apart
          cases apart

section Padding

variable {preformatted : Bool} {address : Address} {parent tag : Tag}
  {before children after : List Node}

theorem hasSpaceBefore_eq {surroundings : Surroundings} {node : Node}
    (inline : areInline surroundings.before = true)
    (squeezed : preformatted = false →
      Text.IsSqueezed (wholeTextOf (surroundings.before ++ node :: surroundings.after)))
    (starts : node.wholeText.startsWithSpacing = true) :
    Position.hasSpaceBefore
        { address := address, node := node, surroundings := some surroundings } =
      surroundings.before.getLast?.any (Node.suppliesStart preformatted) := by
  obtain ⟨parent, before, after⟩ := surroundings
  rw [Position.hasSpaceBefore]
  rcases List.eq_nil_or_concat' before with rfl | ⟨front, last, rfl⟩
  · rfl
  · rw [areInline_append, Bool.and_eq_true, areInline, areInline, Bool.and_true] at inline
    have joint : preformatted = false → Text.IsSqueezed (last.wholeText ++ node.wholeText) := by
      intro open'
      refine (squeezed open').mono ⟨wholeTextOf front, wholeTextOf after, ?_⟩
      simp [wholeTextOf_append, wholeTextOf]
    have sibling : Position.previousSibling?
        { address := address, node := node,
          surroundings := some { parent := parent, before := front ++ [last], after := after } } =
        some last := List.getLast?_concat
    rw [sibling, List.getLast?_concat, Option.any_some, Node.suppliesStart_eq joint starts,
      Option.bind_some, Node.edgeText?_of_isInline inline.2]

theorem hasSpaceAfter_eq {surroundings : Surroundings} {node : Node}
    (inline : areInline surroundings.after = true)
    (squeezed : preformatted = false →
      Text.IsSqueezed (wholeTextOf (surroundings.before ++ node :: surroundings.after)))
    (ends : node.wholeText.endsWithSpacing = true) :
    Position.hasSpaceAfter
        { address := address, node := node, surroundings := some surroundings } =
      surroundings.after.head?.any (Node.suppliesEnd preformatted) := by
  obtain ⟨parent, before, after⟩ := surroundings
  rw [Position.hasSpaceAfter]
  cases after with
  | nil => rfl
  | cons next rest =>
      rw [areInline, Bool.and_eq_true] at inline
      have joint : preformatted = false → Text.IsSqueezed (node.wholeText ++ next.wholeText) := by
        intro open'
        refine (squeezed open').mono ⟨wholeTextOf before, wholeTextOf rest, ?_⟩
        simp [wholeTextOf_append, wholeTextOf]
      have sibling : Position.nextSibling?
          { address := address, node := node,
            surroundings := some { parent := parent, before := before, after := next :: rest } } =
          some next := rfl
      rw [sibling, List.head?_cons, Option.any_some, Node.suppliesEnd_eq joint ends,
        Option.bind_some, Node.edgeText?_of_isInline inline.1]

theorem flanking_of_isInline {position : Position} (shape : position.node = .element tag children)
    (inline : (Node.element tag children).isInline = true) :
    position.flanking =
      { leading := (textInFront children).startsWithSpacing && !position.hasSpaceBefore
        trailing := (textAtEnd children).endsWithSpacing && !position.hasSpaceAfter } := by
  obtain ⟨notBlock, -, inside⟩ := Node.isInline_element_iff.1 inline
  have open' : (Node.element tag children).isBlock = false := notBlock
  rw [Position.flanking, shape, open', if_neg Bool.false_ne_true, Node.innerMarkup]
  dsimp only
  rw [startsWithSpacing_markupOfAll _ inside, endsWithSpacing_markupOfAll _ inside]

/-- An inline element is padded where it has spacing of its own that no sibling supplies. -/
theorem flanking_eq (inline : (Node.element tag children).isInline = true)
    (inlineBefore : areInline before = true) (inlineAfter : areInline after = true)
    (squeezed : preformatted = false →
      Text.IsSqueezed (wholeTextOf (before ++ .element tag children :: after))) :
    Position.flanking
        { address := address, node := .element tag children,
          surroundings := some { parent := parent, before := before, after := after } } =
      { leading := hasSpacedStart preformatted before.getLast? children
        trailing := hasSpacedEnd preformatted after.head? children } := by
  rw [flanking_of_isInline rfl inline, hasSpacedStart, hasSpacedEnd, Flanking.mk.injEq]
  constructor
  · cases starts : (textInFront children).startsWithSpacing with
    | false => rfl
    | true =>
        have whole := (startsWithSpacing_of_textInFront preformatted none starts).1
        rw [@hasSpaceBefore_eq preformatted address
          { parent := parent, before := before, after := after } _ inlineBefore squeezed whole]
  · cases ends : (textAtEnd children).endsWithSpacing with
    | false => rfl
    | true =>
        have whole := (endsWithSpacing_of_textAtEnd preformatted none ends).1
        rw [@hasSpaceAfter_eq preformatted address
          { parent := parent, before := before, after := after } _ inlineAfter squeezed whole]

end Padding

end PageMark
