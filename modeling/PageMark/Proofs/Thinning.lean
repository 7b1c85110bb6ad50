import PageMark.Proofs.LevelOrder
import PageMark.Proofs.Visible

/-!
# What collapsing leaves

Collapsing thins a forest out: blanks in texts, blank texts and marks may go, and
a shortened text becomes plain.  Elements stay where they are with their tags,
preformatted ones with all they contain, and every visible character stays.
-/

namespace PageMark

/-! ## What is below -/

mutual

/-- The node and everything below it, in document order. -/
def Node.withDescendants : Node → List Node
  | .text kind content => [.text kind content]
  | .mark kind content => [.mark kind content]
  | .element tag children => .element tag children :: nodesWithin children

/-- These nodes and everything below them, in document order. -/
def nodesWithin : List Node → List Node
  | [] => []
  | node :: rest => node.withDescendants ++ nodesWithin rest

end

mutual

def Node.wholeText : Node → Text
  | .text _ content => content
  | .mark _ _ => []
  | .element _ children => wholeTextOf children

/-- All texts among these nodes and below them, whatever their kind. -/
def wholeTextOf : List Node → Text
  | [] => []
  | node :: rest => node.wholeText ++ wholeTextOf rest

end

/-- The texts among these nodes. -/
def directTextOf : List Node → Text
  | [] => []
  | .text _ content :: rest => content ++ directTextOf rest
  | _ :: rest => directTextOf rest

/-- Texts with something to see stand in ordinary content. -/
def ShowsPlain (nodes : List Node) : Prop :=
  ∀ kind content, .text kind content ∈ nodesWithin nodes →
    Text.visible content = [] ∨ kind = .plain

theorem showsPlain_cons_iff {node : Node} {rest : List Node} :
    ShowsPlain (node :: rest) ↔ ShowsPlain [node] ∧ ShowsPlain rest := by
  simp only [ShowsPlain, nodesWithin, List.append_nil, List.mem_append]
  constructor
  · intro plain
    exact ⟨fun kind content member => plain kind content (.inl member),
      fun kind content member => plain kind content (.inr member)⟩
  · rintro ⟨first, others⟩ kind content (member | member)
    · exact first kind content member
    · exact others kind content member

theorem showsPlain_text_iff {kind : TextKind} {content : Text} :
    ShowsPlain [.text kind content] ↔ Text.visible content = [] ∨ kind = .plain := by
  simp [ShowsPlain, nodesWithin, Node.withDescendants]

theorem showsPlain_mark (kind : MarkKind) (content : Text) : ShowsPlain [.mark kind content] := by
  simp [ShowsPlain, nodesWithin, Node.withDescendants]

theorem showsPlain_element_iff {tag : Tag} {children : List Node} :
    ShowsPlain [.element tag children] ↔ ShowsPlain children := by
  simp [ShowsPlain, nodesWithin, Node.withDescendants]

/-! ## The relation -/

/-- The second forest is the first one without some of its blanks and marks. -/
inductive Thinned : List Node → List Node → Prop
  | nil : Thinned [] []
  | text {kind after : TextKind} {content shorter : Text} {rest others : List Node}
      (shown : Text.visible shorter = Text.visible content)
      (known : after = kind ∨ after = .plain) (further : Thinned rest others) :
      Thinned (.text kind content :: rest) (.text after shorter :: others)
  | blankText {kind : TextKind} {content : Text} {rest others : List Node}
      (blank : Text.visible content = []) (further : Thinned rest others) :
      Thinned (.text kind content :: rest) others
  | mark {kind : MarkKind} {content : Text} {rest others : List Node}
      (further : Thinned rest others) :
      Thinned (.mark kind content :: rest) (.mark kind content :: others)
  | droppedMark {kind : MarkKind} {content : Text} {rest others : List Node}
      (further : Thinned rest others) : Thinned (.mark kind content :: rest) others
  | element {tag : Tag} {children inner rest others : List Node}
      (passedOver : tag.isPreformatted = true → inner = children)
      (inside : Thinned children inner) (further : Thinned rest others) :
      Thinned (.element tag children :: rest) (.element tag inner :: others)

namespace Thinned

theorem refl : (nodes : List Node) → Thinned nodes nodes
  | [] => .nil
  | .text _ _ :: rest => .text rfl (.inl rfl) (refl rest)
  | .mark _ _ :: rest => .mark (refl rest)
  | .element _ children :: rest => .element (fun _ => rfl) (refl children) (refl rest)

theorem trans {first second third : List Node} (thinned : Thinned first second)
    (thinned' : Thinned second third) : Thinned first third := by
  induction thinned generalizing third with
  | nil => exact thinned'
  | blankText blank _ ih => exact .blankText blank (ih thinned')
  | droppedMark _ ih => exact .droppedMark (ih thinned')
  | text shown known _ ih =>
      cases thinned' with
      | blankText blank further => exact .blankText (shown.symm.trans blank) (ih further)
      | text shown' known' further =>
          refine .text (shown'.trans shown) ?_ (ih further)
          rcases known' with rfl | rfl
          · exact known
          · exact .inr rfl
  | mark _ ih =>
      cases thinned' with
      | mark further => exact .mark (ih further)
      | droppedMark further => exact .droppedMark (ih further)
  | element passedOver _ _ ihInside ih =>
      cases thinned' with
      | element passedOver' inside further =>
          refine .element (fun preformatted => ?_) (ihInside inside) (ih further)
          exact (passedOver' preformatted).trans (passedOver preformatted)

/-! ## What stays -/

variable {before after : List Node}

theorem visible_wholeTextOf (thinned : Thinned before after) :
    Text.visible (wholeTextOf after) = Text.visible (wholeTextOf before) := by
  induction thinned with
  | nil => rfl
  | text shown _ _ ih => simp [wholeTextOf, Node.wholeText, shown, ih]
  | blankText blank _ ih => simp [wholeTextOf, Node.wholeText, blank, ih]
  | mark _ ih => simp [wholeTextOf, Node.wholeText, ih]
  | droppedMark _ ih => simp [wholeTextOf, Node.wholeText, ih]
  | element _ _ _ ihInside ih => simp [wholeTextOf, Node.wholeText, ihInside, ih]

theorem visible_directTextOf (thinned : Thinned before after) :
    Text.visible (directTextOf after) = Text.visible (directTextOf before) := by
  induction thinned with
  | nil => rfl
  | text shown _ _ ih => simp [directTextOf, shown, ih]
  | blankText blank _ ih => simp [directTextOf, blank, ih]
  | mark _ ih => simpa [directTextOf] using ih
  | droppedMark _ ih => simpa [directTextOf] using ih
  | element _ _ _ _ ih => simpa [directTextOf] using ih

/-- Whatever is left somewhere below is what thinning leaves of one node. -/
theorem exists_original (thinned : Thinned before after) {node : Node}
    (member : node ∈ nodesWithin after) :
    ∃ original ∈ nodesWithin before, Thinned [original] [node] := by
  induction thinned with
  | nil => cases member
  | text shown known _ ih =>
      rcases List.mem_cons.1 member with rfl | others
      · exact ⟨_, List.mem_cons_self, .text shown known .nil⟩
      · obtain ⟨original, found, same⟩ := ih others
        exact ⟨original, List.mem_cons_of_mem _ found, same⟩
  | blankText _ _ ih =>
      obtain ⟨original, found, same⟩ := ih member
      exact ⟨original, List.mem_cons_of_mem _ found, same⟩
  | mark _ ih =>
      rcases List.mem_cons.1 member with rfl | others
      · exact ⟨_, List.mem_cons_self, .mark .nil⟩
      · obtain ⟨original, found, same⟩ := ih others
        exact ⟨original, List.mem_cons_of_mem _ found, same⟩
  | droppedMark _ ih =>
      obtain ⟨original, found, same⟩ := ih member
      exact ⟨original, List.mem_cons_of_mem _ found, same⟩
  | element passedOver inside _ ihInside ih =>
      rw [nodesWithin, Node.withDescendants, List.mem_append, List.mem_cons] at member
      rcases member with (rfl | below) | others
      · exact ⟨_, List.mem_append_left _ List.mem_cons_self, .element passedOver inside .nil⟩
      · obtain ⟨original, found, same⟩ := ihInside below
        exact ⟨original, List.mem_append_left _ (List.mem_cons_of_mem _ found), same⟩
      · obtain ⟨original, found, same⟩ := ih others
        exact ⟨original, List.mem_append_right _ found, same⟩

theorem showsPlain (thinned : Thinned before after) (plain : ShowsPlain before) :
    ShowsPlain after := by
  intro kind content member
  obtain ⟨original, found, same⟩ := thinned.exists_original member
  cases same with
  | text shown known _ =>
      rw [shown]
      rcases known with rfl | rfl
      · exact plain _ _ found
      · exact .inr rfl
  | blankText _ further => cases further
  | droppedMark further => cases further

/-! ## Where elements stand -/

theorem firstNamedAmong?_eq (thinned : Thinned before after) (name : String)
    (address : Address) (index : Nat) :
    firstNamedAmong? name address index after = firstNamedAmong? name address index before := by
  induction thinned generalizing address index with
  | nil => rfl
  | text _ _ _ ih => simpa [firstNamedAmong?] using ih address index
  | blankText _ _ ih => simpa [firstNamedAmong?] using ih address index
  | mark _ ih => simpa [firstNamedAmong?] using ih address index
  | droppedMark _ ih => simpa [firstNamedAmong?] using ih address index
  | element _ _ _ ihInside ih =>
      simp only [firstNamedAmong?, Node.firstNamed?, ihInside, ih]

/-- Of the first node something or nothing is left, and then comes the rest. -/
theorem exists_rest {node : Node} {rest : List Node} (thinned : Thinned (node :: rest) after) :
    ∃ first others, after = first ++ others ∧ elementCount first = elementCount [node] ∧
      Thinned rest others := by
  cases thinned with
  | text _ _ further => exact ⟨[_], _, rfl, rfl, further⟩
  | blankText _ further => exact ⟨[], _, rfl, rfl, further⟩
  | mark further => exact ⟨[_], _, rfl, rfl, further⟩
  | droppedMark further => exact ⟨[], _, rfl, rfl, further⟩
  | element _ _ further => exact ⟨[_], _, rfl, rfl, further⟩

/-- An element keeps its place among the elements around it. -/
theorem exists_split {left right children : List Node} {tag : Tag}
    (thinned : Thinned (left ++ .element tag children :: right) after) :
    ∃ left' inner right', after = left' ++ .element tag inner :: right' ∧
      elementCount left' = elementCount left ∧ Thinned children inner := by
  induction left generalizing after with
  | nil =>
      cases thinned with
      | element _ inside _ => exact ⟨[], _, _, rfl, rfl, inside⟩
  | cons node rest ih =>
      obtain ⟨first, others, rfl, own, further⟩ := thinned.exists_rest
      obtain ⟨left', inner, right', rfl, count, inside⟩ := ih further
      refine ⟨first ++ left', inner, right', (List.append_assoc ..).symm, ?_, inside⟩
      rw [elementCount_append, own, count, ← elementCount_append, List.singleton_append]

/-- The same steps down lead to what is left of an element. -/
theorem exists_elementBelow? {outer tag : Tag} {children : List Node} {steps : Address}
    (thinned : Thinned before after)
    (found : (Node.element outer before).elementBelow? steps = some (.element tag children)) :
    ∃ inner, (Node.element outer after).elementBelow? steps = some (.element tag inner) ∧
      Thinned children inner := by
  induction steps generalizing outer before after with
  | nil =>
      cases found
      exact ⟨after, rfl, thinned⟩
  | cons index steps ih =>
      obtain ⟨left, child, right, shape, isElement, count, found⟩ :=
        Node.elementBelow?_cons_iff.1 found
      cases child with
      | text kind content => cases isElement
      | mark kind content => cases isElement
      | element own below =>
          rw [Node.children] at shape
          rw [shape] at thinned
          obtain ⟨left', inner, right', rfl, same, inside⟩ := thinned.exists_split
          obtain ⟨last, leads, whole⟩ := ih inside found
          refine ⟨last, ?_, whole⟩
          exact Node.elementBelow?_cons_iff.2
            ⟨left', .element own inner, right', rfl, rfl, same.trans count, leads⟩

end Thinned

/-! ## Collapsing -/

theorem Gap.visible_shorten (gap : Gap) (content : Text) :
    Text.visible (gap.shorten content) = Text.visible content :=
  Text.visible_eq_of_solid (gap.solid_shorten content)

theorem Edge.visible_shorten (edge : Edge) (content : Text) :
    Text.visible (edge.shorten content) = Text.visible content :=
  Text.visible_eq_of_solid (edge.solid_shorten content)

/-- A shortened text in front of what is left. -/
theorem Thinned.textAfter {kind : TextKind} {content shorter : Text} {rest others : List Node}
    (shown : Text.visible shorter = Text.visible content) (further : Thinned rest others) :
    Thinned (.text kind content :: rest) (textAfter kind content shorter :: others) := by
  refine .text shown ?_ further
  split
  · exact .inl rfl
  · exact .inr rfl

theorem thinned_squeezeAll (gap : Gap) : (nodes : List Node) →
    Thinned nodes (squeezeAll gap nodes).2
  | [] => .nil
  | .text kind content :: rest => by
      have further := thinned_squeezeAll ((Node.text kind content).squeezeFrom gap).1 rest
      have shown := gap.visible_shorten content
      rw [squeezeAll]
      simp only [Node.squeezeFrom] at further ⊢
      split
      · next empty =>
          rw [if_pos empty] at further
          rw [List.isEmpty_iff.1 empty] at shown
          exact .blankText shown.symm further
      · next kept =>
          rw [if_neg kept] at further
          exact .textAfter shown further
  | .mark kind content :: rest => .droppedMark (thinned_squeezeAll gap rest)
  | .element tag children :: rest => by
      have further := thinned_squeezeAll ((Node.element tag children).squeezeFrom gap).1 rest
      have inside := thinned_squeezeAll (gap.pass tag.separation) children
      rw [squeezeAll]
      simp only [Node.squeezeFrom] at further ⊢
      split
      · next preformatted =>
          rw [if_pos preformatted] at further
          exact .element (fun _ => rfl) (.refl children) further
      · next other =>
          rw [if_neg other] at further
          exact .element (fun preformatted => absurd preformatted other) inside further

theorem thinned_settleAll (edge : Edge) : (nodes : List Node) →
    Thinned nodes (settleAll edge nodes).2
  | [] => .nil
  | .text kind content :: rest => by
      have further := thinned_settleAll edge rest
      have shown := (settleAll edge rest).1.visible_shorten content
      rw [settleAll]
      simp only [Node.settleBefore]
      split
      · next dropped =>
          rw [Edge.drops, Bool.and_eq_true] at dropped
          rw [List.isEmpty_iff.1 dropped.2] at shown
          exact .blankText shown.symm further
      · exact .textAfter shown further
  | .mark kind content :: rest => .mark (thinned_settleAll edge rest)
  | .element tag children :: rest => by
      have further := thinned_settleAll edge rest
      have inside := thinned_settleAll ((settleAll edge rest).1.pass tag.separation) children
      rw [settleAll]
      simp only [Node.settleBefore]
      split
      · exact .element (fun _ => rfl) (.refl children) further
      · next other => exact .element (fun preformatted => absurd preformatted other) inside further

theorem thinned_collapseChildren (nodes : List Node) :
    Thinned nodes (collapseChildren nodes) :=
  (thinned_squeezeAll .atBoundary nodes).trans (thinned_settleAll .finish _)

namespace Document

/-- The body of the collapsed document is what is left of the body. -/
theorem exists_body?_collapse {document : Document} {body : Position}
    (found : document.body? = some body) :
    ∃ left tag children inner, document.collapse.body? = some left ∧
      body.node = .element tag children ∧ left.node = .element tag inner ∧
      Thinned children inner := by
  obtain ⟨address, first, placed⟩ := Option.bind_eq_some_iff.1 found
  obtain ⟨tag, children, shape⟩ := exists_element_of_elementAt? placed
  have thinned := thinned_collapseChildren document.nodes
  have first' : firstNamedAmong? "body" [] 0 document.collapse.nodes = some address :=
    (thinned.firstNamedAmong?_eq "body" [] 0).trans first
  have below : document.root.elementBelow? address = some (.element tag children) := by
    rw [← shape, ← map_node_elementAt?, placed]
    rfl
  obtain ⟨inner, leads, inside⟩ := thinned.exists_elementBelow? below
  have root : document.collapse.root.elementBelow? address = some (.element tag inner) := leads
  rw [← map_node_elementAt?] at root
  obtain ⟨left, placed', shape'⟩ := Option.map_eq_some_iff.1 root
  refine ⟨left, tag, children, inner, ?_, shape, shape', inside⟩
  exact Option.bind_eq_some_iff.2 ⟨address, first', placed'⟩

end Document

end PageMark
