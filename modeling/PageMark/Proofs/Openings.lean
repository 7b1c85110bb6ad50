import PageMark.Proofs.BlockMargins
import PageMark.Proofs.CleanLines
import PageMark.Proofs.Stretches

/-!
# How Markdown opens

In a collapsed page the only spacing outside of preformatted elements are spaces,
and rules add line feeds only.  So neither a tab nor a carriage return can be among
what is stripped at the start of Markdown.
-/

namespace PageMark

/-! ## Spaces only -/

/-- The only spacing in the text are spaces. -/
def Text.HasSpacesOnly (text : Text) : Prop :=
  ∀ character ∈ text, isSpacing character = true → character = ' '

namespace Text.HasSpacesOnly

theorem squeezeAfter (inRun : Bool) (text : Text) : (text.squeezeAfter inRun).HasSpacesOnly := by
  induction text generalizing inRun with
  | nil =>
      intro character member
      cases member
  | cons first rest ih =>
      rw [Text.squeezeAfter]
      split
      · split
        · exact ih true
        · exact List.forall_mem_cons.2 ⟨fun _ => rfl, ih true⟩
      · rename_i other
        exact List.forall_mem_cons.2 ⟨fun spacing => absurd spacing other, ih false⟩

theorem mono {part whole : Text} (spaces : whole.HasSpacesOnly) (subset : part ⊆ whole) :
    part.HasSpacesOnly :=
  fun character member => spaces character (subset member)

theorem dropLeadingSpace {text : Text} (spaces : text.HasSpacesOnly) :
    text.dropLeadingSpace.HasSpacesOnly := by
  refine spaces.mono ?_
  fun_cases Text.dropLeadingSpace text with
  | case1 rest => exact List.subset_cons_self ' ' rest
  | case2 other => exact List.Subset.refl text

theorem reverse {text : Text} (spaces : text.HasSpacesOnly) :
    Text.HasSpacesOnly text.reverse :=
  spaces.mono fun _ member => List.mem_reverse.1 member

theorem shorten_gap (gap : Gap) (content : Text) : (gap.shorten content).HasSpacesOnly := by
  rw [Gap.shorten]
  split
  · exact (squeezeAfter false content).dropLeadingSpace
  · exact squeezeAfter false content

theorem shorten_edge {content : Text} (spaces : content.HasSpacesOnly) (edge : Edge) :
    (edge.shorten content).HasSpacesOnly := by
  cases edge with
  | inline => exact spaces
  | boundary => exact spaces.reverse.dropLeadingSpace.reverse
  | finish => exact spaces.reverse.dropLeadingSpace.reverse

end Text.HasSpacesOnly

mutual

def Node.HasSpacesOnly : Node → Prop
  | .text _ content => content.HasSpacesOnly
  | .mark _ _ => True
  | .element tag children => tag.isPreformatted = true ∨ HaveSpacesOnly children

/-- The only spacing in texts outside of preformatted elements are spaces. -/
def HaveSpacesOnly : List Node → Prop
  | [] => True
  | node :: rest => node.HasSpacesOnly ∧ HaveSpacesOnly rest

end

theorem haveSpacesOnly_append_iff {left right : List Node} :
    HaveSpacesOnly (left ++ right) ↔ HaveSpacesOnly left ∧ HaveSpacesOnly right := by
  induction left with
  | nil => simp [HaveSpacesOnly]
  | cons node rest ih => simp [HaveSpacesOnly, ih, and_assoc]

theorem haveSpacesOnly_toList_iff {node : Option Node} :
    HaveSpacesOnly node.toList ↔ ∀ left ∈ node, left.HasSpacesOnly := by
  cases node <;> simp [HaveSpacesOnly]

mutual

theorem Node.hasSpacesOnly_squeezeFrom (gap : Gap) : (node : Node) →
    ∀ left ∈ (node.squeezeFrom gap).2, left.HasSpacesOnly
  | .text kind content => by
      intro left member
      rw [Node.squeezeFrom] at member
      split at member
      · cases member
      · cases member
        exact .shorten_gap gap content
  | .mark kind content => by
      intro left member
      cases member
  | .element tag children => by
      intro left member
      rw [Node.squeezeFrom] at member
      split at member
      · rename_i preformatted
        cases member
        exact .inl preformatted
      · cases member
        exact .inr (haveSpacesOnly_squeezeAll _ children)

theorem haveSpacesOnly_squeezeAll (gap : Gap) : (nodes : List Node) →
    HaveSpacesOnly (squeezeAll gap nodes).2
  | [] => trivial
  | node :: rest =>
      haveSpacesOnly_append_iff.2
        ⟨haveSpacesOnly_toList_iff.2 (Node.hasSpacesOnly_squeezeFrom gap node),
          haveSpacesOnly_squeezeAll _ rest⟩

end

mutual

theorem Node.hasSpacesOnly_settleBefore (edge : Edge) : (node : Node) → node.HasSpacesOnly →
    ∀ left ∈ (node.settleBefore edge).2, left.HasSpacesOnly
  | .text kind content, spaces => by
      intro left member
      rw [Node.settleBefore] at member
      split at member
      · cases member
      · cases member
        exact Text.HasSpacesOnly.shorten_edge spaces edge
  | .mark kind content, _ => by
      intro left member
      cases member
      trivial
  | .element tag children, spaces => by
      intro left member
      rw [Node.settleBefore] at member
      split at member
      · rename_i preformatted
        cases member
        exact .inl preformatted
      · rename_i other
        cases member
        exact .inr (haveSpacesOnly_settleAll _ children (spaces.resolve_left other))

theorem haveSpacesOnly_settleAll (edge : Edge) : (nodes : List Node) → HaveSpacesOnly nodes →
    HaveSpacesOnly (settleAll edge nodes).2
  | [], _ => trivial
  | node :: rest, spaces =>
      haveSpacesOnly_append_iff.2
        ⟨haveSpacesOnly_toList_iff.2 (Node.hasSpacesOnly_settleBefore _ node spaces.1),
          haveSpacesOnly_settleAll edge rest spaces.2⟩

end

theorem haveSpacesOnly_collapseBetween (gap : Gap) (edge : Edge) (nodes : List Node) :
    HaveSpacesOnly (collapseBetween gap edge nodes) :=
  haveSpacesOnly_settleAll edge _ (haveSpacesOnly_squeezeAll gap nodes)

/-! ## Plain openings -/

namespace Text

theorem opensPlainly_nil : OpensPlainly [] := by
  intro character member
  cases member

theorem opensPlainly_cons_iff {character : Char} {rest : Text} :
    OpensPlainly (character :: rest) ↔
      isLineSpacing character = false ∨ (character = '\n' ∧ OpensPlainly rest) := by
  rw [OpensPlainly, List.takeWhile_cons]
  cases line : isLineSpacing character with
  | false => simp
  | true => simp [OpensPlainly]

namespace OpensPlainly

theorem cons_of_not_isSpacing {character : Char} (solid : isSpacing character = false)
    (rest : Text) : OpensPlainly (character :: rest) := by
  refine opensPlainly_cons_iff.2 (.inl ?_)
  rw [Bool.eq_false_iff] at solid ⊢
  exact fun line => solid (isSpacing_of_isLineSpacing line)

theorem append {left right : Text} (plain : OpensPlainly left) (plain' : OpensPlainly right) :
    OpensPlainly (left ++ right) := by
  induction left with
  | nil => exact plain'
  | cons character rest ih =>
      rcases opensPlainly_cons_iff.1 plain with other | ⟨feed, later⟩
      · exact opensPlainly_cons_iff.2 (.inl other)
      · exact opensPlainly_cons_iff.2 (.inr ⟨feed, ih later⟩)

theorem of_hasSpacesOnly {text : Text} (spaces : text.HasSpacesOnly) : OpensPlainly text := by
  cases text with
  | nil => exact opensPlainly_nil
  | cons character rest =>
      refine opensPlainly_cons_iff.2 (.inl ?_)
      cases line : isLineSpacing character with
      | false => rfl
      | true =>
          rw [spaces character List.mem_cons_self (isSpacing_of_isLineSpacing line)] at line
          cases line

theorem of_not_startsWithSpacing {text : Text} (other : startsWithSpacing text = false) :
    OpensPlainly text := by
  cases text with
  | nil => exact opensPlainly_nil
  | cons character rest => exact cons_of_not_isSpacing other rest

theorem trimSpacing (text : Text) : OpensPlainly text.trimSpacing :=
  of_not_startsWithSpacing (startsWithSpacing_trimSpacing text)

theorem joinWith {items : List Text} (plain : ∀ item ∈ items, OpensPlainly item) :
    OpensPlainly (joinWith ['\n'] items) := by
  fun_induction Text.joinWith ['\n'] items with
  | case1 => exact opensPlainly_nil
  | case2 only => exact plain only List.mem_cons_self
  | case3 first rest others ih =>
      have feed : OpensPlainly ['\n'] := opensPlainly_cons_iff.2 (.inr ⟨rfl, opensPlainly_nil⟩)
      refine ((plain first List.mem_cons_self).append feed).append (ih ?_)
      exact fun item member => plain item (List.mem_cons_of_mem _ member)

theorem paragraphs {inner : Text} (plain : OpensPlainly inner) :
    OpensPlainly (Base.paragraphs inner) := by
  have feeds : OpensPlainly "\n\n".toList := by
    intro character member
    simpa [isLineSpacing] using member
  exact (feeds.append plain).append feeds

theorem around {text : Text} (plain : OpensPlainly text) (flanking : Flanking) :
    OpensPlainly (flanking.around text) := by
  have space (present : Bool) : OpensPlainly (Flanking.space present) := by
    cases present
    · exact opensPlainly_nil
    · exact opensPlainly_cons_iff.2 (.inl rfl)
  exact ((space _).append plain).append (space _)

end OpensPlainly

end Text

theorem Tag.exists_around (tag : Tag) (content : Text) :
    ∃ rest, tag.around content = '<' :: rest := by
  obtain ⟨rest, shell⟩ : ∃ rest, tag.shell = '<' :: rest := by
    rw [Tag.shell]
    split
    · exact ⟨_, rfl⟩
    · exact ⟨_, rfl⟩
  rw [Tag.around, shell, Text.replaceFirst]
  exact ⟨_, rfl⟩

namespace Base

open Text

theorem opensPlainly_image (position : Position) {given : Text} :
    OpensPlainly (image given position) := by
  rw [image]
  split
  · exact opensPlainly_nil
  · exact opensPlainly_cons_iff.2 (.inl rfl)

theorem opensPlainly_numeral (number : Nat) : OpensPlainly (numeral number) := by
  rw [numeral, Nat.toList_repr]
  have digits : ∀ character ∈ Nat.toDigits 10 number, character.isDigit = true :=
    fun _ => Nat.isDigit_of_mem_toDigits (by decide) (by decide)
  cases whole : Nat.toDigits 10 number with
  | nil => exact opensPlainly_nil
  | cons first rest =>
      rw [whole] at digits
      have digit := digits first List.mem_cons_self
      refine .cons_of_not_isSpacing ?_ rest
      cases spacing : isSpacing first with
      | false => rfl
      | true =>
          simp only [isSpacing, Bool.or_eq_true, beq_iff_eq] at spacing
          rcases spacing with ((rfl | rfl) | rfl) | rfl <;> cases digit

theorem opensPlainly_itemMark {position : Position} {mark : Text}
    (made : itemMark position = .ok mark) : OpensPlainly mark := by
  have bullet : OpensPlainly "*   ".toList := opensPlainly_cons_iff.2 (.inl rfl)
  have period : OpensPlainly ".  ".toList := opensPlainly_cons_iff.2 (.inl rfl)
  rw [itemMark] at made
  split at made
  · split at made
    · obtain ⟨start, -, made⟩ := bind_eq_ok_iff.1 made
      obtain ⟨place, -, made⟩ := bind_eq_ok_iff.1 made
      obtain ⟨number, written, made⟩ := bind_eq_ok_iff.1 made
      cases made
      rw [writeNumeral] at written
      split at written
      · cases written
        exact (opensPlainly_numeral _).append period
      · cases written
    · cases made
      exact bullet
  · cases made
    exact bullet

/-- What is white space at the start of an item is not kept. -/
theorem opensPlainly_listItem {position : Position} {replacements : Replacements}
    {given text : Text} (made : listItem given position replacements = .ok text) :
    OpensPlainly text := by
  obtain ⟨mark, known, made⟩ := bind_eq_ok_iff.1 made
  cases made
  refine (opensPlainly_itemMark known).append (.of_not_startsWithSpacing ?_)
  cases kept : given.dropWhile isBlank with
  | nil => rfl
  | cons first rest =>
      have visible : isBlank first = false := by
        have head := List.head?_dropWhile_not isBlank given
        rwa [kept] at head
      have solid : isSpacing first = false := by
        rw [Bool.eq_false_iff] at visible ⊢
        exact fun spacing => visible (isBlank_of_isSpacing spacing)
      have other := ne_break_of_visible visible
      simp [indentLines, startsWithSpacing, solid]

/-- What a rule is shown opens plainly, and what is shown of a preformatted element does
not matter. -/
def ShownPlainly (position : Position) (given : Text) (replacements : Replacements) : Prop :=
  position.node.kind = "pre" ∨ (OpensPlainly given ∧
    ∀ items, replacements.itemsAt position = .ok items → ∀ item ∈ items, OpensPlainly item)

theorem opensPlainly_of_mem {converter : Converter} (member : converter ∈ rules)
    {position : Position} {replacements : Replacements}
    (selects : converter.filter.selects position replacements = .ok true)
    {rendering : Rendering} (known : converter.rendering = some rendering) {given text : Text}
    (plain : ShownPlainly position given replacements)
    (made : rendering given position replacements = .ok text) : OpensPlainly text := by
  have apart (name : String) (other : name ≠ "pre") (same : position.node.kind = name) :
      OpensPlainly given ∧ ∀ items, replacements.itemsAt position = .ok items →
        ∀ item ∈ items, OpensPlainly item :=
    plain.resolve_left fun pre => other (same.symm.trans pre)
  have start {character : Char} (other : isLineSpacing character = false) (rest : Text) :
      OpensPlainly (character :: rest) := opensPlainly_cons_iff.2 (.inl other)
  simp only [rules, List.mem_cons, List.not_mem_nil, or_false] at member
  rcases member with rfl | rfl | rfl | rfl | rfl | rfl | rfl | rfl | rfl | rfl | rfl | rfl | rfl |
    rfl | rfl | rfl
  all_goals cases known
  · cases made
    exact (apart "p" (by decide) (Filter.selects_exact_iff.1 selects)).1.paragraphs
  · cases made
    exact start rfl _
  · obtain ⟨level, -, made⟩ := bind_eq_ok_iff.1 made
    cases made
    have marks : OpensPlainly (List.replicate level '#') := by
      cases level with
      | zero => exact opensPlainly_nil
      | succ level => exact start rfl _
    exact (marks.append (start rfl _)).paragraphs
  · cases made
    exact OpensPlainly.paragraphs (start rfl _)
  · cases made
    exact start rfl _
  · cases made
    exact start rfl _
  · cases made
    exact start rfl _
  · cases made
    exact start rfl _
  · cases made
    exact opensPlainly_image position
  · obtain ⟨code, -, made⟩ := bind_eq_ok_iff.1 made
    cases made
    exact OpensPlainly.paragraphs (start rfl _)
  · cases made
    exact OpensPlainly.paragraphs (start rfl _)
  · exact opensPlainly_listItem made
  · obtain ⟨items, listed, made⟩ := bind_eq_ok_iff.1 made
    have isList : position.node.kind ≠ "pre" := by
      intro pre
      have named := Filter.selects_oneOf_iff.1 selects
      rw [pre] at named
      exact absurd named (by decide)
    have lines := OpensPlainly.joinWith ((plain.resolve_left isList).2 items listed)
    split at made
    · cases made
      exact opensPlainly_cons_iff.2 (.inr ⟨rfl, lines⟩)
    · cases made
      exact lines.paragraphs
  · cases made
    have container : position.node.kind ≠ "pre" := by
      intro pre
      have named := Filter.selects_oneOf_iff.1 selects
      rw [pre] at named
      exact absurd named (by decide)
    exact (plain.resolve_left container).1.paragraphs
  · cases made
    obtain ⟨rest, same⟩ := Tag.exists_around (tagOf position) given
    rw [blockMarkup, same]
    exact (start rfl rest).paragraphs
  · cases made
    obtain ⟨rest, same⟩ := Tag.exists_around (tagOf position) given
    rw [inlineMarkup, same]
    exact start rfl rest

end Base

/-! ## Markdown by recursion -/

namespace Registry

/-- The Markdown of an element opens plainly if that of its children does. -/
theorem opensPlainly_finish {position : Position} {inside : Inside} {text : Text}
    (made : (builtIn false).insideHere position = .ok inside)
    (plain : position.node.kind = "pre" ∨
      (inside.content.OpensPlainly ∧ ∀ item ∈ inside.items, item.OpensPlainly))
    (done : (builtIn false).finish position inside = .ok text) : text.OpensPlainly := by
  have shown : Base.ShownPlainly position (position.givenContent inside.content)
      (inside.table position.address) := by
    rcases plain with pre | ⟨content, items⟩
    · exact .inl pre
    · refine .inr ⟨?_, fun listed known => ?_⟩
      · rw [Position.givenContent]
        split
        · exact .trimSpacing inside.content
        · exact content
      · rw [itemsAt_table made] at known
        cases known
        exact items
  rw [finish] at done
  split at done
  · cases done
    exact Text.opensPlainly_nil
  · obtain ⟨found, asked, done⟩ := bind_eq_ok_iff.1 done
    cases found with
    | none => cases done
    | some choice =>
        obtain ⟨inner, rendered, done⟩ := bind_eq_ok_iff.1 done
        cases done
        obtain ⟨converter, member, selects, known⟩ := mem_of_findFrom asked
        have inBase : converter ∈ Base.rules := member
        exact (Base.opensPlainly_of_mem inBase selects known shown rendered).around _

mutual

theorem opensPlainly_markdownOf {address : Address} {surroundings : Option Surroundings} :
    (node : Node) → {text : Text} → node.HasSpacesOnly →
    (builtIn false).markdownOf address surroundings node = .ok text → text.OpensPlainly
  | .text _ _, _, _, made => by cases made
  | .mark _ _, _, _, made => by cases made
  | .element tag children, text, spaces, made => by
      rw [markdownOf] at made
      obtain ⟨inside, insideMade, done⟩ := bind_eq_ok_iff.1 made
      refine @opensPlainly_finish ⟨address, .element tag children, surroundings⟩ inside text
        insideMade ?_ done
      rcases spaces with preformatted | spaces
      · exact .inl (beq_iff_eq.1 preformatted)
      · exact .inr (opensPlainly_insideOf children spaces insideMade)

/-- What elements outside of preformatted ones become opens plainly. -/
theorem opensPlainly_insideOf {address : Address} {tag : Tag} {before : List Node} :
    (nodes : List Node) → {inside : Inside} → HaveSpacesOnly nodes →
    (builtIn false).insideOf address tag before nodes = .ok inside →
      inside.content.OpensPlainly ∧ ∀ item ∈ inside.items, item.OpensPlainly
  | [], _, _, made => by
      cases made
      exact ⟨Text.opensPlainly_nil, fun item member => by cases member⟩
  | .text kind content :: rest, inside, spaces, made => by
      rw [insideOf] at made
      obtain ⟨others, later, done⟩ := bind_eq_ok_iff.1 made
      cases done
      obtain ⟨contents, items⟩ := opensPlainly_insideOf rest spaces.2 later
      exact ⟨(Text.OpensPlainly.of_hasSpacesOnly spaces.1).append contents, items⟩
  | .mark kind content :: rest, inside, spaces, made => by
      rw [insideOf] at made
      exact opensPlainly_insideOf rest spaces.2 made
  | .element own inner :: rest, inside, spaces, made => by
      rw [insideOf] at made
      obtain ⟨first, firstMade, made⟩ := bind_eq_ok_iff.1 made
      obtain ⟨others, later, done⟩ := bind_eq_ok_iff.1 made
      cases done
      have plain := opensPlainly_markdownOf (.element own inner) spaces.1 firstMade
      obtain ⟨contents, items⟩ := opensPlainly_insideOf rest spaces.2 later
      exact ⟨plain.append contents, List.forall_mem_cons.2 ⟨plain, items⟩⟩

end

end Registry

end PageMark
