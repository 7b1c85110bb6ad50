import PageMark.Proofs.Failures
import PageMark.Proofs.Visible

/-!
# Line feeds around blocks

What a block contributes to the content of its parent begins and ends with line
feeds, so what stands around it is never on one line with it.  Three kinds of
blocks have no such margins by design: a block that is left out as blank, an
item, and the end of a list inside an item.
-/

namespace PageMark

/-! ## Parted texts -/

namespace Text

/-- If both texts have visible characters, a line feed stands between the last one of
`left` and the first one of `right`; `between` are the characters between the texts. -/
def IsParted (left between right : Text) : Prop :=
  isAllBlank left = false → isAllBlank right = false →
    '\n' ∈ left.reverse.takeWhile isBlank ++ between ++ right.takeWhile isBlank

instance (left between right : Text) : Decidable (IsParted left between right) :=
  inferInstanceAs (Decidable (_ → _ → _))

/-- What `own` contributes is not on one line with what stands around it.  If it
contributes nothing visible, the texts around it are not on one line with each other. -/
structure IsSetApart (left own right : Text) : Prop where
  above : IsParted left [] own
  below : IsParted own [] right
  across : isAllBlank own = true → IsParted left own right

theorem isParted_nil_left (between right : Text) : IsParted [] between right := by
  intro shown
  cases shown

theorem isParted_nil_right (left between : Text) : IsParted left between [] := by
  intro _ shown
  cases shown

theorem isParted_of_mem {left between right : Text} (inside : '\n' ∈ between) :
    IsParted left between right := by
  intro _ _
  exact List.mem_append_left _ (List.mem_append_right _ inside)

theorem isParted_cons (left rest : Text) : IsParted left [] ('\n' :: rest) := by
  intro _ _
  have blank : isBlank '\n' = true := by decide
  simp [blank]

theorem isParted_snoc (front right : Text) : IsParted (front ++ ['\n']) [] right := by
  intro _ _
  have blank : isBlank '\n' = true := by decide
  simp [blank]

end Text

/-! ## How a block is rendered -/

namespace Registry

/-- A rule that is found early stays the one that is found. -/
theorem findFrom_append_of_some {position : Position} {replacements : Replacements}
    {left right : List Converter} {choice : Choice} {index : Nat}
    (found : findFrom position replacements index left = .ok (some choice)) :
    findFrom position replacements index (left ++ right) = .ok (some choice) := by
  induction left generalizing index with
  | nil => cases found
  | cons converter rest ih =>
      rw [findFrom] at found
      obtain ⟨selected, asked, next⟩ := bind_eq_ok_iff.1 found
      rw [List.cons_append, findFrom, asked, ok_bind]
      cases selected with
      | false => exact ih next
      | true => exact next

end Registry

namespace Base

theorem paragraphs_eq_concat (content : Text) :
    paragraphs content = ('\n' :: '\n' :: content ++ ['\n']) ++ ['\n'] := by
  simp [paragraphs]

/-- The rules before the one that takes every element. -/
def specificRules : List Converter :=
  rules.take 15

/-- The forms of what a rule makes of a block. -/
inductive BlockForm (position : Position) (text : Text) : Prop where
  | surrounded (inner : Text) (same : text = paragraphs inner)
  | nestedList (list : position.node.kind ∈ ["ul", "ol"]) (nested : position.parentKind = "li")
      (lines : Text) (same : text = '\n' :: lines)
  | item (item : position.node.kind = "li") (shown : Text.isAllBlank text = false)

/-- The mark of an item is seen. -/
theorem isAllBlank_listItem {given text : Text} {position : Position}
    {replacements : Replacements} (made : listItem given position replacements = .ok text) :
    Text.isAllBlank text = false := by
  have shown (front : Text) {mark : Text} (visible : Text.isAllBlank mark = false) (rest : Text) :
      Text.isAllBlank (front ++ mark ++ rest) = false := by
    rw [Text.isAllBlank_append, Text.isAllBlank_append, visible, Bool.and_false, Bool.false_and]
  have bullet : Text.isAllBlank "*   ".toList = false := by decide
  have period : Text.isAllBlank ".  ".toList = false := by decide
  obtain ⟨mark, known, made⟩ := bind_eq_ok_iff.1 made
  cases made
  rw [itemMark] at known
  split at known
  · split at known
    · obtain ⟨start, -, known⟩ := bind_eq_ok_iff.1 known
      obtain ⟨place, -, known⟩ := bind_eq_ok_iff.1 known
      obtain ⟨number, -, known⟩ := bind_eq_ok_iff.1 known
      cases known
      exact shown number period _
    · cases known
      exact shown [] bullet _
  · cases known
    exact shown [] bullet _

theorem blockForm_of_mem {converter : Converter} (member : converter ∈ specificRules)
    {position : Position} {replacements : Replacements} (block : position.node.isBlock = true)
    (selects : converter.filter.selects position replacements = .ok true)
    {rendering : Rendering} (known : converter.rendering = some rendering) {given text : Text}
    (made : rendering given position replacements = .ok text) : BlockForm position text := by
  have notBlock (name : String) (inline : isBlockName name = false) :
      position.node.kind ≠ name := by
    intro same
    rw [Node.isBlock, same, inline] at block
    cases block
  simp only [specificRules, rules, List.take_succ_cons, List.take_zero, List.mem_cons,
    List.not_mem_nil, or_false] at member
  rcases member with rfl | rfl | rfl | rfl | rfl | rfl | rfl | rfl | rfl | rfl | rfl | rfl | rfl |
    rfl | rfl
  all_goals cases known
  any_goals exact .surrounded _ (Except.ok.inj made).symm
  · exact absurd (Filter.selects_exact_iff.1 selects) (notBlock "br" rfl)
  · obtain ⟨level, -, made⟩ := bind_eq_ok_iff.1 made
    exact .surrounded _ (Except.ok.inj made).symm
  · exact absurd (Filter.selects_oneOf_iff.1 selects)
      (by simp [notBlock "em" rfl, notBlock "i" rfl])
  · exact absurd (Filter.selects_oneOf_iff.1 selects)
      (by simp [notBlock "strong" rfl, notBlock "b" rfl])
  · have code := Filter.selects_when_iff.1 selects
    rw [isInlineCode, Bool.and_eq_true, beq_iff_eq] at code
    exact absurd code.1 (notBlock "code" rfl)
  · have anchor := Filter.selects_when_iff.1 selects
    rw [isLink, Bool.and_eq_true, beq_iff_eq] at anchor
    exact absurd anchor.1 (notBlock "a" rfl)
  · exact absurd (Filter.selects_exact_iff.1 selects) (notBlock "img" rfl)
  · obtain ⟨code, -, made⟩ := bind_eq_ok_iff.1 made
    exact .surrounded _ (Except.ok.inj made).symm
  · exact .item (Filter.selects_exact_iff.1 selects) (isAllBlank_listItem made)
  · obtain ⟨items, -, made⟩ := bind_eq_ok_iff.1 made
    split at made
    · rename_i nested
      exact .nestedList (Filter.selects_oneOf_iff.1 selects) nested _ (Except.ok.inj made).symm
    · exact .surrounded _ (Except.ok.inj made).symm

end Base

namespace Registry

variable {position : Position} {replacements : Replacements} {text : Text}

/-- Blocks are never left to the rule that takes every element. -/
theorem exists_specificRule (block : position.node.isBlock = true) {choice : Choice}
    (found : (builtIn false).find position replacements = .ok (some choice)) :
    ∃ converter ∈ Base.specificRules,
      converter.filter.selects position replacements = .ok true ∧
        converter.rendering = some choice.rendering := by
  have answers : ∀ converter ∈ Base.specificRules,
      (∃ selected, converter.filter.selects position replacements = .ok selected) ∧
        ∃ rendering, converter.rendering = some rendering := by
    intro converter member
    simp only [Base.specificRules, Base.rules, List.take_succ_cons, List.take_zero, List.mem_cons,
      List.not_mem_nil, or_false] at member
    rcases member with rfl | rfl | rfl | rfl | rfl | rfl | rfl | rfl | rfl | rfl | rfl | rfl |
      rfl | rfl | rfl
    all_goals exact ⟨⟨_, rfl⟩, _, rfl⟩
  have selected : ∃ converter ∈ Base.specificRules,
      converter.filter.selects position replacements = .ok true := by
    refine ⟨⟨Base.when fun position => position.node.isBlock, Base.ofNode Base.blockMarkup⟩,
      ?_, Filter.selects_when_iff.2 block⟩
    simp [Base.specificRules, Base.rules]
  obtain ⟨choice', found'⟩ := exists_findFrom answers selected 0
  have split : (builtIn false).converters = Base.specificRules ++ Base.rules.drop 15 :=
    (List.take_append_drop 15 Base.rules).symm
  rw [find, split, findFrom_append_of_some found'] at found
  cases found
  exact mem_of_findFrom found'

/-- The Markdown of a block that is not left out. -/
theorem blockForm_of_markdownAt (block : position.node.isBlock = true)
    (made : (builtIn false).markdownAt position replacements = .ok text) :
    text = [] ∨ Base.BlockForm position text := by
  rw [markdownAt] at made
  obtain ⟨content, -, made⟩ := bind_eq_ok_iff.1 made
  split at made
  · exact .inl (Except.ok.inj made).symm
  · obtain ⟨found, asked, made⟩ := bind_eq_ok_iff.1 made
    cases found with
    | none => cases made
    | some choice =>
        obtain ⟨inner, rendered, made⟩ := bind_eq_ok_iff.1 made
        have unpadded : position.flanking = Flanking.none := if_pos block
        rw [unpadded] at made
        have same : text = inner := by
          rw [← Except.ok.inj made]
          exact List.append_nil inner
        obtain ⟨converter, member, selects, known⟩ := exists_specificRule block asked
        rw [same]
        exact .inr (Base.blockForm_of_mem member block selects known rendered)

end Registry

/-! ## Where replacements come from -/

namespace Replacements

/-- All replacements of the one table are in the other. -/
def IsPartOf (earlier later : Replacements) : Prop :=
  ∀ address text, earlier.find? address = some text → later.find? address = some text

theorem IsPartOf.trans {earlier later last : Replacements} (part : earlier.IsPartOf later)
    (part' : later.IsPartOf last) : earlier.IsPartOf last :=
  fun address text found => part' address text (part address text found)

theorem isPartOf_of_record {earlier later : Replacements} {address : Address} {name : String}
    {text : Text} (recorded : earlier.record address name text = .ok later) :
    earlier.IsPartOf later := by
  intro other entry found
  obtain ⟨fresh, -⟩ := record_eq_ok_iff.1 recorded
  have apart : other ≠ address := by
    rintro rfl
    rw [has, found] at fresh
    cases fresh
  rw [find?_record recorded, if_neg apart, found]

/-- With more replacements the content is the same. -/
theorem IsPartOf.contentFrom_eq {earlier later : Replacements} (part : earlier.IsPartOf later)
    {address : Address} {index : Nat} {nodes : List Node} {content : Text}
    (known : earlier.contentFrom address index nodes = .ok content) :
    later.contentFrom address index nodes = .ok content := by
  induction nodes generalizing index content with
  | nil => exact known
  | cons node rest ih =>
      cases node with
      | mark kind words => exact ih known
      | text kind words =>
          obtain ⟨others, behind, ⟨⟩⟩ := bind_eq_ok_iff.1 known
          rw [contentFrom, ih behind]
          rfl
      | element tag children =>
          obtain ⟨first, found, joined⟩ := bind_eq_ok_iff.1 known
          obtain ⟨others, behind, ⟨⟩⟩ := bind_eq_ok_iff.1 joined
          rw [contentFrom, get_eq_ok_iff.2 (part _ _ (get_eq_ok_iff.1 found)), ih behind]
          rfl

theorem IsPartOf.contentAt_eq {earlier later : Replacements} (part : earlier.IsPartOf later)
    {position : Position} {content : Text} (known : earlier.contentAt position = .ok content) :
    later.contentAt position = .ok content := by
  rw [contentAt] at known ⊢
  cases shape : position.node with
  | text kind words =>
      rw [shape] at known
      cases known
  | mark kind words =>
      rw [shape] at known
      cases known
  | element tag children =>
      rw [shape] at known
      exact part.contentFrom_eq known

end Replacements

namespace Registry

variable {position : Position} {replacements : Replacements} {text : Text}

/-- All replacements are Markdown that was made of the element at their address. -/
def Makes (registry : Registry) (document : Document) (replacements : Replacements) : Prop :=
  ∀ address text, replacements.find? address = some text →
    ∃ position earlier, document.elementAt? address = some position ∧
      registry.markdownAt position earlier = .ok text

/-- Moreover the table that it was made with is part of this one. -/
def MakesInTurn (registry : Registry) (document : Document) (replacements : Replacements) : Prop :=
  ∀ address text, replacements.find? address = some text →
    ∃ position earlier, document.elementAt? address = some position ∧
      registry.markdownAt position earlier = .ok text ∧ earlier.IsPartOf replacements

theorem MakesInTurn.makes {registry : Registry} {document : Document}
    (makes : registry.MakesInTurn document replacements) :
    registry.Makes document replacements := by
  intro address text found
  obtain ⟨position, earlier, placed, made, -⟩ := makes address text found
  exact ⟨position, earlier, placed, made⟩

theorem MakesInTurn.process {registry : Registry} {document : Document} {recorded : Replacements}
    (makes : registry.MakesInTurn document replacements)
    (placed : document.elementAt? position.address = some position)
    (done : registry.process position replacements = .ok (text, recorded)) :
    registry.MakesInTurn document recorded := by
  intro address entry found
  rw [Registry.process] at done
  split at done
  · obtain ⟨made, own, done⟩ := bind_eq_ok_iff.1 done
    obtain ⟨later, stored, done⟩ := bind_eq_ok_iff.1 done
    cases done
    have part := Replacements.isPartOf_of_record stored
    rw [Replacements.find?_record stored] at found
    split at found
    · rename_i same
      cases found
      exact ⟨position, replacements, same ▸ placed, own, part⟩
    · obtain ⟨other, earlier, placed', made', part'⟩ := makes address entry found
      exact ⟨other, earlier, placed', made', part'.trans part⟩
  · cases done

/-- However the run ends. -/
theorem MakesInTurn.processEach {registry : Registry} {document : Document} {order : List Address}
    (makes : registry.MakesInTurn document replacements) :
    registry.MakesInTurn document (registry.processEach document order replacements).1 := by
  induction order generalizing replacements with
  | nil => exact makes
  | cons address rest ih =>
      rw [Registry.processEach]
      cases placed : document.elementAt? address with
      | none => exact ih makes
      | some position =>
          have placed' : document.elementAt? position.address = some position := by
            rw [Document.address_of_elementAt? placed]
            exact placed
          cases done : registry.process position replacements with
          | error failure =>
              simp only [done]
              exact makes
          | ok outcome =>
              simp only [done]
              exact ih (makes.process placed' done)

theorem makesInTurn_processBelow (registry : Registry) (document : Document) (top : Position) :
    registry.MakesInTurn document (registry.processBelow document top Replacements.empty).1 :=
  MakesInTurn.processEach fun _ _ found => by cases found

theorem makes_processBelow (registry : Registry) (document : Document) (top : Position) :
    registry.Makes document (registry.processBelow document top Replacements.empty).1 :=
  (registry.makesInTurn_processBelow document top).makes

end Registry

/-! ## Content around a child -/

namespace Replacements

/-- What the children before an element child contribute to the content of the element at
`parent`, what the child itself does and what the children behind it do. -/
structure Contributes (replacements : Replacements) (parent : Address) (left right : List Node)
    (before own behind : Text) : Prop where
  before : replacements.contentFrom parent 0 left = .ok before
  own : replacements.find? (parent ++ [elementCount left]) = some own
  behind : replacements.contentFrom parent (elementCount left + 1) right = .ok behind

namespace Contributes

variable {replacements : Replacements} {parent : Address} {left right : List Node}
  {before own behind : Text}

theorem content (contributes : replacements.Contributes parent left right before own behind)
    (tag : Tag) (children : List Node) :
    replacements.contentFrom parent 0 (left ++ .element tag children :: right) =
      .ok (before ++ own ++ behind) := by
  have stored : replacements.get (parent ++ [elementCount left]) tag.name = .ok own :=
    get_eq_ok_iff.2 contributes.own
  rw [contentFrom_append, contributes.before, Nat.zero_add, contentFrom, stored,
    contributes.behind]
  exact congrArg Except.ok (List.append_assoc before own behind).symm

theorem unique {before' own' behind' : Text}
    (contributes : replacements.Contributes parent left right before own behind)
    (contributes' : replacements.Contributes parent left right before' own' behind') :
    before = before' ∧ own = own' ∧ behind = behind' := by
  refine ⟨?_, ?_, ?_⟩
  · exact Except.ok.inj (contributes.before.symm.trans contributes'.before)
  · exact Option.some.inj (contributes.own.symm.trans contributes'.own)
  · exact Except.ok.inj (contributes.behind.symm.trans contributes'.behind)

end Contributes

theorem exists_contributes {replacements : Replacements} {parent : Position} {content : Text}
    (known : replacements.contentAt parent = .ok content) {left right children : List Node}
    {tag : Tag} (shape : parent.node.children = left ++ .element tag children :: right) :
    ∃ before own behind, content = before ++ own ++ behind ∧
      replacements.Contributes parent.address left right before own behind := by
  cases node : parent.node with
  | text kind words =>
      rw [contentAt, node] at known
      cases known
  | mark kind words =>
      rw [contentAt, node] at known
      cases known
  | element outer inner =>
      rw [contentAt, node, contentOf] at known
      rw [node, Node.children] at shape
      rw [shape, contentFrom_append, Nat.zero_add, contentFrom] at known
      obtain ⟨before, first, known⟩ := bind_eq_ok_iff.1 known
      obtain ⟨others, known, joined⟩ := bind_eq_ok_iff.1 known
      obtain ⟨own, stored, known⟩ := bind_eq_ok_iff.1 known
      obtain ⟨behind, last, joined'⟩ := bind_eq_ok_iff.1 known
      cases joined
      cases joined'
      exact ⟨before, own, behind, (List.append_assoc _ _ _).symm, first,
        get_eq_ok_iff.1 stored, last⟩

end Replacements

/-! ## Elements of a conversion -/

namespace Document

/-- The element is the body or one below it, and this is its content in a conversion with
the rules for plain Markdown, of which `table` are the replacements. -/
structure Assembles (document : Document) (parent : Position) (table : Replacements)
    (content : Text) : Prop where
  placed : document.collapse.elementAt? parent.address = some parent
  converts : ∃ body outcome, document.collapse.body? = some body ∧
    body.address <+: parent.address ∧
      (Registry.builtIn false).processBelow document.collapse body Replacements.empty =
        (table, outcome)
  content : table.contentAt parent = .ok content

/-- An element of the body whose children are known, and what they become. -/
theorem exists_assembles {document : Document} {address : Address} {outer : Tag}
    {children : List Node} {table : Replacements} {outcome : Option Failure} {content : Text}
    (placed : (document.collapse.elementAt? address).map Position.node =
      some (.element outer children))
    (run : (document.collapse.body?.map fun body => (body.address.isPrefixOf address,
      (Registry.builtIn false).processBelow document.collapse body Replacements.empty)) =
        some (true, table, outcome))
    (known : table.contentFrom address 0 children = .ok content) :
    ∃ parent, parent.address = address ∧ parent.node = .element outer children ∧
      document.Assembles parent table content := by
  obtain ⟨parent, placed, node⟩ := Option.map_eq_some_iff.1 placed
  obtain ⟨body, found, ran⟩ := Option.map_eq_some_iff.1 run
  have same := address_of_elementAt? placed
  subst same
  obtain ⟨within, ran⟩ := Prod.mk.inj ran
  refine ⟨parent, rfl, node, placed, ⟨body, outcome, found, ?_, ran⟩, ?_⟩
  · exact List.isPrefixOf_iff_prefix.1 within
  · rw [Replacements.contentAt, node]
    exact known

def bodyOf (children : List Node) : Document :=
  .ofNodes [.element (plainTag "body") children]

/-- Every block among the children of an element that is not a list is set apart. -/
def SetsBlocksApart (document : Document) : Prop :=
  ∀ parent table content left tag children right,
    document.Assembles parent table content → parent.node.kind ∉ ["ul", "ol"] →
    parent.node.children = left ++ .element tag children :: right → tag.isBlock = true →
      ∃ before own behind, content = before ++ own ++ behind ∧
        table.Contributes parent.address left right before own behind ∧
          Text.IsSetApart before own behind

/-- Which of its margins a block has. -/
structure HasMargins (parent : Position) (tag : Tag) (before own behind : Text) : Prop where
  above : tag.kind ≠ "li" → Text.IsParted before [] own
  below : tag.kind ≠ "li" → ¬ (tag.kind ∈ ["ul", "ol"] ∧ parent.node.kind = "li") →
    Text.IsParted own [] behind
  across : own ≠ [] → Text.isAllBlank own = true → Text.IsParted before own behind

theorem hasMargins_of_blockForm {parent position : Position} {tag : Tag}
    (kind : position.node.kind = tag.kind) (parentKind : position.parentKind = parent.node.kind)
    {own : Text} (form : own = [] ∨ Base.BlockForm position own) (before behind : Text) :
    HasMargins parent tag before own behind := by
  rcases form with rfl | ⟨inner, rfl⟩ | ⟨list, nested, lines, rfl⟩ | ⟨item, shown⟩
  · exact ⟨fun _ => Text.isParted_nil_right before [],
      fun _ _ => Text.isParted_nil_left [] behind, fun kept => absurd rfl kept⟩
  · refine ⟨fun _ => Text.isParted_cons before _, fun _ _ => ?_, fun _ _ => ?_⟩
    · rw [Base.paragraphs_eq_concat]
      exact Text.isParted_snoc _ behind
    · exact Text.isParted_of_mem (by simp [Base.paragraphs])
  · refine ⟨fun _ => Text.isParted_cons before lines, fun _ outside => ?_, fun _ _ => ?_⟩
    · exact absurd ⟨kind ▸ list, parentKind ▸ nested⟩ outside
    · exact Text.isParted_of_mem List.mem_cons_self
  · refine ⟨fun other => absurd (kind ▸ item) other,
      fun other _ => absurd (kind ▸ item) other, ?_⟩
    intro _ blank
    rw [shown] at blank
    cases blank

/-- A block between two words. -/
def dividedText : List Node :=
  [words "a", .element (plainTag "div") [words "b"], words "c"]

/-- Every block that is not left out stands apart from what is around it, with line feeds on
both sides; an item has none, and a list inside an item only the one before it. -/
theorem blocks_have_margins {document : Document} {parent : Position} {table : Replacements}
    {content : Text} (assembles : document.Assembles parent table content)
    {left right children : List Node} {tag : Tag}
    (shape : parent.node.children = left ++ .element tag children :: right)
    (block : tag.isBlock = true) :
    ∃ before own behind, content = before ++ own ++ behind ∧
      table.Contributes parent.address left right before own behind ∧
        HasMargins parent tag before own behind := by
  obtain ⟨body, outcome, -, -, run⟩ := assembles.converts
  obtain ⟨before, own, behind, joined, contributes⟩ :=
    Replacements.exists_contributes assembles.content shape
  refine ⟨before, own, behind, joined, contributes, ?_⟩
  have makes := Registry.makes_processBelow (Registry.builtIn false) document.collapse body
  rw [run] at makes
  obtain ⟨position, earlier, placed, made⟩ := makes _ own contributes.own
  obtain ⟨outer, inner, node⟩ := exists_element_of_elementAt? assembles.placed
  rw [node, Node.children] at shape
  subst shape
  have child := elementAt?_child assembles.placed node rfl
  rw [child] at placed
  have child := Option.some.inj placed
  have isBlock : position.node.isBlock = true := by
    rw [← child]
    exact block
  have kind : position.node.kind = tag.kind := by
    rw [← child]
    rfl
  have parentKind : position.parentKind = parent.node.kind := by
    rw [← child, node]
    rfl
  exact hasMargins_of_blockForm kind parentKind
    (Registry.blockForm_of_markdownAt isBlock made) before behind

theorem divided_has_margins :
    ∃ parent table, (bodyOf dividedText).Assembles parent table "a\n\nb\n\nc".toList ∧
      ∃ before own behind, "a\n\nb\n\nc".toList = before ++ own ++ behind ∧
        table.Contributes parent.address [words "a"] [words "c"] before own behind ∧
          HasMargins parent (plainTag "div") before own behind := by
  obtain ⟨parent, -, node, assembles⟩ := @exists_assembles (bodyOf dividedText) [0]
    (plainTag "body") dividedText { entries := [([0, 0], "\n\nb\n\n".toList)] } none _
    (by decide +kernel) (by decide +kernel) rfl
  have shape : parent.node.children = dividedText := by
    rw [node, Node.children]
  exact ⟨parent, _, assembles, blocks_have_margins assembles shape (by decide +kernel)⟩

/-! ## Blocks without margins -/

theorem not_setsBlocksApart {document : Document} {address : Address} {outer tag : Tag}
    {left right children : List Node} {table : Replacements} {outcome : Option Failure}
    {before own behind : Text}
    (placed : (document.collapse.elementAt? address).map Position.node =
      some (.element outer (left ++ .element tag children :: right)))
    (run : (document.collapse.body?.map fun body => (body.address.isPrefixOf address,
      (Registry.builtIn false).processBelow document.collapse body Replacements.empty)) =
        some (true, table, outcome))
    (other : outer.kind ∉ ["ul", "ol"]) (block : tag.isBlock = true)
    (contributes : table.Contributes address left right before own behind)
    (touching : ¬ Text.IsSetApart before own behind) : ¬ document.SetsBlocksApart := by
  intro apart
  obtain ⟨parent, rfl, node, assembles⟩ := exists_assembles placed run
    (contributes.content tag children)
  have kind : parent.node.kind ∉ ["ul", "ol"] := by
    rw [node]
    exact other
  have shape : parent.node.children = left ++ .element tag children :: right := by
    rw [node, Node.children]
  obtain ⟨_, _, _, -, contributes', setApart⟩ :=
    apart parent table _ left tag children right assembles kind shape block
  obtain ⟨rfl, rfl, rfl⟩ := contributes.unique contributes'
  exact touching setApart

/-- A paragraph without content between two words. -/
def blankBlock : List Node :=
  [words "a", .element (plainTag "p") [], words "b"]

/-- An item that is in no list. -/
def strayItem : List Node :=
  [words "a", .element (plainTag "li") [words "b"], words "c"]

/-- Text behind a list in an item. -/
def textAfterList : List Node :=
  [.element (plainTag "li") [words "x",
    .element (plainTag "ul") [.element (plainTag "li") [words "a"]], words "y"]]

theorem touching_blocks : ¬ (bodyOf blankBlock).SetsBlocksApart ∧
    ¬ (bodyOf strayItem).SetsBlocksApart ∧ ¬ (bodyOf textAfterList).SetsBlocksApart := by
  refine ⟨?_, ?_, ?_⟩
  · refine @not_setsBlocksApart (bodyOf blankBlock) [0] (plainTag "body") (plainTag "p")
      [words "a"] [words "b"] [] { entries := [([0, 0], [])] } none "a".toList [] "b".toList
      (by decide +kernel) (by decide +kernel) (by decide +kernel) (by decide +kernel)
      ⟨rfl, rfl, rfl⟩ fun apart => ?_
    exact absurd apart.across (by decide)
  · refine @not_setsBlocksApart (bodyOf strayItem) [0] (plainTag "body") (plainTag "li")
      [words "a"] [words "c"] [words "b"] { entries := [([0, 0], "*   b".toList)] } none
      "a".toList "*   b".toList "c".toList
      (by decide +kernel) (by decide +kernel) (by decide +kernel) (by decide +kernel)
      ⟨rfl, rfl, rfl⟩ fun apart => ?_
    exact absurd apart.above (by decide)
  · refine @not_setsBlocksApart (bodyOf textAfterList) [0, 0] (plainTag "li") (plainTag "ul")
      [words "x"] [words "y"] [.element (plainTag "li") [words "a"]]
      { entries := [([0, 0], "*   x\n    *   ay".toList), ([0, 0, 0], "\n*   a".toList),
        ([0, 0, 0, 0], "*   a".toList)] } none "x".toList "\n*   a".toList "y".toList
      (by decide +kernel) (by decide +kernel) (by decide +kernel) (by decide +kernel)
      ⟨rfl, rfl, rfl⟩ fun apart => ?_
    exact absurd apart.below (by decide)

end Document

end PageMark
