import PageMark.Proofs.Concatenation
import PageMark.Proofs.Failures
import PageMark.Proofs.InlineText
import PageMark.Proofs.Layout

/-!
# The lines of a list

A list whose items have a text each, and lists below it, becomes a line for each item,
four spaces further to the right for each list around its own.  An item puts a margin
before the lines of the lists in it, and a list puts its items one below the other.
-/

namespace PageMark

namespace Text

/-! ## Texts of items -/

/-- From something to see up to something to see, with single spaces and no other spacing. -/
structure IsItemText (text : Text) : Prop where
  some : text ≠ []
  starts : ∀ first ∈ text.head?, isBlank first = false
  ends : EndsSeen text
  squeezed : IsSqueezed text

/-- The text is all there is but for spacing around it. -/
def IsPadded (whole text : Text) : Prop :=
  ∃ front back, whole = front ++ text ++ back ∧ ∀ character ∈ front ++ back, isSpacing character

theorem IsSqueezed.squeezeAfter_eq {text : Text} (squeezed : IsSqueezed text) {inRun : Bool}
    (start : inRun = true → startsWithSpacing text = false) : squeezeAfter inRun text = text := by
  induction text generalizing inRun with
  | nil => rfl
  | cons first rest ih =>
      have others : IsSqueezed rest :=
        ⟨fun character member => squeezed.spaces character (List.mem_cons_of_mem _ member),
          squeezed.single.tail⟩
      cases spacing : isSpacing first with
      | false => simp [squeezeAfter, spacing, ih others]
      | true =>
          obtain rfl := squeezed.spaces first List.mem_cons_self spacing
          have fresh : inRun = false := by
            cases inRun with
            | false => rfl
            | true => exact absurd (start rfl) (by simp [startsWithSpacing, spacing])
          have apart : startsWithSpacing rest = false := by
            cases rest with
            | nil => rfl
            | cons second later =>
                exact (List.isChain_cons_cons.1 squeezed.single).1.resolve_left (by simp [spacing])
          simp [squeezeAfter, spacing, fresh, ih others fun _ => apart]

namespace IsItemText

variable {text : Text} (isText : IsItemText text)

include isText

theorem exists_cons : ∃ first rest, text = first :: rest ∧ isBlank first = false := by
  obtain ⟨first, rest, rfl⟩ := List.exists_cons_of_ne_nil isText.some
  exact ⟨first, rest, rfl, isText.starts first rfl⟩

theorem exists_snoc : ∃ front last, text = front ++ [last] ∧ isBlank last = false := by
  obtain ⟨front, last, rfl⟩ := (List.eq_nil_or_concat' text).resolve_left isText.some
  exact ⟨front, last, rfl, isText.ends last (by simp)⟩

theorem isAllBlank_eq : isAllBlank text = false := by
  obtain ⟨first, rest, rfl, visible⟩ := isText.exists_cons
  rw [isAllBlank_cons, visible, Bool.false_and]

theorem not_mem : '\n' ∉ text := fun member =>
  absurd (isText.squeezed.spaces _ member rfl) (by decide)

theorem dropTrailingSpace_eq : dropTrailingSpace text = text := by
  obtain ⟨front, last, rfl, visible⟩ := isText.exists_snoc
  have other : last ≠ ' ' := by
    rintro rfl
    cases visible
  simp [dropTrailingSpace, dropLeadingSpace, other]

/-- Collapsing takes off the spacing around the text. -/
theorem normal_eq_of_isPadded {whole : Text} (padded : IsPadded whole text) :
    normal whole = text := by
  obtain ⟨front, back, rfl, all⟩ := padded
  obtain ⟨inFront, inBack⟩ := List.forall_mem_append.1 all
  obtain ⟨first, rest, shape, visible⟩ := isText.exists_cons
  have start : startsWithSpacing text = false := by
    rw [shape]
    show isSpacing first = false
    rw [Bool.eq_false_iff]
    intro spacing
    rw [isBlank_of_isSpacing spacing] at visible
    cases visible
  have nothing := squeezeAfter_eq_nil inFront
  rw [normal_eq, squeezeAfter_append, squeezeAfter_append, nothing,
    endsInRun_of_squeezeAfter_eq_nil nothing, List.nil_append,
    isText.squeezed.squeezeAfter_eq fun _ => start]
  cases back with
  | nil => exact (congrArg _ (List.append_nil text)).trans isText.dropTrailingSpace_eq
  | cons next others =>
      rw [List.forall_mem_cons] at inBack
      cases inRun : endsInRun true (front ++ text) with
      | true =>
          rw [squeezeAfter_eq_nil (List.forall_mem_cons.2 inBack), List.append_nil]
          exact isText.dropTrailingSpace_eq
      | false =>
          simp [squeezeAfter, inBack.1, squeezeAfter_eq_nil inBack.2, dropTrailingSpace,
            dropLeadingSpace]

end IsItemText

/-! ## Margins -/

section Margins

variable {margin : Text}

theorem indentLines_of_not_mem {text : Text} (single : '\n' ∉ text) :
    indentLines margin text = text := by
  induction text with
  | nil => rfl
  | cons first rest ih =>
      rw [List.mem_cons, not_or] at single
      simp [indentLines, Ne.symm single.1, ih single.2]

theorem indentLines_behindFeeds {lines : List Text} (single : ∀ line ∈ lines, '\n' ∉ line) :
    indentLines margin (behindFeeds lines) = behindFeeds (lines.map (margin ++ ·)) := by
  induction lines with
  | nil => rfl
  | cons first rest ih =>
      rw [List.forall_mem_cons] at single
      rw [behindFeeds_cons, indentLines_append, ih single.2, List.map_cons, behindFeeds_cons,
        indentLines, indentLines_of_not_mem single.1]

end Margins

end Text

/-! ## Outlines -/

mutual

/-- A list with its items; `first` is the number of the first one if they are numbered. -/
inductive Outline where
  | list (tag : Tag) (first : Option Nat) (children : List Node) (items : List OutlineItem)

/-- An item with what is in front of the first list in it, and what comes with that: a text, and
lists below it. -/
inductive OutlineItem where
  | item (tag : Tag) (front back : List Node) (text : Text) (lists : List Outline)

end

def Outline.node : Outline → Node
  | .list tag _ children _ => .element tag children

def OutlineItem.node : OutlineItem → Node
  | .item tag front back _ _ => .element tag (front ++ back)

/-- An ordered list counts from one if its start attribute has other characters than digits, and
from the number that decimal digits make. -/
inductive Tag.HasStart (list : Tag) : Nat → Prop
  | one (noDigits : list.hasDigitStart = false) : HasStart list 1
  | read {values : List Nat} (some : values ≠ [])
      (known : Text.decimalValues? (list.textOf "start") = Option.some values)
      (short : values.length ≤ Text.numeralLimit) : HasStart list (Text.valueOfDigits values)

/-- Where a list of this many items begins to count, if it does. -/
def Tag.CountsFrom (list : Tag) (count : Nat) : Option Nat → Prop
  | none => list.kind = "ul"
  | some first => list.kind = "ol" ∧ list.HasStart first ∧
      ∀ place < count, (Text.numeral (first + place)).length ≤ Text.numeralLimit

/-- A list of items with nothing but spacing between them. -/
structure IsListOf (tag : Tag) (first : Option Nat) (children : List Node)
    (items : List OutlineItem) : Prop where
  counts : tag.CountsFrom items.length first
  some : items ≠ []
  spaced : AreSpaced children (items.map OutlineItem.node)

/-- An item with a text, spacing around that, and lists. -/
structure IsItemOf (tag : Tag) (front back : List Node) (text : Text) (lists : List Outline) :
    Prop where
  named : tag.kind = "li"
  texts : ∀ node ∈ front, node.isText = true
  padded : Text.IsPadded (wholeTextOf front) text
  isText : text.IsItemText
  opens : ∀ node ∈ back.head?, node.isElement = true
  spaced : AreSpaced back (lists.map Outline.node)

mutual

def Outline.IsSound : Outline → Prop
  | .list tag first children items => IsListOf tag first children items ∧ AreSoundItems items

def OutlineItem.IsSound : OutlineItem → Prop
  | .item tag front back text lists => IsItemOf tag front back text lists ∧ AreSoundLists lists

def AreSoundItems : List OutlineItem → Prop
  | [] => True
  | item :: rest => item.IsSound ∧ AreSoundItems rest

def AreSoundLists : List Outline → Prop
  | [] => True
  | outline :: rest => outline.IsSound ∧ AreSoundLists rest

end

/-! ## Their lines -/

/-- What stands before the item at this place. -/
def outlineMark (first : Option Nat) (place : Nat) : Text :=
  match first with
  | none => "*   ".toList
  | some first => Text.numeral (first + place) ++ ".  ".toList

mutual

/-- The lines of a list with this many lists around it. -/
def Outline.linesAt (depth : Nat) : Outline → List Text
  | .list _ first _ items => itemLines depth first 0 items

def OutlineItem.linesAt (depth : Nat) (mark : Text) : OutlineItem → List Text
  | .item _ _ _ text lists =>
      (List.replicate (4 * depth) ' ' ++ mark ++ text) :: outlineLines (depth + 1) lists

/-- The lines of these items, of which the first one has this place. -/
def itemLines (depth : Nat) (first : Option Nat) (place : Nat) : List OutlineItem → List Text
  | [] => []
  | item :: rest =>
      item.linesAt depth (outlineMark first place) ++ itemLines depth first (place + 1) rest

def outlineLines (depth : Nat) : List Outline → List Text
  | [] => []
  | outline :: rest => outline.linesAt depth ++ outlineLines depth rest

end

theorem itemLines_eq (depth : Nat) (first : Option Nat) (place : Nat) (items : List OutlineItem) :
    itemLines depth first place items =
      (items.mapIdx fun index item =>
        item.linesAt depth (outlineMark first (place + index))).flatten := by
  induction items generalizing place with
  | nil => rfl
  | cons item rest ih =>
      rw [itemLines, ih, List.mapIdx_cons, List.flatten_cons]
      simp only [Nat.add_zero, Nat.add_assoc, Nat.add_comm 1]

theorem outlineLines_eq (depth : Nat) (lists : List Outline) :
    outlineLines depth lists = lists.flatMap (Outline.linesAt depth) := by
  induction lists with
  | nil => rfl
  | cons outline rest ih => rw [outlineLines, ih, List.flatMap_cons]

/-! ### Further to the right -/

theorem replicate_margin (depth : Nat) (text : Text) :
    List.replicate (4 * (depth + 1)) ' ' ++ text =
      Base.listMargin ++ (List.replicate (4 * depth) ' ' ++ text) := by
  have margin : Base.listMargin = List.replicate 4 ' ' := rfl
  rw [margin, ← List.append_assoc, ← List.replicate_add, Nat.mul_succ, Nat.add_comm]

mutual

theorem Outline.linesAt_succ (depth : Nat) : (outline : Outline) →
    outline.linesAt (depth + 1) = (outline.linesAt depth).map (Base.listMargin ++ ·)
  | .list _ first _ items => itemLines_succ depth first 0 items

theorem OutlineItem.linesAt_succ (depth : Nat) (mark : Text) : (item : OutlineItem) →
    item.linesAt (depth + 1) mark = (item.linesAt depth mark).map (Base.listMargin ++ ·)
  | .item _ _ _ text lists => by
      rw [OutlineItem.linesAt, OutlineItem.linesAt, List.map_cons,
        outlineLines_succ (depth + 1) lists, List.append_assoc, List.append_assoc,
        replicate_margin]

theorem itemLines_succ (depth : Nat) (first : Option Nat) (place : Nat) :
    (items : List OutlineItem) →
    itemLines (depth + 1) first place items =
      (itemLines depth first place items).map (Base.listMargin ++ ·)
  | [] => rfl
  | item :: rest => by
      rw [itemLines, itemLines, List.map_append, item.linesAt_succ depth,
        itemLines_succ depth first (place + 1) rest]

theorem outlineLines_succ (depth : Nat) : (lists : List Outline) →
    outlineLines (depth + 1) lists = (outlineLines depth lists).map (Base.listMargin ++ ·)
  | [] => rfl
  | outline :: rest => by
      rw [outlineLines, outlineLines, List.map_append, outline.linesAt_succ depth,
        outlineLines_succ depth rest]

end

/-! ### Something to see in every line -/

theorem outlineMark_eq (first : Option Nat) (place : Nat) :
    ∃ opening rest, outlineMark first place = opening :: rest ∧ Text.isBlank opening = false ∧
      '\n' ∉ outlineMark first place := by
  cases first with
  | none =>
      have single : '\n' ∉ "*   ".toList := by decide
      exact ⟨'*', _, rfl, by decide, single⟩
  | some first =>
      have digits {digit : Char} (member : digit ∈ Text.numeral (first + place)) :
          digit.isDigit = true := by
        rw [Text.numeral, Nat.toList_repr] at member
        exact Nat.isDigit_of_mem_toDigits (by decide) (by decide) member
      have some : Text.numeral (first + place) ≠ [] := by
        rw [Text.numeral, Nat.toList_repr]
        exact Nat.toDigits_ne_nil
      have feed : '\n' ∉ Text.numeral (first + place) := fun member =>
        absurd (digits member) (by decide)
      obtain ⟨digit, rest, shape⟩ := List.exists_cons_of_ne_nil some
      have visible : Text.isBlank digit = false := by
        have range := digits (shape ▸ List.mem_cons_self)
        simp only [Char.isDigit, Bool.and_eq_true, decide_eq_true_eq] at range
        have low : 48 ≤ digit.toNat := UInt32.le_iff_toNat_le.1 range.1
        have high : digit.toNat ≤ 57 := UInt32.le_iff_toNat_le.1 range.2
        simp [Text.isBlank]
        omega
      refine ⟨digit, rest ++ ".  ".toList, by rw [outlineMark, shape]; rfl, visible, ?_⟩
      rw [outlineMark, List.mem_append, not_or]
      exact ⟨feed, by decide⟩

/-- A line with something to see, also at its end. -/
structure Text.IsClosedLine (line : Text) : Prop where
  isLine : IsLine line
  ends : EndsSeen line

theorem Text.IsItemText.isClosedLine {text mark : Text} (isText : text.IsItemText)
    (single : '\n' ∉ mark) (depth : Nat) :
    IsClosedLine (List.replicate (4 * depth) ' ' ++ mark ++ text) where
  isLine := by
    refine ⟨?_, by rw [isAllBlank_append, isText.isAllBlank_eq, Bool.and_false]⟩
    simp [single, isText.not_mem]
  ends := isText.ends.append isText.some _

mutual

theorem Outline.isClosedLine_of_mem (depth : Nat) : (outline : Outline) → outline.IsSound →
    ∀ line ∈ outline.linesAt depth, Text.IsClosedLine line
  | .list _ first _ items, sound => isClosedLine_of_mem_items depth first 0 items sound.2

theorem OutlineItem.isClosedLine_of_mem (depth : Nat) {mark : Text} (single : '\n' ∉ mark) :
    (item : OutlineItem) → item.IsSound → ∀ line ∈ item.linesAt depth mark, Text.IsClosedLine line
  | .item _ _ _ text lists, sound, line, member => by
      rcases List.mem_cons.1 member with rfl | below
      · exact sound.1.isText.isClosedLine single depth
      · exact isClosedLine_of_mem_lists (depth + 1) lists sound.2 line below

theorem isClosedLine_of_mem_items (depth : Nat) (first : Option Nat) (place : Nat) :
    (items : List OutlineItem) → AreSoundItems items →
      ∀ line ∈ itemLines depth first place items, Text.IsClosedLine line
  | [], _, _, member => by cases member
  | item :: rest, sound, line, member => by
      obtain ⟨_, _, _, _, single⟩ := outlineMark_eq first place
      rcases List.mem_append.1 member with own | later
      · exact item.isClosedLine_of_mem depth single sound.1 line own
      · exact isClosedLine_of_mem_items depth first (place + 1) rest sound.2 line later

theorem isClosedLine_of_mem_lists (depth : Nat) : (lists : List Outline) → AreSoundLists lists →
    ∀ line ∈ outlineLines depth lists, Text.IsClosedLine line
  | [], _, _, member => by cases member
  | outline :: rest, sound, line, member => by
      rcases List.mem_append.1 member with own | later
      · exact outline.isClosedLine_of_mem depth sound.1 line own
      · exact isClosedLine_of_mem_lists depth rest sound.2 line later

end

theorem OutlineItem.exists_linesAt (depth : Nat) (mark : Text) (item : OutlineItem) :
    ∃ text rest, item.linesAt depth mark =
      (List.replicate (4 * depth) ' ' ++ mark ++ text) :: rest := by
  cases item with
  | item tag front back text lists => exact ⟨text, _, rfl⟩

/-- The first line of a list begins with the mark of its first item. -/
theorem Outline.areWholeLines {outline : Outline} (sound : outline.IsSound) :
    Text.AreWholeLines (outline.linesAt 0) := by
  have closed := outline.isClosedLine_of_mem 0 sound
  obtain ⟨tag, first, children, items⟩ := outline
  obtain ⟨item, others, rfl⟩ := List.exists_cons_of_ne_nil sound.1.some
  obtain ⟨text, rest, shape⟩ := item.exists_linesAt 0 (outlineMark first 0)
  obtain ⟨opening, inner, marked, visible, -⟩ := outlineMark_eq first 0
  have whole : (Outline.list tag first children (item :: others)).linesAt 0 =
      (opening :: (inner ++ text)) :: (rest ++ itemLines 0 first 1 others) := by
    rw [linesAt, itemLines, shape, marked]
    rfl
  refine ⟨whole ▸ List.cons_ne_nil _ _, fun line member => (closed line member).isLine, ?_,
    fun line member => (closed line (List.mem_of_getLast? member)).ends⟩
  rw [whole]
  rintro line ⟨⟩ character ⟨⟩
  exact visible

/-! ## Collapsing an item -/

theorem squeezeAll_cons_block (gap : Gap) {node : Node} (block : node.isBlock = true)
    (rest : List Node) : squeezeAll gap (node :: rest) = squeezeAll .atBoundary (node :: rest) := by
  cases node with
  | text kind content => cases block
  | mark kind content => cases block
  | element tag children =>
      have boundary := Tag.separation_of_isBlock block
      simp [squeezeAll, Node.squeezeFrom, boundary, Gap.pass]

/-- What is before the first block is collapsed by itself. -/
theorem collapseBetween_append_block (gap : Gap) (edge : Edge) {node : Node}
    (block : node.isBlock = true) (front rest : List Node) :
    collapseBetween gap edge (front ++ node :: rest) =
      collapseBetween gap .boundary front ++ collapseBetween .atBoundary edge (node :: rest) := by
  cases node with
  | text kind content => cases block
  | mark kind content => cases block
  | element tag children =>
      have first := squeezeAll_cons_block (squeezeAll gap front).1 block rest
      obtain ⟨inner, others, back⟩ := squeezeAll_cons_element .atBoundary tag children rest
      obtain ⟨settled, ending⟩ := settleAll_cons_block block edge inner others
      simp only [collapseBetween, squeezeAll_append, first, back, settleAll_append, ending]

theorem Thinned.isText_of_mem {before after : List Node} (thinned : Thinned before after)
    (texts : ∀ node ∈ before, node.isText = true) : ∀ node ∈ after, node.isText = true := by
  induction thinned with
  | nil => exact texts
  | text _ _ _ ih =>
      rw [List.forall_mem_cons] at texts ⊢
      exact ⟨rfl, ih texts.2⟩
  | blankText _ _ ih => exact ih (List.forall_mem_cons.1 texts).2
  | mark _ _ => cases (List.forall_mem_cons.1 texts).1
  | droppedMark _ _ => cases (List.forall_mem_cons.1 texts).1
  | element _ _ _ _ _ => cases (List.forall_mem_cons.1 texts).1

theorem areInline_of_texts {nodes : List Node} (texts : ∀ node ∈ nodes, node.isText = true) :
    areInline nodes = true := by
  induction nodes with
  | nil => rfl
  | cons node rest ih =>
      rw [List.forall_mem_cons] at texts
      rw [areInline, ih texts.2, Bool.and_true]
      cases node with
      | text kind content => rfl
      | mark kind content => cases texts.1
      | element tag children => cases texts.1

/-- Texts are part of the content as they are. -/
theorem Registry.insideOf_texts {registry : Registry} {address : Address} {tag : Tag}
    {front rest : List Node} (texts : ∀ node ∈ front, node.isText = true) {before : List Node}
    {inside : Inside} (made : registry.insideOf address tag (before ++ front) rest = .ok inside) :
    registry.insideOf address tag before (front ++ rest) =
      .ok (inside.addText (wholeTextOf front)) := by
  induction front generalizing before with
  | nil =>
      rw [List.append_nil] at made
      exact made
  | cons node others ih =>
      rw [List.forall_mem_cons] at texts
      cases node with
      | text kind content =>
          have later := @ih texts.2 (before ++ [Node.text kind content]) (by simpa using made)
          rw [List.cons_append, insideOf, later, ok_bind, pure_eq_ok]
          simp [Inside.addText, wholeTextOf, Node.wholeText]
      | mark kind content => cases texts.1
      | element own inner => cases texts.1

theorem Outline.isPlainBlock {outline : Outline} (sound : outline.IsSound) :
    ∃ tag children, outline.node = .element tag children ∧ tag.kind ∈ ["ul", "ol"] ∧
      tag.IsPlainBlock := by
  obtain ⟨tag, first, children, items⟩ := outline
  have named : tag.kind ∈ ["ul", "ol"] := by
    have counts := sound.1.counts
    cases first with
    | none => exact counts ▸ List.mem_cons_self
    | some first => exact counts.1 ▸ List.mem_cons_of_mem _ List.mem_cons_self
  have parts : ∀ name ∈ ["ul", "ol"], name ∈ partNames := by decide
  exact ⟨tag, children, rfl, named, Tag.isPlainBlock_of_mem (parts _ named)⟩

theorem isBlock_of_mem_lists : {lists : List Outline} → AreSoundLists lists →
    ∀ outline ∈ lists, outline.node.isBlock = true
  | outline :: rest, sound, other, member => by
      rcases List.mem_cons.1 member with rfl | later
      · obtain ⟨tag, children, shape, -, plain⟩ := Outline.isPlainBlock sound.1
        rw [shape]
        exact plain.block
      · exact isBlock_of_mem_lists sound.2 other later

theorem isBlock_of_mem_items : {items : List OutlineItem} → AreSoundItems items →
    ∀ item ∈ items, item.node.isBlock = true
  | .item tag front back text lists :: rest, sound, other, member => by
      rcases List.mem_cons.1 member with rfl | later
      · have parts : "li" ∈ partNames := by decide
        exact (Tag.isPlainBlock_of_mem (sound.1.1.named ▸ parts)).block
      · exact isBlock_of_mem_items sound.2 other later

/-- Of an item its text is left, and the lists. -/
theorem IsItemOf.exists_collapseInPlace {tag : Tag} {front back : List Node} {text : Text}
    {lists : List Outline} (isItem : IsItemOf tag front back text lists)
    (sound : AreSoundLists lists) :
    ∃ texts, (∀ node ∈ texts, node.isText = true) ∧ wholeTextOf texts = text ∧
      (Node.element tag (front ++ back)).collapseInPlace =
        .element tag (texts ++ lists.map fun outline => outline.node.collapseInPlace) := by
  have part : "li" ∈ partNames := by decide
  have plain : tag.IsPlainBlock := Tag.isPlainBlock_of_mem (isItem.named ▸ part)
  have blocks : ∀ node ∈ lists.map Outline.node, node.isBlock = true := by
    intro node member
    obtain ⟨outline, listed, rfl⟩ := List.mem_map.1 member
    exact isBlock_of_mem_lists sound outline listed
  have collapsedBack := isItem.spaced.collapseBetween_eq blocks .boundary
  -- the first list is a block, so the text before it is collapsed as if it stood alone
  have collapsed : collapseBetween .atBoundary .boundary (front ++ back) =
      collapseBetween .atBoundary .boundary front ++
        collapseBetween .atBoundary .boundary back := by
    cases back with
    | nil => simp [collapseBetween, squeezeAll, settleAll]
    | cons first rest =>
        have listed : first ∈ lists.map Outline.node := by
          rw [← isItem.spaced.elements]
          exact List.mem_filter.2 ⟨List.mem_cons_self, isItem.opens first rfl⟩
        exact collapseBetween_append_block _ _ (blocks first listed) front rest
  refine ⟨collapseBetween .atBoundary .boundary front,
    (thinned_collapseBetween _ _ front).isText_of_mem isItem.texts, ?_, ?_⟩
  · rw [wholeTextOf_collapseBetween (areInline_of_texts isItem.texts)]
    exact isItem.isText.normal_eq_of_isPadded isItem.padded
  · rw [Node.collapseInPlace, plain.open', if_neg Bool.false_ne_true, collapsed, collapsedBack,
      List.map_map]
    rfl

/-! ## Numbers -/

namespace Text

theorem all_isDigit_of_decimalValues? {digits : Text} {values : List Nat}
    (known : decimalValues? digits = some values) : digits.all isDigit = true := by
  induction digits generalizing values with
  | nil => rfl
  | cons digit rest ih =>
      rw [decimalValues?, List.mapM_cons] at known
      obtain ⟨first, decimal, known⟩ := Option.bind_eq_some_iff.1 known
      obtain ⟨others, knownOthers, -⟩ := Option.bind_eq_some_iff.1 known
      rw [List.all_cons, isDigit, isDecimalDigit, decimal, ih knownOthers]
      rfl

end Text

namespace Tag

theorem hasDigitStart_of_decimalValues? {list : Tag} {values : List Nat} (some : values ≠ [])
    (known : Text.decimalValues? (list.textOf "start") = Option.some values) :
    list.hasDigitStart = true := by
  have digits : list.textOf "start" ≠ [] := by
    intro none
    have counted := Text.length_of_decimalValues? known
    rw [none] at counted
    exact some (List.eq_nil_of_length_eq_zero counted)
  rw [hasDigitStart, Text.all_isDigit_of_decimalValues? known]
  simpa using digits

theorem HasStart.listStart_eq {list : Tag} {first : Nat} (start : list.HasStart first) :
    Base.listStart list = .ok first := by
  cases start with
  | one noDigits => exact Base.listStart_of_noDigits noDigits
  | read some known short =>
      rw [Base.listStart_of_digits (hasDigitStart_of_decimalValues? some known), Text.readNumeral,
        known]
      exact if_pos short

/-- The mark of an item is made from its place. -/
theorem CountsFrom.itemMark_eq {list : Tag} {count : Nat} {first : Option Nat}
    (counts : list.CountsFrom count first) (address : Address) {before : List Node} {node : Node}
    (after : List Node) (isElement : node.isElement = true) (within : elementCount before < count) :
    Base.itemMark (Position.child address list before node after) =
      .ok (outlineMark first (elementCount before)) := by
  rw [Base.itemMark_child address list before after isElement]
  cases first with
  | none =>
      have other : ¬ list.kind = "ol" := by
        rw [show list.kind = "ul" from counts]
        decide
      rw [if_neg other]
      rfl
  | some first =>
      obtain ⟨named, start, short⟩ := counts
      rw [if_pos named, start.listStart_eq, ok_bind, Text.writeNumeral, if_pos (short _ within)]
      rfl

end Tag

/-! ## Rendering -/

namespace Registry

theorem exists_find_list (gfm : Bool) {position : Position} (replacements : Replacements)
    (kind : position.node.kind ∈ ["ul", "ol"]) :
    ∃ choice, (builtIn gfm).find position replacements = .ok (some choice) ∧
      choice.rendering = Base.list :=
  exists_find_base kind 12 gfm rfl (by decide) (by decide) (Filter.selects_oneOf_iff.2 kind) rfl

end Registry

/-- What a list becomes below an element of this kind. -/
def Outline.textBelow (parent : String) (outline : Outline) : Text :=
  if parent = "li" then Text.behindFeeds (outline.linesAt 0)
  else Base.paragraphs (Text.joinWith ['\n'] (outline.linesAt 0))

/-- What an item becomes with this mark. -/
def OutlineItem.text (mark : Text) (item : OutlineItem) : Text :=
  Text.joinWith ['\n'] (item.linesAt 0 mark)

/-- The texts of items one below the other. -/
theorem joinWith_itemTexts (first : Option Nat) (items : List OutlineItem) :
    Text.joinWith ['\n'] (items.mapIdx fun place item => item.text (outlineMark first place)) =
      Text.joinWith ['\n'] (itemLines 0 first 0 items) := by
  have parts : ∀ part ∈ items.mapIdx fun place item => item.linesAt 0 (outlineMark first place),
      part ≠ [] := by
    intro part member
    obtain ⟨place, within, rfl⟩ := List.mem_mapIdx.1 member
    obtain ⟨text, rest, shape⟩ := items[place].exists_linesAt 0 (outlineMark first place)
    exact shape ▸ List.cons_ne_nil _ _
  have flat := Text.joinWith_flatten parts
  rw [itemLines_eq]
  simp only [Nat.zero_add]
  rw [← flat]
  exact congrArg _ (List.ext_getElem (by simp) (by simp [OutlineItem.text]))

theorem Outline.textBelow_item (outline : Outline) :
    outline.textBelow "li" = Text.behindFeeds (outline.linesAt 0) :=
  if_pos rfl

theorem OutlineItem.isAllBlank_text (item : OutlineItem) (first : Option Nat) (place : Nat) :
    Text.isAllBlank (item.text (outlineMark first place)) = false := by
  obtain ⟨text, rest, shape⟩ := item.exists_linesAt 0 (outlineMark first place)
  obtain ⟨opening, inner, marked, visible, -⟩ := outlineMark_eq first place
  rw [OutlineItem.text, shape, Text.joinWith_cons_eq, marked]
  show Text.isAllBlank (opening :: _) = false
  rw [Text.isAllBlank_cons, visible, Bool.false_and]

/-- Wherever it is, the list becomes its text there. -/
def Outline.IsRendered (gfm : Bool) (outline : Outline) : Prop :=
  ∀ (address : Address) (parent : Tag) (before after : List Node),
    (Registry.builtIn gfm).markdownOf address (some ⟨parent, before, after⟩)
      outline.node.collapseInPlace = .ok (outline.textBelow parent.kind)

/-- Where it has this mark, the item becomes its text with that. -/
def OutlineItem.IsRendered (gfm : Bool) (item : OutlineItem) : Prop :=
  ∀ (address : Address) (list : Tag) (before after : List Node) (mark : Text),
    (∀ node, node.isElement = true →
      Base.itemMark (Position.child address list before node after) = .ok mark) →
    (Registry.builtIn gfm).markdownOf (address ++ [elementCount before])
      (some ⟨list, before, after⟩) item.node.collapseInPlace = .ok (item.text mark)

/-- The mark, then the item's content indented: the text of the item, whose lists are all one level
deeper. -/
theorem IsItemOf.text_eq {tag : Tag} {front back : List Node} {text : Text} {lists : List Outline}
    (isItem : IsItemOf tag front back text lists) (sound : AreSoundLists lists) (mark : Text) :
    mark ++ Text.indentLines Base.listMargin (text ++ Text.behindFeeds (outlineLines 0 lists)) =
      (OutlineItem.item tag front back text lists).text mark := by
  have single : ∀ line ∈ outlineLines 0 lists, '\n' ∉ line := fun line member =>
    (isClosedLine_of_mem_lists 0 lists sound line member).isLine.single
  rw [Text.indentLines_append, Text.indentLines_of_not_mem isItem.isText.not_mem,
    Text.indentLines_behindFeeds single, ← outlineLines_succ, OutlineItem.text,
    OutlineItem.linesAt, Text.joinWith_cons_eq]
  simp

section Rendered

variable {gfm : Bool}

theorem OutlineItem.isRendered_of_lists {tag : Tag} {front back : List Node} {text : Text}
    {lists : List Outline} (isItem : IsItemOf tag front back text lists)
    (sound : AreSoundLists lists) (rendered : ∀ outline ∈ lists, outline.IsRendered gfm) :
    (OutlineItem.item tag front back text lists).IsRendered gfm := by
  intro address list before after mark marked
  obtain ⟨texts, areTexts, whole, collapsed⟩ := isItem.exists_collapseInPlace sound
  have part : "li" ∈ partNames := by decide
  have plain : tag.IsPlainBlock := Tag.isPlainBlock_of_mem (isItem.named ▸ part)
  let position := Position.child address list before
    (.element tag (texts ++ lists.map fun outline => outline.node.collapseInPlace)) after
  have below : (Registry.builtIn gfm).insideOf position.address tag ([] ++ texts)
      (lists.map fun outline => outline.node.collapseInPlace) =
        .ok (.ofItems (lists.mapIdx fun _ outline => outline.textBelow "li")) := by
    refine Registry.insideOf_map fun place outline listed front' after' _ => ?_
    rw [← isItem.named]
    exact rendered outline (List.mem_of_getElem? listed) _ _ _ _
  have inside := Registry.insideOf_texts areTexts below
  have content : ((Inside.ofItems (lists.mapIdx fun _ outline =>
      outline.textBelow "li")).addText (wholeTextOf texts)).content =
        text ++ Text.behindFeeds (outlineLines 0 lists) := by
    rw [whole, outlineLines_eq, Text.behindFeeds_flatMap]
    simp only [Outline.textBelow_item]
    rfl
  have seen : Text.isAllBlank (text ++ Text.behindFeeds (outlineLines 0 lists)) = false := by
    rw [Text.isAllBlank_append, isItem.isText.isAllBlank_eq, Bool.false_and]
  have made := @Registry.markdownHere_of_isPlainBlock (Registry.builtIn gfm) position tag _ _
    Base.listItem plain rfl inside (content ▸ seen)
    (Registry.exists_find_item gfm _ isItem.named)
  -- the text begins with something to see, so the rule trims nothing off
  have start : (text ++ Text.behindFeeds (outlineLines 0 lists)).dropWhile Text.isBlank =
      text ++ Text.behindFeeds (outlineLines 0 lists) := by
    obtain ⟨first, rest, rfl, visible⟩ := isItem.isText.exists_cons
    exact List.dropWhile_cons_of_neg (by rw [visible]; exact Bool.false_ne_true)
  rw [OutlineItem.node, collapsed]
  refine made.trans ?_
  rw [Base.listItem, marked _ rfl, ok_bind, content, start, isItem.text_eq sound mark]
  rfl

theorem Outline.isRendered_of_items {tag : Tag} {first : Option Nat} {children : List Node}
    {items : List OutlineItem} (isList : IsListOf tag first children items)
    (sound : AreSoundItems items) (rendered : ∀ item ∈ items, item.IsRendered gfm) :
    (Outline.list tag first children items).IsRendered gfm := by
  intro address parent before after
  have outlineSound : (Outline.list tag first children items).IsSound := ⟨isList, sound⟩
  obtain ⟨_, _, shape, named, plain⟩ := Outline.isPlainBlock outlineSound
  cases shape
  have joined := joinWith_itemTexts first items
  have made : ∀ place item, items[place]? = some item → ∀ front after,
      elementCount front = place →
      (Registry.builtIn gfm).markdownOf (address ++ [place]) (some ⟨tag, front, after⟩)
        item.node.collapseInPlace = .ok (item.text (outlineMark first place)) := by
    intro place item listed front after counted
    have within : place < items.length := (List.getElem?_eq_some_iff.1 listed).1
    subst counted
    exact rendered item (List.mem_of_getElem? listed) _ _ _ _ _ fun node isElement =>
      isList.counts.itemMark_eq address after isElement within
  have seen : Text.isAllBlank
      (items.mapIdx fun place item => item.text (outlineMark first place)).flatten = false := by
    obtain ⟨item, others, rfl⟩ := List.exists_cons_of_ne_nil isList.some
    rw [List.mapIdx_cons, List.flatten_cons, Text.isAllBlank_append, item.isAllBlank_text,
      Bool.false_and]
  obtain ⟨position, replacements, known, texts, whole⟩ :=
    Registry.exists_markdownOf_spaced plain isList.spaced (isBlock_of_mem_items sound) address
      (some ⟨parent, before, after⟩) made seen fun position replacements kind =>
        Registry.exists_find_list gfm replacements (kind ▸ named)
  rw [node, whole, Base.list, texts, ok_bind, joined, Position.parentKind, known]
  by_cases item : parent.kind = "li"
  · simp only [item, if_true, textBelow]
    rw [Text.behindFeeds_of_some (Outline.areWholeLines outlineSound).some]
    rfl
  · simp only [item, if_false, textBelow]
    rfl

-- an item becomes its text with whatever mark its list gives it
mutual

theorem Outline.isRendered : (outline : Outline) → outline.IsSound → outline.IsRendered gfm
  | .list _ _ _ items, sound =>
      Outline.isRendered_of_items sound.1 sound.2 (areRenderedItems items sound.2)

theorem OutlineItem.isRendered : (item : OutlineItem) → item.IsSound → item.IsRendered gfm
  | .item _ _ _ _ lists, sound =>
      OutlineItem.isRendered_of_lists sound.1 sound.2 (areRenderedLists lists sound.2)

theorem areRenderedItems : (items : List OutlineItem) → AreSoundItems items →
    ∀ item ∈ items, item.IsRendered gfm
  | [], _ => List.forall_mem_nil _
  | item :: rest, sound =>
      List.forall_mem_cons.2 ⟨item.isRendered sound.1, areRenderedItems rest sound.2⟩

theorem areRenderedLists : (lists : List Outline) → AreSoundLists lists →
    ∀ outline ∈ lists, outline.IsRendered gfm
  | [], _ => List.forall_mem_nil _
  | outline :: rest, sound =>
      List.forall_mem_cons.2 ⟨outline.isRendered sound.1, areRenderedLists rest sound.2⟩

end

end Rendered

/-! ## Documents -/

namespace Document

/-- A list that is alone in a body outside of preformatted elements becomes its lines and no other
ones. -/
theorem outline_lines {document : Document} {gfm : Bool} {body : Position}
    (found : document.body? = some body) (open' : ¬ document.InPreformatted body.address)
    {outline : Outline} (sound : outline.IsSound)
    (alone : AreSpaced body.node.children [outline.node]) :
    ∃ conversion, document.convert { gfm := gfm } [] = .ok conversion ∧
      Text.lines conversion.markdown = outline.linesAt 0 := by
  obtain ⟨own, children, shape, -, plain⟩ := Outline.isPlainBlock sound
  have isBlock : outline.node.isBlock = true := shape ▸ plain.block
  have made (address : Address) (tag : Tag) (before after : List Node) (named : tag.kind = "body") :
      (Registry.builtIn gfm).markdownOf address (some ⟨tag, before, after⟩)
        outline.node.collapseInPlace =
          .ok (Base.paragraphs (Text.joinWith ['\n'] (outline.linesAt 0))) := by
    have other : ¬ tag.kind = "li" := by
      rw [named]
      decide
    rw [Outline.isRendered outline sound, Outline.textBelow, if_neg other]
  obtain ⟨conversion, converted, markdown⟩ := exists_convert_of_alone found open' isBlock alone made
  refine ⟨conversion, converted, ?_⟩
  rw [markdown, (Outline.areWholeLines sound).lines_cleanUp]

section Sample

/-- An item with this text and lists. -/
def itemOf (content : String) (text : Text) (back : List Node) (lists : List Outline) :
    OutlineItem :=
  .item (plainTag "li") [words content] back text lists

def numberedTag : Tag :=
  { name := "OL", attributes := [{ name := "start", value := .single "09".toList }] }

def numberedItems : List OutlineItem :=
  [itemOf "c" ['c'] [] [], itemOf "d" ['d'] [] []]

def numberedOutline : Outline :=
  .list numberedTag (some 9) (numberedItems.map OutlineItem.node) numberedItems

def mixedItems : List OutlineItem :=
  [itemOf "\n a b\t" "a b".toList [numberedOutline.node, words "\r\n"] [numberedOutline],
    itemOf "e" ['e'] [] []]

def mixedOutline : Outline :=
  .list (plainTag "ul") none (words "\n" :: mixedItems.map OutlineItem.node) mixedItems

theorem itemOf_isSound {content : String} {front text back : Text} {rest : List Node}
    {lists : List Outline} (shape : content.toList = front ++ text ++ back)
    (around : ∀ character ∈ front ++ back, Text.isSpacing character) (isText : text.IsItemText)
    (opens : ∀ node ∈ rest.head?, node.isElement = true)
    (spaced : AreSpaced rest (lists.map Outline.node)) (sound : AreSoundLists lists) :
    (itemOf content text rest lists).IsSound := by
  have whole : wholeTextOf [words content] = content.toList := List.append_nil _
  exact ⟨{
    named := rfl
    texts := List.forall_mem_singleton.2 rfl
    padded := ⟨front, back, whole.trans shape, around⟩
    isText := isText
    opens := opens
    spaced := spaced }, sound⟩

theorem mixedOutline_isSound : mixedOutline.IsSound := by
  have lone {content : String} {letter : Char} (shape : content.toList = [letter])
      (visible : Text.isBlank letter = false) (same : Text.squeezeAfter true [letter] = [letter]) :
      (itemOf content [letter] [] []).IsSound :=
    @itemOf_isSound _ [] _ [] _ _ shape (List.forall_mem_nil _)
      ⟨List.cons_ne_nil _ _, fun _ first => by cases first; exact visible,
        Text.endsSeen_snoc visible [], same ▸ Text.isSqueezed_squeezeAfter true _⟩
      (fun _ first => by cases first) ⟨rfl, List.forall_mem_nil _⟩ trivial
  have numbered : numberedOutline.IsSound :=
    ⟨⟨⟨rfl, .read (List.cons_ne_nil 0 [9]) rfl (by decide), by decide⟩, List.cons_ne_nil _ _, rfl,
        by decide⟩,
      lone rfl (by decide) rfl, lone rfl (by decide) rfl, trivial⟩
  have several : Text.IsItemText ['a', ' ', 'b'] :=
    ⟨List.cons_ne_nil _ _, fun _ first => by cases first; rfl,
      Text.endsSeen_snoc (by decide) ['a', ' '],
      Text.isSqueezed_squeezeAfter true ['a', ' ', 'b']⟩
  have first := @itemOf_isSound "\n a b\t" ['\n', ' '] ['a', ' ', 'b'] ['\t']
    [numberedOutline.node, words "\r\n"] [numberedOutline] rfl (List.all_eq_true.1 rfl) several
    (fun _ first => by cases first; rfl) ⟨rfl, by decide⟩ ⟨numbered, trivial⟩
  have kind : (plainTag "ul").kind = "ul" := rfl
  exact ⟨⟨kind, List.cons_ne_nil _ _, rfl, by decide⟩, first, lone rfl (by decide) rfl,
    trivial⟩

theorem mixedOutline_lines :
    ∃ body conversion, (pageOf [words "\n", mixedOutline.node]).body? = some body ∧
      ¬ (pageOf [words "\n", mixedOutline.node]).InPreformatted body.address ∧
      mixedOutline.IsSound ∧ AreSpaced body.node.children [mixedOutline.node] ∧
      (pageOf [words "\n", mixedOutline.node]).convert { gfm := true } [] = .ok conversion ∧
      Text.lines conversion.markdown =
        ["*   a b", "    9.  c", "    10.  d", "*   e"].map String.toList := by
  obtain ⟨body, found, -, shape, open'⟩ :=
    @Frame.exists_body? bareFrame (plainTag "body") [words "\n", mixedOutline.node] rfl
  have alone : AreSpaced body.node.children [mixedOutline.node] := by
    rw [shape]
    exact ⟨rfl, by decide⟩
  obtain ⟨conversion, converted, lines⟩ :=
    @outline_lines _ true _ found open' _ mixedOutline_isSound alone
  exact ⟨body, conversion, found, open', mixedOutline_isSound, alone, converted, lines⟩

/-- A list with some white space behind a list in its first item. -/
def looseOutline (behind : String) : Outline :=
  let inner : Outline := .list (plainTag "ul") none [(itemOf "b" ['b'] [] []).node]
    [itemOf "b" ['b'] [] []]
  let items := [itemOf "a" ['a'] [inner.node, words behind] [inner], itemOf "c" ['c'] [] []]
  .list (plainTag "ul") none (items.map OutlineItem.node) items

/-- White space that is not collapsed stays behind the inner list: a form feed, and inside of a
preformatted element a line end. -/
theorem looseOutline_keeps_spacing :
    (∃ conversion, (pageOf [(looseOutline "\x0c").node]).convert {} [] = .ok conversion ∧
      Text.lines conversion.markdown =
        ["*   a", "    *   b\x0c", "*   c"].map String.toList) ∧
    (∃ conversion,
      (ofNodes [.element (plainTag "pre") [.element (plainTag "body")
        [(looseOutline "\n").node]]]).convert {} [] = .ok conversion ∧
      Text.lines conversion.markdown = ["*   a", "    *   b", "", "*   c"].map String.toList) ∧
    (looseOutline "\x0c").linesAt 0 = ["*   a", "    *   b", "*   c"].map String.toList ∧
    (looseOutline "\n").linesAt 0 = ["*   a", "    *   b", "*   c"].map String.toList :=
  ⟨exists_convert_of_toOption (by decide +kernel), exists_convert_of_toOption (by decide +kernel),
    rfl, rfl⟩

end Sample

end Document

end PageMark
