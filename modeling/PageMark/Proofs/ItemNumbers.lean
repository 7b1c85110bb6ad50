import PageMark.Proofs.Layout
import PageMark.Proofs.TableRows

/-!
# The numbers of items

An item of an ordered list gets the number that the list begins to count at and as many more as
there are elements before it in the list.  Texts and marks are not counted, and neither is it asked
what the elements become, but an element that is no item counts like one.
-/

namespace PageMark

/-! ## Counting -/

/-- How many of these nodes are items. -/
def itemCount (nodes : List Node) : Nat :=
  nodes.countP fun node => node.kind == "li"

/-- How many of these nodes are elements other than items. -/
def otherCount (nodes : List Node) : Nat :=
  nodes.countP fun node => node.isElement && node.kind != "li"

theorem Node.exists_element_of_kind {node : Node} {name : String} (named : node.kind = name)
    (some : name ≠ "") : ∃ tag children, node = .element tag children ∧ tag.kind = name := by
  cases node with
  | text kind content => exact absurd named.symm some
  | mark kind content => exact absurd named.symm some
  | element tag children => exact ⟨tag, children, rfl, named⟩

theorem elementCount_eq_add (nodes : List Node) :
    elementCount nodes = itemCount nodes + otherCount nodes := by
  induction nodes with
  | nil => rfl
  | cons node rest ih =>
      rw [elementCount_cons, ih, itemCount, itemCount, otherCount, otherCount, List.countP_cons,
        List.countP_cons]
      by_cases item : node.kind = "li"
      · obtain ⟨tag, children, rfl, -⟩ := node.exists_element_of_kind item (by decide)
        simp [item, Node.isElement]
        omega
      · simp [item]
        omega

/-- Where a list begins to count: at the number that the digits of its start attribute make, and at
one if that is not made of digits only. -/
def Tag.firstNumber? (list : Tag) : Option Nat :=
  if list.hasDigitStart then
    (Text.decimalValues? (list.textOf "start")).map Text.valueOfDigits
  else some 1

namespace Base

theorem firstNumber?_of_listStart {list : Tag} {start : Nat} (read : listStart list = .ok start) :
    list.firstNumber? = some start := by
  rw [Tag.firstNumber?]
  cases digits : list.hasDigitStart with
  | false =>
      rw [listStart_of_noDigits digits] at read
      cases read
      rfl
  | true =>
      rw [listStart_of_digits digits, Text.readNumeral] at read
      cases known : Text.decimalValues? (list.textOf "start") with
      | none =>
          rw [known] at read
          cases read
      | some values =>
          rw [known] at read
          dsimp only at read
          split at read
          · cases read
            rfl
          · cases read

/-- The mark of an item, if it has one. -/
theorem itemMark_of_ordered {address : Address} {list : Tag} {before after : List Node}
    {node : Node} {first : Nat} {mark : Text} (isElement : node.isElement = true)
    (ordered : list.kind = "ol") (counts : list.firstNumber? = some first)
    (marked : itemMark (Position.child address list before node after) = .ok mark) :
    mark = Text.numeral (first + elementCount before) ++ ".  ".toList := by
  rw [itemMark_child address list before after isElement, if_pos ordered] at marked
  obtain ⟨start, read, marked⟩ := bind_eq_ok_iff.1 marked
  obtain ⟨number, written, done⟩ := bind_eq_ok_iff.1 marked
  cases done
  obtain rfl : first = start :=
    Option.some.inj (counts.symm.trans (firstNumber?_of_listStart read))
  rw [Text.writeNumeral] at written
  split at written
  · cases written
    rfl
  · cases written

end Base

/-- What an item with this content becomes, if it is the one with this number. -/
def numberedText (number : Nat) (content : Text) : Text :=
  if Text.isAllBlank content then []
  else Text.numeral number ++ ".  ".toList ++
    Text.indentLines Base.listMargin (content.dropWhile Text.isBlank)

/-- An item that becomes something gets its number, or nothing if it is blank. -/
theorem Registry.markdownHere_numbered {gfm : Bool} {address : Address} {list : Tag}
    {before after : List Node} {node : Node} {first : Nat} {inside : Inside} {text : Text}
    (isItem : node.kind = "li") (ordered : list.kind = "ol")
    (counts : list.firstNumber? = some first)
    (made : (builtIn gfm).insideHere (Position.child address list before node after) = .ok inside)
    (makes : (builtIn gfm).markdownHere (Position.child address list before node after) =
      .ok text) :
    text = numberedText (first + elementCount before) inside.content := by
  obtain ⟨tag, children, rfl, named⟩ := node.exists_element_of_kind isItem (by decide)
  let position := Position.child address list before (.element tag children) after
  have part : "li" ∈ partNames := by decide
  have plain : tag.IsPlainBlock := Tag.isPlainBlock_of_mem (named ▸ part)
  obtain ⟨choice, found, rendering⟩ :=
    @exists_find_item position gfm (inside.table position.address) isItem
  have finished := @finish_block _ position _ _ plain.block plain.solid plain.noAnchor found
  rw [rendering] at finished
  replace makes := (markdownHere_eq_finish made).symm.trans makes
  replace makes := finished.symm.trans makes
  rw [numberedText]
  split at makes
  · next blank =>
      cases makes
      rw [if_pos blank]
  · next seen =>
      rw [Base.listItem] at makes
      obtain ⟨mark, marked, done⟩ := bind_eq_ok_iff.1 makes
      cases done
      rw [if_neg seen, Base.itemMark_of_ordered rfl ordered counts marked]

namespace Document

/-- In the collapsed document an element has the same tag, and is in an element with the same tag,
with as many elements before it. -/
theorem exists_collapse_child {document : Document} {parent : Position} {tag own : Tag}
    {before after children : List Node}
    (placed : document.elementAt? parent.address = some parent)
    (shape : parent.node = .element tag (before ++ .element own children :: after)) :
    ∃ before' rest after', elementCount before' = elementCount before ∧
      document.collapse.elementAt? (parent.address ++ [elementCount before]) =
        some (Position.child parent.address tag before' (.element own rest) after') := by
  obtain ⟨tag', _, left, _, shape', placed', shapeLeft, -⟩ := exists_collapse_elementAt? placed
  obtain ⟨rfl, rfl⟩ := Node.element.inj (shape.symm.trans shape')
  obtain ⟨_, _, item, rest, shapeItem, placedItem, shapeLeftItem, -⟩ :=
    exists_collapse_elementAt? (elementAt?_child placed shape rfl)
  obtain ⟨rfl, rfl⟩ := Node.element.inj shapeItem
  obtain ⟨above, tag', before', node, after', placedAbove, shapeAbove, isElement, counted, rfl⟩ :=
    elementAt?_snoc_iff.1 placedItem
  rw [placed'] at placedAbove
  cases placedAbove
  obtain ⟨rfl, -⟩ := Node.element.inj (shapeLeft.symm.trans shapeAbove)
  have address : left.address = parent.address := address_of_elementAt? placed'
  refine ⟨before', rest, after', counted, ?_⟩
  rw [placedItem, address, show node = .element own rest from shapeLeftItem]

/-- An item of an ordered list that begins to count at `first`, with these siblings before it, gets
a number unless it is blank: `first` and one more for each item before it and for each other element
before it.  Nothing but a number that cannot be read or written stops a conversion. -/
theorem item_number {document : Document} {gfm : Bool} {body list : Position} {tag : Tag}
    {before after : List Node} {item : Node} {first : Nat} (found : document.body? = some body)
    (placed : document.elementAt? list.address = some list)
    (shape : list.node = .element tag (before ++ item :: after)) (ordered : tag.kind = "ol")
    (counts : tag.firstNumber? = some first) (isItem : item.kind = "li")
    (below : body.address <+: list.address) :
    (∃ conversion content, document.convert { gfm := gfm } [] = .ok conversion ∧
      document.contentAt? gfm (list.address ++ [elementCount before]) = some content ∧
      conversion.replacements.find? (list.address ++ [elementCount before]) =
        some (numberedText (first + itemCount before + otherCount before) content)) ∨
    ∃ failure, document.convert { gfm := gfm } [] = .error failure ∧ failure.isNumeric = true ∧
      ∃ body unnumbered, document.collapse.body? = some body ∧
        document.collapse.UnnumberedItem gfm body unnumbered := by
  obtain ⟨own, children, rfl, named⟩ := item.exists_element_of_kind isItem (by decide)
  obtain ⟨before', rest, after', counted, placed'⟩ := exists_collapse_child placed shape
  obtain ⟨_, _, body', _, _, again, -⟩ := exists_collapse_body? found
  let position := Position.child list.address tag before' (.element own rest) after'
  have isItem' : (Node.element own rest).kind = "li" := named
  have different : list.address ++ [elementCount before] ≠ body.address := by
    intro equal
    have length := below.length_le
    rw [← equal, List.length_append, List.length_singleton] at length
    omega
  have above : body.address <+: list.address ++ [elementCount before] :=
    below.trans (List.prefix_append _ _)
  have below' : document.HasBelow body.address (list.address ++ [elementCount before]) :=
    ⟨by rw [elementAt?_child placed shape rfl]; rfl, above, different⟩
  rcases convert_cases document gfm with
    ⟨conversion, converted, -⟩ | ⟨failure, other, unnumbered, fails, numeric, lacks⟩
  · have address : position.address = list.address ++ [elementCount before] := counted ▸ rfl
    obtain ⟨text, makes⟩ := exists_markdownHere_of_convert converted again (address ▸ placed')
      (hasBelow_collapse placed' found again above different)
    obtain ⟨inside, made⟩ := Registry.exists_insideHere_of_markdownHere makes
    have numbered := Registry.markdownHere_numbered isItem' ordered counts made makes
    rw [counted, elementCount_eq_add before, ← Nat.add_assoc] at numbered
    exact .inl ⟨conversion, inside.content, converted, contentAt?_eq placed' made,
      numbered ▸ find?_eq_of_convert placed' converted found below' makes⟩
  · exact .inr ⟨failure, fails, numeric, other, unnumbered, lacks⟩

section Sample

def fromNine : Tag :=
  { name := "ol", attributes := [{ name := "start", value := .single "09".toList }] }

/-- An item, nothing if it has no text. -/
def itemWith (content : String) : Node :=
  .element (plainTag "li") [words content]

/-- An item, a comment, a blank item and a list. -/
def mixedBefore : List Node :=
  [words "\n", itemWith "x", .mark .comment "y".toList, itemWith " ",
    .element (plainTag "ul") [itemWith "z"]]

/-- A list whose last item looks like its first one. -/
def mixedList : Node :=
  .element fromNine (mixedBefore ++ itemWith "x" :: [words "\n"])

theorem mixedList_number :
    ∃ body list conversion, (pageOf [mixedList]).body? = some body ∧
      (pageOf [mixedList]).elementAt? list.address = some list ∧ list.node = mixedList ∧
      body.address <+: list.address ∧ fromNine.firstNumber? = some 9 ∧
      (pageOf [mixedList]).convert { gfm := true } [] = .ok conversion ∧
      conversion.replacements.find? (list.address ++ [3]) = some "12.  x".toList := by
  let list := Position.child [0, 0] (plainTag "body") [] mixedList []
  obtain ⟨body, found, address, -, -⟩ :=
    @Frame.exists_body? bareFrame (plainTag "body") [mixedList] rfl
  have placed : (pageOf [mixedList]).elementAt? list.address = some list := rfl
  have below : body.address <+: list.address := address ▸ List.prefix_append _ _
  have content : (pageOf [mixedList]).contentAt? true (list.address ++ [3]) = some ['x'] := by
    decide +kernel
  obtain ⟨other, converted, -⟩ := @exists_convert_of_toOption (pageOf [mixedList])
    { gfm := true } [] _ (fun _ => ()) () (by decide +kernel)
  rcases @item_number _ true body list fromNine mixedBefore [words "\n"] (itemWith "x") 9 found
    placed rfl rfl rfl rfl below with
    ⟨conversion, _, converted', known, recorded⟩ | ⟨failure, fails, -⟩
  · cases content.symm.trans known
    exact ⟨body, list, conversion, found, placed, rfl, below, rfl, converted', recorded⟩
  · cases converted.symm.trans fails

/-- Two items and something between them. -/
def interruptedList (between : Node) : Document :=
  pageOf [.element (plainTag "ol") [itemWith "a", between, itemWith "b"]]

/-- With another element between two items the second one does not get the next number. -/
theorem interruptedList_skips :
    (∃ conversion, (interruptedList (.element (plainTag "ol") [itemWith "x"])).convert {} [] =
        .ok conversion ∧
      (conversion.replacements.find? [0, 0, 0, 0], conversion.replacements.find? [0, 0, 0, 2]) =
        (some "1.  a".toList, some "3.  b".toList)) ∧
    (∃ conversion, (interruptedList (.element (plainTag "script") [])).convert {} [] =
        .ok conversion ∧
      (conversion.replacements.find? [0, 0, 0, 0], conversion.replacements.find? [0, 0, 0, 2]) =
        (some "1.  a".toList, some "3.  b".toList)) ∧
    itemCount [itemWith "a", .element (plainTag "ol") [itemWith "x"]] = 1 ∧
    itemCount [itemWith "a", .element (plainTag "script") []] = 1 :=
  ⟨exists_convert_of_toOption (by decide +kernel), exists_convert_of_toOption (by decide +kernel),
    rfl, rfl⟩

end Sample

end Document

end PageMark
