import PageMark.Proofs.ProcessingOrder

/-!
# When a conversion fails

Without definitions a conversion fails only at a list item whose number cannot
be read or written.  Every other rule finds what it reads: its element among the
siblings, the first child of a code block, the digit of a heading, the language
of highlighted code, and the replacements of the children.
-/

namespace PageMark

/-! ## Rules that find what they read -/

/-- Where the rule selects a node, it renders it. -/
def Converter.Succeeds (converter : Converter) (position : Position)
    (replacements : Replacements) : Prop :=
  converter.filter.selects position replacements = .ok true →
    ∃ rendering, converter.rendering = some rendering ∧
      ∀ given, ∃ text, rendering given position replacements = .ok text

namespace Base

variable {position : Position}

theorem exists_headingLevel {name : String}
    (heading : name ∈ ["h1", "h2", "h3", "h4", "h5", "h6"]) :
    ∃ level, headingLevel name = .ok level := by
  simp only [List.mem_cons, List.not_mem_nil, or_false] at heading
  rcases heading with rfl | rfl | rfl | rfl | rfl | rfl
  all_goals exact ⟨_, rfl⟩

theorem exists_firstChildText (missing : Failure) (block : isCodeBlock position = true) :
    ∃ code, firstChildText missing position = .ok code := by
  rw [isCodeBlock, Bool.and_eq_true, Option.any_eq_true] at block
  obtain ⟨-, child, found, -⟩ := block
  exact ⟨child.textContent, by rw [firstChildText, found]⟩

/-- Every rule but the one for list items renders all that it selects. -/
theorem succeeds_of_mem {converter : Converter} (member : converter ∈ rules)
    {replacements : Replacements} {items : List Text}
    (made : replacements.itemsAt position = .ok items) (noItem : position.node.kind ≠ "li") :
    converter.Succeeds position replacements := by
  simp only [rules, List.mem_cons, List.not_mem_nil, or_false] at member
  rcases member with rfl | rfl | rfl | rfl | rfl | rfl | rfl | rfl | rfl | rfl | rfl | rfl | rfl |
    rfl | rfl | rfl
  any_goals exact fun _ => ⟨_, rfl, fun given => ⟨_, rfl⟩⟩
  · intro selected
    obtain ⟨level, known⟩ := exists_headingLevel (Filter.selects_oneOf_iff.1 selected)
    refine ⟨_, rfl, fun given => ⟨paragraphs (List.replicate level '#' ++ ' ' :: given), ?_⟩⟩
    rw [heading, known]
    rfl
  · intro selected
    obtain ⟨code, known⟩ := exists_firstChildText .notAnElement (Filter.selects_when_iff.1 selected)
    refine ⟨_, rfl, fun given =>
      ⟨paragraphs (listMargin ++ Text.indentLines listMargin code), ?_⟩⟩
    rw [codeBlock, known]
    rfl
  · intro selected
    exact absurd (Filter.selects_exact_iff.1 selected) noItem
  · intro selected
    have made' : replacements.childTexts position.address 0 position.node.children = .ok items :=
      made
    refine ⟨_, rfl, fun given => ?_⟩
    rw [list, made', ok_bind]
    split
    · exact ⟨_, rfl⟩
    · exact ⟨_, rfl⟩

end Base

namespace Gfm

variable {position : Position}

/-- Each cell of a row is found among the children of the row. -/
theorem exists_borderCells (address : Address) (before rest : List Node) :
    ∃ border, borderCells (childAddresses address 0 (before ++ rest)) address
      (elementCount before) rest = .ok border := by
  induction rest generalizing before with
  | nil => exact ⟨[], rfl⟩
  | cons node rest ih =>
      obtain ⟨others, known⟩ := ih (before ++ [node])
      rw [List.append_assoc, List.singleton_append] at known
      cases node with
      | text kind content =>
          rw [elementCount_snoc_other rfl] at known
          exact ⟨others, known⟩
      | mark kind content =>
          rw [elementCount_snoc_other rfl] at known
          exact ⟨others, known⟩
      | element tag children =>
          rw [elementCount_snoc_element] at known
          have found := findIdx?_childAddresses address 0 before rest
            (show (Node.element tag children).isElement = true from rfl)
          rw [Nat.zero_add] at found
          rw [borderCells, placeIn, found, ok_bind, known]
          exact ⟨_, rfl⟩

theorem exists_rowBorder (position : Position) : ∃ border, rowBorder position = .ok border := by
  rw [rowBorder]
  split
  · exact exists_borderCells position.address [] position.node.children
  · exact ⟨[], rfl⟩

theorem succeeds_of_mem {converter : Converter} (member : converter ∈ rules)
    (isChild : position.IsChild) (replacements : Replacements) :
    converter.Succeeds position replacements := by
  simp only [rules, List.mem_cons, List.not_mem_nil, or_false] at member
  rcases member with rfl | rfl | rfl | rfl | rfl | rfl | rfl | rfl | rfl | rfl
  any_goals exact fun _ => ⟨_, rfl, fun given => ⟨_, rfl⟩⟩
  · intro _
    obtain ⟨address, tag, before, node, after, isElement, rfl⟩ := isChild
    refine ⟨_, rfl, fun given => ⟨cell before.length given, ?_⟩⟩
    rw [tableCell, Position.place_child address tag before after isElement]
    rfl
  · intro _
    obtain ⟨border, known⟩ := exists_rowBorder position
    refine ⟨_, rfl, fun given =>
      ⟨'\n' :: given ++ (if border.isEmpty then [] else '\n' :: border), ?_⟩⟩
    rw [tableRow, known]
    rfl
  · intro selected
    obtain ⟨code, known⟩ :=
      Base.exists_firstChildText .noSuchChild (Filter.selects_when_iff.1 selected)
    refine ⟨_, rfl, fun given => ⟨fence [] code, ?_⟩⟩
    rw [fencedCode, known]
    rfl
  · intro selected
    have highlighted : isHighlightedPre position = true := Filter.selects_when_iff.1 selected
    rw [isHighlightedPre, Bool.and_eq_true] at highlighted
    obtain ⟨language, known⟩ := Option.isSome_iff_exists.1 highlighted.2
    refine ⟨_, rfl, fun given => ⟨fence language position.node.textContent, ?_⟩⟩
    rw [highlightedPre, known]

end Gfm

/-! ## Finding a rule -/

/-- A filter that goes by names does not take this one. -/
def Filter.passesOver (name : String) : Filter → Bool
  | .exact other => name != other
  | .oneOf names => !names.contains name
  | .predicate _ => true

namespace Registry

variable {position : Position} {replacements : Replacements}

theorem findFrom_of_selects {converter : Converter} {rendering : Rendering} {index : Nat}
    {rest : List Converter}
    (selects : converter.filter.selects position replacements = .ok true)
    (known : converter.rendering = some rendering) :
    findFrom position replacements index (converter :: rest) =
      .ok (some { index := index, rendering := rendering }) := by
  rw [findFrom, selects, ok_bind, known]
  rfl

theorem findFrom_of_rejects {converter : Converter} {index : Nat} {rest : List Converter}
    (rejects : converter.filter.selects position replacements = .ok false) :
    findFrom position replacements index (converter :: rest) =
      findFrom position replacements (index + 1) rest := by
  rw [findFrom, rejects, ok_bind]
  rfl

theorem exists_findFrom {converters : List Converter}
    (answers : ∀ converter ∈ converters,
      (∃ selected, converter.filter.selects position replacements = .ok selected) ∧
        ∃ rendering, converter.rendering = some rendering)
    (selected : ∃ converter ∈ converters,
      converter.filter.selects position replacements = .ok true) (index : Nat) :
    ∃ choice, findFrom position replacements index converters = .ok (some choice) := by
  induction converters generalizing index with
  | nil =>
      obtain ⟨converter, member, -⟩ := selected
      cases member
  | cons converter rest ih =>
      obtain ⟨⟨own, asked⟩, rendering, known⟩ := answers converter List.mem_cons_self
      cases own with
      | true => exact ⟨_, findFrom_of_selects asked known⟩
      | false =>
          rw [findFrom_of_rejects asked]
          have others := fun other member => answers other (List.mem_cons_of_mem _ member)
          refine ih others ?_ (index + 1)
          obtain ⟨other, member, selects⟩ := selected
          rcases List.mem_cons.1 member with rfl | inRest
          · rw [asked] at selects
            cases selects
          · exact ⟨other, inRest, selects⟩

/-- Rules that reject the node are passed over. -/
theorem findFrom_append {left right : List Converter} (index : Nat)
    (rejects : ∀ converter ∈ left, converter.filter.selects position replacements = .ok false) :
    findFrom position replacements index (left ++ right) =
      findFrom position replacements (index + left.length) right := by
  induction left generalizing index with
  | nil => rfl
  | cons converter rest ih =>
      have asked := rejects converter List.mem_cons_self
      have later := ih (index + 1) fun other member =>
        rejects other (List.mem_cons_of_mem _ member)
      rw [Nat.add_right_comm] at later
      rw [List.cons_append, findFrom_of_rejects asked, later]
      rfl

/-- Rules behind the one that is found are not asked. -/
theorem findFrom_append_of_found {left right : List Converter} {index : Nat} {choice : Choice}
    (found : findFrom position replacements index left = .ok (some choice)) :
    findFrom position replacements index (left ++ right) = .ok (some choice) := by
  induction left generalizing index with
  | nil => cases found
  | cons converter rest ih =>
      rw [findFrom] at found
      obtain ⟨selected, asked, next⟩ := bind_eq_ok_iff.1 found
      rw [List.cons_append, findFrom, asked, ok_bind]
      cases selected with
      | false => exact ih next
      | true => exact next

/-- Every rule answers and has a rendering. -/
theorem answers_of_mem_builtIn {gfm : Bool} {converter : Converter}
    (member : converter ∈ (builtIn gfm).converters) :
    (∃ selected, converter.filter.selects position replacements = .ok selected) ∧
      ∃ rendering, converter.rendering = some rendering := by
  rcases mem_builtIn member with inGfm | inBase
  · simp only [Gfm.rules, List.mem_cons, List.not_mem_nil, or_false] at inGfm
    rcases inGfm with rfl | rfl | rfl | rfl | rfl | rfl | rfl | rfl | rfl | rfl
    all_goals exact ⟨⟨_, rfl⟩, _, rfl⟩
  · simp only [Base.rules, List.mem_cons, List.not_mem_nil, or_false] at inBase
    rcases inBase with rfl | rfl | rfl | rfl | rfl | rfl | rfl | rfl | rfl | rfl | rfl | rfl |
      rfl | rfl | rfl | rfl
    all_goals exact ⟨⟨_, rfl⟩, _, rfl⟩

/-- The last rule selects any node. -/
theorem exists_selects_builtIn (gfm : Bool) (position : Position) (replacements : Replacements) :
    ∃ converter ∈ (builtIn gfm).converters,
      converter.filter.selects position replacements = .ok true := by
  refine ⟨{ filter := Base.when fun _ => true, rendering := Base.ofNode Base.inlineMarkup },
    List.mem_append_right _ ?_, rfl⟩
  simp [Base.rules]

theorem exists_find (gfm : Bool) (position : Position) (replacements : Replacements) :
    ∃ choice, (builtIn gfm).find position replacements = .ok (some choice) :=
  exists_findFrom (fun _ => answers_of_mem_builtIn) (exists_selects_builtIn gfm _ _) 0

/-- The first rule that selects the node, after `count` rules that reject it. -/
theorem find_of_first {registry : Registry} {converter : Converter} {rendering : Rendering}
    {back : List Converter} (count : Nat)
    (split : registry.converters.drop count = converter :: back)
    (rejects : ∀ other ∈ registry.converters.take count,
      other.filter.selects position replacements = .ok false)
    (selects : converter.filter.selects position replacements = .ok true)
    (known : converter.rendering = some rendering) :
    ∃ choice, registry.find position replacements = .ok (some choice) ∧
      choice.rendering = rendering := by
  rw [find, ← List.take_append_drop count registry.converters, findFrom_append 0 rejects, split]
  exact ⟨_, findFrom_of_selects selects known, rfl⟩

/-- The first rule for plain Markdown that selects the node, if no other rule does. -/
theorem find_of_first_base (gfm : Bool) {converter : Converter} {rendering : Rendering}
    {back : List Converter} (count : Nat) (split : Base.rules.drop count = converter :: back)
    (rejects : ∀ other ∈ Gfm.rules ++ Base.rules.take count,
      other.filter.selects position replacements = .ok false)
    (selects : converter.filter.selects position replacements = .ok true)
    (known : converter.rendering = some rendering) :
    ∃ choice, (builtIn gfm).find position replacements = .ok (some choice) ∧
      choice.rendering = rendering := by
  cases gfm with
  | false =>
      exact find_of_first count split
        (fun other member => rejects other (List.mem_append_right _ member)) selects known
  | true =>
      have split' : (Gfm.rules ++ Base.rules).drop (Gfm.rules.length + count) =
          converter :: back := by
        rw [List.drop_length_add_append, split]
      have rejects' : ∀ other ∈ (Gfm.rules ++ Base.rules).take (Gfm.rules.length + count),
          other.filter.selects position replacements = .ok false := by
        rw [List.take_length_add_append]
        exact rejects
      exact find_of_first _ split' rejects' selects known

/-- The names that rules with a predicate ask for. -/
def askedNames : List String :=
  ["input", "pre", "div", "code", "a"]

/-- Rules with a predicate reject nodes of all other names. -/
theorem rejects_of_passesOver {name : String} (kind : position.node.kind = name)
    (unasked : name ∉ askedNames) {converter : Converter}
    (member : converter ∈ Gfm.rules ++ Base.rules.take 14)
    (passes : converter.filter.passesOver name = true) :
    converter.filter.selects position replacements = .ok false := by
  subst kind
  simp only [askedNames, List.mem_cons, List.not_mem_nil, or_false, not_or] at unasked
  obtain ⟨noInput, noPre, noDiv, noCode, noAnchor⟩ := unasked
  simp only [Gfm.rules, Base.rules, List.take_succ_cons, List.take_zero, List.mem_append,
    List.mem_cons, List.not_mem_nil, or_false] at member
  rcases member with (rfl | rfl | rfl | rfl | rfl | rfl | rfl | rfl | rfl | rfl) | rfl | rfl | rfl |
    rfl | rfl | rfl | rfl | rfl | rfl | rfl | rfl | rfl | rfl | rfl
  all_goals
    simp_all [Filter.selects, Filter.passesOver, Base.when, Gfm.isTaskCheckbox, Base.isCodeBlock,
      Gfm.isHighlightedPre, Gfm.isHighlightWrapper, Base.isInlineCode, Base.isLink]

section Named

variable {names : List String} (kind : position.node.kind ∈ names) {converter : Converter}
  {rendering : Rendering} {back : List Converter} (count : Nat)

include kind

/-- The first rule for plain Markdown that takes nodes of these names, if no rule before it takes
one of them. -/
theorem exists_find_base (gfm : Bool) (split : Base.rules.drop count = converter :: back)
    (few : count ≤ 14)
    (passes : ∀ name ∈ names, name ∉ askedNames ∧
      ∀ other ∈ Gfm.rules ++ Base.rules.take count, other.filter.passesOver name = true)
    (selects : converter.filter.selects position replacements = .ok true)
    (known : converter.rendering = some rendering) :
    ∃ choice, (builtIn gfm).find position replacements = .ok (some choice) ∧
      choice.rendering = rendering := by
  obtain ⟨unasked, passed⟩ := passes _ kind
  refine find_of_first_base gfm count split (fun other member => ?_) selects known
  refine rejects_of_passesOver rfl unasked ?_ (passed other member)
  rcases List.mem_append.1 member with inGfm | inBase
  · exact List.mem_append_left _ inGfm
  · exact List.mem_append_right _ (List.take_subset_take_left _ few inBase)

/-- The first of the other rules that takes nodes of these names. -/
theorem exists_find_gfm (split : (builtIn true).converters.drop count = converter :: back)
    (few : count ≤ Gfm.rules.length)
    (passes : ∀ name ∈ names, name ∉ askedNames ∧
      ∀ other ∈ Gfm.rules.take count, other.filter.passesOver name = true)
    (selects : converter.filter.selects position replacements = .ok true)
    (known : converter.rendering = some rendering) :
    ∃ choice, (builtIn true).find position replacements = .ok (some choice) ∧
      choice.rendering = rendering := by
  obtain ⟨unasked, passed⟩ := passes _ kind
  refine find_of_first count split (fun other member => ?_) selects known
  have inGfm : other ∈ Gfm.rules.take count := by
    rwa [show (builtIn true).converters = Gfm.rules ++ Base.rules from rfl,
      List.take_append_of_le_length few] at member
  exact rejects_of_passesOver rfl unasked
    (List.mem_append_left _ (List.mem_of_mem_take inGfm)) (passed other inGfm)

end Named

/-- List items are left to the rule for them. -/
theorem exists_find_item (gfm : Bool) (replacements : Replacements)
    (item : position.node.kind = "li") :
    ∃ choice, (builtIn gfm).find position replacements = .ok (some choice) ∧
      choice.rendering = Base.listItem :=
  exists_find_base (List.mem_singleton.2 item) 11 gfm rfl (by decide) (by decide)
    (Filter.selects_exact_iff.2 item) rfl

/-- Only an item whose mark cannot be made is left without Markdown. -/
theorem finish_eq_error_iff {gfm : Bool} {inside : Inside} {failure : Failure}
    (isChild : position.IsChild) (made : (builtIn gfm).insideHere position = .ok inside) :
    (builtIn gfm).finish position inside = .error failure ↔
      position.node.kind = "li" ∧ Text.isAllBlank inside.content = false ∧
        Base.itemMark position = .error failure := by
  by_cases item : position.node.kind = "li"
  · have blank : position.node.isBlank inside.content = Text.isAllBlank inside.content := by
      have shown : isVoidName "li" = false := rfl
      simp [Node.isBlank, Node.isVoid, item, shown]
    obtain ⟨choice, found, rendering⟩ :=
      exists_find_item gfm (inside.table position.address) item
    rw [finish, blank, found, ok_bind]
    dsimp only
    rw [rendering, Base.listItem]
    cases visible : Text.isAllBlank inside.content with
    | true => simp
    | false =>
        cases mark : Base.itemMark position with
        | error other => simp [item]
        | ok text => simp
  · obtain ⟨choice, found⟩ := exists_find gfm position (inside.table position.address)
    obtain ⟨converter, member, selects, known⟩ := mem_of_findFrom found
    have succeeds : converter.Succeeds position (inside.table position.address) := by
      rcases mem_builtIn member with inGfm | inBase
      · exact Gfm.succeeds_of_mem inGfm isChild _
      · exact Base.succeeds_of_mem inBase (itemsAt_table made) item
    obtain ⟨rendering, known', renders⟩ := succeeds selects
    rw [known] at known'
    cases known'
    obtain ⟨text, rendered⟩ := renders (position.givenContent inside.content)
    rw [finish, found, ok_bind]
    dsimp only
    rw [rendered]
    simp only [ok_bind, pure_eq_ok, item, false_and, iff_false]
    split <;> simp

end Registry

/-! ## Numbers of items -/

/-- The start attribute is there and all its characters are digits. -/
def Tag.hasDigitStart (list : Tag) : Bool :=
  !(list.textOf "start").isEmpty && (list.textOf "start").all Text.isDigit

/-- The item with `place` elements before it in this list has no number.  The
last case takes more elements than any machine holds. -/
inductive Tag.LacksNumber (list : Tag) (place : Nat) : Prop where
  | noDecimal (digits : list.hasDigitStart = true)
      (unread : Text.decimalValues? (list.textOf "start") = none)
  | longStart (digits : list.hasDigitStart = true)
      (long : Text.numeralLimit < (list.textOf "start").length)
  | longNumber (digits : list.hasDigitStart = true) (values : List Nat)
      (read : Text.decimalValues? (list.textOf "start") = some values)
      (long : Text.numeralLimit < (Text.numeral (Text.valueOfDigits values + place)).length)
  | manyItems (noDigits : list.hasDigitStart = false)
      (many : 10 ^ Text.numeralLimit ≤ place + 1)

/-- Whether the failure lies in a number that cannot be read or written. -/
def Failure.isNumeric : Failure → Bool
  | invalidNumeral _ => true
  | numeralTooLong _ => true
  | numberTooLong => true
  | _ => false

namespace Text

theorem length_numeral_gt_iff (number : Nat) :
    numeralLimit < (numeral number).length ↔ 10 ^ numeralLimit ≤ number := by
  have bound : (Nat.toDigits 10 number).length ≤ numeralLimit ↔ number < 10 ^ numeralLimit :=
    Nat.length_toDigits_le_iff (by decide) (by decide)
  rw [numeral, Nat.toList_repr, ← Nat.not_le, bound, Nat.not_lt]

theorem length_of_decimalValues? {digits : Text} {values : List Nat}
    (read : decimalValues? digits = some values) : values.length = digits.length := by
  induction digits generalizing values with
  | nil =>
      cases read
      rfl
  | cons digit rest ih =>
      rw [decimalValues?, List.mapM_cons] at read
      obtain ⟨first, -, read⟩ := Option.bind_eq_some_iff.1 read
      obtain ⟨others, readOthers, same⟩ := Option.bind_eq_some_iff.1 read
      cases same
      exact congrArg Nat.succ (ih readOthers)

end Text

namespace Base

theorem itemMark_child (address : Address) (tag : Tag) (before : List Node) {node : Node}
    (after : List Node) (isElement : node.isElement = true) :
    itemMark (Position.child address tag before node after) =
      if tag.kind = "ol" then do
        let start ← listStart tag
        let number ← Text.writeNumeral (start + elementCount before)
        return number ++ ".  ".toList
      else .ok "*   ".toList := by
  have found := Position.placeAmongElements_child address tag before after isElement
    (tagOf (Position.child address tag before node after)).name
  rw [itemMark, found]
  rfl

theorem listStart_of_noDigits {list : Tag} (noDigits : list.hasDigitStart = false) :
    listStart list = .ok 1 := by
  rw [Tag.hasDigitStart] at noDigits
  simp only [listStart, noDigits]
  rfl

theorem listStart_of_digits {list : Tag} (digits : list.hasDigitStart = true) :
    listStart list = Text.readNumeral (list.textOf "start") := by
  rw [Tag.hasDigitStart] at digits
  simp only [listStart, digits, if_true]

/-- The number of an item is read and written unless it lacks one. -/
theorem exists_itemNumber_error_iff {list : Tag} {place : Nat} :
    (∃ failure, (do
      let start ← listStart list
      let number ← Text.writeNumeral (start + place)
      return number ++ ".  ".toList : Except Failure Text) = .error failure) ↔
      list.LacksNumber place := by
  have written : ∀ number, (∃ failure, (do
      let digits ← Text.writeNumeral number
      return digits ++ ".  ".toList : Except Failure Text) = .error failure) ↔
        Text.numeralLimit < (Text.numeral number).length := by
    intro number
    rw [Text.writeNumeral]
    split
    · next short => simp [Nat.not_lt.2 short]
    · next long => simp [Nat.lt_of_not_le long]
  cases digits : list.hasDigitStart with
  | false =>
      rw [listStart_of_noDigits digits, ok_bind, written, Text.length_numeral_gt_iff, Nat.add_comm]
      constructor
      · exact .manyItems digits
      · intro lacks
        cases lacks with
        | noDecimal digits' _ => simp [digits] at digits'
        | longStart digits' _ => simp [digits] at digits'
        | longNumber digits' _ _ _ => simp [digits] at digits'
        | manyItems _ many => exact many
  | true =>
      rw [listStart_of_digits digits, Text.readNumeral]
      cases read : Text.decimalValues? (list.textOf "start") with
      | none => simpa using Tag.LacksNumber.noDecimal digits read
      | some values =>
          have counted := Text.length_of_decimalValues? read
          dsimp only
          split
          · next short =>
              rw [ok_bind, written]
              constructor
              · exact .longNumber digits values read
              · intro lacks
                cases lacks with
                | noDecimal _ unread =>
                    rw [read] at unread
                    cases unread
                | longStart _ long => omega
                | longNumber _ others read' long =>
                    rw [read] at read'
                    cases read'
                    exact long
                | manyItems noDigits _ =>
                    rw [digits] at noDigits
                    cases noDigits
          · next long =>
              rw [counted] at long
              simpa using Tag.LacksNumber.longStart digits (Nat.lt_of_not_le long)

/-- Nothing but a number stops an item. -/
theorem isNumeric_of_itemNumber {list : Tag} {place : Nat} {failure : Failure}
    (fails : (do
      let start ← listStart list
      let number ← Text.writeNumeral (start + place)
      return number ++ ".  ".toList : Except Failure Text) = .error failure) :
    failure.isNumeric = true := by
  rcases bind_eq_error_iff.1 fails with unread | ⟨start, -, fails⟩
  · rw [listStart] at unread
    split at unread
    · rw [Text.readNumeral] at unread
      split at unread
      · cases unread
        rfl
      · split at unread
        · cases unread
        · cases unread
          rfl
    · cases unread
  · rcases bind_eq_error_iff.1 fails with unwritten | ⟨number, -, impossible⟩
    · rw [Text.writeNumeral] at unwritten
      split at unwritten
      · cases unwritten
      · cases unwritten
        rfl
    · cases impossible

end Base

namespace Document

/-- An item of a numbered list below the body that is visible and lacks a number. -/
structure UnnumberedItem (document : Document) (gfm : Bool) (body item : Position) : Prop where
  placed : document.elementAt? item.address = some item
  below : document.HasBelow body.address item.address
  kind : item.node.kind = "li"
  visible : ∃ inside, (Registry.builtIn gfm).insideHere item = .ok inside ∧
    Text.isAllBlank inside.content = false
  number : ∃ list, item.parentTag? = some list ∧ list.kind = "ol" ∧
    list.LacksNumber item.elementIndex

theorem unnumberedItem_of_finish {document : Document} {gfm : Bool} {body item : Position}
    {inside : Inside} {failure : Failure}
    (placed : document.elementAt? item.address = some item)
    (below : document.HasBelow body.address item.address)
    (made : (Registry.builtIn gfm).insideHere item = .ok inside)
    (fails : (Registry.builtIn gfm).finish item inside = .error failure) :
    document.UnnumberedItem gfm body item ∧ failure.isNumeric = true := by
  have isChild := below.isChild placed
  obtain ⟨kind, visible, unmarked⟩ := (Registry.finish_eq_error_iff isChild made).1 fails
  obtain ⟨address, tag, before, node, after, isElement, rfl⟩ := isChild
  rw [Base.itemMark_child address tag before after isElement] at unmarked
  split at unmarked
  · next ordered =>
      exact ⟨⟨placed, below, kind, ⟨inside, made, visible⟩, tag, rfl, ordered,
        Base.exists_itemNumber_error_iff.1 ⟨failure, unmarked⟩⟩,
        Base.isNumeric_of_itemNumber unmarked⟩
  · cases unmarked

theorem UnnumberedItem.exists_finish {document : Document} {gfm : Bool} {body item : Position}
    (unnumbered : document.UnnumberedItem gfm body item) :
    ∃ inside failure, (Registry.builtIn gfm).insideHere item = .ok inside ∧
      (Registry.builtIn gfm).finish item inside = .error failure := by
  obtain ⟨placed, below, kind, ⟨inside, made, visible⟩, list, parent, ordered, lacks⟩ := unnumbered
  have isChild := below.isChild placed
  obtain ⟨failure, unmarked⟩ := Base.exists_itemNumber_error_iff.2 lacks
  refine ⟨inside, failure, made,
    (Registry.finish_eq_error_iff isChild made).2 ⟨kind, visible, ?_⟩⟩
  obtain ⟨address, tag, before, node, after, isElement, rfl⟩ := isChild
  cases parent
  rw [Base.itemMark_child address tag before after isElement, if_pos ordered]
  exact unmarked

/-- A conversion without definitions succeeds and all items have numbers, or it
fails at the number of an item. -/
theorem convert_cases (document : Document) (gfm : Bool) :
    (∃ conversion, document.convert { gfm := gfm } [] = .ok conversion ∧
      ∀ body item, document.collapse.body? = some body →
        ¬ document.collapse.UnnumberedItem gfm body item) ∨
    ∃ failure body item, document.convert { gfm := gfm } [] = .error failure ∧
      failure.isNumeric = true ∧ document.collapse.body? = some body ∧
      document.collapse.UnnumberedItem gfm body item := by
  rw [convert_eq]
  cases found : document.collapse.body? with
  | none =>
      refine .inl ⟨_, rfl, fun body item impossible => ?_⟩
      cases impossible
  | some body =>
      dsimp only
      rcases (Registry.isLocal_builtIn gfm).convertBelow_cases (elementAt?_of_body? found) with
        ⟨whole, later, made, converted⟩ | ⟨failure, item, inside, fails, placed, below, made, own⟩
      · refine .inl ⟨_, converted, ?_⟩
        rintro _ item ⟨⟩ unnumbered
        obtain ⟨inside, failure, madeItem, own⟩ := unnumbered.exists_finish
        obtain ⟨same, text, placed, makes⟩ :=
          Registry.makesAll_of_insideHere (elementAt?_of_body? found) made _ unnumbered.below
        rw [unnumbered.placed] at placed
        cases placed
        rw [Registry.markdownHere_eq_finish madeItem, own] at makes
        cases makes
      · obtain ⟨unnumbered, numeric⟩ := unnumberedItem_of_finish placed below made own
        exact .inr ⟨failure, body, item, fails, numeric, rfl, unnumbered⟩

/-- An item of a list of any real length lacks a number only if the list has a start
of digits. -/
theorem UnnumberedItem.hasDigitStart {document : Document} {gfm : Bool} {body item : Position}
    (unnumbered : document.UnnumberedItem gfm body item)
    (few : item.elementIndex + 1 < 10 ^ Text.numeralLimit) :
    ∃ list, item.parentTag? = some list ∧ list.hasDigitStart = true := by
  obtain ⟨list, parent, -, lacks⟩ := unnumbered.number
  refine ⟨list, parent, ?_⟩
  cases lacks with
  | noDecimal digits _ => exact digits
  | longStart digits _ => exact digits
  | longNumber digits _ _ _ => exact digits
  | manyItems _ many => exact absurd many (Nat.not_le_of_lt few)

/-- Without definitions a conversion fails exactly if below the body there is a
visible item of a numbered list without a number, and the failure is then that of
reading or writing a numeral. -/
theorem convert_fails_iff_unnumberedItem (document : Document) (gfm : Bool) :
    ((∃ failure, document.convert { gfm := gfm } [] = .error failure) ↔
      ∃ body item, document.collapse.body? = some body ∧
        document.collapse.UnnumberedItem gfm body item) ∧
    (∀ failure, document.convert { gfm := gfm } [] = .error failure →
      failure.isNumeric = true) ∧
    ∀ body item, document.collapse.UnnumberedItem gfm body item →
      item.elementIndex + 1 < 10 ^ Text.numeralLimit →
        ∃ list, item.parentTag? = some list ∧ list.hasDigitStart = true := by
  refine ⟨?_, ?_, fun body item unnumbered => unnumbered.hasDigitStart⟩
  · rcases convert_cases document gfm with
      ⟨conversion, converted, none⟩ | ⟨failure, body, item, fails, -, found, unnumbered⟩
    · rw [converted]
      constructor
      · rintro ⟨failure, impossible⟩
        cases impossible
      · rintro ⟨body, item, found, unnumbered⟩
        exact absurd unnumbered (none body item found)
    · exact ⟨fun _ => ⟨body, item, found, unnumbered⟩, fun _ => ⟨failure, fails⟩⟩
  · intro failure fails
    rcases convert_cases document gfm with
      ⟨conversion, converted, -⟩ | ⟨other, body, item, fails', numeric, -⟩
    · rw [fails] at converted
      cases converted
    · rw [fails] at fails'
      cases fails'
      exact numeric

/-- A numbered list that starts at a superscript, which is a digit but no decimal. -/
def superscriptStart : Document :=
  let start : Attribute := { name := "start", value := .single "²".toList }
  let item : Node := .element { name := "li", attributes := [] } [.text .plain "x".toList]
  let list : Node := .element { name := "ol", attributes := [start] } [item]
  .ofNodes [.element { name := "body", attributes := [] } [list]]

theorem superscriptStart_fails :
    ∃ failure body item, superscriptStart.convert {} [] = .error failure ∧
      failure.isNumeric = true ∧ superscriptStart.collapse.body? = some body ∧
      superscriptStart.collapse.UnnumberedItem false body item := by
  obtain ⟨failsIff, numeric, -⟩ := convert_fails_iff_unnumberedItem superscriptStart false
  have fails : ((superscriptStart.convert {} []).toOption.isSome) = false := by decide +kernel
  cases outcome : superscriptStart.convert {} [] with
  | ok conversion =>
      rw [outcome] at fails
      cases fails
  | error failure =>
      obtain ⟨body, item, found, unnumbered⟩ := failsIff.1 ⟨failure, outcome⟩
      exact ⟨failure, body, item, rfl, numeric failure outcome, found, unnumbered⟩

end Document

end PageMark
