import PageMark.Proofs.Locality

/-!
# The order of processing

Converting the elements below the body fills a table step by step.  For local
rules every step finds the replacements that recursion over the tree would make,
so any order in which children come before their parents ends in the same table.
-/

namespace PageMark

/-! ## The table of the children -/

namespace Inside

theorem find?_entriesFrom (address : Address) (start index : Nat) (items : List Text) :
    (Replacements.mk (entriesFrom address start items)).find? (address ++ [start + index]) =
      items[index]? := by
  induction items generalizing start index with
  | nil => rfl
  | cons item rest ih =>
      cases index with
      | zero => simp [entriesFrom, Replacements.find?]
      | succ index =>
          have later := ih (start + 1) index
          rw [Nat.add_right_comm, Nat.add_assoc] at later
          simpa [entriesFrom, Replacements.find?] using later

theorem childTexts_table (inside : Inside) (address : Address) (start : Nat)
    (children : List Node) (counted : inside.items.length = start + elementCount children) :
    (inside.table address).childTexts address start children = .ok (inside.items.drop start) := by
  induction children generalizing start with
  | nil =>
      have all : inside.items.length ≤ start := by
        simpa [elementCount, elementsAmong] using counted.le
      rw [Replacements.childTexts, List.drop_eq_nil_of_le all]
  | cons node rest ih =>
      cases node with
      | text kind content => exact ih start (by simpa [Node.isElement] using counted)
      | mark kind content => exact ih start (by simpa [Node.isElement] using counted)
      | element tag children =>
          have counted' : inside.items.length = start + 1 + elementCount rest := by
            rw [counted, elementCount_cons, Node.isElement, if_pos rfl]
            omega
          have inRange : start < inside.items.length := by omega
          have known : (inside.table address).find? (address ++ [start]) =
              some inside.items[start] := by
            have entry := find?_entriesFrom address 0 start inside.items
            rw [Nat.zero_add, List.getElem?_eq_getElem inRange] at entry
            exact entry
          rw [Replacements.childTexts, Replacements.get_eq_ok_iff.2 known, ih (start + 1) counted',
            List.drop_eq_getElem_cons inRange]
          rfl

end Inside

namespace Registry

variable {registry : Registry} {document : Document}

theorem length_items_of_insideOf {address : Address} {tag : Tag} {before children : List Node}
    {inside : Inside} (made : registry.insideOf address tag before children = .ok inside) :
    inside.items.length = elementCount children := by
  induction children generalizing before inside with
  | nil =>
      cases made
      rfl
  | cons node rest ih =>
      cases node with
      | text kind content =>
          rw [insideOf] at made
          obtain ⟨others, madeOthers, ⟨⟩⟩ := bind_eq_ok_iff.1 made
          simpa [Inside.addText, Node.isElement] using ih madeOthers
      | mark kind content =>
          rw [insideOf] at made
          simpa [Node.isElement] using ih made
      | element own inner =>
          rw [insideOf] at made
          obtain ⟨first, -, made⟩ := bind_eq_ok_iff.1 made
          obtain ⟨others, madeOthers, ⟨⟩⟩ := bind_eq_ok_iff.1 made
          simpa [Inside.addItem, Node.isElement] using ih madeOthers

theorem itemsAt_table {position : Position} {inside : Inside}
    (made : registry.insideHere position = .ok inside) :
    (inside.table position.address).itemsAt position = .ok inside.items := by
  cases node : position.node with
  | text kind content => simp [insideHere, node] at made
  | mark kind content => simp [insideHere, node] at made
  | element tag children =>
      simp only [insideHere, node] at made
      have counted := length_items_of_insideOf made
      rw [Replacements.itemsAt, node]
      exact Inside.childTexts_table inside position.address 0 children (by simpa using counted)

/-! ## One step -/

/-- A local rule makes of a table what it makes of the children's replacements. -/
theorem IsLocal.markdownAt_eq_finish (isLocal : registry.IsLocal) {position : Position}
    {replacements : Replacements} {inside : Inside}
    (made : registry.insideHere position = .ok inside)
    (content : replacements.contentAt position = .ok inside.content)
    (items : replacements.itemsAt position = .ok inside.items) :
    registry.markdownAt position replacements = registry.finish position inside := by
  have same : replacements.itemsAt position = (inside.table position.address).itemsAt position := by
    rw [items, itemsAt_table made]
  have found := isLocal.find_congr position replacements (inside.table position.address)
  rw [markdownAt, finish, content, ok_bind, found]
  split
  · rfl
  · cases choice : registry.find position (inside.table position.address) with
    | error failure => rfl
    | ok choice? =>
        cases choice? with
        | none => rfl
        | some choice =>
            rw [ok_bind, ok_bind]
            dsimp only
            rw [isLocal.rendering_congr (found.trans ‹_›) same]

/-- The table has the Markdown of the elements at these addresses, as recursion
over the tree makes it, and nothing else. -/
structure Recorded (registry : Registry) (document : Document) (done : List Address)
    (replacements : Replacements) : Prop where
  known : ∀ address ∈ done, ∃ position text, document.elementAt? address = some position ∧
    registry.markdownHere position = .ok text ∧ replacements.find? address = some text
  unknown : ∀ address, address ∉ done → replacements.find? address = none

theorem recorded_empty (registry : Registry) (document : Document) :
    registry.Recorded document [] Replacements.empty where
  known := by
    intro address member
    cases member
  unknown := fun _ _ => rfl

/-- With all children in the table, going over them in the table and in the tree
comes to the same. -/
theorem Recorded.exists_insideOf {done : List Address} {replacements : Replacements}
    (recorded : registry.Recorded document done replacements) {address : Address}
    {position : Position} (placed : document.elementAt? address = some position)
    (children : document.ChildrenAmong address done) {tag : Tag} {before rest : List Node}
    (shape : position.node = .element tag (before ++ rest)) :
    ∃ inside, registry.insideOf address tag before rest = .ok inside ∧
      replacements.contentFrom address (elementCount before) rest = .ok inside.content ∧
      replacements.childTexts address (elementCount before) rest = .ok inside.items := by
  induction rest generalizing before with
  | nil => exact ⟨Inside.empty, rfl, rfl, rfl⟩
  | cons node rest ih =>
      have shape' : position.node = .element tag ((before ++ [node]) ++ rest) := by
        simpa using shape
      obtain ⟨others, made, content, items⟩ := ih shape'
      cases node with
      | text kind text =>
          rw [elementCount_snoc_other rfl] at content items
          refine ⟨others.addText text, ?_, ?_, items⟩
          · rw [insideOf, made]
            rfl
          · rw [Replacements.contentFrom, content]
            rfl
      | mark kind text =>
          rw [elementCount_snoc_other rfl] at content items
          refine ⟨others, ?_, content, items⟩
          rw [insideOf, made]
      | element own inner =>
          rw [elementCount_snoc_element] at content items
          have placedChild := Document.elementAt?_child placed shape rfl
          obtain ⟨child, markdown, found, makes, known⟩ :=
            recorded.known _ (children _ (by rw [placedChild]; rfl))
          rw [placedChild] at found
          cases found
          have makes' : registry.markdownOf (address ++ [elementCount before])
              (some { parent := tag, before := before, after := rest }) (.element own inner) =
                .ok markdown := makes
          refine ⟨others.addItem markdown, ?_, ?_, ?_⟩
          · rw [insideOf, makes', made]
            rfl
          · rw [Replacements.contentFrom, Replacements.get_eq_ok_iff.2 known, content]
            rfl
          · rw [Replacements.childTexts, Replacements.get_eq_ok_iff.2 known, items]
            rfl

theorem Recorded.exists_insideHere {done : List Address} {replacements : Replacements}
    (recorded : registry.Recorded document done replacements) {address : Address}
    {position : Position} (placed : document.elementAt? address = some position)
    (children : document.ChildrenAmong address done) :
    ∃ inside, registry.insideHere position = .ok inside ∧
      replacements.contentAt position = .ok inside.content ∧
      replacements.itemsAt position = .ok inside.items := by
  obtain ⟨tag, nodes, shape⟩ := Document.exists_element_of_elementAt? placed
  have known := Document.address_of_elementAt? placed
  have shape' : position.node = .element tag ([] ++ nodes) := shape
  obtain ⟨inside, made, content, items⟩ := recorded.exists_insideOf placed children shape'
  refine ⟨inside, ?_, ?_, ?_⟩
  · simp only [insideHere, shape, known]
    exact made
  · simp only [Replacements.contentAt, Replacements.contentOf, shape, known]
    exact content
  · simp only [Replacements.itemsAt, shape, known]
    exact items

theorem markdownHere_eq_finish {position : Position} {inside : Inside}
    (made : registry.insideHere position = .ok inside) :
    registry.markdownHere position = registry.finish position inside := by
  obtain ⟨address, node, surroundings⟩ := position
  cases node with
  | text kind content => cases made
  | mark kind content => cases made
  | element tag children =>
      have made' : registry.insideOf address tag [] children = .ok inside := made
      rw [markdownHere, markdownOf, made', ok_bind]

/-- Processing an element whose children are in the table gives it the Markdown
that recursion over the tree makes, or fails as that does. -/
theorem IsLocal.process_eq (isLocal : registry.IsLocal) {done : List Address}
    {replacements : Replacements} (recorded : registry.Recorded document done replacements)
    {address : Address} {position : Position}
    (placed : document.elementAt? address = some position)
    (children : document.ChildrenAmong address done) (fresh : address ∉ done) :
    registry.process position replacements = (registry.markdownHere position).map fun text =>
      (text, { entries := (address, text) :: replacements.entries }) := by
  obtain ⟨tag, nodes, shape⟩ := Document.exists_element_of_elementAt? placed
  obtain ⟨inside, made, content, items⟩ := recorded.exists_insideHere placed children
  have unknown : replacements.has address = false := by
    rw [Replacements.has, recorded.unknown address fresh]
    rfl
  simp only [process, shape]
  rw [isLocal.markdownAt_eq_finish made content items, markdownHere_eq_finish made,
    Document.address_of_elementAt? placed]
  cases registry.finish position inside with
  | error failure => rfl
  | ok text =>
      rw [ok_bind, Replacements.record_eq_ok_iff.2 ⟨unknown, rfl⟩]
      rfl

theorem Recorded.snoc {done : List Address} {replacements : Replacements}
    (recorded : registry.Recorded document done replacements) {address : Address}
    {position : Position} {text : Text}
    (placed : document.elementAt? address = some position)
    (makes : registry.markdownHere position = .ok text) (fresh : address ∉ done) :
    registry.Recorded document (done ++ [address])
      { entries := (address, text) :: replacements.entries } := by
  have unknown : replacements.has address = false := by
    rw [Replacements.has, recorded.unknown address fresh]
    rfl
  have stored : replacements.record address "" text =
      .ok { entries := (address, text) :: replacements.entries } :=
    Replacements.record_eq_ok_iff.2 ⟨unknown, rfl⟩
  have lookUp := Replacements.find?_record stored
  constructor
  · intro other member
    by_cases same : other = address
    · rw [same]
      exact ⟨position, text, placed, makes, by rw [lookUp, if_pos rfl]⟩
    · have before : other ∈ done := by simpa [same] using member
      obtain ⟨place, markdown, found, made, known⟩ := recorded.known other before
      exact ⟨place, markdown, found, made, by rw [lookUp, if_neg same, known]⟩
  · intro other absent
    rw [List.mem_append, not_or, List.mem_singleton] at absent
    rw [lookUp, if_neg absent.2]
    exact recorded.unknown other absent.1

/-! ## A whole run -/

/-- Processing from the bottom up ends with all elements recorded, or at an
element for which recursion over the tree fails although its children are done. -/
theorem IsLocal.processEach_cases (isLocal : registry.IsLocal) {top : Address}
    {order : List Address} (bottomUp : document.BottomUp top order) {done rest : List Address}
    {replacements : Replacements} (split : order = done ++ rest)
    (recorded : registry.Recorded document done replacements) :
    (∃ later, registry.processEach document rest replacements = (later, none) ∧
      registry.Recorded document order later) ∨
    ∃ later failure position inside,
      registry.processEach document rest replacements = (later, some failure) ∧
        document.elementAt? position.address = some position ∧ position.address ∈ order ∧
        registry.insideHere position = .ok inside ∧
        registry.finish position inside = .error failure := by
  induction rest generalizing done replacements with
  | nil =>
      rw [List.append_nil] at split
      rw [split]
      exact .inl ⟨replacements, rfl, recorded⟩
  | cons address rest ih =>
      have member : address ∈ order := by
        rw [split]
        simp
      obtain ⟨position, placed⟩ := bottomUp.exists_position member
      have children := bottomUp.childrenAmong split
      have fresh := bottomUp.not_mem_done split
      have step := isLocal.process_eq recorded placed children fresh
      rw [processEach, placed]
      dsimp only
      rw [step]
      cases makes : registry.markdownHere position with
      | ok text => exact ih (by simp [split]) (recorded.snoc placed makes fresh)
      | error failure =>
          obtain ⟨inside, made, -, -⟩ := recorded.exists_insideHere placed children
          have known := Document.address_of_elementAt? placed
          rw [markdownHere_eq_finish made] at makes
          exact .inr ⟨replacements, failure, position, inside, rfl, by rw [known, placed],
            by rw [known]; exact member, made, makes⟩

/-- Recursion over the tree makes the Markdown of every element below `top`. -/
def MakesAll (registry : Registry) (document : Document) (top : Address) : Prop :=
  ∀ address, document.HasBelow top address → ∃ position text,
    document.elementAt? address = some position ∧ registry.markdownHere position = .ok text

/-- Whether processing succeeds does not depend on the order. -/
theorem IsLocal.processEach_none_iff (isLocal : registry.IsLocal) {top : Address}
    {order : List Address} (bottomUp : document.BottomUp top order) :
    (registry.processEach document order Replacements.empty).2 = none ↔
      registry.MakesAll document top := by
  rcases isLocal.processEach_cases bottomUp (List.nil_append _).symm
    (recorded_empty registry document) with
    ⟨later, run, recorded⟩ | ⟨later, failure, position, inside, run, placed, member, made, fails⟩
  · rw [run]
    refine ⟨fun _ address below => ?_, fun _ => rfl⟩
    obtain ⟨position, text, placed, makes, -⟩ :=
      recorded.known address ((bottomUp.listed address).2 below)
    exact ⟨position, text, placed, makes⟩
  · rw [run]
    refine ⟨fun impossible => (by cases impossible), fun makesAll => ?_⟩
    obtain ⟨other, text, found, makes⟩ := makesAll _ ((bottomUp.listed _).1 member)
    rw [placed] at found
    cases found
    rw [markdownHere_eq_finish made, fails] at makes
    cases makes

theorem IsLocal.recorded_of_processEach (isLocal : registry.IsLocal) {top : Address}
    {order : List Address} (bottomUp : document.BottomUp top order) {later : Replacements}
    (run : registry.processEach document order Replacements.empty = (later, none)) :
    registry.Recorded document order later := by
  rcases isLocal.processEach_cases bottomUp (List.nil_append _).symm
    (recorded_empty registry document) with
    ⟨last, run', recorded⟩ | ⟨last, failure, position, inside, run', -⟩
  · rw [run] at run'
    cases run'
    exact recorded
  · rw [run] at run'
    cases run'

theorem Recorded.find?_eq {done : List Address} {replacements : Replacements}
    (recorded : registry.Recorded document done replacements) {address : Address}
    {position : Position} (placed : document.elementAt? address = some position)
    (member : address ∈ done) :
    replacements.find? address = (registry.markdownHere position).toOption := by
  obtain ⟨other, text, found, makes, known⟩ := recorded.known address member
  rw [placed] at found
  cases found
  rw [known, makes]
  rfl

/-- Two tables for the same elements are the same. -/
theorem Recorded.find?_congr {done other : List Address} {left right : Replacements}
    (recorded : registry.Recorded document done left)
    (recorded' : registry.Recorded document other right)
    (same : ∀ address, address ∈ done ↔ address ∈ other) (address : Address) :
    left.find? address = right.find? address := by
  by_cases member : address ∈ done
  · obtain ⟨position, text, placed, -, -⟩ := recorded.known address member
    rw [recorded.find?_eq placed member, recorded'.find?_eq placed ((same address).1 member)]
  · rw [recorded.unknown address member,
      recorded'.unknown address fun inOther => member ((same address).2 inOther)]

/-! ## Recursion over the tree -/

/-- If recursion succeeds for an element, it does so for its children. -/
theorem exists_markdownOf_of_insideOf {address : Address} {tag : Tag}
    {before left right : List Node} {node : Node} {inside : Inside}
    (made : registry.insideOf address tag before (left ++ node :: right) = .ok inside)
    (isElement : node.isElement = true) :
    ∃ text, registry.markdownHere
      (Position.child address tag (before ++ left) node right) = .ok text := by
  induction left generalizing before inside with
  | nil =>
      cases node with
      | text kind content => cases isElement
      | mark kind content => cases isElement
      | element own inner =>
          rw [List.nil_append, insideOf] at made
          obtain ⟨first, makes, -⟩ := bind_eq_ok_iff.1 made
          rw [List.append_nil]
          exact ⟨first, makes⟩
  | cons head tail ih =>
      have further : ∃ others, registry.insideOf address tag (before ++ [head])
          (tail ++ node :: right) = .ok others := by
        cases head with
        | text kind content =>
            rw [List.cons_append, insideOf] at made
            obtain ⟨others, makes, -⟩ := bind_eq_ok_iff.1 made
            exact ⟨others, makes⟩
        | mark kind content =>
            rw [List.cons_append, insideOf] at made
            exact ⟨inside, made⟩
        | element own inner =>
            rw [List.cons_append, insideOf] at made
            obtain ⟨first, -, made⟩ := bind_eq_ok_iff.1 made
            obtain ⟨others, makes, -⟩ := bind_eq_ok_iff.1 made
            exact ⟨others, makes⟩
      obtain ⟨others, makes⟩ := further
      have found := ih makes
      rwa [List.append_assoc, List.singleton_append] at found

theorem exists_insideHere_of_markdownHere {position : Position} {text : Text}
    (makes : registry.markdownHere position = .ok text) :
    ∃ inside, registry.insideHere position = .ok inside := by
  obtain ⟨address, node, surroundings⟩ := position
  cases node with
  | text kind content => cases makes
  | mark kind content => cases makes
  | element tag children =>
      rw [markdownHere, markdownOf] at makes
      obtain ⟨inside, made, -⟩ := bind_eq_ok_iff.1 makes
      exact ⟨inside, made⟩

theorem makesAll_of_insideHere {top : Position} {inside : Inside}
    (placed : document.elementAt? top.address = some top)
    (made : registry.insideHere top = .ok inside) : registry.MakesAll document top.address := by
  suffices descend : ∀ steps, steps ≠ [] →
      (document.elementAt? (top.address ++ steps)).isSome = true → ∃ position text,
        document.elementAt? (top.address ++ steps) = some position ∧
          registry.markdownHere position = .ok text by
    rintro address ⟨isSome, ⟨steps, rfl⟩, different⟩
    exact descend steps (by simpa using different) isSome
  intro steps nonempty isSome
  induction steps using List.reverseRecOn with
  | nil => exact absurd rfl nonempty
  | append_singleton steps index ih =>
      rw [← List.append_assoc] at isSome ⊢
      obtain ⟨position, found⟩ := Option.isSome_iff_exists.1 isSome
      obtain ⟨parent, tag, before, node, after, above, shape, isElement, rfl, rfl⟩ :=
        Document.elementAt?_snoc_iff.1 found
      have parentMade : ∃ others, registry.insideHere parent = .ok others := by
        cases steps with
        | nil =>
            rw [List.append_nil, placed] at above
            cases above
            exact ⟨inside, made⟩
        | cons first others =>
            obtain ⟨same, text, found', makes⟩ := ih (by simp) (by rw [above]; rfl)
            rw [above] at found'
            cases found'
            exact exists_insideHere_of_markdownHere makes
      obtain ⟨others, parentMade⟩ := parentMade
      simp only [insideHere, shape] at parentMade
      obtain ⟨text, makes⟩ := exists_markdownOf_of_insideOf parentMade isElement
      exact ⟨_, text, found, makes⟩

/-! ## Converting below the body -/

/-- Converting below an element gives what recursion over the tree makes of its
content, or fails at an element below it whose children are done. -/
theorem IsLocal.convertBelow_cases (isLocal : registry.IsLocal) {top : Position}
    (placed : document.elementAt? top.address = some top) :
    (∃ inside later, registry.insideHere top = .ok inside ∧
      registry.convertBelow document top =
        .ok { markdown := Text.cleanUp inside.content, replacements := later }) ∨
    ∃ failure position inside,
      registry.convertBelow document top = .error failure ∧
        document.elementAt? position.address = some position ∧
        document.HasBelow top.address position.address ∧
        registry.insideHere position = .ok inside ∧
        registry.finish position inside = .error failure := by
  have bottomUp := Document.bottomUp_levelOrder placed
  rcases isLocal.processEach_cases bottomUp (List.nil_append _).symm
    (recorded_empty registry document) with
    ⟨later, run, recorded⟩ | ⟨later, failure, position, inside, run, found, member, made, fails⟩
  · obtain ⟨inside, made, content, -⟩ :=
      recorded.exists_insideHere placed bottomUp.childrenAmong_top
    refine .inl ⟨inside, later, made, ?_⟩
    rw [convertBelow, processBelow, run]
    dsimp only
    rw [content]
    rfl
  · refine .inr ⟨failure, position, inside, ?_, found, (bottomUp.listed _).1 member, made, fails⟩
    rw [convertBelow, processBelow, run]

/-- Converting succeeds exactly if recursion does, and with the same Markdown. -/
theorem IsLocal.toOption_convertBelow (isLocal : registry.IsLocal) {top : Position}
    (placed : document.elementAt? top.address = some top) :
    (registry.convertBelow document top).toOption.map Conversion.markdown =
      (registry.insideHere top).toOption.map fun inside => Text.cleanUp inside.content := by
  rcases isLocal.convertBelow_cases placed with
    ⟨inside, later, made, converted⟩ | ⟨failure, position, inside, fails, found, below, made, own⟩
  · rw [made, converted]
    rfl
  · cases whole : registry.insideHere top with
    | error other =>
        rw [fails]
        rfl
    | ok others =>
        obtain ⟨same, text, found', makes⟩ := makesAll_of_insideHere placed whole _ below
        rw [found] at found'
        cases found'
        rw [markdownHere_eq_finish made, own] at makes
        cases makes

/-- What a conversion that succeeds is made of. -/
theorem processBelow_of_convertBelow {top : Position} {conversion : Conversion}
    (converted : registry.convertBelow document top = .ok conversion) :
    registry.processBelow document top Replacements.empty = (conversion.replacements, none) ∧
      ∃ content, conversion.replacements.contentAt top = .ok content ∧
        conversion.markdown = Text.cleanUp content := by
  rw [convertBelow] at converted
  split at converted
  · cases converted
  · next table run =>
      obtain ⟨content, known, done⟩ := bind_eq_ok_iff.1 converted
      cases done
      exact ⟨run, content, known, rfl⟩

end Registry

namespace Document

/-- Without definitions the registry has the rules that are always there. -/
theorem convert_eq (document : Document) (gfm : Bool) :
    document.convert { gfm := gfm } [] =
      match document.collapse.body? with
      | none => .ok { markdown := [], replacements := Replacements.empty }
      | some body => (Registry.builtIn gfm).convertBelow document.collapse body :=
  rfl

/-- The table of a conversion has what recursion over the collapsed tree makes of every
element below the body. -/
theorem find?_of_convert {document : Document} {gfm : Bool} {conversion : Conversion}
    {body position : Position} (converted : document.convert { gfm := gfm } [] = .ok conversion)
    (found : document.collapse.body? = some body)
    (placed : document.collapse.elementAt? position.address = some position)
    (below : document.collapse.HasBelow body.address position.address) :
    conversion.replacements.find? position.address =
      ((Registry.builtIn gfm).markdownHere position).toOption := by
  rw [convert_eq, found] at converted
  have bottomUp := bottomUp_levelOrder (elementAt?_of_body? found)
  obtain ⟨run, -⟩ := Registry.processBelow_of_convertBelow converted
  exact ((Registry.isLocal_builtIn gfm).recorded_of_processEach bottomUp run).find?_eq placed
    ((bottomUp.listed _).2 below)

/-- After a conversion every element below the body has become something. -/
theorem exists_markdownHere_of_convert {document : Document} {gfm : Bool} {conversion : Conversion}
    {body position : Position} (converted : document.convert { gfm := gfm } [] = .ok conversion)
    (found : document.collapse.body? = some body)
    (placed : document.collapse.elementAt? position.address = some position)
    (below : document.collapse.HasBelow body.address position.address) :
    ∃ text, (Registry.builtIn gfm).markdownHere position = .ok text := by
  rw [convert_eq, found] at converted
  rcases (Registry.isLocal_builtIn gfm).convertBelow_cases (elementAt?_of_body? found) with
    ⟨whole, _, made, -⟩ | ⟨failure, _, _, fails, -⟩
  · obtain ⟨other, text, placed', makes⟩ :=
      Registry.makesAll_of_insideHere (elementAt?_of_body? found) made _ below
    rw [placed] at placed'
    cases placed'
    exact ⟨text, makes⟩
  · dsimp only at converted
    rw [fails] at converted
    cases converted

/-- The conversion of a page is recursion over its collapsed tree. -/
theorem toOption_convert (document : Document) (gfm : Bool) :
    (document.convert { gfm := gfm } []).toOption.map Conversion.markdown =
      (document.collapse.treeMarkdown gfm).toOption := by
  rw [convert_eq, treeMarkdown]
  cases found : document.collapse.body? with
  | none => rfl
  | some body =>
      dsimp only
      rw [(Registry.isLocal_builtIn gfm).toOption_convertBelow (elementAt?_of_body? found)]
      cases (Registry.builtIn gfm).insideHere body <;> rfl

/-- Every order in which children come before their parents leads to success
alike and to the same table, the one that recursion over the tree makes; the
conversion of a document takes such an order and ends in the Markdown that
recursion over the collapsed tree makes. -/
theorem processing_order_free (document : Document) (gfm : Bool) :
    (∀ body, document.body? = some body →
      document.BottomUp body.address (body.node.levelOrder body.address).reverse ∧
      ∀ order other, document.BottomUp body.address order →
        document.BottomUp body.address other →
        let run := (Registry.builtIn gfm).processEach document order Replacements.empty
        let otherRun := (Registry.builtIn gfm).processEach document other Replacements.empty
        (run.2 = none ↔ otherRun.2 = none) ∧
        (run.2 = none → otherRun.2 = none →
          (∀ address, run.1.find? address = otherRun.1.find? address) ∧
          ∀ position, document.elementAt? position.address = some position →
            document.HasBelow body.address position.address →
            run.1.find? position.address =
              ((Registry.builtIn gfm).markdownHere position).toOption)) ∧
    (document.convert { gfm := gfm } []).toOption.map Conversion.markdown =
      (document.collapse.treeMarkdown gfm).toOption := by
  have isLocal := Registry.isLocal_builtIn gfm
  refine ⟨fun body found => ?_, toOption_convert document gfm⟩
  refine ⟨bottomUp_levelOrder (elementAt?_of_body? found), ?_⟩
  intro order other bottomUp bottomUp' run otherRun
  refine ⟨(isLocal.processEach_none_iff bottomUp).trans
    (isLocal.processEach_none_iff bottomUp').symm, fun succeeds succeeds' => ?_⟩
  have recorded := isLocal.recorded_of_processEach bottomUp (Prod.ext rfl succeeds)
  have recorded' := isLocal.recorded_of_processEach bottomUp' (Prod.ext rfl succeeds')
  constructor
  · exact recorded.find?_congr recorded' fun address =>
      (bottomUp.listed address).trans (bottomUp'.listed address).symm
  · intro position placed below
    exact recorded.find?_eq placed ((bottomUp.listed _).2 below)

/-! ### Small pages -/

def plainTag (name : String) : Tag where
  name := name
  attributes := []

def words (content : String) : Node :=
  .text .plain content.toList

/-- A list of two items that look alike. -/
def lookAlikes : Document :=
  let item : Node := .element { name := "li", attributes := [] } [.text .plain "x".toList]
  let list : Node := .element { name := "ul", attributes := [] } [item, item]
  .ofNodes [.element { name := "body", attributes := [] } [list]]

theorem isSome_body?_lookAlikes : lookAlikes.body?.isSome = true := by
  decide +kernel

/-- The items may be converted in either order. -/
theorem lookAlikes_order_free :
    ∃ body, lookAlikes.body? = some body ∧
      lookAlikes.BottomUp body.address [[0, 0, 0], [0, 0, 1], [0, 0]] ∧
      lookAlikes.BottomUp body.address [[0, 0, 1], [0, 0, 0], [0, 0]] ∧
      ∀ address,
        ((Registry.builtIn true).processEach lookAlikes [[0, 0, 0], [0, 0, 1], [0, 0]]
          Replacements.empty).1.find? address =
        ((Registry.builtIn true).processEach lookAlikes [[0, 0, 1], [0, 0, 0], [0, 0]]
          Replacements.empty).1.find? address := by
  have found := (Option.some_get isSome_body?_lookAlikes).symm
  obtain ⟨bottomUp, alike⟩ := (processing_order_free lookAlikes true).1 _ found
  have forwards := bottomUp.of_perm
    (show [[0, 0, 0], [0, 0, 1], [0, 0]].Perm _ by decide +kernel) (by decide)
  have backwards := bottomUp.of_perm
    (show [[0, 0, 1], [0, 0, 0], [0, 0]].Perm _ by decide +kernel) (by decide)
  refine ⟨_, found, forwards, backwards, ?_⟩
  exact ((alike _ _ forwards backwards).2 (by decide +kernel) (by decide +kernel)).1

end Document

end PageMark
