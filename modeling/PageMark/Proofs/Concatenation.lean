import PageMark.Proofs.Openings
import PageMark.Proofs.Pages

/-!
# Pages one after the other

Where one block ends and another one begins, nothing is carried over: neither by
collapsing nor by any rule.  So the body of two pages put together becomes what the
two bodies become, and its Markdown is that of the first page, an empty line, and
that of the second.
-/

namespace PageMark

/-! ## Collapsing -/

theorem squeezeAll_cons_element (gap : Gap) (tag : Tag) (children right : List Node) :
    ∃ inner others, (squeezeAll gap (.element tag children :: right)).2 =
      .element tag inner :: others := by
  rw [squeezeAll]
  cases preformatted : tag.isPreformatted with
  | true => exact ⟨children, _, by simp [Node.squeezeFrom, preformatted]; rfl⟩
  | false => exact ⟨_, _, by simp [Node.squeezeFrom, preformatted]; exact ⟨rfl, rfl⟩⟩

section Blocks

variable {tag : Tag} (block : tag.isBlock = true)

include block

/-- Behind a block nothing is left of the gap before it. -/
theorem squeezeAll_snoc_block (gap : Gap) (left children : List Node) :
    ∃ inner, squeezeAll gap (left ++ [Node.element tag children]) =
      (.atBoundary, (squeezeAll gap left).2 ++ [Node.element tag inner]) := by
  have boundary := Tag.separation_of_isBlock block
  rw [squeezeAll_append, squeezeAll, squeezeAll]
  cases preformatted : tag.isPreformatted with
  | true => exact ⟨children, by simp [Node.squeezeFrom, preformatted, boundary, Gap.pass]⟩
  | false => exact ⟨_, by simp [Node.squeezeFrom, preformatted, boundary, Gap.pass]; rfl⟩

/-- Before a block nothing is left of what comes after it. -/
theorem settleAll_cons_block (edge : Edge) (children right : List Node) :
    ∃ inner, settleAll edge (.element tag children :: right) =
      (.boundary, .element tag inner :: (settleAll edge right).2) := by
  have boundary := Tag.separation_of_isBlock block
  rw [settleAll]
  cases preformatted : tag.isPreformatted with
  | true => exact ⟨children, by simp [Node.settleBefore, preformatted, boundary, Edge.pass]⟩
  | false => exact ⟨_, by simp [Node.settleBefore, preformatted, boundary, Edge.pass]; rfl⟩

/-- The last block of what is collapsed is last again. -/
theorem exists_collapseBetween_snoc (gap : Gap) (edge : Edge) (left children : List Node) :
    ∃ left' inner, collapseBetween gap edge (left ++ [Node.element tag children]) =
      left' ++ [Node.element tag inner] ∧ elementCount left' = elementCount left := by
  obtain ⟨squeezed, same⟩ := squeezeAll_snoc_block block gap left children
  obtain ⟨inner, settled⟩ := settleAll_cons_block block edge squeezed []
  refine ⟨(settleAll .boundary (squeezeAll gap left).2).2, inner, ?_, ?_⟩
  · rw [collapseBetween, same, settleAll_append, settled, settleAll]
  · exact (thinned_settleAll _ _).elementCount_eq.trans
      (thinned_squeezeAll gap left).elementCount_eq

theorem exists_collapseBetween_cons (gap : Gap) (edge : Edge) (children right : List Node) :
    ∃ inner right', collapseBetween gap edge (.element tag children :: right) =
      .element tag inner :: right' := by
  obtain ⟨squeezed, others, same⟩ := squeezeAll_cons_element gap tag children right
  obtain ⟨inner, settled⟩ := settleAll_cons_block block edge squeezed others
  exact ⟨inner, _, by rw [collapseBetween, same, settled]⟩

end Blocks

/-- Where two blocks meet, each side is collapsed on its own. -/
theorem collapseBetween_blocks {tag tag' : Tag} (block : tag.isBlock = true)
    (block' : tag'.isBlock = true) (gap : Gap) (edge : Edge)
    (left children children' right : List Node) :
    collapseBetween gap edge
        (left ++ [Node.element tag children] ++ .element tag' children' :: right) =
      collapseBetween gap .boundary (left ++ [Node.element tag children]) ++
        collapseBetween .atBoundary edge (.element tag' children' :: right) := by
  obtain ⟨inner, front⟩ := squeezeAll_snoc_block block gap left children
  obtain ⟨inner', others, back⟩ := squeezeAll_cons_element .atBoundary tag' children' right
  obtain ⟨settled, ending⟩ := settleAll_cons_block block' edge inner' others
  simp only [collapseBetween, squeezeAll_append _ (left ++ _), front, back, settleAll_append,
    ending]

/-- What two stretches of children become. -/
def Inside.append (first others : Inside) : Inside where
  content := first.content ++ others.content
  items := first.items ++ others.items

/-! ## Siblings across the joint -/

namespace Base

variable {node : Node} {address address' : Address}
  {surroundings surroundings' : Option Surroundings}

theorem itemMark_of_notOrdered
    (other : Position.parentKind ⟨address, node, surroundings⟩ ≠ "ol") :
    itemMark ⟨address, node, surroundings⟩ = .ok "*   ".toList := by
  cases surroundings with
  | none => rfl
  | some around => exact if_neg other

/-- Outside of ordered lists and preformatted elements no rule looks at siblings. -/
theorem actsLike_of_mem {converter : Converter} (member : converter ∈ rules)
    {replacements replacements' : Replacements}
    (kind : Position.parentKind ⟨address, node, surroundings⟩ =
      Position.parentKind ⟨address', node, surroundings'⟩)
    (notFormatted : Position.parentKind ⟨address', node, surroundings'⟩ ≠ "pre")
    (notOrdered : Position.parentKind ⟨address', node, surroundings'⟩ ≠ "ol")
    (items : replacements.itemsAt ⟨address, node, surroundings⟩ =
      replacements'.itemsAt ⟨address', node, surroundings'⟩) :
    converter.ActsLike converter ⟨⟨address, node, surroundings⟩, replacements⟩
      ⟨⟨address', node, surroundings'⟩, replacements'⟩ := by
  simp only [rules, List.mem_cons, List.not_mem_nil, or_false] at member
  rcases member with rfl | rfl | rfl | rfl | rfl | rfl | rfl | rfl | rfl | rfl | rfl | rfl | rfl |
    rfl | rfl | rfl
  any_goals exact ⟨rfl, .some fun _ => rfl⟩
  · refine ⟨?_, .some fun _ => rfl⟩
    have formatted : (Position.parentKind ⟨address', node, surroundings'⟩ == "pre") = false :=
      beq_eq_false_iff_ne.2 notFormatted
    simp only [when, Filter.selects, isInlineCode, kind, formatted, Bool.false_and, Bool.not_false]
  · refine ⟨rfl, .some fun given => ?_⟩
    simp only [listItem, itemMark_of_notOrdered notOrdered,
      itemMark_of_notOrdered (fun ordered => notOrdered (kind.symm.trans ordered))]
  · refine ⟨rfl, .some fun given => ?_⟩
    simp only [Replacements.itemsAt] at items
    simp only [list, items, kind]

end Base

namespace Position

/-- The spaces around an element depend on the texts next to it only, and those around a
block on nothing. -/
theorem flanking_congr {node : Node} {address address' : Address} {parent : Tag}
    {before before' after after' : List Node}
    (alike : node.isBlock = true ∨ (before.getLast? = before'.getLast? ∧
      after.head? = after'.head?)) :
    flanking ⟨address, node, some ⟨parent, before, after⟩⟩ =
      flanking ⟨address', node, some ⟨parent, before', after'⟩⟩ := by
  rcases alike with block | ⟨previous, next⟩
  · simp only [flanking, block, if_true]
  · simp only [flanking, hasSpaceBefore, hasSpaceAfter, previousSibling?, nextSibling?,
      Option.bind_some, previous, next]

end Position

namespace Registry

section Joint

variable {parent : Tag} (notFormatted : parent.kind ≠ "pre") (notOrdered : parent.kind ≠ "ol")

include notFormatted notOrdered

/-- The Markdown of an element, whatever stands further away among its siblings. -/
theorem markdownOf_congr {address address' : Address} {before before' after after' : List Node}
    {tag : Tag} {children : List Node}
    (alike : tag.isBlock = true ∨ (before.getLast? = before'.getLast? ∧
      after.head? = after'.head?)) :
    (builtIn false).markdownOf address (some ⟨parent, before, after⟩) (.element tag children) =
      (builtIn false).markdownOf address' (some ⟨parent, before', after'⟩)
        (.element tag children) := by
  have same (place : Address) : (builtIn false).insideOf place tag [] children =
      (builtIn false).insideOf [] tag [] children := by
    have moved := (isRelocatable_builtIn false).insideOf_under place [] tag [] children
    rwa [List.append_nil] at moved
  rw [markdownOf, markdownOf, same address, same address']
  cases made : (builtIn false).insideOf [] tag [] children with
  | error failure => rw [error_bind, error_bind]
  | ok inside =>
      let here : Position := ⟨address, .element tag children, some ⟨parent, before, after⟩⟩
      let there : Position :=
        ⟨address', .element tag children, some ⟨parent, before', after'⟩⟩
      have madeHere : (builtIn false).insideHere here = .ok inside := (same address).trans made
      have madeThere : (builtIn false).insideHere there = .ok inside := (same address').trans made
      have actsLike : (builtIn false).ActsLike (builtIn false)
          ⟨here, inside.table address⟩ ⟨there, inside.table address'⟩ :=
        List.forall₂_same.2 fun converter member =>
          Base.actsLike_of_mem member rfl notFormatted notOrdered
            ((itemsAt_table madeHere).trans (itemsAt_table madeThere).symm)
      rw [ok_bind, ok_bind, finish_eq_rendered, finish_eq_rendered]
      exact actsLike.rendered_eq rfl (Position.flanking_congr alike) inside.content

/-- Of what is before these nodes only the last node is looked at, and nothing at all if
the first of these nodes is a block. -/
theorem insideOf_behind {address address' : Address} {before before' nodes : List Node}
    (alike : before.getLast? = before'.getLast? ∨
      ∀ first ∈ nodes.head?, first.isBlock = true) :
    (builtIn false).insideOf address parent before nodes =
      (builtIn false).insideOf address' parent before' nodes := by
  induction nodes generalizing before before' with
  | nil => rw [insideOf, insideOf]
  | cons node rest ih =>
      have later : (builtIn false).insideOf address parent (before ++ [node]) rest =
          (builtIn false).insideOf address' parent (before' ++ [node]) rest :=
        ih (.inl (by rw [List.getLast?_concat, List.getLast?_concat]))
      cases node with
      | text kind content => rw [insideOf, insideOf, later]
      | mark kind content => rw [insideOf, insideOf, later]
      | element own inner =>
          have edges : own.isBlock = true ∨
              (before.getLast? = before'.getLast? ∧ rest.head? = rest.head?) := by
            rcases alike with same | block
            · exact .inr ⟨same, rfl⟩
            · exact .inl (block (.element own inner) rfl)
          rw [insideOf, insideOf, later, markdownOf_congr notFormatted notOrdered edges]

/-- What nodes become that end with a block and are followed by others. -/
theorem insideOf_append {address : Address} {before left : List Node} (right : List Node)
    (closed : ∀ last ∈ left.getLast?, last.isBlock = true) :
    (builtIn false).insideOf address parent before (left ++ right) =
      (builtIn false).insideOf address parent before left >>= fun first =>
        (builtIn false).insideOf address parent (before ++ left) right >>= fun others =>
          .ok (first.append others) := by
  induction left generalizing before with
  | nil =>
      rw [List.nil_append, List.append_nil, insideOf, ok_bind]
      cases (builtIn false).insideOf address parent before right <;> rfl
  | cons node rest ih =>
      have later := @ih (before ++ [node]) fun last member => closed last (by
        rw [List.getLast?_cons, Option.mem_def.1 member]
        rfl)
      rw [List.append_assoc, List.singleton_append] at later
      cases node with
      | text kind content =>
          rw [List.cons_append, insideOf, insideOf, later]
          cases (builtIn false).insideOf address parent (before ++ [Node.text kind content])
            rest with
          | error failure => rfl
          | ok first =>
              cases (builtIn false).insideOf address parent
                (before ++ Node.text kind content :: rest) right with
              | error failure => rfl
              | ok others => simp [Inside.addText, Inside.append]
      | mark kind content => rw [List.cons_append, insideOf, insideOf, later]
      | element own inner =>
          have edges : own.isBlock = true ∨
              (before.getLast? = before.getLast? ∧ (rest ++ right).head? = rest.head?) := by
            cases rest with
            | nil => exact .inl (closed (.element own inner) rfl)
            | cons next others => exact .inr ⟨rfl, rfl⟩
          have same : (builtIn false).markdownOf (address ++ [elementCount before])
              (some ⟨parent, before, rest ++ right⟩) (.element own inner) =
                (builtIn false).markdownOf (address ++ [elementCount before])
                  (some ⟨parent, before, rest⟩) (.element own inner) :=
            markdownOf_congr notFormatted notOrdered edges
          rw [List.cons_append, insideOf, insideOf, later, same]
          cases (builtIn false).markdownOf (address ++ [elementCount before])
            (some ⟨parent, before, rest⟩) (.element own inner) with
          | error failure => rfl
          | ok text =>
              cases (builtIn false).insideOf address parent (before ++ [Node.element own inner])
                rest with
              | error failure => rfl
              | ok first =>
                  cases (builtIn false).insideOf address parent
                    (before ++ Node.element own inner :: rest) right with
                  | error failure => rfl
                  | ok others => simp [Inside.addItem, Inside.append]

/-- Where two blocks meet, each side becomes what it becomes alone. -/
theorem insideOf_blocks {address : Address} {left right inner inner' : List Node}
    {tag tag' : Tag} (block : tag.isBlock = true) (block' : tag'.isBlock = true)
    {upper lower : Inside}
    (made : (builtIn false).insideOf address parent [] (left ++ [Node.element tag inner]) =
      .ok upper)
    (made' : (builtIn false).insideOf address parent [] (.element tag' inner' :: right) =
      .ok lower) :
    (builtIn false).insideOf address parent []
      (left ++ [Node.element tag inner] ++ .element tag' inner' :: right) =
        .ok (upper.append lower) := by
  have closed : ∀ last ∈ (left ++ [Node.element tag inner]).getLast?, last.isBlock = true := by
    intro last member
    rw [List.getLast?_concat] at member
    cases member
    exact block
  have opened : ∀ first ∈ (Node.element tag' inner' :: right).head?, first.isBlock = true := by
    intro first member
    cases member
    exact block'
  have behind : (builtIn false).insideOf address parent ([] ++ (left ++ [Node.element tag inner]))
      (.element tag' inner' :: right) = .ok lower :=
    (insideOf_behind notFormatted notOrdered (.inr opened)).trans made'
  rw [insideOf_append notFormatted notOrdered _ closed, made, ok_bind, behind]
  rfl

end Joint

/-! ## What a conversion is made of -/

/-- The table of a conversion and recursion over the tree agree on the content. -/
theorem IsLocal.exists_of_convertBelow {registry : Registry} (isLocal : registry.IsLocal)
    {document : Document} {top : Position} (placed : document.elementAt? top.address = some top)
    {conversion : Conversion} (converted : registry.convertBelow document top = .ok conversion) :
    ∃ inside, registry.insideHere top = .ok inside ∧
      conversion.replacements.contentAt top = .ok inside.content ∧
      conversion.markdown = Text.cleanUp inside.content ∧
      registry.Makes document conversion.replacements := by
  have makes := registry.makes_processBelow document top
  have bottomUp := Document.bottomUp_levelOrder placed
  obtain ⟨run, content, known, markdown⟩ := processBelow_of_convertBelow converted
  rw [run] at makes
  obtain ⟨inside, made, content', -⟩ := (isLocal.recorded_of_processEach bottomUp run)
    |>.exists_insideHere placed bottomUp.childrenAmong_top
  rw [known] at content'
  cases content'
  exact ⟨inside, made, known, markdown, makes⟩

end Registry

namespace Document

/-- A page is converted to this Markdown, and this is what its body becomes. -/
structure BecomesInside (nodes : List Node) (conversion : Conversion) (inside : Inside) : Prop where
  made : (Registry.builtIn false).insideOf [0, 0] (plainTag "body") [] (collapsedBody nodes) =
    .ok inside
  content : conversion.replacements.contentFrom [0, 0] 0 (collapsedBody nodes) =
    .ok inside.content
  markdown : conversion.markdown = Text.cleanUp inside.content
  makes : (Registry.builtIn false).Makes (pageOf nodes).collapse conversion.replacements

theorem exists_becomesInside {nodes : List Node} {conversion : Conversion}
    (converted : (pageOf nodes).convert {} [] = .ok conversion) :
    ∃ inside, BecomesInside nodes conversion inside := by
  obtain ⟨body, placed, address, shape, converts⟩ := exists_body?_pageOf false nodes
  obtain ⟨inside, made, content, markdown, makes⟩ :=
    (Registry.isLocal_builtIn false).exists_of_convertBelow (address ▸ placed)
      (converts.symm.trans converted)
  simp only [Registry.insideHere, shape, address] at made
  simp only [Replacements.contentAt, Replacements.contentOf, shape, address] at content
  exact ⟨inside, made, content, markdown, makes⟩

namespace BecomesInside

variable {nodes : List Node} {conversion : Conversion} {inside : Inside}

theorem isAllBlank_content (becomes : BecomesInside nodes conversion inside)
    (nonempty : conversion.markdown ≠ []) : Text.isAllBlank inside.content = false := by
  rw [Bool.eq_false_iff]
  intro blank
  rw [becomes.markdown, Text.cleanUp_of_blank blank] at nonempty
  exact nonempty rfl

/-- A block of the body that is not left out has an empty line before it and one behind it. -/
theorem exists_paragraphs (becomes : BecomesInside nodes conversion inside)
    {left right children : List Node} {tag : Tag}
    (shape : collapsedBody nodes = left ++ .element tag children :: right)
    (block : tag.isBlock = true) (noItem : tag.kind ≠ "li") {own : Text}
    (stored : conversion.replacements.find? [0, 0, elementCount left] = some own)
    (kept : own ≠ []) :
    ∃ before inner behind, inside.content = before ++ Base.paragraphs inner ++ behind ∧
      conversion.replacements.Contributes [0, 0] left right before (Base.paragraphs inner)
        behind := by
  obtain ⟨body, placed, address, node, -⟩ := exists_body?_pageOf false nodes
  have content : conversion.replacements.contentAt body = .ok inside.content := by
    simp only [Replacements.contentAt, Replacements.contentOf, node, address]
    exact becomes.content
  obtain ⟨before, own', behind, joined, contributes⟩ :=
    Replacements.exists_contributes content (by rw [node, Node.children]; exact shape)
  rw [address] at contributes
  obtain rfl := Option.some.inj (contributes.own.symm.trans stored)
  obtain ⟨position, earlier, found, made⟩ := becomes.makes _ _ stored
  rw [shape] at node
  have child := elementAt?_child placed node rfl
  have same := Option.some.inj (child.symm.trans found)
  have isBlock : position.node.isBlock = true := by
    rw [← same]
    exact block
  rcases Registry.blockForm_of_markdownAt isBlock made with
    nothing | ⟨inner, rfl⟩ | ⟨-, nested, -, -⟩ | ⟨item, -⟩
  · exact absurd nothing kept
  · exact ⟨before, inner, behind, joined, contributes⟩
  · rw [← same] at nested
    have notNested : (plainTag "body").kind ≠ "li" := by decide +kernel
    exact absurd nested notNested
  · rw [← same] at item
    exact absurd item noItem

end BecomesInside

/-- Two pages of which the first one ends with a block and the second one begins with a
block, both with something to show.  The bodies put together make the Markdown of the first
page, an empty line and the Markdown of the second, line by line. -/
theorem blocks_concatenate {front back children children' : List Node} {tag tag' : Tag}
    (block : tag.isBlock = true) (noItem : tag.kind ≠ "li")
    (block' : tag'.isBlock = true) (noItem' : tag'.kind ≠ "li") {upper lower : Conversion}
    (converted : (pageOf (front ++ [.element tag children])).convert {} [] = .ok upper)
    (converted' : (pageOf (.element tag' children' :: back)).convert {} [] = .ok lower)
    {last first : Text}
    (stored : upper.replacements.find? [0, 0, elementCount front] = some last)
    (kept : last ≠ [])
    (stored' : lower.replacements.find? [0, 0, 0] = some first) (kept' : first ≠ [])
    (nonempty : upper.markdown ≠ []) (nonempty' : lower.markdown ≠ []) :
    ∃ whole, (pageOf (front ++ [.element tag children] ++
        .element tag' children' :: back)).convert {} [] = .ok whole ∧
      Text.Stacks upper.markdown lower.markdown whole.markdown := by
  obtain ⟨insideUpper, becomes⟩ := exists_becomesInside converted
  obtain ⟨insideLower, becomes'⟩ := exists_becomesInside converted'
  obtain ⟨left, inner, shape, count⟩ :=
    exists_collapseBetween_snoc block .atBoundary .boundary front children
  obtain ⟨inner', right, shape'⟩ :=
    exists_collapseBetween_cons block' .atBoundary .boundary children' back
  have upperShape : collapsedBody (front ++ [Node.element tag children]) =
      left ++ [Node.element tag inner] := shape
  have lowerShape : collapsedBody (.element tag' children' :: back) =
      [] ++ .element tag' inner' :: right := shape'
  have collapsed : collapsedBody (front ++ [Node.element tag children] ++
      .element tag' children' :: back) =
        (left ++ [Node.element tag inner]) ++ .element tag' inner' :: right := by
    rw [collapsedBody, collapseBetween_blocks block block', shape, shape']
  obtain ⟨before, upperInner, behind, upperContent, around⟩ :=
    becomes.exists_paragraphs upperShape block noItem (by rw [count]; exact stored) kept
  obtain ⟨before', lowerInner, behind', lowerContent, around'⟩ :=
    becomes'.exists_paragraphs lowerShape block' noItem' stored' kept'
  have ends : insideUpper.content.getLast? = some '\n' := by
    obtain rfl : behind = [] := (Except.ok.inj around.behind).symm
    rw [upperContent, List.append_nil, Base.paragraphs_eq_concat, ← List.append_assoc,
      List.getLast?_concat]
  have feed : insideLower.content =
      '\n' :: ('\n' :: lowerInner ++ "\n\n".toList ++ behind') := by
    obtain rfl : before' = [] := (Except.ok.inj around'.before).symm
    rw [lowerContent]
    simp [Base.paragraphs]
  have opens := (Registry.opensPlainly_insideOf _ (haveSpacesOnly_collapseBetween _ _ _)
    becomes'.made).1
  have made : (Registry.builtIn false).insideOf [0, 0] (plainTag "body") []
      (collapsedBody (front ++ [Node.element tag children] ++ .element tag' children' :: back)) =
        .ok (insideUpper.append insideLower) := by
    have upperMade := becomes.made
    have lowerMade := becomes'.made
    rw [upperShape] at upperMade
    rw [lowerShape] at lowerMade
    rw [collapsed]
    exact Registry.insideOf_blocks (by decide +kernel) (by decide +kernel) block block' upperMade
      lowerMade
  obtain ⟨whole, done, markdown⟩ := exists_convert_pageOf made
  refine ⟨whole, done, ?_⟩
  rw [becomes.markdown, becomes'.markdown, markdown]
  exact Text.stacks_cleanUp (becomes.isAllBlank_content nonempty)
    (becomes'.isAllBlank_content nonempty') ends opens feed

/-- A page that ends with code behind which there are spaces. -/
def codePage : List Node :=
  [words "x", .element (plainTag "pre") [.element (plainTag "code") [words "c  "]]]

def headingPage : List Node :=
  [.element (plainTag "h2") [words "t"], words "y"]

theorem code_above_heading :
    ∃ upper lower whole, (pageOf codePage).convert {} [] = .ok upper ∧
      (pageOf headingPage).convert {} [] = .ok lower ∧
      (pageOf (codePage ++ headingPage)).convert {} [] = .ok whole ∧
      upper.markdown = "x\n\n    c".toList ∧ lower.markdown = "## t\n\ny".toList ∧
      Text.Stacks upper.markdown lower.markdown whole.markdown := by
  have upperValues : ((pageOf codePage).convert {} []).toOption.map (fun conversion =>
      (conversion.markdown, conversion.replacements.find? [0, 0, 0])) =
        some ("x\n\n    c".toList, some "\n\n    c  \n\n".toList) := by
    decide +kernel
  have lowerValues : ((pageOf headingPage).convert {} []).toOption.map (fun conversion =>
      (conversion.markdown, conversion.replacements.find? [0, 0, 0])) =
        some ("## t\n\ny".toList, some "\n\n## t\n\n".toList) := by
    decide +kernel
  cases converted : (pageOf codePage).convert {} [] with
  | error failure =>
      rw [converted] at upperValues
      cases upperValues
  | ok upper =>
      cases converted' : (pageOf headingPage).convert {} [] with
      | error failure =>
          rw [converted'] at lowerValues
          cases lowerValues
      | ok lower =>
          rw [converted] at upperValues
          rw [converted'] at lowerValues
          obtain ⟨markdown, stored⟩ := Prod.mk.inj (Option.some.inj upperValues)
          obtain ⟨markdown', stored'⟩ := Prod.mk.inj (Option.some.inj lowerValues)
          obtain ⟨whole, done, above⟩ := @blocks_concatenate [words "x"] [words "y"]
            [.element (plainTag "code") [words "c  "]] [words "t"] (plainTag "pre") (plainTag "h2")
            (by decide +kernel) (by decide +kernel) (by decide +kernel) (by decide +kernel)
            upper lower converted converted' _ _ stored (by decide) stored' (by decide)
            (by rw [markdown]; decide) (by rw [markdown']; decide)
          exact ⟨upper, lower, whole, rfl, rfl, done, markdown, markdown', above⟩

end Document

end PageMark
