import PageMark.Proofs.Sketches

/-!
# Trees and their sketches

What a tree without items and preformatted elements becomes is covered by its sketch,
by recursion over the tree: the rule that is found for an element makes what the
sketch has for it, out of what its children became.  So a line of the Markdown that
begins like an item is a line of the sketch of the collapsed body.
-/

namespace PageMark

open Text

/-! ## Finding the rule -/

namespace Registry

/-- The rules that do not just keep an element as markup. -/
def namedRules (gfm : Bool) : List Converter :=
  (if gfm then Gfm.rules else []) ++ Base.rules.take 14

variable {gfm : Bool} {position : Position} {replacements : Replacements} {choice : Choice}

/-- Either one of these rules is found, or none of them selects the element, and it is kept as
markup. -/
theorem find_cases (found : (builtIn gfm).find position replacements = .ok (some choice)) :
    (∃ converter ∈ namedRules gfm, converter.filter.selects position replacements = .ok true ∧
      converter.rendering = some choice.rendering) ∨
    (∀ converter ∈ namedRules gfm, converter.filter.selects position replacements ≠ .ok true) ∧
      some choice.rendering =
        if position.node.isBlock then Base.ofNode Base.blockMarkup
        else Base.ofNode Base.inlineMarkup := by
  have split : (builtIn gfm).converters = namedRules gfm ++ Base.rules.drop 14 := by
    cases gfm <;> rfl
  by_cases selected : ∃ converter ∈ namedRules gfm,
      converter.filter.selects position replacements = .ok true
  · exact .inl (exists_mem_of_front split selected found)
  · have none : ∀ converter ∈ namedRules gfm,
        converter.filter.selects position replacements ≠ .ok true :=
      fun converter member selects => selected ⟨converter, member, selects⟩
    refine .inr ⟨none, ?_⟩
    have rejects : ∀ converter ∈ namedRules gfm,
        converter.filter.selects position replacements = .ok false := by
      intro converter member
      obtain ⟨⟨selected, asked⟩, -⟩ := @answers_of_mem_builtIn position replacements gfm converter
        (split ▸ List.mem_append_left _ member)
      cases selected with
      | false => exact asked
      | true => exact absurd asked (none converter member)
    have back : Base.rules.drop 14 =
        [{ filter := Base.when fun position => position.node.isBlock,
           rendering := Base.ofNode Base.blockMarkup },
          { filter := Base.when fun _ => true, rendering := Base.ofNode Base.inlineMarkup }] := rfl
    rw [find, split, findFrom_append 0 rejects, back] at found
    cases block : position.node.isBlock with
    | true =>
        rw [findFrom_of_selects (Filter.selects_when_iff.2 block) rfl] at found
        cases found
        rfl
    | false =>
        rw [findFrom_of_rejects (by simp [Filter.selects, Base.when, block]),
          findFrom_of_selects (Filter.selects_when_iff.2 rfl) rfl] at found
        cases found
        rfl

end Registry

/-- An element that no other rule takes is kept as markup. -/
theorem lineForm_of_passed {gfm : Bool} {position : Position} {tag : Tag} {children : List Node}
    {replacements : Replacements} (shape : position.node = .element tag children)
    (outside : position.parentKind ≠ "pre")
    (passed : ∀ converter ∈ Registry.namedRules gfm,
      converter.filter.selects position replacements ≠ .ok true) :
    tag.lineForm gfm = .markup := by
  have kind : position.node.kind = tag.kind := by rw [shape]; rfl
  have own := Base.tagOf_of_element shape
  have inBase (converter : Converter) (member : converter ∈ Base.rules.take 14) :=
    passed converter (List.mem_append_right _ member)
  have noLink : ¬ (tag.kind = "a" ∧ (tag.textOf "href").isEmpty = false) := by
    intro link
    refine inBase { filter := Base.when Base.isLink, rendering := Base.ofNode Base.link }
      (by simp [Base.rules]) (Filter.selects_when_iff.2 ?_)
    rw [Base.isLink, own, kind, Bool.and_eq_true, beq_iff_eq, Bool.not_eq_true']
    exact link
  have noCode : tag.kind ≠ "code" := by
    intro code
    refine inBase
      { filter := Base.when Base.isInlineCode, rendering := Base.ofContent Base.inlineCode }
      (by simp [Base.rules]) (Filter.selects_when_iff.2 ?_)
    simp [Base.isInlineCode, kind, code, outside]
  have others : ∀ converter ∈ Registry.namedRules gfm,
      converter.filter.passesOver tag.kind = true := by
    intro converter member
    have rejects := passed converter member
    cases named : converter.filter with
    | exact name => simpa [Filter.passesOver, Filter.selects, named, kind] using rejects
    | oneOf names => simpa [Filter.passesOver, Filter.selects, named, kind] using rejects
    | predicate holds => rfl
  -- inline code has a rule that asks for more than the name
  have taken : ∀ entry ∈ namedForms gfm, ∀ name ∈ entry.1, name ≠ "code" →
      ∃ converter ∈ Registry.namedRules gfm, converter.filter.passesOver name = false := by
    cases gfm <;> decide
  have none : (namedForms gfm).find? (fun entry => entry.1.contains tag.kind) = none := by
    refine List.find?_eq_none.2 fun entry member named => ?_
    obtain ⟨converter, listed, takes⟩ := taken entry member _ (List.contains_iff_mem.1 named) noCode
    rw [others converter listed] at takes
    cases takes
  rw [Tag.lineForm, if_neg noLink, lineFormOf, none]
  rfl

namespace Registry

variable {gfm first : Bool} {position : Position} {tag : Tag} {children : List Node}
  {replacements : Replacements} {choice : Choice} {items : List Text} {content given text : Text}
  {sketch : Inside} (shape : position.node = .element tag children)
  (found : (builtIn gfm).find position replacements = .ok (some choice))
  (made : choice.rendering given position replacements = .ok text)

include shape found made

/-- Line breaks have two rules; the one for GitHub's Markdown comes first. -/
theorem fits_lineBreak (named : position.node.kind = "br") :
    position.Fits text (tag.sketch gfm first sketch) := by
  have form : tag.lineForm gfm = .lineBreak :=
    lineForm_of_mem shape gfm (List.mem_singleton.2 named) .lineBreak (by cases gfm <;> decide)
  have known : text = if gfm then ['\n'] else "  \n".toList := by
    cases gfm with
    | true =>
        obtain ⟨_, found', rendering⟩ := @exists_find_gfm position replacements ["br"]
          (List.mem_singleton.2 named) _ _ _ 0 rfl (by decide) (by decide)
          (Filter.selects_exact_iff.2 named) rfl
        cases found.symm.trans found'
        rw [rendering] at made
        exact (Except.ok.inj made).symm
    | false =>
        have paragraph : ∀ other ∈ (builtIn false).converters.take 1,
            other.filter.selects position replacements = .ok false := by
          refine List.forall_mem_singleton.2 ?_
          simp [Filter.selects, named]
        obtain ⟨_, found', rendering⟩ := find_of_first 1 rfl paragraph
          (Filter.selects_exact_iff.2 named) rfl
        cases found.symm.trans found'
        rw [rendering] at made
        exact (Except.ok.inj made).symm
  rw [Tag.sketch, form, known]
  refine ⟨.refl _, fun _ _ => ⟨fun state => ?_, fun state => ?_⟩⟩
  all_goals cases gfm <;> cases state <;> decide

/-- The rule that is found makes something that is covered by the element's sketch. -/
theorem fits_of_find (keeps : position.node.KeepsLines) (outer : position.parentKind ≠ "li")
    (outside : position.parentKind ≠ "pre") (seen : position.node.isBlank content = false)
    (placed : ∃ place, position.place tag.name = .ok place ∧ (place = 0 ↔ first = true))
    (listed : replacements.itemsAt position = .ok items)
    (contents : content.IsCoveredBy sketch.content)
    (texts : List.Forall₂ Text.IsCoveredBy items sketch.items)
    (kept : given = content ∨ position.node.isBlock = false ∧ given = trimSpacing content) :
    position.Fits text (tag.sketch gfm first sketch) := by
  by_cases lineBreak : position.node.kind = "br"
  · exact fits_lineBreak shape found made lineBreak
  · rcases find_cases found with ⟨converter, member, selects, known⟩ | ⟨passed, markup⟩
    · rcases List.mem_append.1 member with inGfm | inBase
      · cases gfm with
        | false => cases inGfm
        | true =>
            exact Gfm.fits_of_mem shape keeps outer contents kept inGfm lineBreak seen placed
              selects known made
      · exact Base.fits_of_mem shape keeps outer listed contents texts kept inBase lineBreak
          selects known made
    · have own := Base.tagOf_of_element shape
      have form := lineForm_of_passed shape outside passed
      have inTag : position.node.isBlock = tag.isBlock := by rw [shape]; rfl
      have trimmed := kept.imp_right And.right
      cases block : position.node.isBlock with
      | true =>
          rw [block, if_pos rfl] at markup
          rw [Option.some.inj markup] at made
          cases made
          have sketched : tag.sketch gfm first sketch =
              '\n' :: (tag.around sketch.content ++ ['\n']) := by
            rw [Tag.sketch, form]
            exact if_pos (inTag.symm.trans block)
          rw [Base.blockMarkup, own]
          exact fits_paragraphs block sketched (tag.covered_around contents trimmed)
      | false =>
          rw [block, if_neg (by decide)] at markup
          rw [Option.some.inj markup] at made
          cases made
          exact fits_inlineMarkup form (inTag.symm.trans block) own contents trimmed

end Registry

/-! ## Whole trees -/

theorem isEmpty_snoc {α : Type} (front : List α) (last : α) :
    (front ++ [last]).isEmpty = false :=
  List.isEmpty_eq_false_iff.2 (List.concat_ne_nil last front)

namespace Registry

variable {gfm first : Bool} {position : Position} {tag : Tag} {children : List Node}
  {inside sketch : Inside} {text : Text}

theorem covered_finish (shape : position.node = .element tag children)
    (keeps : position.node.KeepsLines) (outer : position.parentKind ≠ "li")
    (outside : position.parentKind ≠ "pre")
    (placed : ∃ place, position.place tag.name = .ok place ∧ (place = 0 ↔ first = true))
    (made : (builtIn gfm).insideHere position = .ok inside) (covered : inside.IsCoveredBy sketch)
    (done : (builtIn gfm).finish position inside = .ok text) :
    text.IsCoveredBy (if position.node.isBlank sketch.content then []
      else position.node.ownFlanking.around (tag.sketch gfm first sketch)) := by
  have blank : position.node.isBlank sketch.content = position.node.isBlank inside.content := by
    rw [Node.isBlank, Node.isBlank, covered.content.blank]
  rw [blank]
  rw [finish] at done
  split at done
  · next gone =>
      cases done
      rw [if_pos gone]
      exact .refl []
  · next shown =>
      rw [if_neg shown]
      obtain ⟨found, looked, done⟩ := bind_eq_ok_iff.1 done
      cases found with
      | none => cases done
      | some choice =>
          obtain ⟨made', rendered, done⟩ := bind_eq_ok_iff.1 done
          cases done
          refine (fits_of_find shape looked rendered keeps outer outside
            (Bool.eq_false_iff.2 shown) placed (itemsAt_table made) covered.content covered.items
            ?_).around
          rw [Position.givenContent]
          split
          · next padded =>
              refine .inr ⟨?_, rfl⟩
              rw [Position.flanking] at padded
              split at padded
              · cases padded
              · next inline => exact Bool.eq_false_iff.2 inline
          · exact .inl rfl

mutual

/-- The node is converted, and what it becomes is covered by its sketch. -/
theorem covered_markdownOf {gfm : Bool} {address : Address} {parent : Tag}
    {before after : List Node} (outer : parent.kind ≠ "li") (outside : parent.kind ≠ "pre") :
    (node : Node) → node.isElement = true → (∀ inner ∈ node.withDescendants, inner.KeepsLines) →
    ∃ text, (builtIn gfm).markdownOf (address ++ [elementCount before])
        (some { parent := parent, before := before, after := after }) node = .ok text ∧
      text.IsCoveredBy (node.sketch gfm before.isEmpty)
  | .text _ _, isElement, _ => by cases isElement
  | .mark _ _, isElement, _ => by cases isElement
  | .element tag children, _, keeps => by
      obtain ⟨own, below⟩ := List.forall_mem_cons.1 keeps
      obtain ⟨inside, made, covered⟩ :=
        covered_insideOf own.noItem own.notPreformatted [] children below
      let position := Position.child address parent before (.element tag children) after
      have isChild : position.IsChild := ⟨address, parent, before, _, after, rfl, rfl⟩
      have placed : ∃ place, position.place tag.name = .ok place ∧
          (place = 0 ↔ before.isEmpty = true) :=
        ⟨_, Position.place_child address parent before after rfl tag.name, by simp⟩
      have insideMade : (builtIn gfm).insideHere position = .ok inside := made
      have madeInside : (builtIn gfm).insideOf (address ++ [elementCount before]) tag [] children =
          .ok inside := made
      rw [markdownOf, madeInside, ok_bind]
      -- of the rules only that of items can fail
      cases done : (builtIn gfm).finish position inside with
      | error failure => exact absurd ((finish_eq_error_iff isChild insideMade).1 done).1 own.noItem
      | ok text =>
          exact ⟨text, done,
            @covered_finish gfm before.isEmpty position tag children inside _ text rfl own outer
              outside placed insideMade covered done⟩

/-- These children are converted, and what they become is covered by what their sketches make. -/
theorem covered_insideOf {gfm : Bool} {address : Address} {parent : Tag}
    (outer : parent.kind ≠ "li") (outside : parent.kind ≠ "pre") (before : List Node) :
    (nodes : List Node) → (∀ inner ∈ nodesWithin nodes, inner.KeepsLines) →
    ∃ inside, (builtIn gfm).insideOf address parent before nodes = .ok inside ∧
      inside.IsCoveredBy (sketchIn gfm before.isEmpty nodes)
  | [], _ => ⟨_, rfl, .refl [], .nil⟩
  | .text kind content :: rest, keeps => by
      obtain ⟨others, made, covered⟩ := covered_insideOf outer outside
        (before ++ [.text kind content]) rest
        fun inner member => keeps inner (List.mem_append_right _ member)
      rw [isEmpty_snoc] at covered
      rw [insideOf, made]
      exact ⟨_, rfl, (Text.IsCoveredBy.refl content).append covered.content, covered.items⟩
  | .mark kind content :: rest, keeps => by
      obtain ⟨others, made, covered⟩ := covered_insideOf outer outside
        (before ++ [.mark kind content]) rest
        fun inner member => keeps inner (List.mem_append_right _ member)
      rw [isEmpty_snoc] at covered
      exact ⟨others, made, covered⟩
  | .element tag children :: rest, keeps => by
      obtain ⟨first, firstMade, own⟩ := covered_markdownOf outer outside (.element tag children) rfl
        fun inner member => keeps inner (List.mem_append_left _ member)
      obtain ⟨others, made, covered⟩ := covered_insideOf outer outside
        (before ++ [.element tag children]) rest
        fun inner member => keeps inner (List.mem_append_right _ member)
      rw [isEmpty_snoc] at covered
      rw [insideOf, firstMade, ok_bind, made]
      exact ⟨_, rfl, own.append covered.content, .cons own covered.items⟩

end

end Registry

/-! ## Documents -/

theorem Node.KeepsLines.of_thinned {before after : Node} (keeps : before.KeepsLines)
    (thinned : Thinned [before] [after]) : after.KeepsLines := by
  cases thinned with
  | text _ _ _ => exact ⟨keeps.noItem, keeps.notPreformatted, fun _ => rfl⟩
  | mark _ => exact ⟨keeps.noItem, keeps.notPreformatted, fun _ => rfl⟩
  | blankText _ further => cases further
  | droppedMark further => cases further
  | @element _ inner _ children _ _ inside _ =>
      refine ⟨keeps.noItem, keeps.notPreformatted, fun image => ?_⟩
      obtain rfl : inner = [] := keeps.emptyImage image
      cases inside
      rfl

namespace Document

variable {document : Document} {body : Position}

/-- A document without items and preformatted elements is converted, and a line of its Markdown
begins like an item only if one of the sketch of its collapsed body does. -/
theorem exists_convert_sketched (gfm : Bool) (found : document.body? = some body)
    (keeps : ∀ node ∈ nodesWithin body.node.children, node.KeepsLines) :
    ∃ left conversion, document.collapse.body? = some left ∧
      document.convert { gfm := gfm } [] = .ok conversion ∧
      ((∃ line ∈ lines conversion.markdown, StartsItem line) →
        ∃ line ∈ lines (sketchOf gfm left.node.children), BeginsItem line) := by
  obtain ⟨tag, children, left, rest, shape, again, shapeLeft, inPre, collapsed⟩ :=
    exists_collapse_body? found
  have thinned : Thinned children rest := by
    by_cases preformatted : document.InPreformatted body.address
    · rw [inPre preformatted]
      exact .refl children
    · rw [collapsed preformatted]
      exact thinned_collapseBetween _ _ children
  have keepsLeft : ∀ node ∈ nodesWithin rest, node.KeepsLines := by
    intro node member
    obtain ⟨original, inBody, same⟩ := thinned.exists_original member
    rw [shape] at keeps
    exact (keeps original inBody).of_thinned same
  have named : tag.kind = "body" := by
    obtain ⟨own, inner, shape', isBody⟩ := exists_name_body? found
    obtain ⟨rfl, rfl⟩ := Node.element.inj (shape'.symm.trans shape)
    exact Tag.kind_of_body isBody
  obtain ⟨inside, made, covered⟩ := @Registry.covered_insideOf gfm left.address tag
    (by rw [named]; decide) (by rw [named]; decide) [] rest keepsLeft
  obtain ⟨conversion, converted, markdown⟩ := exists_convert_of_insideHere again
    (show (Registry.builtIn gfm).insideHere left = .ok inside by
      rw [Registry.insideHere, shapeLeft]
      exact made)
  refine ⟨left, conversion, again, converted, ?_⟩
  rintro ⟨line, member, starts⟩
  rw [markdown] at member
  have shown := after_margin_of_cleanUp member starts.beginsItem
  have sketched := covered.content.states .margin
  rw [shown, LineState.item_le_iff] at sketched
  rw [shapeLeft]
  exact after_margin_eq_item_iff.1 sketched

end Document

end PageMark
