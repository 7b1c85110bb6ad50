import PageMark.Proofs.BodyOnly

/-!
# Pages with nothing but a body

The Markdown of such a page is what recursion over the collapsed nodes of its body
makes, cleaned up.
-/

namespace PageMark.Document

/-- A page with these nodes in its body and nothing else. -/
def pageOf (nodes : List Node) : Document :=
  bareFrame.document (.element (plainTag "body") nodes)

/-- What the body of a page is collapsed to. -/
def collapsedBody (nodes : List Node) : List Node :=
  collapseBetween .atBoundary .boundary nodes

theorem exists_body?_pageOf (gfm : Bool) (nodes : List Node) :
    ∃ body, (pageOf nodes).collapse.elementAt? [0, 0] = some body ∧ body.address = [0, 0] ∧
      body.node = .element (plainTag "body") (collapsedBody nodes) ∧
      (pageOf nodes).convert { gfm := gfm } [] =
        (Registry.builtIn gfm).convertBelow (pageOf nodes).collapse body := by
  obtain ⟨body, found, address, shape, outside⟩ :=
    @Frame.exists_body? bareFrame (plainTag "body") nodes rfl
  obtain ⟨tag, children, left, rest, own, again, shapeLeft, -, collapsed⟩ :=
    exists_collapse_body? found
  obtain ⟨rfl, rfl⟩ := Node.element.inj (shape.symm.trans own)
  obtain rfl := collapsed outside
  have here : left.address = [0, 0] := by
    rw [address_of_collapse_body? found again, address]
    rfl
  have placed := elementAt?_of_body? again
  rw [here] at placed
  have converts := convert_eq (pageOf nodes) gfm
  rw [show (pageOf nodes).collapse.body? = some left from again] at converts
  exact ⟨left, placed, here, shapeLeft, converts⟩

/-- What recursion makes of the collapsed body is what the document is converted to. -/
theorem exists_convert_of_insideHere {gfm : Bool} {document : Document} {left : Position}
    (again : document.collapse.body? = some left) {inside : Inside}
    (made : (Registry.builtIn gfm).insideHere left = .ok inside) :
    ∃ conversion, document.convert { gfm := gfm } [] = .ok conversion ∧
      conversion.markdown = Text.cleanUp inside.content := by
  have outcome := (Registry.isLocal_builtIn gfm).toOption_convertBelow (elementAt?_of_body? again)
  have converts : document.convert { gfm := gfm } [] =
      (Registry.builtIn gfm).convertBelow document.collapse left := by
    rw [convert_eq, again]
  rw [made] at outcome
  rw [converts]
  cases converted : (Registry.builtIn gfm).convertBelow document.collapse left with
  | error failure =>
      rw [converted] at outcome
      cases outcome
  | ok conversion =>
      rw [converted] at outcome
      exact ⟨conversion, rfl, Option.some.inj outcome⟩

/-- The body is collapsed unless it is in a preformatted element. -/
theorem exists_convert_of_insideOf {gfm : Bool} {document : Document} {body : Position}
    (found : document.body? = some body) (open' : ¬ document.InPreformatted body.address)
    {tag : Tag} {children : List Node} (shape : body.node = .element tag children)
    {inside : Inside}
    (made : (Registry.builtIn gfm).insideOf body.address tag [] (collapsedBody children) =
      .ok inside) :
    ∃ conversion, document.convert { gfm := gfm } [] = .ok conversion ∧
      conversion.markdown = Text.cleanUp inside.content := by
  obtain ⟨own, inner, left, rest, shape', again, shapeLeft, -, collapsed⟩ :=
    exists_collapse_body? found
  obtain ⟨rfl, rfl⟩ := Node.element.inj (shape.symm.trans shape')
  obtain rfl := collapsed open'
  refine exists_convert_of_insideHere again ?_
  rw [Registry.insideHere, shapeLeft, address_of_collapse_body? found again]
  exact made

theorem exists_convert_pageOf {gfm : Bool} {nodes : List Node} {inside : Inside}
    (made : (Registry.builtIn gfm).insideOf [0, 0] (plainTag "body") [] (collapsedBody nodes) =
      .ok inside) :
    ∃ conversion, (pageOf nodes).convert { gfm := gfm } [] = .ok conversion ∧
      conversion.markdown = Text.cleanUp inside.content := by
  obtain ⟨body, found, address, shape, outside⟩ :=
    @Frame.exists_body? bareFrame (plainTag "body") nodes rfl
  exact exists_convert_of_insideOf found outside shape (address ▸ made)

/-- What is read off a conversion that succeeds. -/
theorem exists_convert_of_toOption {document : Document} {flavor : Flavor}
    {definitions : List Definition} {α : Type} {read : Conversion → α} {value : α}
    (known : (document.convert flavor definitions).toOption.map read = some value) :
    ∃ conversion, document.convert flavor definitions = .ok conversion ∧
      read conversion = value := by
  cases converted : document.convert flavor definitions with
  | error failure =>
      rw [converted] at known
      cases known
  | ok conversion =>
      rw [converted] at known
      exact ⟨conversion, rfl, Option.some.inj known⟩

end PageMark.Document
