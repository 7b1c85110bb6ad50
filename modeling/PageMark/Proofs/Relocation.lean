import PageMark.Proofs.ActingAlike
import PageMark.Proofs.ProcessingOrder

/-!
# Moving an element to another place

Below an element every address begins with the element's own, so when the element
stands somewhere else all addresses and the table of replacements move along.  No
rule that comes with the library and no rule written as data can tell where the
element stands.
-/

namespace PageMark

/-! ## Moved tables -/

namespace Replacements

/-- The same replacements, of elements below `top`. -/
def under (top : Address) (replacements : Replacements) : Replacements where
  entries := replacements.entries.map fun entry => (top ++ entry.1, entry.2)

variable (top : Address) (replacements : Replacements)

@[simp] theorem find?_under (address : Address) :
    (replacements.under top).find? (top ++ address) = replacements.find? address := by
  rw [find?, find?, under]
  induction replacements.entries with
  | nil => rfl
  | cons entry rest ih =>
      by_cases same : entry.1 = address
      · simp [same]
      · simpa [same] using ih

@[simp] theorem has_under (address : Address) :
    (replacements.under top).has (top ++ address) = replacements.has address := by
  rw [has, has, find?_under]

@[simp] theorem get_under (address : Address) (name : String) :
    (replacements.under top).get (top ++ address) name = replacements.get address name := by
  rw [get, get, find?_under]

theorem record_under (address : Address) (name : String) (text : Text) :
    (replacements.under top).record (top ++ address) name text =
      (replacements.record address name text).map (under top) := by
  rw [record, record, has_under]
  split <;> rfl

@[simp] theorem contentFrom_under (address : Address) (index : Nat) (nodes : List Node) :
    (replacements.under top).contentFrom (top ++ address) index nodes =
      replacements.contentFrom address index nodes := by
  induction nodes generalizing index with
  | nil => rfl
  | cons node rest ih =>
      cases node with
      | text kind content => rw [contentFrom, contentFrom, ih]
      | mark kind content => rw [contentFrom, contentFrom, ih]
      | element tag children =>
          rw [contentFrom, contentFrom, ih, List.append_assoc, get_under]

@[simp] theorem childTexts_under (address : Address) (index : Nat) (nodes : List Node) :
    (replacements.under top).childTexts (top ++ address) index nodes =
      replacements.childTexts address index nodes := by
  induction nodes generalizing index with
  | nil => rfl
  | cons node rest ih =>
      cases node with
      | text kind content => exact ih index
      | mark kind content => exact ih index
      | element tag children =>
          rw [childTexts, childTexts, ih, List.append_assoc, get_under]

mutual

theorem coversBelow_under (address : Address) : (node : Node) →
    (replacements.under top).coversBelow (top ++ address) node =
      replacements.coversBelow address node
  | .text _ _ => rfl
  | .mark _ _ => rfl
  | .element _ children => by
      rw [coversBelow, coversBelow, coversAll_under]

theorem coversAll_under (address : Address) (index : Nat) : (nodes : List Node) →
    (replacements.under top).coversAll (top ++ address) index nodes =
      replacements.coversAll address index nodes
  | [] => rfl
  | node :: rest => by
      have own := coversBelow_under (address ++ [index]) node
      have others (next : Nat) := coversAll_under address next rest
      cases node with
      | text kind content => exact others index
      | mark kind content => exact others index
      | element tag children =>
          rw [coversAll, coversAll, List.append_assoc, has_under, own, others]

end

end Replacements

/-! ## Moved places -/

namespace Position

/-- The place below `top` that has this address from there. -/
def under (top : Address) (position : Position) : Position :=
  { position with address := top ++ position.address }

variable (top : Address)

@[simp] theorem node_under (position : Position) : (position.under top).node = position.node :=
  rfl

@[simp] theorem flanking_under (position : Position) :
    (position.under top).flanking = position.flanking :=
  rfl

theorem parentAddress_under {position : Position} (inside : position.address ≠ []) :
    (position.under top).parentAddress = top ++ position.parentAddress :=
  List.dropLast_append_of_ne_nil inside

end Position

theorem childAddresses_under (top address : Address) (index : Nat) (nodes : List Node) :
    childAddresses (top ++ address) index nodes =
      (childAddresses address index nodes).map (Option.map (top ++ ·)) := by
  induction nodes generalizing index with
  | nil => rfl
  | cons node rest ih =>
      cases node with
      | text kind content => simp [childAddresses, ih]
      | mark kind content => simp [childAddresses, ih]
      | element tag children => simp [childAddresses, ih]

theorem placeIn_under (top : Address) (addresses : List (Option Address)) (address : Address)
    (name : String) :
    placeIn (addresses.map (Option.map (top ++ ·))) (top ++ address) name =
      placeIn addresses address name := by
  have same : (addresses.map (Option.map (top ++ ·))).findIdx? (· == some (top ++ address)) =
      addresses.findIdx? (· == some address) := by
    rw [List.findIdx?_map]
    refine congrArg (List.findIdx? · addresses) (funext fun entry => ?_)
    cases entry <;> simp
  rw [placeIn, placeIn, same]

namespace Position

variable (top : Address) {position : Position} (inside : position.address ≠ [])

include inside

theorem siblingAddresses_under :
    (position.under top).siblingAddresses =
      position.siblingAddresses.map (List.map (Option.map (top ++ ·))) := by
  rw [siblingAddresses, siblingAddresses, parentAddress_under top inside,
    show (position.under top).surroundings = position.surroundings from rfl]
  cases position.surroundings with
  | none => rfl
  | some around =>
      dsimp only
      rw [childAddresses_under]
      rfl

theorem place_under (name : String) : (position.under top).place name = position.place name := by
  rw [place, place, siblingAddresses_under top inside]
  cases position.siblingAddresses with
  | error failure => rfl
  | ok addresses => exact placeIn_under top addresses position.address name

theorem placeAmongElements_under (name : String) :
    (position.under top).placeAmongElements name = position.placeAmongElements name := by
  rw [placeAmongElements, placeAmongElements, siblingAddresses_under top inside]
  cases position.siblingAddresses with
  | error failure => rfl
  | ok addresses =>
      have filtered : (addresses.map (Option.map (top ++ ·))).filter Option.isSome =
          (addresses.filter Option.isSome).map (Option.map (top ++ ·)) := by
        rw [List.filter_map]
        refine congrArg (List.map _ <| List.filter · addresses) (funext fun entry => ?_)
        cases entry <;> rfl
      simp only [Except.map, ok_bind, filtered]
      exact placeIn_under top _ position.address name

end Position

/-! ## Rules that move along -/

/-- What a converter is shown of the element when the element is moved below `top`. -/
def Sight.under (top : Address) (sight : Sight) : Sight where
  position := sight.position.under top
  replacements := sight.replacements.under top

namespace Converter

/-- Below another element the converter does the same. -/
def IsRelocatable (converter : Converter) : Prop :=
  ∀ top (sight : Sight), sight.position.address ≠ [] →
    converter.ActsLike converter (sight.under top) sight

theorem IsRelocatable.of_some {filter : Filter} {rendering : Rendering}
    (selects : ∀ top (sight : Sight), sight.position.address ≠ [] →
      filter.selects (sight.position.under top) (sight.replacements.under top) =
        filter.selects sight.position sight.replacements)
    (renders : ∀ top (sight : Sight), sight.position.address ≠ [] → ∀ given,
      rendering given (sight.position.under top) (sight.replacements.under top) =
        rendering given sight.position sight.replacements) :
    IsRelocatable { filter := filter, rendering := some rendering } := by
  intro top sight inside
  exact ⟨selects top sight inside, .some (renders top sight inside)⟩

end Converter

theorem Base.isRelocatable_of_mem {converter : Converter} (member : converter ∈ Base.rules) :
    converter.IsRelocatable := by
  simp only [Base.rules, List.mem_cons, List.not_mem_nil, or_false] at member
  rcases member with rfl | rfl | rfl | rfl | rfl | rfl | rfl | rfl | rfl | rfl | rfl | rfl | rfl |
    rfl | rfl | rfl
  pick_goal 12
  · refine .of_some (fun _ _ _ => rfl) fun top sight inside given => ?_
    have mark : itemMark (sight.position.under top) = itemMark sight.position := by
      rw [itemMark, itemMark, Position.placeAmongElements_under top inside]
      rfl
    rw [listItem, listItem, mark]
  pick_goal 12
  · refine .of_some (fun _ _ _ => rfl) fun top sight inside given => ?_
    have items : (sight.replacements.under top).childTexts (sight.position.under top).address 0
        (sight.position.under top).node.children =
          sight.replacements.childTexts sight.position.address 0 sight.position.node.children :=
      Replacements.childTexts_under top sight.replacements sight.position.address 0 _
    rw [list, list, items]
    rfl
  -- The other rules look at the node and the content, and these have not moved.
  all_goals exact .of_some (fun _ _ _ => rfl) (fun _ _ _ _ => rfl)

namespace Gfm

theorem borderCells_under (top : Address) (addresses : List (Option Address)) (address : Address)
    (index : Nat) (nodes : List Node) :
    borderCells (addresses.map (Option.map (top ++ ·))) (top ++ address) index nodes =
      borderCells addresses address index nodes := by
  induction nodes generalizing index with
  | nil => rfl
  | cons node rest ih =>
      cases node with
      | text kind content => exact ih index
      | mark kind content => exact ih index
      | element tag children =>
          rw [borderCells, borderCells, ih, List.append_assoc, placeIn_under]

theorem isRelocatable_of_mem {converter : Converter} (member : converter ∈ Gfm.rules) :
    converter.IsRelocatable := by
  simp only [Gfm.rules, List.mem_cons, List.not_mem_nil, or_false] at member
  rcases member with rfl | rfl | rfl | rfl | rfl | rfl | rfl | rfl | rfl | rfl
  any_goals exact .of_some (fun _ _ _ => rfl) (fun _ _ _ _ => rfl)
  · refine .of_some (fun _ _ _ => rfl) fun top sight inside given => ?_
    rw [tableCell, tableCell, Position.place_under top inside]
    rfl
  · refine .of_some (fun _ _ _ => rfl) fun top sight inside given => ?_
    have border : rowBorder (sight.position.under top) = rowBorder sight.position := by
      rw [rowBorder, rowBorder, Position.node_under]
      rw [show (sight.position.under top).address = top ++ sight.position.address from rfl,
        childAddresses_under, borderCells_under]
      rfl
    rw [tableRow, tableRow, border]

end Gfm

/-! ## Rules written as data -/

section Data

variable (top : Address) {position : Position} (replacements : Replacements)

@[simp] theorem Replacements.contentAt_under (position : Position) :
    (replacements.under top).contentAt (position.under top) = replacements.contentAt position := by
  rw [contentAt, contentAt, Position.node_under]
  cases position.node with
  | text kind content => rfl
  | mark kind content => rfl
  | element tag children => exact contentFrom_under top replacements position.address 0 children

namespace Condition

mutual

theorem holds_under : (condition : Condition) →
    condition.holds (position.under top) (replacements.under top) =
      condition.holds position replacements
  | constant _ => rfl
  | named _ => rfl
  | hasAttribute _ => rfl
  | parentNamed _ => rfl
  | block _ => rfl
  | void _ => rfl
  | contains part => by
      rw [holds, holds, Replacements.contentAt_under]
  | childrenDone expected => by
      have same : (replacements.under top).coversBelow (position.under top).address
          (position.under top).node = replacements.coversBelow position.address position.node :=
        Replacements.coversBelow_under top replacements position.address position.node
      rw [holds, holds, same]
      rfl
  | all conditions => by
      rw [holds, holds, allHold_under]
  | any conditions => by
      rw [holds, holds, anyHolds_under]
  | negation condition => by
      rw [holds, holds, holds_under]

theorem allHold_under : (conditions : List Condition) →
    allHold (position.under top) (replacements.under top) conditions =
      allHold position replacements conditions
  | [] => rfl
  | condition :: rest => by
      rw [allHold, allHold, holds_under, allHold_under]

theorem anyHolds_under : (conditions : List Condition) →
    anyHolds (position.under top) (replacements.under top) conditions =
      anyHolds position replacements conditions
  | [] => rfl
  | condition :: rest => by
      rw [anyHolds, anyHolds, holds_under, anyHolds_under]

end

end Condition

variable (inside : position.address ≠ [])

include inside

theorem Piece.render_under (given : Text) (piece : Piece) :
    piece.render given (position.under top) (replacements.under top) =
      piece.render given position replacements := by
  have parent := Position.parentAddress_under top inside
  cases piece with
  | literal text => rfl
  | content => rfl
  | trimmedContent => rfl
  | outer content => rfl
  | contentOf subject =>
      cases subject with
      | self => exact replacements.contentAt_under top position
      | parent =>
          simp only [render, Replacements.parentContent, parent]
          rw [Replacements.contentFrom_under]
          rfl
  | replacementOf subject =>
      cases subject with
      | self =>
          simp only [render, Replacements.atPosition]
          rw [show (position.under top).address = top ++ position.address from rfl]
          simp only [Replacements.get_under, Position.node_under]
      | parent =>
          simp only [render, Replacements.parentText, parent, Replacements.get_under]
          rfl
  | name => rfl
  | attributeText key => rfl
  | children separator =>
      have items : (replacements.under top).childTexts (position.under top).address 0
          (position.under top).node.children =
            replacements.childTexts position.address 0 position.node.children :=
        Replacements.childTexts_under top replacements position.address 0 _
      rw [render, render, items]
  | textContent => rfl
  | innerMarkup => rfl

theorem Template.toRendering_under (template : Template) (given : Text) :
    template.toRendering given (position.under top) (replacements.under top) =
      template.toRendering given position replacements := by
  have pieces : Piece.render given (position.under top) (replacements.under top) =
      Piece.render given position replacements :=
    funext fun piece => piece.render_under top replacements inside given
  rw [toRendering, toRendering, pieces]

end Data

/-- A filter made from data. -/
theorem Filter.selects_ofValue_under {value : Value} {filter : Filter}
    (made : Filter.ofValue value = .ok filter) (top : Address) (position : Position)
    (replacements : Replacements) :
    filter.selects (position.under top) (replacements.under top) =
      filter.selects position replacements := by
  have collection {items : List Value} (made : Filter.ofCollection items = .ok filter) :
      filter.selects (position.under top) (replacements.under top) =
        filter.selects position replacements := by
    rw [ofCollection] at made
    split at made
    · cases made
      rfl
    · cases made
  cases value with
  | condition condition =>
      cases made
      exact condition.holds_under top replacements
  | conditionFilter condition =>
      cases made
      exact condition.holds_under top replacements
  | template template =>
      cases made
      rfl
  | exactName name =>
      cases made
      rfl
  | nameSet names =>
      cases made
      rfl
  | text content =>
      cases made
      rfl
  | list items => exact collection made
  | tuple items => exact collection made
  | set items => exact collection made
  | frozenSet items => exact collection made
  | _ => cases made

theorem Converter.isRelocatable_of_build {filter replacement : Value} {converter : Converter}
    (built : Converter.build filter replacement = .ok converter) : converter.IsRelocatable := by
  obtain ⟨made, filterMade, built⟩ := bind_eq_ok_iff.1 built
  cases replacement with
  | template template =>
      cases built
      exact .of_some (fun top sight _ => Filter.selects_ofValue_under filterMade top _ _)
        fun top sight inside given => template.toRendering_under top _ inside given
  | condition condition =>
      cases built
      exact .of_some (fun top sight _ => Filter.selects_ofValue_under filterMade top _ _)
        fun _ _ _ _ => rfl
  | _ => cases built

/-- Converters that are made from data. -/
theorem Definition.isRelocatable_of_value {value : Value} {converter : Converter}
    (built : (Definition.value value).toConverter = .ok converter) :
    converter.IsRelocatable := by
  cases value with
  | mapping entries =>
      obtain ⟨filter, -, built⟩ := bind_eq_ok_iff.1 built
      obtain ⟨replacement, -, built⟩ := bind_eq_ok_iff.1 built
      exact Converter.isRelocatable_of_build built
  | object attributes =>
      rw [toConverter] at built
      split at built
      · exact Converter.isRelocatable_of_build built
      · cases built
  | _ => cases built

/-! ## Recursion over the tree -/

namespace Inside

theorem entriesFrom_under (top address : Address) (index : Nat) (items : List Text) :
    entriesFrom (top ++ address) index items =
      (entriesFrom address index items).map fun entry => (top ++ entry.1, entry.2) := by
  induction items generalizing index with
  | nil => rfl
  | cons item rest ih => rw [entriesFrom, entriesFrom, ih, List.map_cons, List.append_assoc]

theorem table_under (top address : Address) (inside : Inside) :
    inside.table (top ++ address) = (inside.table address).under top := by
  rw [table, entriesFrom_under]
  rfl

end Inside

namespace Registry

variable {registry : Registry}

def IsRelocatable (registry : Registry) : Prop :=
  ∀ converter ∈ registry.converters, converter.IsRelocatable

theorem isRelocatable_builtIn (gfm : Bool) : (builtIn gfm).IsRelocatable := by
  intro converter member
  rcases mem_builtIn member with inGfm | inBase
  · exact Gfm.isRelocatable_of_mem inGfm
  · exact Base.isRelocatable_of_mem inBase

theorem IsRelocatable.finish_under (isRelocatable : registry.IsRelocatable) (top : Address)
    {position : Position} (below : position.address ≠ []) (inside : Inside) :
    registry.finish (position.under top) inside = registry.finish position inside := by
  let sight : Sight := ⟨position, inside.table position.address⟩
  have actsLike : registry.ActsLike registry (sight.under top) sight :=
    List.forall₂_same.2 fun converter member => isRelocatable converter member top sight below
  have moved : inside.table (position.under top).address =
      (inside.table position.address).under top := inside.table_under top position.address
  rw [finish_eq_rendered, finish_eq_rendered, moved]
  exact actsLike.rendered_eq rfl rfl inside.content

mutual

theorem IsRelocatable.markdownOf_under (isRelocatable : registry.IsRelocatable) (top : Address)
    {address : Address} (below : address ≠ []) (surroundings : Option Surroundings) :
    (node : Node) → registry.markdownOf (top ++ address) surroundings node =
      registry.markdownOf address surroundings node
  | .text _ _ => rfl
  | .mark _ _ => rfl
  | .element tag children => by
      rw [markdownOf, markdownOf, isRelocatable.insideOf_under top address tag []]
      refine congrArg _ (funext fun inside => ?_)
      exact @IsRelocatable.finish_under registry isRelocatable top
        ⟨address, .element tag children, surroundings⟩ below inside

/-- Where an element stands does not matter for what its children become. -/
theorem IsRelocatable.insideOf_under (isRelocatable : registry.IsRelocatable)
    (top address : Address) (tag : Tag) (before : List Node) :
    (nodes : List Node) → registry.insideOf (top ++ address) tag before nodes =
      registry.insideOf address tag before nodes
  | [] => by
      rw [insideOf, insideOf]
  | node :: rest => by
      have later := isRelocatable.insideOf_under top address tag (before ++ [node]) rest
      have below : address ++ [elementCount before] ≠ [] := by simp
      have first := isRelocatable.markdownOf_under top below (some ⟨tag, before, rest⟩) node
      cases node with
      | text kind content => rw [insideOf, insideOf, later]
      | mark kind content => rw [insideOf, insideOf, later]
      | element own inner => rw [insideOf, insideOf, later, List.append_assoc, first]

end

end Registry

end PageMark
