import PageMark.Document.Position
import PageMark.Failure

/-!
# Replacements

The Markdown of the elements converted so far, by address.  An entry is
written once and never changes.
-/

namespace PageMark

/-- The latest entry comes first. -/
structure Replacements where
  entries : List (Address × Text)
deriving DecidableEq, Repr

namespace Replacements

def empty : Replacements where
  entries := []

def find? (replacements : Replacements) (address : Address) : Option Text :=
  (replacements.entries.find? fun entry => entry.1 == address).map Prod.snd

def has (replacements : Replacements) (address : Address) : Bool :=
  (replacements.find? address).isSome

/-- `name` is the element's name, for the failure. -/
def get (replacements : Replacements) (address : Address) (name : String) :
    Except Failure Text :=
  match replacements.find? address with
  | some text => .ok text
  | none => .error (.notConverted name)

def record (replacements : Replacements) (address : Address) (name : String) (text : Text) :
    Except Failure Replacements :=
  if replacements.has address then .error (.alreadyConverted name)
  else .ok { entries := (address, text) :: replacements.entries }

@[simp] theorem find?_empty (address : Address) : empty.find? address = none :=
  rfl

theorem get_eq_ok_iff {replacements : Replacements} {address : Address} {name : String}
    {text : Text} :
    replacements.get address name = .ok text ↔ replacements.find? address = some text := by
  cases found : replacements.find? address with
  | none => simp [get, found]
  | some entry => simp [get, found]

theorem record_eq_ok_iff {replacements later : Replacements} {address : Address}
    {name : String} {text : Text} :
    replacements.record address name text = .ok later ↔
      replacements.has address = false ∧
        later = { entries := (address, text) :: replacements.entries } := by
  cases known : replacements.has address with
  | true => simp [record, known]
  | false => simp [record, known, eq_comm]

/-- Recording changes the answer at one address only. -/
theorem find?_record {replacements later : Replacements} {address : Address}
    {name : String} {text : Text}
    (recorded : replacements.record address name text = .ok later) (other : Address) :
    later.find? other = if other = address then some text else replacements.find? other := by
  obtain ⟨_, rfl⟩ := record_eq_ok_iff.1 recorded
  by_cases same : address = other
  · simp [find?, same]
  · simp [find?, same, Ne.symm same]

/-- Texts as they are and elements by their replacements, in order; marks do
not count.  The elements are numbered from `index`. -/
def contentFrom (replacements : Replacements) (address : Address) (index : Nat) :
    List Node → Except Failure Text
  | [] => .ok []
  | .text _ content :: rest => do
      let others ← contentFrom replacements address index rest
      return content ++ others
  | .mark _ _ :: rest => contentFrom replacements address index rest
  | .element tag _ :: rest => do
      let first ← replacements.get (address ++ [index]) tag.name
      let others ← contentFrom replacements address (index + 1) rest
      return first ++ others

/-- The content of two stretches of children is that of the one and the other. -/
theorem contentFrom_append (replacements : Replacements) (address : Address) (index : Nat)
    (left right : List Node) :
    replacements.contentFrom address index (left ++ right) = do
      let first ← replacements.contentFrom address index left
      let others ← replacements.contentFrom address (index + elementCount left) right
      return first ++ others := by
  induction left generalizing index with
  | nil =>
      cases outcome : replacements.contentFrom address index right <;>
        simp [contentFrom, elementCount, elementsAmong, outcome, bind, Except.bind, pure,
          Except.pure]
  | cons node rest ih =>
      cases node with
      | text kind content =>
          have same : index + elementCount (.text kind content :: rest) =
              index + elementCount rest := by
            simp [Node.isElement]
          rw [List.cons_append, contentFrom, contentFrom, ih, same]
          cases replacements.contentFrom address index rest with
          | error failure => rfl
          | ok first =>
              cases replacements.contentFrom address (index + elementCount rest) right with
              | error failure => rfl
              | ok others => simp [bind, Except.bind, pure, Except.pure]
      | mark kind content =>
          simp only [List.cons_append, contentFrom, ih, elementCount_cons, Node.isElement]
          simp
      | element tag children =>
          have next : index + elementCount (.element tag children :: rest) =
              index + 1 + elementCount rest := by
            simp only [elementCount_cons, Node.isElement, if_true]
            omega
          rw [List.cons_append, contentFrom, contentFrom, ih, next]
          cases replacements.get (address ++ [index]) tag.name with
          | error failure => rfl
          | ok own =>
              cases replacements.contentFrom address (index + 1) rest with
              | error failure => rfl
              | ok first =>
                  cases replacements.contentFrom address (index + 1 + elementCount rest) right with
                  | error failure => rfl
                  | ok others => simp [bind, Except.bind, pure, Except.pure]

/-- The content of the node at `address`, made of what its children became. -/
def contentOf (replacements : Replacements) (address : Address) (node : Node) :
    Except Failure Text :=
  match node with
  | .element _ children => replacements.contentFrom address 0 children
  | _ => .error .notAnElement

/-- The replacements of the element children, in order. -/
def childTexts (replacements : Replacements) (address : Address) (index : Nat) :
    List Node → Except Failure (List Text)
  | [] => .ok []
  | .element tag _ :: rest => do
      let first ← replacements.get (address ++ [index]) tag.name
      let others ← childTexts replacements address (index + 1) rest
      return first :: others
  | _ :: rest => childTexts replacements address index rest

def atPosition (replacements : Replacements) (position : Position) : Except Failure Text :=
  match position.node with
  | .element tag _ => replacements.get position.address tag.name
  | _ => .error .notAnElement

def contentAt (replacements : Replacements) (position : Position) : Except Failure Text :=
  replacements.contentOf position.address position.node

/-- The content of the parent. -/
def parentContent (replacements : Replacements) (position : Position) :
    Except Failure Text :=
  match position.surroundings with
  | some _ => replacements.contentFrom position.parentAddress 0 position.siblings
  | none => .error .notAnElement

/-- The replacement of the parent. -/
def parentText (replacements : Replacements) (position : Position) : Except Failure Text :=
  match position.surroundings with
  | some surroundings => replacements.get position.parentAddress surroundings.parent.name
  | none => .error .notAnElement

mutual

/-- Whether every element below the node at `address` has a replacement. -/
def coversBelow (replacements : Replacements) (address : Address) : Node → Bool
  | .element _ children => coversAll replacements address 0 children
  | _ => true

def coversAll (replacements : Replacements) (address : Address) (index : Nat) :
    List Node → Bool
  | [] => true
  | .element tag children :: rest =>
      replacements.has (address ++ [index]) &&
        coversBelow replacements (address ++ [index]) (.element tag children) &&
        coversAll replacements address (index + 1) rest
  | .text _ _ :: rest => coversAll replacements address index rest
  | .mark _ _ :: rest => coversAll replacements address index rest

end

end Replacements

end PageMark
