import Mathlib.Logic.Relation
import PageMark.Proofs.Thinning

/-!
# The queue lists level by level

The loop over the queue comes to an end, and what it has listed by then is the
top followed by every element below it.  Set beside the elements in document
order, these are the same elements, each of them once, sorted by their depth:
those of one depth are listed as they stand in the document.  So nothing is
listed behind what stands below it, and nothing before it in the reversed list.
-/

namespace PageMark

/-! ## The loop over the queue -/

/-- The entries that wait in the queue, and those that have left it. -/
structure Listing where
  queue : List (Address × Node)
  listed : List (Address × Node)

namespace Listing

/-- The first entry leaves the queue and its element children join at the end.  With
nothing in the queue there is no going on. -/
def advance : Listing → Option Listing
  | { queue := [], listed := _ } => none
  | { queue := (address, node) :: rest, listed } =>
      some
        { queue := rest ++ childEntries address 0 node.children
          listed := listed ++ [(address, node)] }

/-- The loop gets from one listing to the other. -/
abbrev Reaches : Listing → Listing → Prop :=
  Relation.ReflTransGen fun before after => before.advance = some after

/-- Wherever the loop gets to from the first listing, it goes on to the last one, and there it
stops. -/
def Ends (first last : Listing) : Prop :=
  last.advance = none ∧ ∀ middle, Reaches first middle → Reaches middle last

theorem Reaches.ends {first last : Listing} (reaches : Reaches first last)
    (stops : last.advance = none) : Ends first last := by
  refine ⟨stops, fun middle begun => ?_⟩
  have unique : Relator.RightUnique fun before after : Listing => before.advance = some after :=
    fun before left right toLeft toRight => Option.some.inj (toLeft.symm.trans toRight)
  rcases Relation.ReflTransGen.total_of_right_unique unique begun reaches with onward | beyond
  · exact onward
  · rcases Relation.ReflTransGen.cases_head beyond with rfl | ⟨next, step, -⟩
    · exact .refl
    · rw [stops] at step
      cases step

/-- With enough fuel draining the queue is what the loop does until the queue is empty. -/
theorem reaches_drainQueue {fuel : Nat} {queue : List (Address × Node)}
    (fed : QueueFed fuel queue) (listed : List (Address × Node)) :
    Reaches { queue := queue, listed := listed }
      { queue := [], listed := listed ++ drainQueue fuel queue } := by
  induction fuel generalizing queue listed with
  | zero =>
      obtain rfl := fed.eq_nil
      simpa [drainQueue] using Relation.ReflTransGen.refl
  | succ fuel ih =>
      cases queue with
      | nil => simpa [drainQueue] using Relation.ReflTransGen.refl
      | cons first rest =>
          have later := ih fed.step (listed ++ [first])
          rw [List.append_assoc, List.singleton_append] at later
          exact .head rfl later

end Listing

/-! ## Elements in document order -/

mutual

/-- The elements below a node, each one before those below it. -/
def Node.documentEntries (address : Address) : Node → List (Address × Node)
  | .element _ children => documentEntriesAmong address 0 children
  | _ => []

/-- The elements among these children and below them, numbered from `index`. -/
def documentEntriesAmong (address : Address) (index : Nat) : List Node → List (Address × Node)
  | [] => []
  | node :: rest =>
      if node.isElement then
        (address ++ [index], node) ::
          (node.documentEntries (address ++ [index]) ++
            documentEntriesAmong address (index + 1) rest)
      else documentEntriesAmong address index rest

end

mutual

/-- These are the elements among the nodes below. -/
theorem Node.map_snd_documentEntries (address : Address) :
    ∀ node : Node, (node.documentEntries address).map Prod.snd =
      (nodesWithin node.children).filter Node.isElement
  | .element _ children => map_snd_documentEntriesAmong address 0 children
  | .text _ _ => rfl
  | .mark _ _ => rfl

theorem map_snd_documentEntriesAmong (address : Address) (index : Nat) :
    ∀ children : List Node, (documentEntriesAmong address index children).map Prod.snd =
      (nodesWithin children).filter Node.isElement
  | [] => rfl
  | .element tag inner :: rest => by
      have below := Node.map_snd_documentEntries (address ++ [index]) (.element tag inner)
      have others := map_snd_documentEntriesAmong address (index + 1) rest
      have isElement : (Node.element tag inner).isElement = true := rfl
      rw [documentEntriesAmong, if_pos isElement, List.map_cons, List.map_append, below, others,
        nodesWithin, Node.withDescendants, List.cons_append, List.filter_cons_of_pos isElement,
        List.filter_append]
      rfl
  | .text kind content :: rest => map_snd_documentEntriesAmong address index rest
  | .mark kind content :: rest => map_snd_documentEntriesAmong address index rest

end

mutual

theorem Node.mem_documentEntries_iff (address : Address) (entry : Address × Node) :
    ∀ node : Node, entry ∈ node.documentEntries address ↔
      ∃ steps, steps ≠ [] ∧ entry.1 = address ++ steps ∧
        node.elementBelow? steps = some entry.2
  | .element tag children =>
      (mem_documentEntriesAmong_iff address 0 entry children).trans
        (@Node.exists_childEntry_iff address (.element tag children) entry)
  | .text kind content => by
      rw [← @Node.exists_childEntry_iff address (.text kind content) entry]
      simp [Node.documentEntries, Node.children, childEntries]
  | .mark kind content => by
      rw [← @Node.exists_childEntry_iff address (.mark kind content) entry]
      simp [Node.documentEntries, Node.children, childEntries]

theorem mem_documentEntriesAmong_iff (address : Address) (index : Nat) (entry : Address × Node) :
    ∀ children : List Node, entry ∈ documentEntriesAmong address index children ↔
      ∃ start ∈ childEntries address index children, ∃ steps, entry.1 = start.1 ++ steps ∧
        start.2.elementBelow? steps = some entry.2
  | [] => by simp [documentEntriesAmong, childEntries]
  | node :: rest => by
      have below := Node.mem_documentEntries_iff (address ++ [index]) entry node
      cases element : node.isElement with
      | false =>
          rw [documentEntriesAmong, element, childEntries, element]
          exact mem_documentEntriesAmong_iff address index entry rest
      | true =>
          have others := mem_documentEntriesAmong_iff address (index + 1) entry rest
          rw [documentEntriesAmong, if_pos element, childEntries, if_pos element,
            List.exists_mem_cons_iff, exists_steps_iff, List.mem_cons, List.mem_append, below,
            others, or_assoc]

end

/-! ## The order of the document -/

/-- An address comes before those that it leads to, and before those that part from it later. -/
abbrev Address.Precedes (left right : Address) : Prop :=
  List.Lex (· < ·) left right

namespace Address

theorem precedes_append (address : Address) {steps : Address} (nonempty : steps ≠ []) :
    Precedes address (address ++ steps) := by
  cases steps with
  | nil => exact absurd rfl nonempty
  | cons index rest =>
      have longer : List.Lex (· < ·) [] (index :: rest) := .nil
      simpa using List.Lex.append_left (· < ·) longer address

theorem precedes_of_lt (address : Address) {index other : Nat} (less : index < other)
    (steps steps' : Address) :
    Precedes (address ++ [index] ++ steps) (address ++ [other] ++ steps') := by
  rw [List.append_assoc, List.append_assoc]
  exact List.Lex.append_left (· < ·) (.rel less) address

end Address

theorem exists_of_mem_documentEntriesAmong {address : Address} {index : Nat}
    {children : List Node} {entry : Address × Node}
    (member : entry ∈ documentEntriesAmong address index children) :
    ∃ count steps, entry.1 = address ++ [index + count] ++ steps := by
  obtain ⟨start, isChild, steps, longer, -⟩ := (mem_documentEntriesAmong_iff _ _ _ _).1 member
  obtain ⟨before, child, after, -, -, rfl⟩ := mem_childEntries_iff.1 isChild
  exact ⟨elementCount before, steps, longer⟩

mutual

theorem Node.pairwise_documentEntries (address : Address) :
    ∀ node : Node, (node.documentEntries address).Pairwise fun earlier later =>
      Address.Precedes earlier.1 later.1
  | .element _ children => pairwise_documentEntriesAmong address 0 children
  | .text _ _ => .nil
  | .mark _ _ => .nil

theorem pairwise_documentEntriesAmong (address : Address) (index : Nat) :
    ∀ children : List Node, (documentEntriesAmong address index children).Pairwise
      fun earlier later => Address.Precedes earlier.1 later.1
  | [] => .nil
  | node :: rest => by
      have below := Node.pairwise_documentEntries (address ++ [index]) node
      rw [documentEntriesAmong]
      split
      · have others := pairwise_documentEntriesAmong address (index + 1) rest
        -- An entry of the others stands at an index that is larger.
        have apart : ∀ steps, ∀ later ∈ documentEntriesAmong address (index + 1) rest,
            Address.Precedes (address ++ [index] ++ steps) later.1 := by
          intro steps later member
          obtain ⟨count, steps', place⟩ := exists_of_mem_documentEntriesAmong member
          rw [place]
          exact Address.precedes_of_lt address (by omega) steps steps'
        refine .cons ?_ (List.pairwise_append.2 ⟨below, others, ?_⟩)
        · intro later member
          rcases List.mem_append.1 member with inside | behind
          · obtain ⟨steps, nonempty, place, -⟩ := (Node.mem_documentEntries_iff _ _ _).1 inside
            rw [place]
            exact Address.precedes_append _ nonempty
          · simpa using apart [] later behind
        · intro earlier inside later behind
          obtain ⟨steps, -, place, -⟩ := (Node.mem_documentEntries_iff _ _ _).1 inside
          rw [place]
          exact apart steps later behind
      · exact pairwise_documentEntriesAmong address index rest

end

/-! ## Level by level -/

/-- These are the elements below the top, each of them once and with the address that leads to
it, sorted by depth; those of one depth are in document order. -/
structure IsLevelOrder (address : Address) (top : Node) (entries : List (Address × Node)) :
    Prop where
  once : (entries.map Prod.fst).Nodup
  below : ∀ entry, entry ∈ entries ↔
    ∃ steps, steps ≠ [] ∧ entry.1 = address ++ steps ∧ top.elementBelow? steps = some entry.2
  nodes : (entries.map Prod.snd).Perm ((nodesWithin top.children).filter Node.isElement)
  byDepth : entries.Pairwise fun earlier later => earlier.1.length ≤ later.1.length
  inLevel : ∀ depth, entries.filter (fun entry => entry.1.length == depth) =
    (top.documentEntries address).filter fun entry => entry.1.length == depth

/-- The elements below a listed one come behind it. -/
def DescendantsBehind (entries : List (Address × Node)) : Prop :=
  ∀ before entry after, entries = before ++ entry :: after →
    ∀ inner ∈ entry.2.documentEntries entry.1, inner ∈ after

/-- The elements below a listed one come before it. -/
def DescendantsBefore (entries : List (Address × Node)) : Prop :=
  ∀ before entry after, entries = before ++ entry :: after →
    ∀ inner ∈ entry.2.documentEntries entry.1, inner ∈ before

theorem DescendantsBehind.reverse {entries : List (Address × Node)}
    (behind : DescendantsBehind entries) : DescendantsBefore entries.reverse := by
  intro before entry after split inner member
  rw [List.reverse_eq_append_iff, List.reverse_cons, List.append_assoc,
    List.singleton_append] at split
  exact List.mem_reverse.1 (behind _ _ _ split inner member)

section Below

variable (address : Address) (tag : Tag) (children : List Node)

theorem Node.pairwise_levelEntries :
    (Node.levelEntries address (.element tag children)).Pairwise fun earlier later =>
      Address.ComesBefore earlier.1 later.1 :=
  List.pairwise_map.1 (Node.pairwise_levelOrder address tag children)

theorem Node.perm_levelEntries :
    (Node.levelEntries address (.element tag children)).Perm
      ((Node.element tag children).documentEntries address) := by
  refine (List.perm_ext_iff_of_nodup ?_ ?_).2 fun entry =>
    mem_levelEntries_iff.trans (mem_documentEntries_iff address entry _).symm
  · refine (pairwise_levelEntries address tag children).imp ?_
    rintro earlier later before rfl
    exact Address.not_comesBefore_self _ before
  · refine (pairwise_documentEntries address (.element tag children)).imp ?_
    rintro earlier later precedes rfl
    exact Std.Asymm.asymm _ _ precedes precedes

/-- Within one depth both orders are that of the document. -/
theorem Node.filter_levelEntries (depth : Nat) :
    (Node.levelEntries address (.element tag children)).filter
        (fun entry => entry.1.length == depth) =
      ((Node.element tag children).documentEntries address).filter
        fun entry => entry.1.length == depth := by
  refine List.Perm.eq_of_pairwise
    (fun left right _ _ precedes precedes' => absurd precedes' (Std.Asymm.asymm _ _ precedes))
    (List.Pairwise.imp_of_mem ?_ ((pairwise_levelEntries address tag children).filter _))
    ((pairwise_documentEntries address (.element tag children)).filter _)
    ((perm_levelEntries address tag children).filter _)
  intro earlier later member member' before
  have same : earlier.1.length = later.1.length := by
    rw [beq_iff_eq.1 (List.mem_filter.1 member).2, beq_iff_eq.1 (List.mem_filter.1 member').2]
  exact (List.shortlex_def.1 before).resolve_left (Nat.not_lt_of_le same.ge) |>.2

theorem Node.isLevelOrder_levelEntries :
    IsLevelOrder address (.element tag children)
      (Node.levelEntries address (.element tag children)) where
  once := by
    refine (Node.pairwise_levelOrder address tag children).imp ?_
    rintro earlier later before rfl
    exact Address.not_comesBefore_self _ before
  below := fun _ => Node.mem_levelEntries_iff
  nodes := by
    rw [← Node.map_snd_documentEntries address]
    exact (Node.perm_levelEntries address tag children).map _
  byDepth := by
    refine (Node.pairwise_levelEntries address tag children).imp ?_
    intro earlier later before
    rcases List.shortlex_def.1 before with shorter | ⟨same, -⟩
    · exact shorter.le
    · exact same.le
  inLevel := Node.filter_levelEntries address tag children

theorem Node.descendantsBehind_levelEntries :
    DescendantsBehind (Node.levelEntries address (.element tag children)) := by
  intro before entry after split inner member
  obtain ⟨steps, nonempty, place, found⟩ := (mem_documentEntries_iff _ _ _).1 member
  have listed : entry ∈ Node.levelEntries address (.element tag children) := by
    rw [split]
    exact List.mem_append_right _ List.mem_cons_self
  obtain ⟨outer, -, place', found'⟩ := mem_levelEntries_iff.1 listed
  have listed' : inner ∈ Node.levelEntries address (.element tag children) := by
    refine mem_levelEntries_iff.2 ⟨outer ++ steps, List.append_ne_nil_of_right_ne_nil _ nonempty,
      by rw [place, place', List.append_assoc], ?_⟩
    rw [elementBelow?_append, found']
    exact found
  have ordered := pairwise_levelEntries address tag children
  rw [split] at listed' ordered
  have above : entry.1 <+: inner.1 := place ▸ List.prefix_append _ _
  rcases List.mem_append.1 listed' with earlier | later
  · -- What is listed earlier does not stand below.
    have comesBefore := (List.pairwise_append.1 ordered).2.2 inner earlier entry List.mem_cons_self
    exact absurd above comesBefore.not_isPrefix
  · rcases List.mem_cons.1 later with rfl | behind
    · exact absurd (List.self_eq_append_right.1 place) nonempty
    · exact behind

end Below

/-- The loop that starts with one element in the queue comes to an end, and has listed by then this
element and, level by level, all those below it.  So every element comes before those below it, and
behind them in the reversed list. -/
theorem Node.queue_lists_levelOrder (address : Address) (tag : Tag) (children : List Node) :
    let top := Node.element tag children
    let entries := top.levelEntries address
    Listing.Ends { queue := [(address, top)], listed := [] }
        { queue := [], listed := (address, top) :: entries } ∧
      IsLevelOrder address top entries ∧ DescendantsBehind entries ∧
      DescendantsBefore entries.reverse := by
  intro top entries
  have behind := Node.descendantsBehind_levelEntries address tag children
  refine ⟨Listing.Reaches.ends ?_ rfl, Node.isLevelOrder_levelEntries address tag children,
    behind, behind.reverse⟩
  have fed : QueueFed top.elementTotal [(address, top)] :=
    ⟨List.forall_mem_singleton.2 rfl, by simp [queueTotal]⟩
  have reaches := Listing.reaches_drainQueue fed []
  have listed : drainQueue top.elementTotal [(address, top)] = (address, top) :: entries := by
    simp [top, entries, Node.levelEntries, Node.elementTotal, drainQueue]
  rwa [listed, List.nil_append] at reaches

/-- In document order the `em` would come before the `ul`. -/
example :
    (Node.levelEntries [] (.element { name := "div", attributes := [] }
      [.element { name := "p", attributes := [] }
          [.element { name := "em", attributes := [] } [.text .plain ['x']]],
        .text .plain ['y'],
        .element { name := "ul", attributes := [] }
          [.element { name := "li", attributes := [] } []]])).map
      (fun entry => (entry.1, entry.2.kind)) =
    [([0], "p"), ([1], "ul"), ([0, 0], "em"), ([1, 0], "li")] := by
  decide +kernel

end PageMark
