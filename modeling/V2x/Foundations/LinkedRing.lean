import Mathlib.Data.List.Chain
import Mathlib.Data.List.Nodup
import Mathlib.Logic.Function.Basic

namespace Foundations

/-!
# Rings of doubly linked cells

A ring is a head together with the member cells that one meets when following
`next` from the head until it comes back.  The two link functions are partial:
a cell that is not allocated has no links.  Every neighbouring pair has to be
linked in both directions, so `prev` visits the same members backwards.

The rules say which links an insertion or a removal at one end has to change,
and that any link functions that agree elsewhere again form a ring.  Nothing
is said about the order in which the links are written.  Exchanging the two
link functions reverses the ring, so the rules for the back follow from the
rules for the front.
-/

universe u

variable {Cell : Type u}

/-- The second cell follows the first one, in both directions. -/
def Linked (next prev : Cell -> Option Cell) (first second : Cell) : Prop :=
  next first = some second ∧ prev second = some first

/-- A list of cells whose neighbours are linked stays one if the forward
links of all but its last cell and the backward links of all but its first
cell are kept. -/
theorem linked_chain_transfer {next prev next' prev' : Cell -> Option Cell} {cells : List Cell}
    (chain : cells.IsChain (Linked next prev))
    (nextKept : forall cell, cell ∈ cells.dropLast -> next' cell = next cell)
    (prevKept : forall cell, cell ∈ cells.tail -> prev' cell = prev cell) :
    cells.IsChain (Linked next' prev') := by
  induction cells with
  | nil => exact List.IsChain.nil
  | cons first rest inductionHypothesis =>
      cases rest with
      | nil => exact List.IsChain.singleton first
      | cons second rest =>
          rcases List.isChain_cons_cons.mp chain with ⟨pair, remaining⟩
          apply List.isChain_cons_cons.mpr
          constructor
          · have forward := nextKept first (by simp)
            have backward := prevKept second (by simp)
            exact ⟨forward.trans pair.1, backward.trans pair.2⟩
          · apply inductionHypothesis remaining
            · intro cell member
              exact nextKept cell (by simpa using Or.inr member)
            · intro cell member
              exact prevKept cell (by simpa using Or.inr member)

/-- The members of a ring, in forward order from the head. -/
structure Ring (next prev : Cell -> Option Cell) (head : Cell) (nodes : List Cell) : Prop where
  distinct : (head :: nodes).Nodup
  linked : (head :: (nodes ++ [head])).IsChain (Linked next prev)

namespace Ring

variable {next prev next' prev' : Cell -> Option Cell} {head : Cell} {nodes : List Cell}

theorem empty (forward : next head = some head) (backward : prev head = some head) :
    Ring next prev head [] where
  distinct := List.nodup_singleton head
  linked := List.isChain_pair.mpr ⟨forward, backward⟩

/-- Exchanging the link functions reverses the order of the members. -/
theorem reverse (ring : Ring next prev head nodes) : Ring prev next head nodes.reverse where
  distinct := by
    have parts := List.nodup_cons.mp ring.distinct
    exact List.nodup_cons.mpr ⟨fun member => parts.1 (List.mem_reverse.mp member),
      List.nodup_reverse.mpr parts.2⟩
  linked := by
    have shape : (head :: (nodes ++ [head])).reverse = head :: (nodes.reverse ++ [head]) := by
      simp
    have flipped : List.IsChain (fun first second => Linked next prev second first)
        (head :: (nodes.reverse ++ [head])) := by
      rw [← shape]
      exact List.isChain_reverse.mpr (by simpa using ring.linked)
    exact List.IsChain.imp (fun _ _ pair => ⟨pair.2, pair.1⟩) flipped

/-- The head and the first member are linked. -/
theorem linked_head (ring : Ring next prev head nodes) :
    Linked next prev head (nodes.headD head) := by
  cases nodes with
  | nil => exact List.isChain_pair.mp ring.linked
  | cons first rest => exact (List.isChain_cons_cons.mp ring.linked).1

theorem next_head (ring : Ring next prev head nodes) :
    next head = some (nodes.headD head) :=
  ring.linked_head.1

theorem prev_head (ring : Ring next prev head nodes) :
    prev head = some (nodes.getLastD head) := by
  have backwards := ring.reverse.next_head
  rw [backwards]
  cases nodes using List.reverseRecOn <;> simp

/-- The link functions of a ring may change outside its cells. -/
theorem congr (ring : Ring next prev head nodes)
    (nextKept : forall cell, cell ∈ head :: nodes -> next' cell = next cell)
    (prevKept : forall cell, cell ∈ head :: nodes -> prev' cell = prev cell) :
    Ring next' prev' head nodes where
  distinct := ring.distinct
  linked := by
    apply linked_chain_transfer ring.linked
    · intro cell member
      have shape : (head :: (nodes ++ [head])).dropLast = head :: nodes := by
        rw [← List.cons_append, List.dropLast_concat]
      exact nextKept cell (shape ▸ member)
    · intro cell member
      apply prevKept cell
      rw [List.tail_cons, List.mem_append, List.mem_singleton] at member
      exact List.mem_cons.mpr member.symm

/-- Put a new cell between the head and the first member. -/
theorem insertFront (ring : Ring next prev head nodes) {node : Cell}
    (fresh : node ∉ head :: nodes)
    (headNext : next' head = some node) (nodeNext : next' node = some (nodes.headD head))
    (nodePrev : prev' node = some head) (firstPrev : prev' (nodes.headD head) = some node)
    (nextKept : forall cell, cell ∈ nodes -> next' cell = next cell)
    (prevKept : forall cell, cell ∈ head :: nodes -> cell ≠ nodes.headD head ->
      prev' cell = prev cell) :
    Ring next' prev' head (node :: nodes) where
  distinct := by
    have parts := List.nodup_cons.mp ring.distinct
    have outside : node ≠ head ∧ node ∉ nodes := by
      simpa only [List.mem_cons, not_or] using fresh
    apply List.nodup_cons.mpr
    exact ⟨List.not_mem_cons_of_ne_of_not_mem (Ne.symm outside.1) parts.1,
      List.nodup_cons.mpr ⟨outside.2, parts.2⟩⟩
  linked := by
    have rest : (nodes ++ [head]).IsChain (Linked next' prev') := by
      apply linked_chain_transfer ring.linked.tail
      · intro cell member
        rw [List.tail_cons, List.dropLast_concat] at member
        exact nextKept cell member
      · intro cell member
        rw [List.tail_cons] at member
        cases nodes with
        | nil => cases member
        | cons first others =>
            rw [List.cons_append, List.tail_cons, List.mem_append, List.mem_singleton] at member
            have parts := List.nodup_cons.mp ring.distinct
            have firstParts := List.nodup_cons.mp parts.2
            rcases member with later | atHead
            · apply prevKept cell (List.mem_cons_of_mem _ (List.mem_cons_of_mem _ later))
              intro same
              have atFirst : cell = first := same
              exact firstParts.1 (atFirst ▸ later)
            · subst cell
              exact prevKept head List.mem_cons_self
                (fun same => parts.1 (List.mem_cons.mpr (Or.inl same)))
    cases nodes with
    | nil =>
        exact List.isChain_cons_cons.mpr ⟨⟨headNext, nodePrev⟩,
          List.isChain_cons_cons.mpr ⟨⟨nodeNext, firstPrev⟩, rest⟩⟩
    | cons first others =>
        exact List.isChain_cons_cons.mpr ⟨⟨headNext, nodePrev⟩,
          List.isChain_cons_cons.mpr ⟨⟨nodeNext, firstPrev⟩, rest⟩⟩

/-- Take the first member out. -/
theorem removeFront {first : Cell} (ring : Ring next prev head (first :: nodes))
    (headNext : next' head = some (nodes.headD head))
    (secondPrev : prev' (nodes.headD head) = some head)
    (nextKept : forall cell, cell ∈ nodes -> next' cell = next cell)
    (prevKept : forall cell, cell ∈ head :: nodes -> cell ≠ nodes.headD head ->
      prev' cell = prev cell) :
    Ring next' prev' head nodes where
  distinct := by
    have parts := List.nodup_cons.mp ring.distinct
    exact List.nodup_cons.mpr ⟨fun member => parts.1 (List.mem_cons_of_mem _ member),
      (List.nodup_cons.mp parts.2).2⟩
  linked := by
    have parts := List.nodup_cons.mp ring.distinct
    have remaining : (nodes ++ [head]).IsChain (Linked next prev) :=
      (List.isChain_cons_cons.mp ring.linked).2.tail
    cases nodes with
    | nil => exact List.isChain_pair.mpr ⟨headNext, secondPrev⟩
    | cons second others =>
        have secondParts := List.nodup_cons.mp (List.nodup_cons.mp parts.2).2
        apply List.isChain_cons_cons.mpr
        refine ⟨⟨headNext, secondPrev⟩, ?_⟩
        apply linked_chain_transfer remaining
        · intro cell member
          rw [List.dropLast_concat] at member
          exact nextKept cell member
        · intro cell member
          rw [List.cons_append, List.tail_cons, List.mem_append, List.mem_singleton] at member
          rcases member with later | atHead
          · apply prevKept cell (List.mem_cons_of_mem _ (List.mem_cons_of_mem _ later))
            intro same
            have atSecond : cell = second := same
            exact secondParts.1 (atSecond ▸ later)
          · subst cell
            apply prevKept head List.mem_cons_self
            intro same
            exact parts.1 (List.mem_cons_of_mem _ (List.mem_cons.mpr (Or.inl same)))

/-- Take the last member out. -/
theorem removeBack {last : Cell} (ring : Ring next prev head (nodes ++ [last]))
    (headPrev : prev' head = some (nodes.getLastD head))
    (beforeNext : next' (nodes.getLastD head) = some head)
    (prevKept : forall cell, cell ∈ nodes -> prev' cell = prev cell)
    (nextKept : forall cell, cell ∈ head :: nodes -> cell ≠ nodes.getLastD head ->
      next' cell = next cell) :
    Ring next' prev' head nodes := by
  have backwards := ring.reverse
  rw [List.reverse_append, List.reverse_singleton, List.singleton_append] at backwards
  have front : nodes.reverse.headD head = nodes.getLastD head := by
    cases nodes using List.reverseRecOn <;> simp
  have removed : Ring prev' next' head nodes.reverse := by
    apply backwards.removeFront
    · rw [front]
      exact headPrev
    · rw [front]
      exact beforeNext
    · intro cell member
      exact prevKept cell (List.mem_reverse.mp member)
    · intro cell member different
      rw [front] at different
      apply nextKept cell _ different
      simpa using member
  simpa using removed.reverse

/-- A member and the next one are linked, and so are the last one and the head. -/
theorem linked_member {before rest : List Cell} {cell : Cell}
    (ring : Ring next prev head (before ++ cell :: rest)) :
    Linked next prev cell (rest.headD head) := by
  have whole : head :: (before ++ cell :: rest ++ [head]) =
      (head :: before) ++ cell :: (rest ++ [head]) := by
    rw [List.append_assoc, List.cons_append, List.cons_append]
  have chain := ring.linked
  rw [whole, List.isChain_split] at chain
  cases rest with
  | nil => exact List.isChain_pair.mp chain.2
  | cons second rest => exact (List.isChain_cons_cons.mp chain.2).1

theorem prev_member {before rest : List Cell} {cell : Cell}
    (ring : Ring next prev head (before ++ cell :: rest)) :
    prev cell = some (before.getLastD head) := by
  have backwards := ring.reverse
  rw [List.reverse_append, List.reverse_cons, List.append_assoc, List.singleton_append] at backwards
  rw [backwards.linked_member.1]
  cases before using List.reverseRecOn <;> simp

/-- The backward link of the last member. -/
theorem prev_last {last : Cell} (ring : Ring next prev head (nodes ++ [last])) :
    prev last = some (nodes.getLastD head) :=
  ring.prev_member

/-- Every cell is linked to one that the members determine. -/
theorem exists_linked (head : Cell) (nodes : List Cell) {cell : Cell}
    (member : cell ∈ head :: nodes) : Exists fun second =>
      forall next prev : Cell -> Option Cell, Ring next prev head nodes ->
        Linked next prev cell second := by
  rcases List.mem_cons.mp member with rfl | isNode
  · exact ⟨_, fun _ _ ring => ring.linked_head⟩
  · rcases List.append_of_mem isNode with ⟨before, rest, rfl⟩
    exact ⟨_, fun _ _ ring => ring.linked_member⟩

/-- Two rings with the same members have the same links. -/
theorem next_unique (ring : Ring next prev head nodes) (other : Ring next' prev' head nodes)
    {cell : Cell} (member : cell ∈ head :: nodes) : next' cell = next cell := by
  rcases exists_linked head nodes member with ⟨second, linked⟩
  exact (linked next' prev' other).1.trans (linked next prev ring).1.symm

theorem prev_unique (ring : Ring next prev head nodes) (other : Ring next' prev' head nodes)
    {cell : Cell} (member : cell ∈ head :: nodes) : prev' cell = prev cell := by
  apply ring.reverse.next_unique other.reverse
  rwa [List.mem_cons, List.mem_reverse, ← List.mem_cons]

/-- The backward link of the next cell leads back. -/
theorem next_prev (ring : Ring next prev head nodes) {cell : Cell}
    (member : cell ∈ head :: nodes) : (next cell).bind prev = some cell := by
  rcases exists_linked head nodes member with ⟨second, linked⟩
  have pair := linked next prev ring
  rw [pair.1, Option.bind_some]
  exact pair.2

theorem prev_next (ring : Ring next prev head nodes) {cell : Cell}
    (member : cell ∈ head :: nodes) : (prev cell).bind next = some cell := by
  apply ring.reverse.next_prev
  rwa [List.mem_cons, List.mem_reverse, ← List.mem_cons]

/-- Members that follow each other are neighbours in the list. -/
theorem neighbours (ring : Ring next prev head nodes) {first second : Cell} (isFirst : first ∈ nodes)
    (isSecond : second ∈ nodes) (follows : next first = some second) :
    Exists fun before => Exists fun rest => nodes = before ++ first :: second :: rest := by
  rcases List.append_of_mem isFirst with ⟨before, after, rfl⟩
  have isNext := Option.some.inj (ring.linked_member.1.symm.trans follows)
  cases after with
  | nil =>
      have isHead : head = second := isNext
      exact absurd isSecond (isHead ▸ (List.nodup_cons.mp ring.distinct).1)
  | cons other rest =>
      have same : other = second := isNext
      exact ⟨before, rest, by rw [same]⟩

/-- Exchange two neighbouring members.  The links between them and those of the
cells on both sides change. -/
theorem exchange {before rest : List Cell} {first second : Cell}
    (ring : Ring next prev head (before ++ first :: second :: rest))
    (beforeNext : next' (before.getLastD head) = some second)
    (secondNext : next' second = some first) (firstNext : next' first = some (rest.headD head))
    (secondPrev : prev' second = some (before.getLastD head))
    (firstPrev : prev' first = some second) (restPrev : prev' (rest.headD head) = some first)
    (nextKept : forall cell, cell ∈ head :: (before ++ rest) -> cell ≠ before.getLastD head ->
      next' cell = next cell)
    (prevKept : forall cell, cell ∈ head :: (before ++ rest) -> cell ≠ rest.headD head ->
      prev' cell = prev cell) :
    Ring next' prev' head (before ++ second :: first :: rest) where
  distinct := by
    have swapped : (head :: (before ++ second :: first :: rest)).Perm
        (head :: (before ++ first :: second :: rest)) :=
      ((List.Perm.swap first second rest).append_left before).cons head
    exact swapped.nodup_iff.mpr ring.distinct
  linked := by
    have kept : (head :: (before ++ rest)).Sublist (head :: (before ++ first :: second :: rest)) :=
      (((List.sublist_cons_self second rest).trans (List.sublist_cons_self first _)).append_left
        before).cons_cons head
    have distinct := ring.distinct.sublist kept
    rw [← List.cons_append] at distinct
    rcases List.nodup_append.mp distinct with ⟨leftDistinct, rightDistinct, apart⟩
    have left : Exists fun others => head :: before = others ++ [before.getLastD head] := by
      cases before using List.reverseRecOn with
      | nil => exact ⟨[], rfl⟩
      | append_singleton others last => exact ⟨head :: others, by simp⟩
    have right : Exists fun others => rest ++ [head] = rest.headD head :: others := by
      cases rest with
      | nil => exact ⟨[], rfl⟩
      | cons third others => exact ⟨others ++ [head], rfl⟩
    rcases left with ⟨lefts, isLeft⟩
    rcases right with ⟨rights, isRight⟩
    have shape : forall one two : Cell, head :: (before ++ one :: two :: rest ++ [head]) =
        lefts ++ before.getLastD head :: one :: two :: rest.headD head :: rights := by
      intro one two
      rw [List.append_assoc, ← List.cons_append, isLeft, List.cons_append, List.cons_append, isRight,
        List.append_assoc, List.singleton_append]
    have chain := ring.linked
    rw [shape, List.isChain_append_cons_cons, List.isChain_cons_cons, List.isChain_cons_cons] at chain
    rcases chain with ⟨leftChain, _, _, _, rightChain⟩
    rw [shape, List.isChain_append_cons_cons, List.isChain_cons_cons, List.isChain_cons_cons]
    refine ⟨?_, ⟨beforeNext, secondPrev⟩, ⟨secondNext, firstPrev⟩, ⟨firstNext, restPrev⟩, ?_⟩
    · apply linked_chain_transfer leftChain
      · intro cell member
        rw [List.dropLast_concat] at member
        have isMember : cell ∈ head :: before := isLeft ▸ List.mem_append_left _ member
        rw [isLeft] at leftDistinct
        exact nextKept cell (List.mem_append_left rest isMember)
          ((List.nodup_append.mp leftDistinct).2.2 cell member _ List.mem_cons_self)
      · intro cell member
        rw [← isLeft, List.tail_cons] at member
        have isMember : cell ∈ head :: before := List.mem_cons_of_mem _ member
        refine prevKept cell (List.mem_append_left rest isMember) ?_
        cases rest with
        | nil =>
            exact fun (same : cell = head) => (List.nodup_cons.mp leftDistinct).1 (same ▸ member)
        | cons third others => exact apart cell isMember third List.mem_cons_self
    · apply linked_chain_transfer rightChain
      · intro cell member
        rw [← isRight, List.dropLast_concat] at member
        refine nextKept cell (List.mem_append_right (head :: before) member) ?_
        exact (apart _ (isLeft ▸ List.mem_append_right _ List.mem_cons_self) cell member).symm
      · intro cell member
        have notHead : head ∉ rest := fun isRest => apart head List.mem_cons_self head isRest rfl
        have allDistinct : (rest ++ [head]).Nodup :=
          List.nodup_append.mpr ⟨rightDistinct, List.nodup_singleton head, by
            rintro one isRest two isHead rfl
            exact notHead (List.mem_singleton.mp isHead ▸ isRest)⟩
        rw [isRight] at allDistinct
        have isMember : cell ∈ rest ++ [head] := isRight ▸ List.mem_cons_of_mem _ member
        refine prevKept cell ?_ (fun same => (List.nodup_cons.mp allDistinct).1 (same ▸ member))
        rcases List.mem_append.mp isMember with isRest | isHead
        · exact List.mem_cons_of_mem _ (List.mem_append_right _ isRest)
        · exact List.mem_singleton.mp isHead ▸ List.mem_cons_self

end Ring

/-! ## Following the links -/

section Following

variable [DecidableEq Cell]

/-- The cells that one meets from `cell` on until the head, with a bound on
the number of links that are followed. -/
def visitedUntil (link : Cell -> Option Cell) (head : Cell) : Nat -> Cell -> Option (List Cell)
  | 0, cell => if cell = head then some [] else none
  | fuel + 1, cell =>
      if cell = head then some []
      else do
        let after <- link cell
        let visited <- visitedUntil link head fuel after
        return cell :: visited

/-- The cells that one meets on the way from the head back to the head. -/
def follow (link : Cell -> Option Cell) (head : Cell) (fuel : Nat) : Option (List Cell) := do
  let first <- link head
  visitedUntil link head fuel first

theorem visitedUntil_of_chain {next prev : Cell -> Option Cell} {head : Cell} {nodes : List Cell}
    (outside : head ∉ nodes) (chain : (nodes ++ [head]).IsChain (Linked next prev)) :
    visitedUntil next head nodes.length (nodes.headD head) = some nodes := by
  induction nodes with
  | nil => exact if_pos rfl
  | cons first rest inductionHypothesis =>
      have notHead : first ≠ head := fun same => outside (same ▸ List.mem_cons_self)
      have firstNext : next first = some (rest.headD head) := by
        cases rest with
        | nil => exact (List.isChain_pair.mp chain).1
        | cons second others => exact (List.isChain_cons_cons.mp chain).1.1
      have later := inductionHypothesis (fun member => outside (List.mem_cons_of_mem _ member))
        (List.IsChain.tail chain)
      simp only [List.length_cons, List.headD_cons, visitedUntil, if_neg notHead, firstNext, later,
        Option.bind_eq_bind, Option.bind_some, Option.pure_def]

/-- Following the forward links of a ring meets its members in order. -/
theorem Ring.follow_next {next prev : Cell -> Option Cell} {head : Cell} {nodes : List Cell}
    (ring : Ring next prev head nodes) : follow next head nodes.length = some nodes := by
  rw [follow, ring.next_head]
  exact visitedUntil_of_chain (List.nodup_cons.mp ring.distinct).1 ring.linked.tail

/-- Following the backward links meets them in the reverse order. -/
theorem Ring.follow_prev {next prev : Cell -> Option Cell} {head : Cell} {nodes : List Cell}
    (ring : Ring next prev head nodes) :
    follow prev head nodes.length = some nodes.reverse := by
  have backwards := ring.reverse.follow_next
  rwa [List.length_reverse] at backwards

end Following
end Foundations
