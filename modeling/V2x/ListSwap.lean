import Mathlib.Logic.Equiv.Basic
import V2x.LinkedList

namespace V2x

open Foundations

/-!
# Exchanging two nodes of a list

`SwapDoublyLinkedListNode` relinks neighbours in one function and all other
pairs of nodes in another way.  The second way writes `node2` where `node1`
belongs into the backward link of the cell behind `node2`, so it leaves a list
only for neighbours.
-/

section Operations

variable {Addr Content : Type} [DecidableEq Addr]

/-- `SwapDoublyLinkedListNextNode`. -/
def swapDoublyLinkedListNextNode (heap : Heap Addr Content) (node1 node2 : Addr) :
    Option (Heap Addr Content) := do
  let node1Prev <- heap.prev node1
  let node2Next <- heap.next node2
  let heap <- heap.setNext node1 node2Next
  let heap <- heap.setPrev node2Next node1
  let heap <- heap.setNext node1Prev node2
  let heap <- heap.setNext node2 node1
  let heap <- heap.setPrev node1 node2
  heap.setPrev node2 node1Prev

/-- `SwapDoublyLinkedListAdjacentNode`. -/
def swapDoublyLinkedListAdjacentNode (heap : Heap Addr Content) (node1 node2 : Addr) :
    Option (Heap Addr Content) := do
  let node1Next <- heap.next node1
  if node1Next = node2 then swapDoublyLinkedListNextNode heap node1 node2
  else swapDoublyLinkedListNextNode heap node2 node1

/-- `SwapDoublyLinkedListNode` for nodes that are not neighbours. -/
def swapDoublyLinkedListDistantNode (heap : Heap Addr Content) (node1 node2 : Addr) :
    Option (Heap Addr Content) := do
  let node1Prev <- heap.prev node1
  let node1Next <- heap.next node1
  let node2Prev <- heap.prev node2
  let node2Next <- heap.next node2
  let heap <- heap.setNext node1Prev node2
  let heap <- heap.setNext node2 node1Next
  let heap <- heap.setPrev node1Next node2
  let heap <- heap.setPrev node2 node1Prev
  let heap <- heap.setNext node2Prev node1
  let heap <- heap.setNext node1 node2Next
  let heap <- heap.setPrev node2Next node2
  heap.setPrev node1 node2Prev

/-- `SwapDoublyLinkedListNode`. -/
def swapDoublyLinkedListNode (heap : Heap Addr Content) (node1 node2 : Addr) :
    Option (Heap Addr Content) := do
  let node1Next <- heap.next node1
  let node1Prev <- heap.prev node1
  if node1Next = node2 ∨ node1Prev = node2 then swapDoublyLinkedListAdjacentNode heap node1 node2
  else swapDoublyLinkedListDistantNode heap node1 node2

end Operations

/-! ## What the writes leave -/

section Links

variable {Addr Content : Type} [DecidableEq Addr]

omit [DecidableEq Addr] in
/-- Only links were written, and these are the links now. -/
structure Relinked (heap after : Heap Addr Content) (next prev : Addr -> Option Addr) : Prop where
  cells : forall other, (after.cell other).isSome = (heap.cell other).isSome
  next : after.next = next
  prev : after.prev = prev
  nodeData : after.nodeData = heap.nodeData
  contents : after.content = heap.content

variable {heap after : Heap Addr Content} {next prev : Addr -> Option Addr} {address : Addr}

omit [DecidableEq Addr] in
theorem Relinked.refl (heap : Heap Addr Content) : Relinked heap heap heap.next heap.prev :=
  ⟨fun _ => rfl, rfl, rfl, rfl, rfl⟩

theorem Relinked.setNext (relinked : Relinked heap after next prev)
    (live : (heap.cell address).isSome) (target : Addr) :
    Exists fun later => after.setNext address target = some later ∧
      Relinked heap later (Function.update next address (some target)) prev := by
  have stillLive : (after.cell address).isSome := relinked.cells address ▸ live
  rcases Heap.setNext_spec stillLive target with
    ⟨later, done, rewrites, isNext, samePrev, sameData⟩
  refine ⟨later, done, ⟨?_, ?_, ?_, ?_, ?_⟩⟩
  · exact fun other => (rewrites.cells other).trans (relinked.cells other)
  · rw [isNext, relinked.next]
  · rw [samePrev, relinked.prev]
  · rw [sameData, relinked.nodeData]
  · rw [rewrites.contents, relinked.contents]

theorem Relinked.setPrev (relinked : Relinked heap after next prev)
    (live : (heap.cell address).isSome) (target : Addr) :
    Exists fun later => after.setPrev address target = some later ∧
      Relinked heap later next (Function.update prev address (some target)) := by
  have stillLive : (after.cell address).isSome := relinked.cells address ▸ live
  rcases Heap.setPrev_spec stillLive target with
    ⟨later, done, rewrites, isPrev, sameNext, sameData⟩
  refine ⟨later, done, ⟨?_, ?_, ?_, ?_, ?_⟩⟩
  · exact fun other => (rewrites.cells other).trans (relinked.cells other)
  · rw [sameNext, relinked.next]
  · rw [isPrev, relinked.prev]
  · rw [sameData, relinked.nodeData]
  · rw [rewrites.contents, relinked.contents]

/-- The links that `SwapDoublyLinkedListNextNode` writes. -/
theorem swapNextNode_relinked {node1 node2 node1Prev node2Next : Addr}
    (isPrev : heap.prev node1 = some node1Prev) (isNext : heap.next node2 = some node2Next)
    (live1 : (heap.cell node1).isSome) (live2 : (heap.cell node2).isSome)
    (livePrev : (heap.cell node1Prev).isSome) (liveNext : (heap.cell node2Next).isSome) :
    Exists fun after => swapDoublyLinkedListNextNode heap node1 node2 = some after ∧
      Relinked heap after
        (Function.update (Function.update (Function.update heap.next node1 (some node2Next))
          node1Prev (some node2)) node2 (some node1))
        (Function.update (Function.update (Function.update heap.prev node2Next (some node1))
          node1 (some node2)) node2 (some node1Prev)) := by
  rcases (Relinked.refl heap).setNext live1 node2Next with ⟨heap1, done1, relinked1⟩
  rcases relinked1.setPrev liveNext node1 with ⟨heap2, done2, relinked2⟩
  rcases relinked2.setNext livePrev node2 with ⟨heap3, done3, relinked3⟩
  rcases relinked3.setNext live2 node1 with ⟨heap4, done4, relinked4⟩
  rcases relinked4.setPrev live1 node2 with ⟨heap5, done5, relinked5⟩
  rcases relinked5.setPrev live2 node1Prev with ⟨after, done6, relinked6⟩
  refine ⟨after, ?_, relinked6⟩
  simp only [swapDoublyLinkedListNextNode, isPrev, isNext, done1, done2, done3, done4, done5, done6,
    Option.bind_eq_bind, Option.bind_some]

/-- The links that are written for nodes that are not neighbours. -/
theorem swapDistantNode_relinked {node1 node2 node1Prev node1Next node2Prev node2Next : Addr}
    (isPrev1 : heap.prev node1 = some node1Prev) (isNext1 : heap.next node1 = some node1Next)
    (isPrev2 : heap.prev node2 = some node2Prev) (isNext2 : heap.next node2 = some node2Next)
    (live : forall cell, cell ∈ [node1, node2, node1Prev, node1Next, node2Prev, node2Next] ->
      (heap.cell cell).isSome) :
    Exists fun after => swapDoublyLinkedListDistantNode heap node1 node2 = some after ∧
      Relinked heap after
        (Function.update (Function.update (Function.update (Function.update heap.next
          node1Prev (some node2)) node2 (some node1Next)) node2Prev (some node1))
          node1 (some node2Next))
        (Function.update (Function.update (Function.update (Function.update heap.prev
          node1Next (some node2)) node2 (some node1Prev)) node2Next (some node2))
          node1 (some node2Prev)) := by
  simp only [List.forall_mem_cons, List.not_mem_nil, false_implies, implies_true, and_true] at live
  rcases live with ⟨live1, live2, livePrev1, liveNext1, livePrev2, liveNext2⟩
  rcases (Relinked.refl heap).setNext livePrev1 node2 with ⟨heap1, done1, relinked1⟩
  rcases relinked1.setNext live2 node1Next with ⟨heap2, done2, relinked2⟩
  rcases relinked2.setPrev liveNext1 node2 with ⟨heap3, done3, relinked3⟩
  rcases relinked3.setPrev live2 node1Prev with ⟨heap4, done4, relinked4⟩
  rcases relinked4.setNext livePrev2 node1 with ⟨heap5, done5, relinked5⟩
  rcases relinked5.setNext live1 node2Next with ⟨heap6, done6, relinked6⟩
  rcases relinked6.setPrev liveNext2 node2 with ⟨heap7, done7, relinked7⟩
  rcases relinked7.setPrev live1 node2Prev with ⟨after, done8, relinked8⟩
  refine ⟨after, ?_, relinked8⟩
  simp only [swapDoublyLinkedListDistantNode, isPrev1, isNext1, isPrev2, isNext2, done1, done2,
    done3, done4, done5, done6, done7, done8, Option.bind_eq_bind, Option.bind_some]

end Links

/-! ## Neighbours -/

section Neighbours

variable {Addr Content : Type} [DecidableEq Addr]
variable {heap : Heap Addr Content} {head : Addr} {nodes before rest : List Addr}
  {node1 node2 : Addr}

/-- The members with two of them exchanged. -/
def exchanged (nodes : List Addr) (node1 node2 : Addr) : List Addr :=
  nodes.map (Equiv.swap node1 node2)

theorem exchanged_neighbours (distinct : (before ++ node1 :: node2 :: rest).Nodup) :
    exchanged (before ++ node1 :: node2 :: rest) node1 node2 = before ++ node2 :: node1 :: rest := by
  rcases List.nodup_append.mp distinct with ⟨_, inside, apart⟩
  rcases List.nodup_cons.mp inside with ⟨notIn1, inside2⟩
  have notIn2 := (List.nodup_cons.mp inside2).1
  have kept : forall cells : List Addr, node1 ∉ cells -> node2 ∉ cells ->
      cells.map (Equiv.swap node1 node2) = cells := by
    intro cells outside1 outside2
    rw [List.map_congr_left (g := id), List.map_id]
    intro cell member
    exact Equiv.swap_apply_of_ne_of_ne (fun same => outside1 (same ▸ member))
      (fun same => outside2 (same ▸ member))
  rw [exchanged, List.map_append, List.map_cons, List.map_cons, Equiv.swap_apply_left,
    Equiv.swap_apply_right, kept before, kept rest]
  · exact fun member => notIn1 (List.mem_cons_of_mem _ member)
  · exact notIn2
  · exact fun member => apart node1 member node1 List.mem_cons_self rfl
  · exact fun member => apart node2 member node2 (List.mem_cons_of_mem _ List.mem_cons_self) rfl

theorem exchanged_comm (nodes : List Addr) (node1 node2 : Addr) :
    exchanged nodes node1 node2 = exchanged nodes node2 node1 := by
  rw [exchanged, Equiv.swap_comm, exchanged]

/-- Neighbours are exchanged, and nothing outside the list is written. -/
structure SwapsNeighbours (heap after : Heap Addr Content) (head : Addr) (nodes : List Addr) :
    Prop where
  ring : HeapRing after head nodes
  nodeData : after.nodeData = heap.nodeData
  outside : forall cell, cell ∉ head :: nodes ->
    after.next cell = heap.next cell ∧ after.prev cell = heap.prev cell

omit [DecidableEq Addr] in
/-- Two neighbours taken out of their list. -/
theorem neighbours_perm (head : Addr) (before rest : List Addr) (node1 node2 : Addr) :
    (head :: (before ++ node1 :: node2 :: rest)).Perm
      (node1 :: node2 :: head :: (before ++ rest)) := by
  have first : (head :: before ++ node1 :: node2 :: rest).Perm
      (node1 :: (head :: before ++ node2 :: rest)) := List.perm_middle
  have second : (head :: before ++ node2 :: rest).Perm (node2 :: (head :: before ++ rest)) :=
    List.perm_middle
  exact first.trans (second.cons node1)

theorem swapNextNode_neighbours (ring : HeapRing heap head (before ++ node1 :: node2 :: rest)) :
    Exists fun after => swapDoublyLinkedListNextNode heap node1 node2 = some after ∧
      SwapsNeighbours heap after head (before ++ node2 :: node1 :: rest) := by
  have perm := neighbours_perm head before rest node1 node2
  have swapped := neighbours_perm head before rest node2 node1
  rcases List.nodup_cons.mp (perm.nodup_iff.mp ring.ring.distinct) with ⟨notIn1, inside⟩
  have notIn2 := (List.nodup_cons.mp inside).1
  have different : node1 ≠ node2 := fun same => notIn1 (same ▸ List.mem_cons_self)
  have sides1 : forall cell, cell ∈ head :: (before ++ rest) -> cell ≠ node1 := fun cell member same =>
    notIn1 (List.mem_cons_of_mem _ (same ▸ member))
  have sides2 : forall cell, cell ∈ head :: (before ++ rest) -> cell ≠ node2 := fun cell member same =>
    notIn2 (same ▸ member)
  have leftMember : before.getLastD head ∈ head :: (before ++ rest) :=
    List.mem_append_left rest (HeapRing.last_mem head before)
  have rightMember : rest.headD head ∈ head :: (before ++ rest) := by
    rcases List.mem_cons.mp (HeapRing.first_mem head rest) with isHead | isRest
    · rw [isHead]
      exact List.mem_cons_self
    · exact List.mem_cons_of_mem _ (List.mem_append_right _ isRest)
  have live : forall cell, cell ∈ node1 :: node2 :: head :: (before ++ rest) ->
      (heap.cell cell).isSome := fun cell member => ring.live cell (perm.mem_iff.mpr member)
  have isPrev := ring.ring.prev_member
  have split : before ++ node1 :: node2 :: rest = (before ++ [node1]) ++ node2 :: rest := by
    rw [List.append_assoc, List.singleton_append]
  have isNext := (split ▸ ring.ring).linked_member.1
  rcases swapNextNode_relinked isPrev isNext (live node1 List.mem_cons_self)
    (live node2 (List.mem_cons_of_mem _ List.mem_cons_self))
    (live _ (List.mem_cons_of_mem _ (List.mem_cons_of_mem _ leftMember)))
    (live _ (List.mem_cons_of_mem _ (List.mem_cons_of_mem _ rightMember))) with
    ⟨after, done, relinked⟩
  refine ⟨after, done, ⟨⟨?_, ?_⟩, relinked.nodeData, ?_⟩⟩
  · rw [relinked.next, relinked.prev]
    apply ring.ring.exchange
    · rw [Function.update_of_ne (sides2 _ leftMember), Function.update_self]
    · rw [Function.update_self]
    · rw [Function.update_of_ne different, Function.update_of_ne (sides1 _ leftMember).symm,
        Function.update_self]
    · rw [Function.update_self]
    · rw [Function.update_of_ne different, Function.update_self]
    · rw [Function.update_of_ne (sides2 _ rightMember), Function.update_of_ne (sides1 _ rightMember),
        Function.update_self]
    · intro cell member notLeft
      rw [Function.update_of_ne (sides2 cell member), Function.update_of_ne notLeft,
        Function.update_of_ne (sides1 cell member)]
    · intro cell member notRight
      rw [Function.update_of_ne (sides2 cell member), Function.update_of_ne (sides1 cell member),
        Function.update_of_ne notRight]
  · intro cell member
    rw [relinked.cells cell]
    exact live cell ((List.Perm.swap node1 node2 _).mem_iff.mp (swapped.mem_iff.mp member))
  · intro cell outside
    have notIn : cell ∉ node2 :: node1 :: head :: (before ++ rest) := fun member =>
      outside (swapped.mem_iff.mpr member)
    simp only [List.mem_cons (a := cell) (b := node2), List.mem_cons (a := cell) (b := node1),
      not_or] at notIn
    rcases notIn with ⟨not2, not1, notSides⟩
    have notLeft : cell ≠ before.getLastD head := fun same => notSides (same ▸ leftMember)
    have notRight : cell ≠ rest.headD head := fun same => notSides (same ▸ rightMember)
    constructor
    · rw [relinked.next, Function.update_of_ne not2, Function.update_of_ne notLeft,
        Function.update_of_ne not1]
    · rw [relinked.prev, Function.update_of_ne not2, Function.update_of_ne not1,
        Function.update_of_ne notRight]

omit [DecidableEq Addr] in
/-- Neighbours in the list are linked. -/
theorem linked_neighbours {next prev : Addr -> Option Addr}
    (ring : Ring next prev head (before ++ node1 :: node2 :: rest)) :
    next node1 = some node2 ∧ prev node2 = some node1 := by
  have split : before ++ node1 :: node2 :: rest = (before ++ [node1]) ++ node2 :: rest := by
    rw [List.append_assoc, List.singleton_append]
  have isPrev := (split ▸ ring).prev_member
  rw [List.getLastD_concat] at isPrev
  exact ⟨ring.linked_member.1, isPrev⟩

omit [DecidableEq Addr] in
theorem neighbours_cases (ring : HeapRing heap head nodes) (isNode1 : node1 ∈ nodes)
    (isNode2 : node2 ∈ nodes)
    (neighbours : heap.next node1 = some node2 ∨ heap.prev node1 = some node2) :
    Exists fun before => Exists fun rest =>
      nodes = before ++ node1 :: node2 :: rest ∨ nodes = before ++ node2 :: node1 :: rest := by
  rcases neighbours with follows | precedes
  · rcases ring.ring.neighbours isNode1 isNode2 follows with ⟨before, rest, shape⟩
    exact ⟨before, rest, Or.inl shape⟩
  · have inverse := ring.ring.prev_next (List.mem_cons_of_mem _ isNode1)
    rw [precedes, Option.bind_some] at inverse
    rcases ring.ring.neighbours isNode2 isNode1 inverse with ⟨before, rest, shape⟩
    exact ⟨before, rest, Or.inr shape⟩

theorem swapNode_of_neighbours (ring : HeapRing heap head nodes) (isNode1 : node1 ∈ nodes)
    (isNode2 : node2 ∈ nodes)
    (neighbours : heap.next node1 = some node2 ∨ heap.prev node1 = some node2) :
    Exists fun after => swapDoublyLinkedListNode heap node1 node2 = some after ∧
      SwapsNeighbours heap after head (exchanged nodes node1 node2) ∧
      (after.next node1 = some node2 ∨ after.prev node1 = some node2) := by
  have members := (List.nodup_cons.mp ring.ring.distinct).2
  rcases neighbours_cases ring isNode1 isNode2 neighbours with ⟨before, rest, rfl | rfl⟩
  · rcases swapNextNode_neighbours ring with ⟨after, done, swaps⟩
    rw [exchanged_neighbours members]
    refine ⟨after, ?_, swaps, Or.inr (linked_neighbours swaps.ring.ring).2⟩
    simp only [swapDoublyLinkedListNode, swapDoublyLinkedListAdjacentNode,
      (linked_neighbours ring.ring).1, ring.ring.prev_member, Option.bind_eq_bind, Option.bind_some,
      if_true, true_or]
    exact done
  · rcases swapNextNode_neighbours ring with ⟨after, done, swaps⟩
    rw [exchanged_comm, exchanged_neighbours members]
    refine ⟨after, ?_, swaps, Or.inl (linked_neighbours swaps.ring.ring).1⟩
    have split : before ++ node2 :: node1 :: rest = (before ++ [node2]) ++ node1 :: rest := by
      rw [List.append_assoc, List.singleton_append]
    have isNext := (split ▸ ring.ring).linked_member.1
    have notNode2 : rest.headD head ≠ node2 := by
      intro same
      have distinct := (neighbours_perm head before rest node2 node1).nodup_iff.mp
        ring.ring.distinct
      apply (List.nodup_cons.mp distinct).1
      apply List.mem_cons_of_mem
      rcases List.mem_cons.mp (HeapRing.first_mem head rest) with isHead | isRest
      · exact List.mem_cons.mpr (Or.inl (same.symm.trans isHead))
      · exact List.mem_cons_of_mem _ (List.mem_append_right _ (same ▸ isRest))
    simp only [swapDoublyLinkedListNode, swapDoublyLinkedListAdjacentNode, isNext,
      (linked_neighbours ring.ring).2, Option.bind_eq_bind, Option.bind_some, if_true, or_true,
      if_neg notNode2]
    exact done

end Neighbours

/-! ## The whole function -/

section Swap

variable {Addr Content : Type} [DecidableEq Addr]
variable {heap after : Heap Addr Content} {head : Addr} {nodes : List Addr} {node1 node2 : Addr}

/-- The list is well formed in both directions, and its members are the old ones
with two of them exchanged. -/
structure Exchanges (heap after : Heap Addr Content) (head : Addr) (nodes : List Addr)
    (node1 node2 : Addr) : Prop where
  nextPrev : forall cell, cell ∈ head :: nodes -> (after.next cell).bind after.prev = some cell
  prevNext : forall cell, cell ∈ head :: nodes -> (after.prev cell).bind after.next = some cell
  forwards : follow after.next head nodes.length = some (exchanged nodes node1 node2)
  backwards : follow after.prev head nodes.length = some (exchanged nodes node1 node2).reverse
  nodeData : after.nodeData = heap.nodeData

/-- Swapping exchanges the nodes, and swapping again restores all links. -/
def SwapsTwoNodes (heap : Heap Addr Content) (head : Addr) (nodes : List Addr)
    (node1 node2 : Addr) : Prop :=
  Exists fun after => swapDoublyLinkedListNode heap node1 node2 = some after ∧
    Exchanges heap after head nodes node1 node2 ∧
    Exists fun again => swapDoublyLinkedListNode after node1 node2 = some again ∧
      again.next = heap.next ∧ again.prev = heap.prev

theorem mem_exchanged (isNode1 : node1 ∈ nodes) (isNode2 : node2 ∈ nodes) {cell : Addr} :
    cell ∈ exchanged nodes node1 node2 <-> cell ∈ nodes := by
  have closed : forall other, other ∈ nodes -> Equiv.swap node1 node2 other ∈ nodes := by
    intro other member
    rw [Equiv.swap_apply_def]
    split
    · exact isNode2
    · split
      · exact isNode1
      · exact member
  rw [exchanged, List.mem_map]
  constructor
  · rintro ⟨other, member, rfl⟩
    exact closed other member
  · intro member
    exact ⟨_, closed cell member, Equiv.swap_apply_self node1 node2 cell⟩

theorem exchanged_twice (nodes : List Addr) (node1 node2 : Addr) :
    exchanged (exchanged nodes node1 node2) node1 node2 = nodes := by
  rw [exchanged, exchanged, List.map_map]
  have same : (Equiv.swap node1 node2 ∘ Equiv.swap node1 node2 : Addr -> Addr) = id := by
    funext cell
    exact Equiv.swap_apply_self node1 node2 cell
  rw [same, List.map_id]

omit [DecidableEq Addr] in
/-- A ring is followed through its members in both directions. -/
theorem HeapRing.exchanges [DecidableEq Addr] (ring : HeapRing after head (exchanged nodes node1 node2))
    (isNode1 : node1 ∈ nodes) (isNode2 : node2 ∈ nodes)
    (nodeData : after.nodeData = heap.nodeData) : Exchanges heap after head nodes node1 node2 := by
  have sameLength : (exchanged nodes node1 node2).length = nodes.length := List.length_map _
  have same : forall cell, cell ∈ head :: nodes -> cell ∈ head :: exchanged nodes node1 node2 := by
    intro cell member
    rwa [List.mem_cons, mem_exchanged isNode1 isNode2, ← List.mem_cons]
  constructor
  · exact fun cell member => ring.ring.next_prev (same cell member)
  · exact fun cell member => ring.ring.prev_next (same cell member)
  · rw [← sameLength]
    exact ring.ring.follow_next
  · rw [← sameLength]
    exact ring.ring.follow_prev
  · exact nodeData

theorem swapsTwoNodes_of_neighbours (ring : HeapRing heap head nodes) (isNode1 : node1 ∈ nodes)
    (isNode2 : node2 ∈ nodes)
    (neighbours : heap.next node1 = some node2 ∨ heap.prev node1 = some node2) :
    SwapsTwoNodes heap head nodes node1 node2 := by
  rcases swapNode_of_neighbours ring isNode1 isNode2 neighbours with
    ⟨after, done, swaps, stillNeighbours⟩
  rcases swapNode_of_neighbours swaps.ring ((mem_exchanged isNode1 isNode2).mpr isNode1)
    ((mem_exchanged isNode1 isNode2).mpr isNode2) stillNeighbours with ⟨again, doneAgain, back, _⟩
  have backRing := back.ring
  rw [exchanged_twice] at backRing
  refine ⟨after, done, swaps.ring.exchanges isNode1 isNode2 swaps.nodeData, again, doneAgain, ?_, ?_⟩
  · funext cell
    by_cases member : cell ∈ head :: nodes
    · exact ring.ring.next_unique backRing.ring member
    · have outside : cell ∉ head :: exchanged nodes node1 node2 := by
        rwa [List.mem_cons, mem_exchanged isNode1 isNode2, ← List.mem_cons]
      exact (back.outside cell (by rwa [exchanged_twice])).1.trans (swaps.outside cell outside).1
  · funext cell
    by_cases member : cell ∈ head :: nodes
    · exact ring.ring.prev_unique backRing.ring member
    · have outside : cell ∉ head :: exchanged nodes node1 node2 := by
        rwa [List.mem_cons, mem_exchanged isNode1 isNode2, ← List.mem_cons]
      exact (back.outside cell (by rwa [exchanged_twice])).2.trans (swaps.outside cell outside).2

omit [DecidableEq Addr] in
/-- The cells on both sides of a member. -/
theorem before_rest_subset (head : Addr) (before rest : List Addr) (cell : Addr) :
    before.getLastD head ∈ head :: (before ++ cell :: rest) ∧
      rest.headD head ∈ head :: (before ++ cell :: rest) := by
  constructor
  · exact List.mem_append_left (cell :: rest) (HeapRing.last_mem head before)
  · rcases List.mem_cons.mp (HeapRing.first_mem head rest) with isHead | isRest
    · rw [isHead]
      exact List.mem_cons_self
    · exact List.mem_cons_of_mem _ (List.mem_append_right _ (List.mem_cons_of_mem _ isRest))

/-- The cell behind `node2` is linked back to `node2`, which is followed by
another cell. -/
theorem not_nextPrev_of_distant (ring : HeapRing heap head nodes) (isNode1 : node1 ∈ nodes)
    (isNode2 : node2 ∈ nodes) (different : node1 ≠ node2)
    (notNext : heap.next node1 ≠ some node2) (notPrev : heap.prev node1 ≠ some node2)
    (done : swapDoublyLinkedListNode heap node1 node2 = some after) :
    Exists fun cell => cell ∈ head :: nodes ∧ (after.prev cell).bind after.next ≠ some cell := by
  rcases List.append_of_mem isNode1 with ⟨before1, rest1, shape1⟩
  rcases List.append_of_mem isNode2 with ⟨before2, rest2, shape2⟩
  have isPrev1 := (shape1 ▸ ring.ring).prev_member
  have isNext1 := (shape1 ▸ ring.ring).linked_member.1
  have isPrev2 := (shape2 ▸ ring.ring).prev_member
  have isNext2 := (shape2 ▸ ring.ring).linked_member.1
  have nextMember1 : rest1.headD head ∈ head :: nodes :=
    shape1 ▸ (before_rest_subset head before1 rest1 node1).2
  have nextMember2 : rest2.headD head ∈ head :: nodes :=
    shape2 ▸ (before_rest_subset head before2 rest2 node2).2
  have prevMember1 : before1.getLastD head ∈ head :: nodes :=
    shape1 ▸ (before_rest_subset head before1 rest1 node1).1
  have prevMember2 : before2.getLastD head ∈ head :: nodes :=
    shape2 ▸ (before_rest_subset head before2 rest2 node2).1
  rcases swapDistantNode_relinked isPrev1 isNext1 isPrev2 isNext2 (by
    simp only [List.forall_mem_cons, List.not_mem_nil, false_implies, implies_true, and_true]
    exact ⟨ring.live _ (List.mem_cons_of_mem _ isNode1), ring.live _ (List.mem_cons_of_mem _ isNode2),
      ring.live _ prevMember1, ring.live _ nextMember1, ring.live _ prevMember2,
      ring.live _ nextMember2⟩) with ⟨reached, distant, relinked⟩
  have same : reached = after := by
    have notNext' : rest1.headD head ≠ node2 := fun same => notNext (isNext1.trans (congrArg some same))
    have notPrev' : before1.getLastD head ≠ node2 := fun same =>
      notPrev (isPrev1.trans (congrArg some same))
    simp only [swapDoublyLinkedListNode, isNext1, isPrev1, Option.bind_eq_bind, Option.bind_some,
      notNext', notPrev', or_self, if_false] at done
    exact Option.some.inj (distant.symm.trans done)
  subst same
  have behind1 : heap.prev (rest1.headD head) = some node1 := (shape1 ▸ ring.ring).linked_member.2
  have behind2 : heap.prev (rest2.headD head) = some node2 := (shape2 ▸ ring.ring).linked_member.2
  have notNode1 : rest2.headD head ≠ node1 := fun isNode => notPrev (isNode ▸ behind2)
  have notSelf : node2 ≠ before2.getLastD head := by
    intro isSelf
    have distinct := (shape2 ▸ ring.ring).distinct
    rw [← List.cons_append] at distinct
    exact (List.nodup_append.mp distinct).2.2 _ (HeapRing.last_mem head before2) node2
      List.mem_cons_self isSelf.symm
  refine ⟨rest2.headD head, nextMember2, ?_⟩
  rw [relinked.prev, relinked.next, Function.update_of_ne notNode1, Function.update_self,
    Option.bind_some, Function.update_of_ne different.symm, Function.update_of_ne notSelf,
    Function.update_self]
  intro sameNext
  apply different
  rw [Option.some.inj sameNext, behind2] at behind1
  exact (Option.some.inj behind1).symm

/-- In a ring of any length, `SwapDoublyLinkedListNode` exchanges two different nodes, and swaps
them back when it is called again, if and only if they are neighbours. -/
theorem swapDoublyLinkedListNode_swaps_iff (ring : HeapRing heap head nodes)
    (isNode1 : node1 ∈ nodes) (isNode2 : node2 ∈ nodes) (different : node1 ≠ node2) :
    SwapsTwoNodes heap head nodes node1 node2 <->
      heap.next node1 = some node2 ∨ heap.prev node1 = some node2 := by
  constructor
  · rintro ⟨after, done, exchanges, _⟩
    by_contra notNeighbours
    rcases not_or.mp notNeighbours with ⟨notNext, notPrev⟩
    rcases not_nextPrev_of_distant ring isNode1 isNode2 different notNext notPrev done with
      ⟨cell, member, broken⟩
    exact broken (exchanges.prevNext cell member)
  · exact swapsTwoNodes_of_neighbours ring isNode1 isNode2

end Swap

/-- A list of three nodes at the addresses 1, 2 and 3, with its head at 0. -/
def threeNodes : Heap Nat Nat := fun address =>
  if address < 4 then
    some (.node ⟨some (address + 10), (address + 3) % 4, (address + 1) % 4⟩)
  else none

theorem heapRing_threeNodes : HeapRing threeNodes 0 [1, 2, 3] where
  ring := {
    distinct := by decide
    linked := by
      simp only [List.cons_append, List.nil_append, List.isChain_cons_cons, Linked]
      exact ⟨⟨rfl, rfl⟩, ⟨rfl, rfl⟩, ⟨rfl, rfl⟩, ⟨rfl, rfl⟩, List.IsChain.singleton 0⟩ }
  live := by decide

theorem swapDoublyLinkedListNode_swaps_iff_threeNodes : SwapsTwoNodes threeNodes 0 [1, 2, 3] 2 1 :=
  (swapDoublyLinkedListNode_swaps_iff heapRing_threeNodes (by decide) (by decide) (by decide)).mpr
    (Or.inr rfl)

/-- The first and the last node are not neighbours.  Following `prev` from the head
misses two of the three nodes after the swap. -/
theorem swapDoublyLinkedListNode_distant :
    HeapRing threeNodes 0 [1, 2, 3] ∧
    (Exists fun after => swapDoublyLinkedListNode threeNodes 1 3 = some after ∧
      follow after.next 0 3 = some [3, 2, 1] ∧ follow after.prev 0 3 = some [3]) ∧
    ¬ SwapsTwoNodes threeNodes 0 [1, 2, 3] 1 3 := by
  have reached : (swapDoublyLinkedListNode threeNodes 1 3).map
      (fun after => (follow after.next 0 3, follow after.prev 0 3)) =
      some (some [3, 2, 1], some [3]) := by decide
  rcases Option.map_eq_some_iff.mp reached with ⟨after, done, views⟩
  rcases Prod.mk.inj views with ⟨forwards, backwards⟩
  refine ⟨heapRing_threeNodes, ⟨after, done, forwards, backwards⟩, ?_⟩
  rintro ⟨other, isOther, exchanges, _⟩
  cases done.symm.trans isOther
  have whole := exchanges.backwards
  change follow after.prev 0 3 = _ at whole
  rw [backwards] at whole
  exact absurd whole (by decide)

end V2x
