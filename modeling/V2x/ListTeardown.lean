import V2x.LinkedList

namespace V2x

open Foundations

/-!
# Tearing down a list

`DeInitDoublyLinkedListNode` goes once through the cells.  For each of them it
frees the block that the cell points to, and then the cell itself, whose
successor it has read before.  Where no two cells share a block and no block is
a cell, every block is freed once and nothing else is touched.
-/

section Teardown

variable {Addr Content : Type} {heap after : Heap Addr Content}
  {head node : Addr} {nodes rest : List Addr}

/-- The blocks that the cells point to. -/
def Heap.datas (heap : Heap Addr Content) (nodes : List Addr) : List Addr :=
  nodes.filterMap heap.nodeData

/-- The cells are linked up to the head, and each has its block for itself. -/
structure Disposable (heap : Heap Addr Content) (head : Addr) (nodes : List Addr) : Prop where
  distinct : (head :: nodes).Nodup
  linked : (nodes ++ [head]).IsChain (Linked heap.next heap.prev)
  live : forall address, address ∈ nodes -> (heap.cell address).isSome
  dataLive : forall data, data ∈ heap.datas nodes -> (heap data).isSome
  dataDistinct : (heap.datas nodes).Nodup
  apart : forall data, data ∈ heap.datas nodes -> data ∉ head :: nodes

/-- What a round leaves behind. -/
structure FreesRound (heap after : Heap Addr Content) (node : Addr) : Prop where
  cell : after node = none
  data : forall data, heap.nodeData node = some data -> after data = none
  elsewhere : forall other, other ≠ node -> heap.nodeData node ≠ some other ->
    after other = heap other

theorem Heap.data_mem (heap : Heap Addr Content) (rest : List Addr) {data : Addr}
    (points : heap.nodeData node = some data) : data ∈ heap.datas (node :: rest) := by
  rw [Heap.datas, List.filterMap_cons_some points]
  exact List.mem_cons_self

theorem Heap.datas_subset (heap : Heap Addr Content) (node : Addr) (rest : List Addr) {data : Addr}
    (member : data ∈ heap.datas rest) : data ∈ heap.datas (node :: rest) := by
  rcases List.mem_filterMap.mp member with ⟨cell, isCell, points⟩
  exact List.mem_filterMap.mpr ⟨cell, List.mem_cons_of_mem _ isCell, points⟩

/-! ## One round -/

/-- No two of the cells and their blocks are the same. -/
structure Separate (heap : Heap Addr Content) (head : Addr) (nodes : List Addr) : Prop where
  distinct : (head :: nodes).Nodup
  dataDistinct : (heap.datas nodes).Nodup
  apart : forall data, data ∈ heap.datas nodes -> data ∉ head :: nodes

namespace Separate

/-- The block of the first cell belongs to no other cell. -/
theorem data_fresh (separate : Separate heap head (node :: rest)) {data : Addr}
    (points : heap.nodeData node = some data) : data ∉ heap.datas rest := by
  have distinct := separate.dataDistinct
  rw [Heap.datas, List.filterMap_cons_some points] at distinct
  exact (List.nodup_cons.mp distinct).1

/-- A round touches neither the other cells nor their blocks. -/
theorem kept (separate : Separate heap head (node :: rest)) (frees : FreesRound heap after node)
    {address : Addr} (member : address ∈ head :: rest ∨ address ∈ heap.datas rest) :
    after address = heap address := by
  have parts := List.nodup_cons.mp separate.distinct
  have nodeParts := List.nodup_cons.mp parts.2
  apply frees.elsewhere
  · rintro rfl
    rcases member with isCell | isData
    · rcases List.mem_cons.mp isCell with atHead | later
      · exact parts.1 (atHead ▸ List.mem_cons_self)
      · exact nodeParts.1 later
    · exact separate.apart address (heap.datas_subset address rest isData)
        (List.mem_cons_of_mem _ List.mem_cons_self)
  · intro points
    rcases member with isCell | isData
    · apply separate.apart address (heap.data_mem rest points)
      rcases List.mem_cons.mp isCell with atHead | later
      · exact List.mem_cons.mpr (Or.inl atHead)
      · exact List.mem_cons_of_mem _ (List.mem_cons_of_mem _ later)
    · exact separate.data_fresh points isData

theorem nodeData_kept (separate : Separate heap head (node :: rest))
    (frees : FreesRound heap after node) {cell : Addr} (member : cell ∈ rest) :
    after.nodeData cell = heap.nodeData cell := by
  simp only [Heap.nodeData, Heap.cell,
    separate.kept frees (Or.inl (List.mem_cons_of_mem _ member))]

theorem datas_kept (separate : Separate heap head (node :: rest))
    (frees : FreesRound heap after node) : after.datas rest = heap.datas rest :=
  List.filterMap_congr fun _ member => separate.nodeData_kept frees member

theorem tail (separate : Separate heap head (node :: rest)) : Separate heap head rest where
  distinct := by
    have parts := List.nodup_cons.mp separate.distinct
    apply List.nodup_cons.mpr
    exact ⟨fun member => parts.1 (List.mem_cons_of_mem _ member), (List.nodup_cons.mp parts.2).2⟩
  dataDistinct := separate.dataDistinct.sublist
    (List.Sublist.filterMap _ (List.sublist_cons_self node rest))
  apart := by
    intro data member inside
    apply separate.apart data (heap.datas_subset node rest member)
    rcases List.mem_cons.mp inside with atHead | later
    · exact List.mem_cons.mpr (Or.inl atHead)
    · exact List.mem_cons_of_mem _ (List.mem_cons_of_mem _ later)

theorem later (separate : Separate heap head (node :: rest)) (frees : FreesRound heap after node) :
    Separate after head rest where
  distinct := separate.tail.distinct
  dataDistinct := (separate.datas_kept frees).symm ▸ separate.tail.dataDistinct
  apart := (separate.datas_kept frees).symm ▸ separate.tail.apart

end Separate

namespace Disposable

theorem separate (disposable : Disposable heap head nodes) : Separate heap head nodes :=
  ⟨disposable.distinct, disposable.dataDistinct, disposable.apart⟩

/-- The successor of the first cell. -/
theorem next_first (disposable : Disposable heap head (node :: rest)) :
    heap.next node = some (rest.headD head) := by
  have linked := disposable.linked
  cases rest with
  | nil => exact (List.isChain_pair.mp linked).1
  | cons second others => exact (List.isChain_cons_cons.mp linked).1.1

/-- The cells behind the first one are as before. -/
theorem later (disposable : Disposable heap head (node :: rest)) (frees : FreesRound heap after node) :
    Disposable after head rest := by
  have separate := disposable.separate
  have others := separate.later frees
  refine ⟨others.distinct, ?_, ?_, ?_, others.dataDistinct, others.apart⟩
  · apply linked_chain_transfer disposable.linked.tail
    · intro cell member
      rw [List.cons_append, List.tail_cons, List.dropLast_concat] at member
      simp only [Heap.next, Heap.cell,
        separate.kept frees (Or.inl (List.mem_cons_of_mem _ member))]
    · intro cell member
      have isCell : cell ∈ head :: rest := by
        have inside := List.mem_of_mem_tail member
        rw [List.cons_append, List.tail_cons, List.mem_append, List.mem_singleton] at inside
        exact List.mem_cons.mpr inside.symm
      simp only [Heap.prev, Heap.cell, separate.kept frees (Or.inl isCell)]
  · intro address member
    rw [Heap.cell, separate.kept frees (Or.inl (List.mem_cons_of_mem _ member))]
    exact disposable.live address (List.mem_cons_of_mem _ member)
  · intro data member
    rw [separate.datas_kept frees] at member
    rw [separate.kept frees (Or.inr member)]
    exact disposable.dataLive data (heap.datas_subset node rest member)

end Disposable

/-! ## All rounds -/

/-- What the loop leaves behind. -/
structure FreesAll (heap after : Heap Addr Content) (nodes : List Addr) : Prop where
  freed : forall address, address ∈ nodes ∨ address ∈ heap.datas nodes -> after address = none
  elsewhere : forall other, other ∉ nodes -> other ∉ heap.datas nodes -> after other = heap other

theorem freesAll_nil (heap : Heap Addr Content) : FreesAll heap heap [] := by
  refine ⟨?_, fun _ _ _ => rfl⟩
  intro address member
  rcases member with isCell | isData
  · exact absurd isCell List.not_mem_nil
  · exact absurd isData List.not_mem_nil

theorem FreesAll.cons {middle : Heap Addr Content} (separate : Separate heap head (node :: rest))
    (round : FreesRound heap middle node) (later : FreesAll middle after rest) :
    FreesAll heap after (node :: rest) := by
  have sameDatas := separate.datas_kept round
  constructor
  · intro address member
    by_cases isLater : address ∈ rest ∨ address ∈ heap.datas rest
    · exact later.freed address (sameDatas.symm ▸ isLater)
    · have outside := not_or.mp isLater
      rw [later.elsewhere address outside.1 (sameDatas.symm ▸ outside.2)]
      rcases member with isCell | isData
      · rw [(List.mem_cons.mp isCell).resolve_right outside.1]
        exact round.cell
      · rcases List.mem_filterMap.mp isData with ⟨cell, isCell, points⟩
        rcases List.mem_cons.mp isCell with atNode | inRest
        · exact round.data address (atNode ▸ points)
        · exact absurd (List.mem_filterMap.mpr ⟨cell, inRest, points⟩) outside.2
  · intro other notCell notData
    have notNode : other ≠ node := fun same => notCell (same ▸ List.mem_cons_self)
    rw [later.elsewhere other (fun member => notCell (List.mem_cons_of_mem _ member))]
    · exact round.elsewhere other notNode (fun points => notData (heap.data_mem rest points))
    · rw [sameDatas]
      exact fun member => notData (heap.datas_subset node rest member)

theorem HeapRing.disposable (ring : HeapRing heap head nodes)
    (dataLive : forall data, data ∈ heap.datas nodes -> (heap data).isSome)
    (dataDistinct : (heap.datas nodes).Nodup)
    (apart : forall data, data ∈ heap.datas nodes -> data ∉ head :: nodes) :
    Disposable heap head nodes where
  distinct := ring.ring.distinct
  linked := ring.ring.linked.tail
  live := fun address member => ring.live address (List.mem_cons_of_mem _ member)
  dataLive := dataLive
  dataDistinct := dataDistinct
  apart := apart

variable [DecidableEq Addr]

/-- One round of the loop: the block of the cell, if there is one, and the cell. -/
def freeRound (heap : Heap Addr Content) (node : Addr) (nodeData : Option Addr) :
    Option (Heap Addr Content) := do
  let heap <- match nodeData with
    | some data => heap.free data
    | none => some heap
  heap.free node

theorem freesRound_of_freeRound (freed : freeRound heap node (heap.nodeData node) = some after) :
    FreesRound heap after node := by
  cases isData : heap.nodeData node with
  | none =>
      rw [isData] at freed
      have last := Heap.frees_of_free (show heap.free node = some after from freed)
      refine ⟨last.gone, ?_, fun other different _ => last.elsewhere other different⟩
      intro data points
      rw [isData] at points
      cases points
  | some data =>
      rw [isData] at freed
      rcases Option.bind_eq_some_iff.mp freed with ⟨middle, isMiddle, isAfter⟩
      have block := Heap.frees_of_free isMiddle
      have last := Heap.frees_of_free isAfter
      refine ⟨last.gone, ?_, ?_⟩
      · intro other points
        rw [isData] at points
        cases points
        by_cases same : data = node
        · exact same ▸ last.gone
        · exact (last.elsewhere data same).trans block.gone
      · intro other notNode notData
        rw [isData] at notData
        have notThis : other ≠ data := fun same => notData (congrArg some same.symm)
        exact (last.elsewhere other notNode).trans (block.elsewhere other notThis)

theorem freeRound_spec (live : (heap node).isSome)
    (dataLive : forall data, heap.nodeData node = some data -> (heap data).isSome ∧ data ≠ node) :
    Exists fun after => freeRound heap node (heap.nodeData node) = some after ∧
      FreesRound heap after node := by
  have answers : Exists fun after => freeRound heap node (heap.nodeData node) = some after := by
    cases isData : heap.nodeData node with
    | none =>
        rcases Heap.free_spec live with ⟨after, freed, _⟩
        exact ⟨after, freed⟩
    | some data =>
        rcases dataLive data isData with ⟨present, different⟩
        rcases Heap.free_spec present with ⟨middle, firstFreed, _, firstKept⟩
        have stillLive : (middle node).isSome := by
          rw [firstKept node (Ne.symm different)]
          exact live
        rcases Heap.free_spec stillLive with ⟨after, freed, _⟩
        refine ⟨after, ?_⟩
        simp only [freeRound, firstFreed, Option.bind_eq_bind, Option.bind_some, freed]
  rcases answers with ⟨after, freed⟩
  exact ⟨after, freed, freesRound_of_freeRound freed⟩

theorem deInitDoublyLinkedListLoop_succ {fuel : Nat} {found : DoublyLinkedListNode Addr}
    (notHead : node ≠ head) (isCell : heap.cell node = some found) :
    deInitDoublyLinkedListLoop head (fuel + 1) heap node =
      (freeRound heap node found.nodeData).bind (fun heap =>
        deInitDoublyLinkedListLoop head fuel heap found.next) := by
  simp only [deInitDoublyLinkedListLoop, if_neg notHead, isCell, freeRound, Option.bind_eq_bind,
    Option.bind_some]
  cases found.nodeData with
  | none => rfl
  | some data => exact (Option.bind_assoc _ _ _).symm

/-- The loop ends after as many rounds as there are cells, and it needs one more
test than that. -/
theorem deInitDoublyLinkedListLoop_spec (disposable : Disposable heap head nodes) :
    Exists fun after =>
      (forall fuel, deInitDoublyLinkedListLoop head fuel heap (nodes.headD head) =
        if nodes.length < fuel then some after else none) ∧ FreesAll heap after nodes := by
  induction nodes generalizing heap with
  | nil =>
      refine ⟨heap, ?_, freesAll_nil heap⟩
      intro fuel
      cases fuel with
      | zero => rfl
      | succ fuel =>
          have enough : ([] : List Addr).length < fuel + 1 := Nat.succ_pos fuel
          rw [if_pos enough]
          exact if_pos rfl
  | cons node rest inductionHypothesis =>
      have outside := (List.nodup_cons.mp disposable.distinct).1
      rcases Option.isSome_iff_exists.mp (disposable.live node List.mem_cons_self) with ⟨found, isCell⟩
      have isNext : found.next = rest.headD head := by
        have next := disposable.next_first
        rw [Heap.next, isCell] at next
        exact Option.some.inj next
      have isData : heap.nodeData node = found.nodeData := by
        rw [Heap.nodeData, isCell, Option.bind_some]
      rcases freeRound_spec (Heap.isSome_of_cell (disposable.live node List.mem_cons_self))
        (fun data points => ⟨disposable.dataLive data (heap.data_mem rest points),
          fun same => disposable.apart data (heap.data_mem rest points)
            (same ▸ List.mem_cons_of_mem _ List.mem_cons_self)⟩) with ⟨middle, round, frees⟩
      rcases inductionHypothesis (disposable.later frees) with ⟨after, loops, all⟩
      refine ⟨after, ?_, .cons disposable.separate frees all⟩
      intro fuel
      cases fuel with
      | zero => rfl
      | succ fuel =>
          have notHead : node ≠ head := fun same => outside (same ▸ List.mem_cons_self)
          rw [isData] at round
          rw [List.headD_cons, deInitDoublyLinkedListLoop_succ notHead isCell, round,
            Option.bind_some, isNext, loops fuel]
          simp only [List.length_cons, Nat.add_lt_add_iff_right]

/-- What the whole call leaves behind: an empty list. -/
structure TearsDown (heap after : Heap Addr Content) (head : Addr) (nodes : List Addr) : Prop where
  ring : HeapRing after head []
  freed : forall address, address ∈ nodes ∨ address ∈ heap.datas nodes -> after address = none
  elsewhere : forall other, other ∉ head :: nodes -> other ∉ heap.datas nodes ->
    after other = heap other

theorem deInitDoublyLinkedListNode_spec (ring : HeapRing heap head nodes)
    (dataLive : forall data, data ∈ heap.datas nodes -> (heap data).isSome)
    (dataDistinct : (heap.datas nodes).Nodup)
    (apart : forall data, data ∈ heap.datas nodes -> data ∉ head :: nodes) :
    Exists fun after =>
      (forall fuel, deInitDoublyLinkedListNode fuel heap (some head) =
        if nodes.length < fuel then some (none, after) else none) ∧
      TearsDown heap after head nodes := by
  have disposable := ring.disposable dataLive dataDistinct apart
  rcases deInitDoublyLinkedListLoop_spec disposable with ⟨middle, loops, all⟩
  have headOutside : head ∉ heap.datas nodes := fun member =>
    apart head member List.mem_cons_self
  have headKept := all.elsewhere head (List.nodup_cons.mp ring.ring.distinct).1 headOutside
  have headLive : (middle.cell head).isSome := by
    rw [Heap.cell, headKept]
    exact ring.live head List.mem_cons_self
  rcases initDoublyLinkedListNode_spec headLive with ⟨after, done, empty, rewrites, _⟩
  have elsewhere : forall other, other ≠ head -> after other = middle other := rewrites.elsewhere
  refine ⟨after, ?_, empty, ?_, ?_⟩
  · intro fuel
    have whole : deInitDoublyLinkedListNode fuel heap (some head) =
        (deInitDoublyLinkedListLoop head fuel heap (nodes.headD head)).bind (fun heap =>
          initDoublyLinkedListNode heap (some head)) := by
      simp only [deInitDoublyLinkedListNode, ring.ring.next_head, initDoublyLinkedListNode,
        Option.bind_eq_bind, Option.bind_some]
    rw [whole, loops fuel]
    split
    · exact done
    · rfl
  · intro address member
    rw [elsewhere address]
    · exact all.freed address member
    · rintro rfl
      rcases member with isCell | isData
      · exact (List.nodup_cons.mp ring.ring.distinct).1 isCell
      · exact headOutside isData
  · intro other outside notData
    rw [elsewhere other (fun same => outside (same ▸ List.mem_cons_self))]
    exact all.elsewhere other (fun member => outside (List.mem_cons_of_mem _ member)) notData

end Teardown
end V2x
