import V2x.LinkedList

namespace V2x

open Foundations

/-!
# The two ends of the list

Exchanging `prev` and `next` in every cell turns the operations at one end of
the list into those at the other end.  The deletions are literal mirror images
of each other.  `InsertTailDoublyLinkedListNode` writes the same four links as
the mirror image of `InsertHeadDoublyLinkedListNode` in another order, and
writes to different link fields commute, also where they hit one cell.

The statements about one end therefore give those about the other.
-/

variable {Addr Content : Type}

/-- The cell seen from behind. -/
def DoublyLinkedListNode.mirror (node : DoublyLinkedListNode Addr) : DoublyLinkedListNode Addr :=
  { nodeData := node.nodeData, prev := node.next, next := node.prev }

def Block.mirror : Block Addr Content -> Block Addr Content
  | .node cell => .node cell.mirror
  | .data content => .data content

namespace Heap

/-- The heap with every cell seen from behind. -/
def mirror (heap : Heap Addr Content) : Heap Addr Content :=
  fun address => (heap address).map Block.mirror

@[simp] theorem mirror_mirror (heap : Heap Addr Content) : heap.mirror.mirror = heap := by
  funext address
  simp only [mirror]
  cases heap address with
  | none => rfl
  | some block => cases block <;> rfl

@[simp] theorem isSome_mirror (heap : Heap Addr Content) (address : Addr) :
    (heap.mirror address).isSome = (heap address).isSome := by
  simp only [mirror, Option.isSome_map]

@[simp] theorem mirror_eq_none (heap : Heap Addr Content) (address : Addr) :
    heap.mirror address = none <-> heap address = none := by
  simp only [mirror, Option.map_eq_none_iff]

theorem cell_mirror (heap : Heap Addr Content) (address : Addr) :
    heap.mirror.cell address = (heap.cell address).map DoublyLinkedListNode.mirror := by
  simp only [cell, mirror]
  cases heap address with
  | none => rfl
  | some block => cases block <;> rfl

@[simp] theorem next_mirror (heap : Heap Addr Content) : heap.mirror.next = heap.prev := by
  funext address
  simp only [next, prev, cell_mirror, Option.map_map]
  rfl

@[simp] theorem prev_mirror (heap : Heap Addr Content) : heap.mirror.prev = heap.next := by
  funext address
  simp only [next, prev, cell_mirror, Option.map_map]
  rfl

@[simp] theorem nodeData_mirror (heap : Heap Addr Content) :
    heap.mirror.nodeData = heap.nodeData := by
  funext address
  simp only [nodeData, cell_mirror, Option.bind_map]
  rfl

@[simp] theorem content_mirror (heap : Heap Addr Content) :
    heap.mirror.content = heap.content := by
  funext address
  simp only [content, mirror]
  cases heap address with
  | none => rfl
  | some block => cases block <;> rfl

theorem isSome_cell_mirror (heap : Heap Addr Content) (address : Addr) :
    (heap.mirror.cell address).isSome = (heap.cell address).isSome := by
  simp only [cell_mirror, Option.isSome_map]

/-- Two heaps agree at an address exactly where their mirror images do. -/
theorem mirror_at_eq {heap after : Heap Addr Content} {address : Addr}
    (same : after.mirror address = heap.mirror address) : after address = heap address := by
  have back := congrArg (Option.map Block.mirror) same
  change after.mirror.mirror address = heap.mirror.mirror address at back
  simpa only [mirror_mirror] using back

variable [DecidableEq Addr]

theorem mirror_update (heap : Heap Addr Content) (address : Addr)
    (block : Option (Block Addr Content)) :
    mirror (Function.update heap address block) =
      Function.update heap.mirror address (block.map Block.mirror) := by
  funext other
  by_cases same : other = address
  · subst other
    simp only [mirror, Function.update_self]
  · simp only [mirror, Function.update_of_ne same]

/-- A write to the mirror image is the mirrored write. -/
theorem modify_mirror (heap : Heap Addr Content) (address : Addr)
    {change changed : DoublyLinkedListNode Addr -> DoublyLinkedListNode Addr}
    (mirrored : forall found, changed found.mirror = (change found).mirror) :
    heap.mirror.modify address changed = (heap.modify address change).map mirror := by
  simp only [modify, cell_mirror, Option.map_map]
  congr 1
  funext found
  simp only [Function.comp, mirrored, mirror_update, Option.map_some, Block.mirror]

theorem setNext_mirror (heap : Heap Addr Content) (address target : Addr) :
    heap.mirror.setNext address target = (heap.setPrev address target).map mirror :=
  modify_mirror heap address (fun _ => rfl)

theorem setPrev_mirror (heap : Heap Addr Content) (address target : Addr) :
    heap.mirror.setPrev address target = (heap.setNext address target).map mirror :=
  modify_mirror heap address (fun _ => rfl)

theorem setNodeData_mirror (heap : Heap Addr Content) (address : Addr) (target : Option Addr) :
    heap.mirror.setNodeData address target = (heap.setNodeData address target).map mirror :=
  modify_mirror heap address (fun _ => rfl)

theorem free_mirror (heap : Heap Addr Content) (address : Addr) :
    heap.mirror.free address = (heap.free address).map mirror := by
  unfold free
  rw [isSome_mirror]
  split
  · rw [Option.map_some, mirror_update, Option.map_none]
  · rfl

/-- The cell that a later write finds. -/
theorem cell_update (heap : Heap Addr Content) (address other : Addr)
    (found : DoublyLinkedListNode Addr) :
    cell (Function.update heap address (some (.node found))) other =
      if other = address then some found else heap.cell other := by
  by_cases same : other = address
  · subst other
    rw [if_pos rfl]
    exact cell_of_node (Function.update_self address _ heap)
  · simp only [cell, Function.update_of_ne same, if_neg same]

/-- Writes that commute on one cell commute on the heap. -/
theorem modify_comm (heap : Heap Addr Content) (first second : Addr)
    {change other : DoublyLinkedListNode Addr -> DoublyLinkedListNode Addr}
    (commute : forall found, change (other found) = other (change found)) :
    (heap.modify first change).bind (fun heap => heap.modify second other) =
      (heap.modify second other).bind (fun heap => heap.modify first change) := by
  by_cases same : second = first
  · subst second
    cases atFirst : heap.cell first with
    | none => simp only [modify, atFirst, Option.map_none, Option.bind_none]
    | some found =>
        simp only [modify, atFirst, Option.map_some, Option.bind_some, cell_update, if_true,
          Function.update_idem, commute]
  · have different : first ≠ second := Ne.symm same
    cases atFirst : heap.cell first <;> cases atSecond : heap.cell second <;>
      simp only [modify, atFirst, atSecond, Option.map_none, Option.map_some, Option.bind_none,
        Option.bind_some, cell_update, if_neg same, if_neg different, Option.some.injEq]
    exact Function.update_comm different _ _ heap

/-- Writes to the two link fields commute. -/
theorem setNext_setPrev_bind {Result : Type} (heap : Heap Addr Content)
    (first second target other : Addr) (rest : Heap Addr Content -> Option Result) :
    (heap.setNext first target).bind (fun heap => (heap.setPrev second other).bind rest) =
      (heap.setPrev second other).bind (fun heap => (heap.setNext first target).bind rest) := by
  have commuted : (heap.setNext first target).bind (fun heap => heap.setPrev second other) =
      (heap.setPrev second other).bind (fun heap => heap.setNext first target) :=
    modify_comm heap first second (fun _ => rfl)
  rw [← Option.bind_assoc, commuted, Option.bind_assoc]

end Heap

/-! ## The operations seen from behind -/

/-- What an operation returns on the mirror image. -/
def mirrorResult (result : Int × Heap Addr Content) : Int × Heap Addr Content :=
  (result.1, result.2.mirror)

/-- Both sides take the same step, and go on with what it finds or with its image. -/
theorem bind_mirrored {Found Image : Type} {found : Option Found} {seen : Option Image}
    {image : Found -> Image} {rest : Found -> Option (Int × Heap Addr Content)}
    {later : Image -> Option (Int × Heap Addr Content)} (same : seen = found.map image)
    (goesOn : forall value, later (image value) = (rest value).map mirrorResult) :
    seen.bind later = (found.bind rest).map mirrorResult := by
  rw [same, Option.bind_map, Option.map_bind]
  exact congrArg found.bind (funext goesOn)

variable [DecidableEq Addr]

theorem deleteTailDoublyLinkedListNode_mirror (heap : Heap Addr Content)
    (head node : Option Addr) :
    deleteTailDoublyLinkedListNode heap.mirror head node =
      (deleteHeadDoublyLinkedListNode heap head node).map mirrorResult := by
  cases head with
  | none => rfl
  | some head =>
      cases node with
      | none => rfl
      | some node =>
          simp only [deleteTailDoublyLinkedListNode, deleteHeadDoublyLinkedListNode,
            Option.bind_eq_bind, Option.pure_def, Heap.prev_mirror]
          refine bind_mirrored Option.map_id'.symm fun headNext => ?_
          split
          · rfl
          · refine bind_mirrored Option.map_id'.symm fun headNextNext => ?_
            refine bind_mirrored (heap.setPrev_mirror head headNextNext) fun heap1 => ?_
            refine bind_mirrored (heap1.setNext_mirror headNextNext head) fun heap2 => ?_
            refine bind_mirrored (heap2.cell_mirror headNext) fun removed => ?_
            refine bind_mirrored (heap2.setNodeData_mirror node removed.nodeData) fun heap3 => ?_
            exact bind_mirrored (heap3.free_mirror headNext) fun _ => rfl

/-- The two insertions write their links in different orders. -/
theorem insertHeadDoublyLinkedListNode_mirror (heap : Heap Addr Content)
    (head node : Option Addr) :
    insertHeadDoublyLinkedListNode heap.mirror head node =
      (insertTailDoublyLinkedListNode heap head node).map mirrorResult := by
  cases head with
  | none => rfl
  | some head =>
      cases node with
      | none => rfl
      | some node =>
          simp only [insertHeadDoublyLinkedListNode, insertTailDoublyLinkedListNode,
            Option.bind_eq_bind, Option.pure_def, Heap.next_mirror, Option.map_bind]
          congr 1
          funext headPrev
          -- both sides are sorted: the writes to `prev` first, then those to `next`
          simp only [Function.comp_def, Heap.setNext_mirror, Heap.setPrev_mirror,
            Option.bind_map, Option.map_bind, Heap.setNext_setPrev_bind]
          rfl

/-! ## The operations at the other end of a ring -/

omit [DecidableEq Addr] in
/-- A ring seen from behind runs the other way round. -/
theorem HeapRing.mirror {heap : Heap Addr Content} {head : Addr} {nodes : List Addr}
    (ring : HeapRing heap head nodes) : HeapRing heap.mirror head nodes.reverse where
  ring := by
    rw [Heap.next_mirror, Heap.prev_mirror]
    exact ring.ring.reverse
  live := by
    intro address member
    rw [Heap.isSome_cell_mirror]
    exact ring.live address (by simpa using member)

/-- What an insertion at the back leaves behind. -/
structure InsertsBack (heap after : Heap Addr Content) (head node : Addr) (nodes : List Addr) :
    Prop where
  ring : HeapRing after head (nodes ++ [node])
  nodeData : after.nodeData = heap.nodeData
  contents : after.content = heap.content
  elsewhere : forall other, other ∉ node :: head :: nodes -> after other = heap other

theorem insertTailDoublyLinkedListNode_spec {heap : Heap Addr Content} {head node : Addr}
    {nodes : List Addr} (ring : HeapRing heap head nodes) (live : (heap.cell node).isSome)
    (fresh : node ∉ head :: nodes) :
    Exists fun after => insertTailDoublyLinkedListNode heap (some head) (some node) =
        some (0, after) ∧ InsertsBack heap after head node nodes := by
  have mirrorLive : (heap.mirror.cell node).isSome := by
    rw [Heap.isSome_cell_mirror]
    exact live
  have mirrorFresh : node ∉ head :: nodes.reverse := by
    simpa using fresh
  rcases insertHeadDoublyLinkedListNode_spec ring.mirror mirrorLive mirrorFresh with
    ⟨mirrored, done, inserts⟩
  rw [insertHeadDoublyLinkedListNode_mirror] at done
  rcases Option.map_eq_some_iff.mp done with ⟨⟨ret, after⟩, taken, same⟩
  cases same
  refine ⟨after, taken, ⟨?_, ?_, ?_, ?_⟩⟩
  · have back := inserts.ring.mirror
    simpa using back
  · simpa using inserts.nodeData
  · simpa using inserts.contents
  · intro other outside
    apply Heap.mirror_at_eq
    apply inserts.elsewhere
    simpa using outside

/-- An empty list is left as it is. -/
theorem deleteHeadDoublyLinkedListNode_empty {heap : Heap Addr Content} {head node : Addr}
    (ring : HeapRing heap head []) :
    deleteHeadDoublyLinkedListNode heap (some head) (some node) = some (-1, heap) := by
  have headNext := ring.ring.next_head
  rw [List.headD_nil] at headNext
  simp only [deleteHeadDoublyLinkedListNode, headNext, Option.bind_eq_bind, Option.bind_some,
    if_true, Option.pure_def]

/-- What a removal at the front leaves behind. -/
structure RemovesFront (heap after : Heap Addr Content) (head node first : Addr)
    (nodes : List Addr) : Prop where
  ring : HeapRing after head nodes
  freed : after first = none
  output : after.nodeData node = heap.nodeData first
  outputLive : (after.cell node).isSome
  nodeData : forall other, other ≠ node -> other ≠ first -> after.nodeData other = heap.nodeData other
  contents : after.content = heap.content
  elsewhere : forall other, other ∉ node :: head :: first :: nodes -> after other = heap other

theorem deleteHeadDoublyLinkedListNode_spec {heap : Heap Addr Content} {head node first : Addr}
    {nodes : List Addr} (ring : HeapRing heap head (first :: nodes))
    (live : (heap.cell node).isSome) (nodeNotFirst : node ≠ first) :
    Exists fun after => deleteHeadDoublyLinkedListNode heap (some head) (some node) =
        some (0, after) ∧ RemovesFront heap after head node first nodes := by
  have mirrorLive : (heap.mirror.cell node).isSome := by
    rw [Heap.isSome_cell_mirror]
    exact live
  have mirrorRing : HeapRing heap.mirror head (nodes.reverse ++ [first]) := by
    simpa using ring.mirror
  rcases deleteTailDoublyLinkedListNode_spec mirrorRing mirrorLive nodeNotFirst with
    ⟨mirrored, done, removes⟩
  rw [deleteTailDoublyLinkedListNode_mirror] at done
  rcases Option.map_eq_some_iff.mp done with ⟨⟨ret, after⟩, taken, same⟩
  cases same
  refine ⟨after, taken, ⟨?_, ?_, ?_, ?_, ?_, ?_, ?_⟩⟩
  · simpa using removes.ring.mirror
  · simpa using removes.freed
  · simpa using removes.output
  · simpa [Heap.isSome_cell_mirror] using removes.outputLive
  · simpa using removes.nodeData
  · simpa using removes.contents
  · intro other outside
    apply Heap.mirror_at_eq
    apply removes.elsewhere
    simpa [or_comm] using outside

end V2x
