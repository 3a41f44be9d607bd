import V2x.Foundations.LinkedRing

namespace V2x

open Foundations

/-!
# The doubly linked list on a heap of cells

`linked_list.c` works on cells that hold a data pointer and two links.  The
heap maps an address to the block that is allocated there: a cell, or the
object some `nodeData` points to.  Every access to a cell is partial, so a
function that reads or writes a cell that has been freed has no result.

`NULL` is `none`.  The links of a cell are never `NULL` once the cell has been
initialised, and they are plain addresses here; the links of a cell that has
not been initialised are arbitrary addresses.

The last section states each operation on the ring of members.  A client of
the list needs nothing but these statements.
-/

/-- `DoublyLinkedListNode`. -/
structure DoublyLinkedListNode (Addr : Type) where
  nodeData : Option Addr
  prev : Addr
  next : Addr
deriving DecidableEq, Repr

/-- What is allocated at an address. -/
inductive Block (Addr Content : Type) where
  | node (cell : DoublyLinkedListNode Addr)
  | data (content : Content)
deriving DecidableEq, Repr

/-- An address that maps to nothing is not allocated. -/
abbrev Heap (Addr Content : Type) := Addr -> Option (Block Addr Content)

namespace Heap

variable {Addr Content : Type} [DecidableEq Addr]

omit [DecidableEq Addr] in
/-- The list cell at an address, if there is one. -/
def cell (heap : Heap Addr Content) (address : Addr) : Option (DoublyLinkedListNode Addr) :=
  match heap address with
  | some (.node found) => some found
  | _ => none

omit [DecidableEq Addr] in
/-- The object at an address that is not a list cell, if there is one. -/
def content (heap : Heap Addr Content) (address : Addr) : Option Content :=
  match heap address with
  | some (.data found) => some found
  | _ => none

omit [DecidableEq Addr] in
def next (heap : Heap Addr Content) (address : Addr) : Option Addr :=
  (heap.cell address).map DoublyLinkedListNode.next

omit [DecidableEq Addr] in
def prev (heap : Heap Addr Content) (address : Addr) : Option Addr :=
  (heap.cell address).map DoublyLinkedListNode.prev

omit [DecidableEq Addr] in
/-- The data pointer of a cell; nothing for `NULL` and for a missing cell. -/
def nodeData (heap : Heap Addr Content) (address : Addr) : Option Addr :=
  (heap.cell address).bind DoublyLinkedListNode.nodeData

/-- Rewrite a cell in place. -/
def modify (heap : Heap Addr Content) (address : Addr)
    (change : DoublyLinkedListNode Addr -> DoublyLinkedListNode Addr) :
    Option (Heap Addr Content) :=
  (heap.cell address).map (fun found =>
    Function.update heap address (some (.node (change found))))

def setNext (heap : Heap Addr Content) (address target : Addr) : Option (Heap Addr Content) :=
  heap.modify address (fun found => { found with next := target })

def setPrev (heap : Heap Addr Content) (address target : Addr) : Option (Heap Addr Content) :=
  heap.modify address (fun found => { found with prev := target })

def setNodeData (heap : Heap Addr Content) (address : Addr) (target : Option Addr) :
    Option (Heap Addr Content) :=
  heap.modify address (fun found => { found with nodeData := target })

/-- A successful `malloc` returned this address, which was not in use. -/
def malloc (heap : Heap Addr Content) (address : Addr) (block : Block Addr Content) :
    Option (Heap Addr Content) :=
  if (heap address).isNone then some (Function.update heap address (some block)) else none

/-- `free` of a pointer that is not allocated has no result. -/
def free (heap : Heap Addr Content) (address : Addr) : Option (Heap Addr Content) :=
  if (heap address).isSome then some (Function.update heap address none) else none

/-! ## What one access changes -/

omit [DecidableEq Addr] in
theorem cell_of_node {heap : Heap Addr Content} {address : Addr}
    {found : DoublyLinkedListNode Addr} (block : heap address = some (.node found)) :
    heap.cell address = some found := by
  simp only [cell, block]

omit [DecidableEq Addr] in
theorem node_of_cell {heap : Heap Addr Content} {address : Addr}
    {found : DoublyLinkedListNode Addr} (live : heap.cell address = some found) :
    heap address = some (.node found) := by
  simp only [cell] at live
  split at live
  next other same => rw [same, Option.some.inj live]
  next => cases live

omit [DecidableEq Addr] in
theorem data_of_content {heap : Heap Addr Content} {address : Addr} {found : Content}
    (held : heap.content address = some found) : heap address = some (.data found) := by
  simp only [content] at held
  split at held
  next other same => rw [same, Option.some.inj held]
  next => cases held

omit [DecidableEq Addr] in
theorem content_eq_none_of_cell {heap : Heap Addr Content} {address : Addr}
    (live : (heap.cell address).isSome) : heap.content address = none := by
  rcases Option.isSome_iff_exists.mp live with ⟨found, same⟩
  simp only [content, node_of_cell same]

omit [DecidableEq Addr] in
theorem cell_eq_none_of_content {heap : Heap Addr Content} {address : Addr}
    (held : (heap.content address).isSome) : heap.cell address = none := by
  rcases Option.isSome_iff_exists.mp held with ⟨found, same⟩
  simp only [cell, data_of_content same]

omit [DecidableEq Addr] in
theorem isSome_of_content {heap : Heap Addr Content} {address : Addr}
    (held : (heap.content address).isSome) : (heap address).isSome := by
  rcases Option.isSome_iff_exists.mp held with ⟨found, same⟩
  rw [data_of_content same]
  rfl

omit [DecidableEq Addr] in
theorem isSome_of_cell {heap : Heap Addr Content} {address : Addr}
    (live : (heap.cell address).isSome) : (heap address).isSome := by
  rcases Option.isSome_iff_exists.mp live with ⟨found, same⟩
  rw [node_of_cell same]
  rfl

/-- What a write to one field of a cell leaves behind. -/
structure Rewrites (heap after : Heap Addr Content) (address : Addr) : Prop where
  cells : forall other, (after.cell other).isSome = (heap.cell other).isSome
  contents : after.content = heap.content
  elsewhere : forall other, other ≠ address -> after other = heap other

theorem modify_spec {heap : Heap Addr Content} {address : Addr}
    {found : DoublyLinkedListNode Addr} (live : heap.cell address = some found)
    (change : DoublyLinkedListNode Addr -> DoublyLinkedListNode Addr) :
    Exists fun after => heap.modify address change = some after ∧
      Rewrites heap after address ∧
      forall other, after.cell other =
        if other = address then some (change found) else heap.cell other := by
  have cells : forall other,
      cell (Function.update heap address (some (.node (change found)))) other =
        if other = address then some (change found) else heap.cell other := by
    intro other
    by_cases same : other = address
    · subst other
      rw [if_pos rfl]
      exact cell_of_node (Function.update_self address _ heap)
    · simp only [cell, Function.update_of_ne same, if_neg same]
  refine ⟨_, by rw [modify, live]; rfl, ⟨?_, ?_, ?_⟩, cells⟩
  · intro other
    rw [cells other]
    by_cases same : other = address
    · rw [if_pos same, same, live]
      rfl
    · rw [if_neg same]
  · funext other
    by_cases same : other = address
    · subst other
      simp only [content, Function.update_self, node_of_cell live]
    · simp only [content, Function.update_of_ne same]
  · intro other different
    exact Function.update_of_ne different _ heap

/-- Any reading of the cells sees the rewritten cell at its address and the
old cells elsewhere. -/
theorem read_of_cells {Reading : Type} {heap after : Heap Addr Content} {address : Addr}
    {changed : DoublyLinkedListNode Addr}
    (cells : forall other, after.cell other =
      if other = address then some changed else heap.cell other)
    (read : Option (DoublyLinkedListNode Addr) -> Reading) :
    (fun other => read (after.cell other)) =
      Function.update (fun other => read (heap.cell other)) address (read (some changed)) := by
  funext other
  rw [cells other]
  by_cases same : other = address
  · rw [if_pos same, same, Function.update_self]
  · rw [if_neg same, Function.update_of_ne same]

/-- A reading that does not look at the rewritten field is unchanged. -/
theorem read_kept {Reading : Type} {heap after : Heap Addr Content} {address : Addr}
    {found changed : DoublyLinkedListNode Addr} (live : heap.cell address = some found)
    (cells : forall other, after.cell other =
      if other = address then some changed else heap.cell other)
    (read : Option (DoublyLinkedListNode Addr) -> Reading)
    (kept : read (some changed) = read (some found)) :
    (fun other => read (after.cell other)) = fun other => read (heap.cell other) := by
  rw [read_of_cells cells read, kept, ← live]
  exact Function.update_eq_self address (fun other => read (heap.cell other))

theorem setNext_spec {heap : Heap Addr Content} {address : Addr}
    (live : (heap.cell address).isSome) (target : Addr) :
    Exists fun after => heap.setNext address target = some after ∧
      Rewrites heap after address ∧
      after.next = Function.update heap.next address (some target) ∧
      after.prev = heap.prev ∧ after.nodeData = heap.nodeData := by
  rcases Option.isSome_iff_exists.mp live with ⟨found, same⟩
  rcases modify_spec same (fun old => { old with next := target }) with
    ⟨after, done, rewrites, cells⟩
  exact ⟨after, done, rewrites,
    read_of_cells cells (fun read => read.map DoublyLinkedListNode.next),
    read_kept same cells (fun read => read.map DoublyLinkedListNode.prev) rfl,
    read_kept same cells (fun read => read.bind DoublyLinkedListNode.nodeData) rfl⟩

theorem setPrev_spec {heap : Heap Addr Content} {address : Addr}
    (live : (heap.cell address).isSome) (target : Addr) :
    Exists fun after => heap.setPrev address target = some after ∧
      Rewrites heap after address ∧
      after.prev = Function.update heap.prev address (some target) ∧
      after.next = heap.next ∧ after.nodeData = heap.nodeData := by
  rcases Option.isSome_iff_exists.mp live with ⟨found, same⟩
  rcases modify_spec same (fun old => { old with prev := target }) with
    ⟨after, done, rewrites, cells⟩
  exact ⟨after, done, rewrites,
    read_of_cells cells (fun read => read.map DoublyLinkedListNode.prev),
    read_kept same cells (fun read => read.map DoublyLinkedListNode.next) rfl,
    read_kept same cells (fun read => read.bind DoublyLinkedListNode.nodeData) rfl⟩

theorem setNodeData_spec {heap : Heap Addr Content} {address : Addr}
    (live : (heap.cell address).isSome) (target : Option Addr) :
    Exists fun after => heap.setNodeData address target = some after ∧
      Rewrites heap after address ∧
      after.nodeData = Function.update heap.nodeData address target ∧
      after.next = heap.next ∧ after.prev = heap.prev := by
  rcases Option.isSome_iff_exists.mp live with ⟨found, same⟩
  rcases modify_spec same (fun old => { old with nodeData := target }) with
    ⟨after, done, rewrites, cells⟩
  exact ⟨after, done, rewrites,
    read_of_cells cells (fun read => read.bind DoublyLinkedListNode.nodeData),
    read_kept same cells (fun read => read.map DoublyLinkedListNode.next) rfl,
    read_kept same cells (fun read => read.map DoublyLinkedListNode.prev) rfl⟩

/-- Only the freed address changes. -/
theorem free_spec {heap : Heap Addr Content} {address : Addr} (live : (heap address).isSome) :
    Exists fun after => heap.free address = some after ∧ after address = none ∧
      forall other, other ≠ address -> after other = heap other :=
  ⟨_, by rw [free, if_pos live], Function.update_self address none heap,
    fun _ different => Function.update_of_ne different none heap⟩

/-- What a successful `malloc` leaves behind. -/
structure Mallocs (heap after : Heap Addr Content) (address : Addr)
    (block : Block Addr Content) : Prop where
  unused : heap address = none
  holds : after address = some block
  elsewhere : forall other, other ≠ address -> after other = heap other

theorem mallocs_of_malloc {heap after : Heap Addr Content} {address : Addr}
    {block : Block Addr Content} (done : heap.malloc address block = some after) :
    Mallocs heap after address block := by
  unfold malloc at done
  split at done
  next unused =>
    cases done
    exact ⟨Option.isNone_iff_eq_none.mp unused, Function.update_self address _ heap,
      fun _ different => Function.update_of_ne different _ heap⟩
  next => cases done

omit [DecidableEq Addr] in
theorem Mallocs.kept {heap after : Heap Addr Content} {address other : Addr}
    {block : Block Addr Content} (mallocs : Mallocs heap after address block)
    (live : (heap other).isSome) : after other = heap other := by
  apply mallocs.elsewhere
  rintro rfl
  rw [mallocs.unused] at live
  cases live

/-- What a successful `free` leaves behind. -/
structure Frees (heap after : Heap Addr Content) (address : Addr) : Prop where
  gone : after address = none
  elsewhere : forall other, other ≠ address -> after other = heap other

theorem frees_of_free {heap after : Heap Addr Content} {address : Addr}
    (freed : heap.free address = some after) : Frees heap after address := by
  unfold free at freed
  split at freed
  next =>
    cases freed
    exact ⟨Function.update_self address none heap,
      fun _ different => Function.update_of_ne different none heap⟩
  next => cases freed

end Heap

/-! ## The operations of `linked_list.c` -/

section Operations

variable {Addr Content : Type} [DecidableEq Addr]

/-- `InitDoublyLinkedListNode`.  On its regular path the function ends without
a `return`, so it has no return value there. -/
def initDoublyLinkedListNode (heap : Heap Addr Content) :
    Option Addr -> Option (Option Int × Heap Addr Content)
  | none => some (some (-1), heap)
  | some node => do
      let heap <- heap.setNext node node
      let heap <- heap.setPrev node node
      return (none, heap)

/-- `CreateDoublyLinkedListNode`; `allocated` is the outcome of `malloc`. -/
def createDoublyLinkedListNode (heap : Heap Addr Content) (nodeData allocated : Option Addr) :
    Option (Option Addr × Heap Addr Content) :=
  match nodeData, allocated with
  | none, _ => some (none, heap)
  | some _, none => some (none, heap)
  | some data, some node => do
      let heap <- heap.malloc node (.node { nodeData := some data, prev := node, next := node })
      let (_, heap) <- initDoublyLinkedListNode heap (some node)
      return (some node, heap)

/-- `InsertHeadDoublyLinkedListNode`. -/
def insertHeadDoublyLinkedListNode (heap : Heap Addr Content) (head node : Option Addr) :
    Option (Int × Heap Addr Content) :=
  match head, node with
  | some head, some node => do
      let headNext <- heap.next head
      let heap <- heap.setNext node headNext
      let heap <- heap.setPrev node head
      let heap <- heap.setNext head node
      let heap <- heap.setPrev headNext node
      return (0, heap)
  | _, _ => some (-1, heap)

/-- `InsertTailDoublyLinkedListNode`. -/
def insertTailDoublyLinkedListNode (heap : Heap Addr Content) (head node : Option Addr) :
    Option (Int × Heap Addr Content) :=
  match head, node with
  | some head, some node => do
      let headPrev <- heap.prev head
      let heap <- heap.setNext node head
      let heap <- heap.setPrev node headPrev
      let heap <- heap.setNext headPrev node
      let heap <- heap.setPrev head node
      return (0, heap)
  | _, _ => some (-1, heap)

/-- `DeleteHeadDoublyLinkedListNode`.  The data pointer of the removed cell is
handed out in `node`, and the cell is freed. -/
def deleteHeadDoublyLinkedListNode (heap : Heap Addr Content) (head node : Option Addr) :
    Option (Int × Heap Addr Content) :=
  match head, node with
  | some head, some node => do
      let headNext <- heap.next head
      if headNext = head then
        return (-1, heap)
      let headNextNext <- heap.next headNext
      let heap <- heap.setNext head headNextNext
      let heap <- heap.setPrev headNextNext head
      let removed <- heap.cell headNext
      let heap <- heap.setNodeData node removed.nodeData
      let heap <- heap.free headNext
      return (0, heap)
  | _, _ => some (-1, heap)

/-- `DeleteTailDoublyLinkedListNode`.  The same at the other end. -/
def deleteTailDoublyLinkedListNode (heap : Heap Addr Content) (head node : Option Addr) :
    Option (Int × Heap Addr Content) :=
  match head, node with
  | some head, some node => do
      let headPrev <- heap.prev head
      if headPrev = head then
        return (-1, heap)
      let headPrevPrev <- heap.prev headPrev
      let heap <- heap.setPrev head headPrevPrev
      let heap <- heap.setNext headPrevPrev head
      let removed <- heap.cell headPrev
      let heap <- heap.setNodeData node removed.nodeData
      let heap <- heap.free headPrev
      return (0, heap)
  | _, _ => some (-1, heap)

/-- The loop of `DeInitDoublyLinkedListNode`, with a bound on its rounds. -/
def deInitDoublyLinkedListLoop (head : Addr) :
    Nat -> Heap Addr Content -> Addr -> Option (Heap Addr Content)
  | 0, _, _ => none
  | fuel + 1, heap, node =>
      if node = head then some heap
      else do
        let delNode <- heap.cell node
        let heap <- match delNode.nodeData with
          | some data => heap.free data
          | none => some heap
        let heap <- heap.free node
        deInitDoublyLinkedListLoop head fuel heap delNode.next

/-- `DeInitDoublyLinkedListNode`.  As in `InitDoublyLinkedListNode`, the
regular path has no return value. -/
def deInitDoublyLinkedListNode (fuel : Nat) (heap : Heap Addr Content) :
    Option Addr -> Option (Option Int × Heap Addr Content)
  | none => some (some (-1), heap)
  | some head => do
      let first <- heap.next head
      let heap <- deInitDoublyLinkedListLoop head fuel heap first
      let heap <- heap.setNext head head
      let heap <- heap.setPrev head head
      return (none, heap)

end Operations

/-! ## The operations on rings -/

section Rings

variable {Addr Content : Type} [DecidableEq Addr]

/-- The cells reached from a head, and that they are allocated. -/
structure HeapRing (heap : Heap Addr Content) (head : Addr) (nodes : List Addr) : Prop where
  ring : Ring heap.next heap.prev head nodes
  live : forall address, address ∈ head :: nodes -> (heap.cell address).isSome

omit [DecidableEq Addr] in
/-- A ring is kept by every change outside its cells. -/
theorem HeapRing.congr {heap after : Heap Addr Content} {head : Addr} {nodes : List Addr}
    (ring : HeapRing heap head nodes)
    (kept : forall address, address ∈ head :: nodes -> after address = heap address) :
    HeapRing after head nodes where
  ring := by
    apply ring.ring.congr
    · intro address member
      simp only [Heap.next, Heap.cell, kept address member]
    · intro address member
      simp only [Heap.prev, Heap.cell, kept address member]
  live := by
    intro address member
    simpa only [Heap.cell, kept address member] using ring.live address member

omit [DecidableEq Addr] in
theorem HeapRing.first_mem (head : Addr) (nodes : List Addr) : nodes.headD head ∈ head :: nodes := by
  cases nodes <;> simp

omit [DecidableEq Addr] in
theorem HeapRing.last_mem (head : Addr) (nodes : List Addr) :
    nodes.getLastD head ∈ head :: nodes := by
  cases nodes using List.reverseRecOn <;> simp

theorem initDoublyLinkedListNode_spec {heap : Heap Addr Content} {node : Addr}
    (live : (heap.cell node).isSome) :
    Exists fun after => initDoublyLinkedListNode heap (some node) = some (none, after) ∧
      HeapRing after node [] ∧ Heap.Rewrites heap after node ∧ after.nodeData = heap.nodeData := by
  rcases Heap.setNext_spec live node with ⟨first, nextDone, nextRewrites, nextIs, prevKept, dataKept⟩
  have firstLive : (first.cell node).isSome := nextRewrites.cells node ▸ live
  rcases Heap.setPrev_spec firstLive node with
    ⟨after, prevDone, prevRewrites, prevIs, nextKept, dataKept'⟩
  refine ⟨after, ?_, ⟨?_, ?_⟩, ⟨?_, ?_, ?_⟩, dataKept'.trans dataKept⟩
  · simp only [initDoublyLinkedListNode, nextDone, prevDone, Option.bind_eq_bind, Option.bind_some,
      Option.pure_def]
  · apply Ring.empty
    · rw [nextKept, nextIs, Function.update_self]
    · rw [prevIs, Function.update_self]
  · intro address member
    rw [List.mem_singleton.mp member, prevRewrites.cells node]
    exact firstLive
  · intro other
    exact (prevRewrites.cells other).trans (nextRewrites.cells other)
  · exact prevRewrites.contents.trans nextRewrites.contents
  · intro other different
    exact (prevRewrites.elsewhere other different).trans (nextRewrites.elsewhere other different)

/-- A new cell points to its data and to itself, and nothing else changes. -/
theorem createDoublyLinkedListNode_spec {heap : Heap Addr Content} (data : Addr) {node : Addr}
    (free : heap node = none) :
    Exists fun after => createDoublyLinkedListNode heap (some data) (some node) =
        some (some node, after) ∧
      (after.cell node).isSome ∧ after.nodeData node = some data ∧
      forall other, other ≠ node -> after other = heap other := by
  let made := Function.update heap node
    (some (.node { nodeData := some data, prev := node, next := node }))
  have allocated : heap.malloc node (.node { nodeData := some data, prev := node, next := node }) =
      some made := by
    rw [Heap.malloc, free]
    rfl
  have madeCell : Heap.cell made node =
      some { nodeData := some data, prev := node, next := node } :=
    Heap.cell_of_node (Function.update_self node _ heap)
  have madeLive : (Heap.cell made node).isSome := by
    rw [madeCell]
    rfl
  rcases initDoublyLinkedListNode_spec madeLive with
    ⟨after, done, _, rewrites, dataKept⟩
  refine ⟨after, ?_, ?_, ?_, ?_⟩
  · simp only [createDoublyLinkedListNode, allocated, done, Option.bind_eq_bind, Option.bind_some,
      Option.pure_def]
  · rw [rewrites.cells node, madeCell]
    rfl
  · rw [dataKept, Heap.nodeData, madeCell]
    rfl
  · intro other different
    rw [rewrites.elsewhere other different]
    exact Function.update_of_ne different _ heap

/-- What an insertion leaves behind: the ring with the new first member, and
everything that does not belong to the ring as it was. -/
structure InsertsFront (heap after : Heap Addr Content) (head node : Addr) (nodes : List Addr) :
    Prop where
  ring : HeapRing after head (node :: nodes)
  nodeData : after.nodeData = heap.nodeData
  contents : after.content = heap.content
  elsewhere : forall other, other ∉ node :: head :: nodes -> after other = heap other

theorem insertHeadDoublyLinkedListNode_spec {heap : Heap Addr Content} {head node : Addr}
    {nodes : List Addr} (ring : HeapRing heap head nodes) (live : (heap.cell node).isSome)
    (fresh : node ∉ head :: nodes) :
    Exists fun after => insertHeadDoublyLinkedListNode heap (some head) (some node) =
        some (0, after) ∧ InsertsFront heap after head node nodes := by
  have headNext := ring.ring.next_head
  have firstMember := HeapRing.first_mem head nodes
  have nodeNotHead : node ≠ head := fun same => fresh (same ▸ List.mem_cons_self)
  have nodeNotFirst : node ≠ nodes.headD head := fun same => fresh (same ▸ firstMember)
  rcases Heap.setNext_spec live (nodes.headD head) with ⟨heap1, done1, rewrites1, next1, prev1, data1⟩
  have live1 : (heap1.cell node).isSome := rewrites1.cells node ▸ live
  rcases Heap.setPrev_spec live1 head with ⟨heap2, done2, rewrites2, prev2, next2, data2⟩
  have cells2 : forall other, (heap2.cell other).isSome = (heap.cell other).isSome := fun other =>
    (rewrites2.cells other).trans (rewrites1.cells other)
  have headLive2 : (heap2.cell head).isSome :=
    cells2 head ▸ ring.live head List.mem_cons_self
  rcases Heap.setNext_spec headLive2 node with ⟨heap3, done3, rewrites3, next3, prev3, data3⟩
  have cells3 : forall other, (heap3.cell other).isSome = (heap.cell other).isSome := fun other =>
    (rewrites3.cells other).trans (cells2 other)
  have firstLive3 : (heap3.cell (nodes.headD head)).isSome :=
    cells3 (nodes.headD head) ▸ ring.live _ firstMember
  rcases Heap.setPrev_spec firstLive3 node with ⟨after, done4, rewrites4, prev4, next4, data4⟩
  have cells4 : forall other, (after.cell other).isSome = (heap.cell other).isSome := fun other =>
    (rewrites4.cells other).trans (cells3 other)
  have nextIs : after.next =
      Function.update (Function.update heap.next node (some (nodes.headD head))) head (some node) := by
    rw [next4, next3, next2, next1]
  have prevIs : after.prev =
      Function.update (Function.update heap.prev node (some head)) (nodes.headD head) (some node) := by
    rw [prev4, prev3, prev2, prev1]
  refine ⟨after, ?_, ⟨⟨?_, ?_⟩, ?_, ?_, ?_⟩⟩
  · simp only [insertHeadDoublyLinkedListNode, headNext, done1, done2, done3, done4,
      Option.bind_eq_bind, Option.bind_some, Option.pure_def]
  · apply ring.ring.insertFront fresh
    · rw [nextIs, Function.update_self]
    · rw [nextIs, Function.update_of_ne nodeNotHead, Function.update_self]
    · rw [prevIs, Function.update_of_ne nodeNotFirst, Function.update_self]
    · rw [prevIs, Function.update_self]
    · intro cell member
      have notHead : cell ≠ head := fun same =>
        (List.nodup_cons.mp ring.ring.distinct).1 (same ▸ member)
      have notNode : cell ≠ node := fun same => fresh (same ▸ List.mem_cons_of_mem _ member)
      rw [nextIs, Function.update_of_ne notHead, Function.update_of_ne notNode]
    · intro cell member notFirst
      have notNode : cell ≠ node := fun same => fresh (same ▸ member)
      rw [prevIs, Function.update_of_ne notFirst, Function.update_of_ne notNode]
  · intro address member
    rw [cells4 address]
    simp only [List.mem_cons] at member
    rcases member with atHead | atNode | later
    · exact ring.live address (List.mem_cons.mpr (Or.inl atHead))
    · exact atNode ▸ live
    · exact ring.live address (List.mem_cons_of_mem _ later)
  · rw [data4, data3, data2, data1]
  · rw [rewrites4.contents, rewrites3.contents, rewrites2.contents, rewrites1.contents]
  · intro other outside
    have notNode : other ≠ node := fun same => outside (same ▸ List.mem_cons_self)
    have notRing : other ∉ head :: nodes := fun member => outside (List.mem_cons_of_mem _ member)
    have notHead : other ≠ head := fun same => notRing (same ▸ List.mem_cons_self)
    have notFirst : other ≠ nodes.headD head := fun same => notRing (same ▸ firstMember)
    rw [rewrites4.elsewhere other notFirst, rewrites3.elsewhere other notHead,
      rewrites2.elsewhere other notNode, rewrites1.elsewhere other notNode]

/-- An empty list is left as it is. -/
theorem deleteTailDoublyLinkedListNode_empty {heap : Heap Addr Content} {head node : Addr}
    (ring : HeapRing heap head []) :
    deleteTailDoublyLinkedListNode heap (some head) (some node) = some (-1, heap) := by
  have headPrev := ring.ring.prev_head
  rw [List.getLastD_nil] at headPrev
  simp only [deleteTailDoublyLinkedListNode, headPrev, Option.bind_eq_bind, Option.bind_some,
    if_true, Option.pure_def]

/-- What a removal at the back leaves behind. -/
structure RemovesBack (heap after : Heap Addr Content) (head node last : Addr)
    (nodes : List Addr) : Prop where
  ring : HeapRing after head nodes
  freed : after last = none
  output : after.nodeData node = heap.nodeData last
  outputLive : (after.cell node).isSome
  nodeData : forall other, other ≠ node -> other ≠ last -> after.nodeData other = heap.nodeData other
  contents : after.content = heap.content
  elsewhere : forall other, other ∉ node :: head :: (nodes ++ [last]) -> after other = heap other

theorem deleteTailDoublyLinkedListNode_spec {heap : Heap Addr Content} {head node last : Addr}
    {nodes : List Addr} (ring : HeapRing heap head (nodes ++ [last]))
    (live : (heap.cell node).isSome) (nodeNotLast : node ≠ last) :
    Exists fun after => deleteTailDoublyLinkedListNode heap (some head) (some node) =
        some (0, after) ∧ RemovesBack heap after head node last nodes := by
  have lastMember : last ∈ nodes ++ [last] := List.mem_append_right _ List.mem_cons_self
  have headParts := List.nodup_cons.mp ring.ring.distinct
  have lastNotHead : last ≠ head := fun same => headParts.1 (same ▸ lastMember)
  have lastNotIn : last ∉ head :: nodes := by
    intro member
    rcases List.mem_cons.mp member with atHead | earlier
    · exact lastNotHead atHead
    · exact (List.nodup_append.mp headParts.2).2.2 last earlier last List.mem_cons_self rfl
  have beforeMember := HeapRing.last_mem head nodes
  have lastNotBefore : last ≠ nodes.getLastD head := fun same => lastNotIn (same ▸ beforeMember)
  have memberRing : forall address, address ∈ head :: nodes -> address ∈ head :: (nodes ++ [last]) := by
    intro address member
    rcases List.mem_cons.mp member with atHead | earlier
    · exact List.mem_cons.mpr (Or.inl atHead)
    · exact List.mem_cons_of_mem _ (List.mem_append_left _ earlier)
  have lastInRing : last ∈ head :: (nodes ++ [last]) := List.mem_cons_of_mem _ lastMember
  have headPrev : heap.prev head = some last := by
    rw [ring.ring.prev_head, List.getLastD_concat]
  have lastPrev := ring.ring.prev_last
  rcases Heap.setPrev_spec (ring.live head List.mem_cons_self) (nodes.getLastD head) with
    ⟨heap1, done1, rewrites1, prev1, next1, data1⟩
  have beforeLive1 : (heap1.cell (nodes.getLastD head)).isSome :=
    rewrites1.cells _ ▸ ring.live _ (memberRing _ beforeMember)
  rcases Heap.setNext_spec beforeLive1 head with ⟨heap2, done2, rewrites2, next2, prev2, data2⟩
  have cells2 : forall other, (heap2.cell other).isSome = (heap.cell other).isSome := fun other =>
    (rewrites2.cells other).trans (rewrites1.cells other)
  have lastLive2 : (heap2.cell last).isSome :=
    cells2 last ▸ ring.live last lastInRing
  rcases Option.isSome_iff_exists.mp lastLive2 with ⟨removed, removedIs⟩
  have removedData : removed.nodeData = heap.nodeData last := by
    have read : heap2.nodeData last = removed.nodeData := by
      rw [Heap.nodeData, removedIs, Option.bind_some]
    rw [← read, data2, data1]
  rcases Heap.setNodeData_spec (cells2 node ▸ live) removed.nodeData with
    ⟨heap3, done3, rewrites3, data3, next3, prev3⟩
  have cells3 : forall other, (heap3.cell other).isSome = (heap.cell other).isSome := fun other =>
    (rewrites3.cells other).trans (cells2 other)
  have lastLive3 : (heap3.cell last).isSome :=
    cells3 last ▸ ring.live last lastInRing
  rcases Heap.free_spec (Heap.isSome_of_cell lastLive3) with ⟨after, done4, freed, kept4⟩
  have nextIs : forall cell, cell ≠ last ->
      after.next cell = Function.update heap.next (nodes.getLastD head) (some head) cell := by
    intro cell notLast
    rw [Heap.next, Heap.cell, kept4 cell notLast]
    change heap3.next cell = _
    rw [next3, next2, next1]
  have prevIs : forall cell, cell ≠ last ->
      after.prev cell = Function.update heap.prev head (some (nodes.getLastD head)) cell := by
    intro cell notLast
    rw [Heap.prev, Heap.cell, kept4 cell notLast]
    change heap3.prev cell = _
    rw [prev3, prev2, prev1]
  refine ⟨after, ?_, ⟨⟨?_, ?_⟩, freed, ?_, ?_, ?_, ?_, ?_⟩⟩
  · simp only [deleteTailDoublyLinkedListNode, headPrev, lastPrev, done1, done2, removedIs, done3,
      done4, Option.bind_eq_bind, Option.bind_some, Option.pure_def, if_neg lastNotHead]
  · apply ring.ring.removeBack
    · rw [prevIs head (Ne.symm lastNotHead), Function.update_self]
    · rw [nextIs _ (Ne.symm lastNotBefore), Function.update_self]
    · intro cell member
      have notLast : cell ≠ last := fun same => lastNotIn (same ▸ List.mem_cons_of_mem _ member)
      have notHead : cell ≠ head := fun same =>
        headParts.1 (same ▸ List.mem_append_left _ member)
      rw [prevIs cell notLast, Function.update_of_ne notHead]
    · intro cell member notBefore
      have notLast : cell ≠ last := fun same => lastNotIn (same ▸ member)
      rw [nextIs cell notLast, Function.update_of_ne notBefore]
  · intro address member
    have notLast : address ≠ last := fun same => lastNotIn (same ▸ member)
    rw [Heap.cell, kept4 address notLast]
    change (heap3.cell address).isSome
    rw [cells3 address]
    exact ring.live address (memberRing address member)
  · rw [Heap.nodeData, Heap.cell, kept4 node nodeNotLast]
    change heap3.nodeData node = _
    rw [data3, Function.update_self, removedData]
  · rw [Heap.cell, kept4 node nodeNotLast]
    change (heap3.cell node).isSome
    rw [cells3 node]
    exact live
  · intro other notNode notLast
    rw [Heap.nodeData, Heap.cell, kept4 other notLast]
    change heap3.nodeData other = _
    rw [data3, Function.update_of_ne notNode, data2, data1]
  · have contents3 : heap3.content = heap.content := by
      rw [rewrites3.contents, rewrites2.contents, rewrites1.contents]
    funext other
    by_cases atLast : other = last
    · have gone : heap3.content last = none := Heap.content_eq_none_of_cell lastLive3
      rw [atLast, ← contents3, gone, Heap.content, freed]
    · rw [← contents3, Heap.content, kept4 other atLast, Heap.content]
  · intro other notIn
    have notNode : other ≠ node := fun same => notIn (same ▸ List.mem_cons_self)
    have notRing : other ∉ head :: (nodes ++ [last]) := fun member =>
      notIn (List.mem_cons_of_mem _ member)
    have notHead : other ≠ head := fun same => notRing (same ▸ List.mem_cons_self)
    have notLast : other ≠ last := fun same => notRing (same.symm ▸ lastInRing)
    have notBefore : other ≠ nodes.getLastD head := fun same =>
      notRing (memberRing other (same ▸ beforeMember))
    rw [kept4 other notLast, rewrites3.elsewhere other notNode, rewrites2.elsewhere other notBefore,
      rewrites1.elsewhere other notHead]

end Rings
/-! ## Objects that are not cells -/

section Contents

variable {Addr Content : Type} [DecidableEq Addr]

omit [DecidableEq Addr] in
/-- Every object is where it was, and new ones may have come. -/
def KeepsContents (heap after : Heap Addr Content) : Prop :=
  forall address found, heap.content address = some found -> after.content address = some found

omit [DecidableEq Addr] in
theorem KeepsContents.trans {heap middle after : Heap Addr Content}
    (first : KeepsContents heap middle) (second : KeepsContents middle after) :
    KeepsContents heap after :=
  fun address found held => second address found (first address found held)

omit [DecidableEq Addr] in
/-- A change at one address keeps the objects at all others. -/
theorem keepsContents_elsewhere {heap after : Heap Addr Content} (address : Addr)
    (noObject : heap.content address = none)
    (kept : forall other, other ≠ address -> after other = heap other) : KeepsContents heap after := by
  intro other found held
  have different : other ≠ address := by
    rintro rfl
    rw [noObject] at held
    cases held
  simpa only [Heap.content, kept other different] using held

theorem keepsContents_modify {heap after : Heap Addr Content} {address : Addr}
    {change : DoublyLinkedListNode Addr -> DoublyLinkedListNode Addr}
    (done : heap.modify address change = some after) : KeepsContents heap after := by
  rcases Option.map_eq_some_iff.mp done with ⟨found, isCell, rfl⟩
  apply keepsContents_elsewhere address
  · apply Heap.content_eq_none_of_cell
    rw [isCell]
    rfl
  · exact fun other different => Function.update_of_ne different _ heap

theorem keepsContents_malloc {heap after : Heap Addr Content} {address : Addr}
    {block : Block Addr Content} (done : heap.malloc address block = some after) :
    KeepsContents heap after := by
  have mallocs := Heap.mallocs_of_malloc done
  apply keepsContents_elsewhere address
  · simp only [Heap.content, mallocs.unused]
  · exact mallocs.elsewhere

/-- Freeing a cell frees no object. -/
theorem keepsContents_free {heap after : Heap Addr Content} {address : Addr}
    (live : (heap.cell address).isSome) (done : heap.free address = some after) :
    KeepsContents heap after :=
  keepsContents_elsewhere address (Heap.content_eq_none_of_cell live)
    (Heap.frees_of_free done).elsewhere

theorem keepsContents_createDoublyLinkedListNode {heap after : Heap Addr Content}
    {nodeData allocated created : Option Addr}
    (done : createDoublyLinkedListNode heap nodeData allocated = some (created, after)) :
    KeepsContents heap after := by
  unfold createDoublyLinkedListNode at done
  split at done
  · cases done
    exact fun _ _ held => held
  · cases done
    exact fun _ _ held => held
  · rcases Option.bind_eq_some_iff.mp done with ⟨first, allocated, rest⟩
    rcases Option.bind_eq_some_iff.mp rest with ⟨⟨ret, second⟩, initDone, isResult⟩
    rcases Option.bind_eq_some_iff.mp initDone with ⟨third, nextDone, last⟩
    rcases Option.bind_eq_some_iff.mp last with ⟨fourth, prevDone, isSecond⟩
    cases isSecond
    cases isResult
    exact (keepsContents_malloc allocated).trans
      ((keepsContents_modify nextDone).trans (keepsContents_modify prevDone))

theorem keepsContents_insertHead {heap after : Heap Addr Content} {head node : Option Addr}
    {ret : Int} (done : insertHeadDoublyLinkedListNode heap head node = some (ret, after)) :
    KeepsContents heap after := by
  unfold insertHeadDoublyLinkedListNode at done
  split at done
  · rcases Option.bind_eq_some_iff.mp done with ⟨headNext, _, rest⟩
    rcases Option.bind_eq_some_iff.mp rest with ⟨first, firstDone, rest⟩
    rcases Option.bind_eq_some_iff.mp rest with ⟨second, secondDone, rest⟩
    rcases Option.bind_eq_some_iff.mp rest with ⟨third, thirdDone, rest⟩
    rcases Option.bind_eq_some_iff.mp rest with ⟨fourth, fourthDone, isResult⟩
    cases isResult
    exact (keepsContents_modify firstDone).trans ((keepsContents_modify secondDone).trans
      ((keepsContents_modify thirdDone).trans (keepsContents_modify fourthDone)))
  · cases done
    exact fun _ _ held => held

theorem keepsContents_deleteTail {heap after : Heap Addr Content} {head node : Option Addr}
    {ret : Int} (done : deleteTailDoublyLinkedListNode heap head node = some (ret, after)) :
    KeepsContents heap after := by
  unfold deleteTailDoublyLinkedListNode at done
  split at done
  · rcases Option.bind_eq_some_iff.mp done with ⟨headPrev, _, rest⟩
    split at rest
    · cases rest
      exact fun _ _ held => held
    · rcases Option.bind_eq_some_iff.mp rest with ⟨headPrevPrev, _, rest⟩
      rcases Option.bind_eq_some_iff.mp rest with ⟨first, firstDone, rest⟩
      rcases Option.bind_eq_some_iff.mp rest with ⟨second, secondDone, rest⟩
      rcases Option.bind_eq_some_iff.mp rest with ⟨removed, isCell, rest⟩
      rcases Option.bind_eq_some_iff.mp rest with ⟨third, thirdDone, rest⟩
      rcases Option.bind_eq_some_iff.mp rest with ⟨fourth, freed, isResult⟩
      cases isResult
      have live : (third.cell headPrev).isSome := by
        rcases Option.map_eq_some_iff.mp thirdDone with ⟨found, nodeCell, _⟩
        rcases Heap.modify_spec nodeCell (fun old => { old with nodeData := removed.nodeData }) with
          ⟨reached, again, rewrites, _⟩
        rw [show second.modify _ _ = some third from thirdDone] at again
        cases again
        rw [rewrites.cells headPrev, isCell]
        rfl
      exact (keepsContents_modify firstDone).trans ((keepsContents_modify secondDone).trans
        ((keepsContents_modify thirdDone).trans (keepsContents_free live freed)))
  · cases done
    exact fun _ _ held => held

end Contents

end V2x
