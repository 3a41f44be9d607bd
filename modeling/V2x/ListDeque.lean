import V2x.Foundations.TransitionSystem
import V2x.ListMirror

namespace V2x
namespace ListDeque

open Foundations

/-!
# The list is a deque

A client of the list creates cells, inserts them at either end and deletes at
either end.  Beside the heap the state records two things that the code does
not store: the cells that were created and not inserted yet, and the abstract
sequence, which every call changes by a push or a pop at the end it names.  An
item of the sequence is a cell together with the data pointer that the cell
held when it was inserted.

The result is that the links always spell the sequence, in both directions,
and that every call has a result, so that none reads or writes a freed cell.
-/

/-! ## Deques -/

/-- A call on a deque of items. -/
inductive DequeOp (Item : Type) where
  | pushFront (item : Item)
  | pushBack (item : Item)
  | popFront
  | popBack
deriving DecidableEq, Repr

/-- The item that a pop hands out, and the items that are left. -/
def DequeOp.act {Item : Type} (items : List Item) : DequeOp Item -> Option Item × List Item
  | .pushFront item => (none, item :: items)
  | .pushBack item => (none, items ++ [item])
  | .popFront => (items.head?, items.tail)
  | .popBack => (items.getLast?, items.dropLast)

/-! ## Calls of a client -/

variable {Addr Content : Type} [DecidableEq Addr]

/-- A call with its arguments and with the outcome of its `malloc`. -/
inductive DequeCall (Addr : Type) where
  | create (nodeData allocated : Option Addr)
  | insertHead (node : Option Addr)
  | insertTail (node : Option Addr)
  | deleteHead (node : Option Addr)
  | deleteTail (node : Option Addr)
deriving DecidableEq, Repr

/-- A pointer or a return code. -/
inductive Reply (Addr : Type) where
  | pointer (node : Option Addr)
  | code (ret : Int)
deriving DecidableEq, Repr

/-- The heap, the cells that wait for their insertion, and the abstract
sequence. -/
structure DequeState (Addr Content : Type) where
  heap : Heap Addr Content
  created : List Addr
  items : List (Addr × Option Addr)

/-- The code behind a call. -/
def execute (heap : Heap Addr Content) (head : Addr) :
    DequeCall Addr -> Option (Reply Addr × Heap Addr Content)
  | .create nodeData allocated => do
      let (node, heap) <- createDoublyLinkedListNode heap nodeData allocated
      return (.pointer node, heap)
  | .insertHead node => do
      let (ret, heap) <- insertHeadDoublyLinkedListNode heap (some head) node
      return (.code ret, heap)
  | .insertTail node => do
      let (ret, heap) <- insertTailDoublyLinkedListNode heap (some head) node
      return (.code ret, heap)
  | .deleteHead node => do
      let (ret, heap) <- deleteHeadDoublyLinkedListNode heap (some head) node
      return (.code ret, heap)
  | .deleteTail node => do
      let (ret, heap) <- deleteTailDoublyLinkedListNode heap (some head) node
      return (.code ret, heap)

omit [DecidableEq Addr] in
/-- What a call means for the sequence; calls with a `NULL` node mean nothing. -/
def meaning (heap : Heap Addr Content) :
    DequeCall Addr -> Option (DequeOp (Addr × Option Addr))
  | .create _ _ => none
  | .insertHead node => node.map (fun cell => .pushFront (cell, heap.nodeData cell))
  | .insertTail node => node.map (fun cell => .pushBack (cell, heap.nodeData cell))
  | .deleteHead node => node.map (fun _ => .popFront)
  | .deleteTail node => node.map (fun _ => .popBack)

omit [DecidableEq Addr] in
/-- The sequence after a call, and the item that the call took out. -/
def abstractly (state : DequeState Addr Content) (call : DequeCall Addr) :
    Option (Addr × Option Addr) × List (Addr × Option Addr) :=
  match meaning state.heap call with
  | some op => op.act state.items
  | none => (none, state.items)

/-- The cells that wait for their insertion after a call. -/
def createdAfter (created : List Addr) : DequeCall Addr -> Reply Addr -> List Addr
  | .create _ _, .pointer node => node.toList ++ created
  | .insertHead node, _ => created.filter (fun cell => some cell ≠ node)
  | .insertTail node, _ => created.filter (fun cell => some cell ≠ node)
  | _, _ => created

/-- One call, with its reply. -/
def call (head : Addr) (state : DequeState Addr Content) (made : DequeCall Addr) :
    Option (Reply Addr × DequeState Addr Content) := do
  let (reply, heap) <- execute state.heap head made
  return (reply, { heap := heap, created := createdAfter state.created made reply,
                   items := (abstractly state made).2 })

def dequeMachine (head : Addr) : Machine (DequeState Addr Content) (DequeCall Addr) where
  step state made := (call head state made).map Prod.snd

/-- What a client has to keep to: `malloc` returns an unused address, a cell
is inserted once after it was created, and the cell that receives the data of
a deleted one is no member of the list.  The head may receive it. -/
def Proper (state : DequeState Addr Content) : DequeCall Addr -> Prop
  | .create _ allocated => forall node, node ∈ allocated -> state.heap node = none
  | .insertHead node | .insertTail node => forall cell, cell ∈ node -> cell ∈ state.created
  | .deleteHead node | .deleteTail node => forall cell, cell ∈ node ->
      (state.heap.cell cell).isSome ∧ cell ∉ state.items.map Prod.fst

instance decidableProper (state : DequeState Addr Content) :
    (made : DequeCall Addr) -> Decidable (Proper state made)
  | .create _ allocated =>
      inferInstanceAs (Decidable (forall node, node ∈ allocated -> state.heap node = none))
  | .insertHead node | .insertTail node =>
      inferInstanceAs (Decidable (forall cell, cell ∈ node -> cell ∈ state.created))
  | .deleteHead node | .deleteTail node =>
      inferInstanceAs (Decidable (forall cell, cell ∈ node ->
        (state.heap.cell cell).isSome ∧ cell ∉ state.items.map Prod.fst))

/-! ## What a call shows -/

/-- Nothing is allocated or freed but at this address. -/
def AllocatedAlike (heap after : Heap Addr Content) (except : Addr) : Prop :=
  forall other, other ≠ except -> (after other).isSome = (heap other).isSome

/-- A deletion that met an empty list, or one that took this item out and left
its data pointer in the receiving cell. -/
def Deleted (before after : DequeState Addr Content) (receiver : Addr) (reply : Reply Addr) :
    Option (Addr × Option Addr) -> Prop
  | none => before.items = [] ∧ reply = .code (-1) ∧ after = before
  | some item =>
      reply = .code 0 ∧ (before.heap.cell item.1).isSome ∧ after.heap item.1 = none ∧
      AllocatedAlike before.heap after.heap item.1 ∧
      (after.heap.cell receiver).isSome ∧ after.heap.nodeData receiver = item.2

/-- The reply and the heap after a call. -/
def Observed (before : DequeState Addr Content) (made : DequeCall Addr) (reply : Reply Addr)
    (after : DequeState Addr Content) : Prop :=
  match made with
  | .create (some data) (some node) =>
      reply = .pointer (some node) ∧ after.heap.nodeData node = some data ∧
      forall other, other ≠ node -> after.heap other = before.heap other
  | .create _ _ => reply = .pointer none ∧ after.heap = before.heap
  | .insertHead (some _) | .insertTail (some _) =>
      reply = .code 0 ∧ after.heap.nodeData = before.heap.nodeData ∧
      forall other, (after.heap other).isSome = (before.heap other).isSome
  | .deleteHead (some receiver) | .deleteTail (some receiver) =>
      Deleted before after receiver reply (abstractly before made).1
  | _ => reply = .code (-1) ∧ after = before

/-! ## The invariant -/

/-- The links spell the sequence, every member still holds the data pointer it
was inserted with, and the created cells are no members. -/
structure DequeInv (head : Addr) (state : DequeState Addr Content) : Prop where
  ring : HeapRing state.heap head (state.items.map Prod.fst)
  stored : forall item, item ∈ state.items -> state.heap.nodeData item.1 = item.2
  createdLive : forall cell, cell ∈ state.created -> (state.heap.cell cell).isSome
  createdFresh : forall cell, cell ∈ state.created -> cell ∉ head :: state.items.map Prod.fst

variable {head : Addr} {state : DequeState Addr Content}

/-- A cell that was created is put somewhere into the sequence. -/
theorem DequeInv.insert (inv : DequeInv head state) {cell : Addr} {after : Heap Addr Content}
    {items : List (Addr × Option Addr)} (isCreated : cell ∈ state.created)
    (ring : HeapRing after head (items.map Prod.fst))
    (nodeData : after.nodeData = state.heap.nodeData)
    (elsewhere : forall other, other ∉ cell :: head :: state.items.map Prod.fst ->
      after other = state.heap other)
    (members : forall item, item ∈ items <->
      item = (cell, state.heap.nodeData cell) ∨ item ∈ state.items) :
    DequeInv head
      { heap := after, created := state.created.filter (fun other => some other ≠ some cell),
        items := items } ∧
    forall other, (after other).isSome = (state.heap other).isSome := by
  have memberCells : forall other, other ∈ items.map Prod.fst <->
      other = cell ∨ other ∈ state.items.map Prod.fst := by
    intro other
    simp only [List.mem_map, members]
    constructor
    · rintro ⟨item, rfl | earlier, rfl⟩
      · exact Or.inl rfl
      · exact Or.inr ⟨item, earlier, rfl⟩
    · rintro (rfl | ⟨item, earlier, rfl⟩)
      · exact ⟨_, Or.inl rfl, rfl⟩
      · exact ⟨item, Or.inr earlier, rfl⟩
  have outside : forall other, other ∈ state.created -> other ≠ cell ->
      other ∉ cell :: head :: state.items.map Prod.fst := by
    intro other waits different
    exact List.not_mem_cons_of_ne_of_not_mem different (inv.createdFresh other waits)
  refine ⟨⟨ring, ?_, ?_, ?_⟩, ?_⟩
  · intro item member
    rw [nodeData]
    rcases (members item).mp member with rfl | earlier
    · rfl
    · exact inv.stored item earlier
  · intro other waits
    rcases List.mem_filter.mp waits with ⟨waited, different⟩
    have notCell : other ≠ cell := by simpa using different
    simpa only [Heap.cell, elsewhere other (outside other waited notCell)] using
      inv.createdLive other waited
  · intro other waits
    rcases List.mem_filter.mp waits with ⟨waited, different⟩
    have notCell : other ≠ cell := by simpa using different
    have fresh := inv.createdFresh other waited
    simp only [List.mem_cons, not_or] at fresh ⊢
    exact ⟨fresh.1, fun member => ((memberCells other).mp member).elim notCell fresh.2⟩
  · intro other
    by_cases inRing : other ∈ cell :: head :: state.items.map Prod.fst
    · have wasLive : (state.heap.cell other).isSome := by
        rcases List.mem_cons.mp inRing with rfl | member
        · exact inv.createdLive other isCreated
        · exact inv.ring.live other member
      have isLive : (after.cell other).isSome := by
        apply ring.live
        simp only [List.mem_cons, memberCells] at inRing ⊢
        tauto
      rw [Heap.isSome_of_cell wasLive, Heap.isSome_of_cell isLive]
    · rw [elsewhere other inRing]

/-- An item at one end of the sequence is taken out. -/
theorem DequeInv.delete (inv : DequeInv head state) {item : Addr × Option Addr} {receiver : Addr}
    {after : Heap Addr Content} {items : List (Addr × Option Addr)}
    (isMember : item ∈ state.items) (receiverOutside : receiver ∉ state.items.map Prod.fst)
    (ring : HeapRing after head (items.map Prod.fst)) (freed : after item.1 = none)
    (receiverLive : (state.heap.cell receiver).isSome) (receives : (after.cell receiver).isSome)
    (nodeData : forall other, other ≠ receiver -> other ≠ item.1 ->
      after.nodeData other = state.heap.nodeData other)
    (elsewhere : forall other, other ∉ receiver :: head :: state.items.map Prod.fst ->
      after other = state.heap other)
    (members : forall other, other ∈ state.items <-> other = item ∨ other ∈ items)
    (itemGone : item.1 ∉ items.map Prod.fst) :
    DequeInv head { heap := after, created := state.created, items := items } ∧
    AllocatedAlike state.heap after item.1 := by
  have earlier : forall other, other ∈ items.map Prod.fst -> other ∈ state.items.map Prod.fst := by
    intro other member
    rcases List.mem_map.mp member with ⟨found, inItems, rfl⟩
    exact List.mem_map_of_mem ((members found).mpr (Or.inr inItems))
  refine ⟨⟨ring, ?_, ?_, ?_⟩, ?_⟩
  · intro other member
    have listed : other.1 ∈ items.map Prod.fst := List.mem_map_of_mem member
    have notReceiver : other.1 ≠ receiver := fun same =>
      receiverOutside (same ▸ earlier other.1 listed)
    have notItem : other.1 ≠ item.1 := fun same => itemGone (same ▸ listed)
    exact (nodeData other.1 notReceiver notItem).trans
      (inv.stored other ((members other).mpr (Or.inr member)))
  · intro other waits
    by_cases atReceiver : other = receiver
    · rw [atReceiver]
      exact receives
    · have outside := List.not_mem_cons_of_ne_of_not_mem atReceiver (inv.createdFresh other waits)
      simpa only [Heap.cell, elsewhere other outside] using inv.createdLive other waits
  · intro other waits
    have fresh := inv.createdFresh other waits
    simp only [List.mem_cons, not_or] at fresh ⊢
    exact ⟨fresh.1, fun member => fresh.2 (earlier other member)⟩
  · intro other notItem
    by_cases inRing : other ∈ receiver :: head :: state.items.map Prod.fst
    · have both : (state.heap.cell other).isSome ∧ (after.cell other).isSome := by
        rcases List.mem_cons.mp inRing with rfl | member
        · exact ⟨receiverLive, receives⟩
        · refine ⟨inv.ring.live other member, ring.live other ?_⟩
          rcases List.mem_cons.mp member with rfl | listed
          · exact List.mem_cons_self
          · rcases List.mem_map.mp listed with ⟨found, inState, rfl⟩
            rcases (members found).mp inState with rfl | stays
            · exact absurd rfl notItem
            · exact List.mem_cons_of_mem _ (List.mem_map_of_mem stays)
      rw [Heap.isSome_of_cell both.1, Heap.isSome_of_cell both.2]
    · rw [elsewhere other inRing]

/-! ## Every call -/

/-- The call has a result, which keeps the invariant and shows what it should. -/
def Served (head : Addr) (state : DequeState Addr Content) (made : DequeCall Addr) : Prop :=
  Exists fun reply => Exists fun next => call head state made = some (reply, next) ∧
    DequeInv head next ∧ Observed state made reply next

theorem served_create (inv : DequeInv head state) {nodeData allocated : Option Addr}
    (unused : forall node, node ∈ allocated -> state.heap node = none) :
    Served head state (.create nodeData allocated) := by
  cases nodeData with
  | none => exact ⟨_, _, rfl, inv, rfl, rfl⟩
  | some data =>
      cases allocated with
      | none => exact ⟨_, _, rfl, inv, rfl, rfl⟩
      | some node =>
          have nodeUnused := unused node rfl
          rcases createDoublyLinkedListNode_spec data nodeUnused with
            ⟨after, done, live, holds, elsewhere⟩
          have notAllocated : forall other, (state.heap.cell other).isSome -> other ≠ node := by
            rintro other isCell rfl
            have isBlock := Heap.isSome_of_cell isCell
            rw [nodeUnused] at isBlock
            cases isBlock
          refine ⟨.pointer (some node), ⟨after, node :: state.created, state.items⟩, ?_,
            ⟨?_, ?_, ?_, ?_⟩, rfl, holds, elsewhere⟩
          · simp only [call, execute, done, Option.bind_eq_bind, Option.bind_some, Option.pure_def]
            rfl
          · exact inv.ring.congr fun address member =>
              elsewhere address (notAllocated address (inv.ring.live address member))
          · intro item member
            have inRing : item.1 ∈ state.items.map Prod.fst := List.mem_map_of_mem member
            have isCell := inv.ring.live item.1 (List.mem_cons_of_mem head inRing)
            have kept := elsewhere item.1 (notAllocated item.1 isCell)
            simpa only [Heap.nodeData, Heap.cell, kept] using inv.stored item member
          · intro cell waits
            rcases List.mem_cons.mp waits with rfl | earlier
            · exact live
            · have isCell := inv.createdLive cell earlier
              simpa only [Heap.cell, elsewhere cell (notAllocated cell isCell)] using isCell
          · intro cell waits
            rcases List.mem_cons.mp waits with rfl | earlier
            · exact fun member => notAllocated cell (inv.ring.live cell member) rfl
            · exact inv.createdFresh cell earlier

theorem served_insertHead (inv : DequeInv head state) {node : Option Addr}
    (isCreated : forall cell, cell ∈ node -> cell ∈ state.created) :
    Served head state (.insertHead node) := by
  cases node with
  | none =>
      refine ⟨.code (-1), state, ?_, inv, rfl, rfl⟩
      have unchanged : state.created.filter (fun cell => some cell ≠ none) = state.created := by
        simp
      simp only [call, execute, insertHeadDoublyLinkedListNode, createdAfter, unchanged,
        Option.bind_eq_bind, Option.bind_some, Option.pure_def]
      rfl
  | some cell =>
      have waits := isCreated cell rfl
      rcases insertHeadDoublyLinkedListNode_spec inv.ring (inv.createdLive cell waits)
        (inv.createdFresh cell waits) with ⟨after, done, inserts⟩
      have ring : HeapRing after head
          (((cell, state.heap.nodeData cell) :: state.items).map Prod.fst) := inserts.ring
      have inserted := inv.insert waits ring inserts.nodeData inserts.elsewhere
        (fun item => List.mem_cons)
      refine ⟨.code 0, _, ?_, inserted.1, rfl, inserts.nodeData, inserted.2⟩
      simp only [call, execute, done, Option.bind_eq_bind, Option.bind_some, Option.pure_def]
      rfl

theorem served_insertTail (inv : DequeInv head state) {node : Option Addr}
    (isCreated : forall cell, cell ∈ node -> cell ∈ state.created) :
    Served head state (.insertTail node) := by
  cases node with
  | none =>
      refine ⟨.code (-1), state, ?_, inv, rfl, rfl⟩
      have unchanged : state.created.filter (fun cell => some cell ≠ none) = state.created := by
        simp
      simp only [call, execute, insertTailDoublyLinkedListNode, createdAfter, unchanged,
        Option.bind_eq_bind, Option.bind_some, Option.pure_def]
      rfl
  | some cell =>
      have waits := isCreated cell rfl
      rcases insertTailDoublyLinkedListNode_spec inv.ring (inv.createdLive cell waits)
        (inv.createdFresh cell waits) with ⟨after, done, inserts⟩
      have ring : HeapRing after head
          ((state.items ++ [(cell, state.heap.nodeData cell)]).map Prod.fst) := by
        simpa using inserts.ring
      have inserted := inv.insert waits ring inserts.nodeData inserts.elsewhere
        (fun item => by simp [or_comm])
      refine ⟨.code 0, _, ?_, inserted.1, rfl, inserts.nodeData, inserted.2⟩
      simp only [call, execute, done, Option.bind_eq_bind, Option.bind_some, Option.pure_def]
      rfl

theorem served_deleteHead (inv : DequeInv head state) {node : Option Addr}
    (receives : forall cell, cell ∈ node ->
      (state.heap.cell cell).isSome ∧ cell ∉ state.items.map Prod.fst) :
    Served head state (.deleteHead node) := by
  cases node with
  | none => exact ⟨.code (-1), state, rfl, inv, rfl, rfl⟩
  | some receiver =>
      rcases receives receiver rfl with ⟨live, outside⟩
      rcases state with ⟨heap, created, items⟩
      cases items with
      | nil =>
          have done : deleteHeadDoublyLinkedListNode heap (some head) (some receiver) =
            some (-1, heap) := deleteHeadDoublyLinkedListNode_empty inv.ring
          refine ⟨.code (-1), _, ?_, inv, rfl, rfl, rfl⟩
          simp only [call, execute, done, Option.bind_eq_bind, Option.bind_some, Option.pure_def]
          rfl
      | cons item rest =>
          have notFirst : receiver ≠ item.1 := fun same => outside (same ▸ List.mem_cons_self)
          rcases deleteHeadDoublyLinkedListNode_spec inv.ring live notFirst with
            ⟨after, done, removes⟩
          have itemGone := (List.nodup_cons.mp (List.nodup_cons.mp inv.ring.ring.distinct).2).1
          have deleted := inv.delete List.mem_cons_self outside removes.ring removes.freed live
            removes.outputLive removes.nodeData removes.elsewhere (fun _ => List.mem_cons) itemGone
          have wasLive : (heap.cell item.1).isSome :=
            inv.ring.live item.1 (List.mem_cons_of_mem _ List.mem_cons_self)
          have held : heap.nodeData item.1 = item.2 := inv.stored item List.mem_cons_self
          refine ⟨.code 0, _, ?_, deleted.1, rfl, wasLive, removes.freed, deleted.2,
            removes.outputLive, removes.output.trans held⟩
          simp only [call, execute, done, Option.bind_eq_bind, Option.bind_some, Option.pure_def]
          rfl

theorem served_deleteTail (inv : DequeInv head state) {node : Option Addr}
    (receives : forall cell, cell ∈ node ->
      (state.heap.cell cell).isSome ∧ cell ∉ state.items.map Prod.fst) :
    Served head state (.deleteTail node) := by
  cases node with
  | none => exact ⟨.code (-1), state, rfl, inv, rfl, rfl⟩
  | some receiver =>
      rcases receives receiver rfl with ⟨live, outside⟩
      rcases state with ⟨heap, created, items⟩
      cases items using List.reverseRecOn with
      | nil =>
          have done : deleteTailDoublyLinkedListNode heap (some head) (some receiver) =
            some (-1, heap) := deleteTailDoublyLinkedListNode_empty inv.ring
          refine ⟨.code (-1), _, ?_, inv, rfl, rfl, rfl⟩
          simp only [call, execute, done, Option.bind_eq_bind, Option.bind_some, Option.pure_def]
          rfl
      | append_singleton rest item _ =>
          have isLast : item ∈ rest ++ [item] := List.mem_append_right _ List.mem_cons_self
          have ring : HeapRing heap head (rest.map Prod.fst ++ [item.1]) := by
            simpa using inv.ring
          have notLast : receiver ≠ item.1 := fun same =>
            outside (same ▸ List.mem_map_of_mem isLast)
          rcases deleteTailDoublyLinkedListNode_spec ring live notLast with ⟨after, done, removes⟩
          have itemGone : item.1 ∉ rest.map Prod.fst := fun member =>
            (List.nodup_append.mp (List.nodup_cons.mp ring.ring.distinct).2).2.2 item.1 member
              item.1 List.mem_cons_self rfl
          have elsewhere : forall other,
              other ∉ receiver :: head :: (rest ++ [item]).map Prod.fst ->
              after other = heap other := by
            simpa using removes.elsewhere
          have deleted := inv.delete isLast outside removes.ring removes.freed live
            removes.outputLive removes.nodeData elsewhere (fun _ => by simp [or_comm]) itemGone
          have wasLive : (heap.cell item.1).isSome :=
            ring.live item.1 (List.mem_cons_of_mem _ (List.mem_append_right _ List.mem_cons_self))
          have held : heap.nodeData item.1 = item.2 := inv.stored item isLast
          have poppedIs : abstractly ⟨heap, created, rest ++ [item]⟩ (.deleteTail (some receiver)) =
              (some item, rest) := by
            simp [abstractly, meaning, DequeOp.act]
          refine ⟨.code 0, ⟨after, created, rest⟩, ?_, deleted.1, ?_⟩
          · simp only [call, execute, done, poppedIs, createdAfter, Option.bind_eq_bind,
              Option.bind_some, Option.pure_def]
          · rw [Observed, poppedIs]
            exact ⟨rfl, wasLive, removes.freed, deleted.2, removes.outputLive,
              removes.output.trans held⟩

/-- Every proper call is served. -/
theorem served (inv : DequeInv head state) {made : DequeCall Addr} (proper : Proper state made) :
    Served head state made := by
  cases made with
  | create nodeData allocated => exact served_create inv proper
  | insertHead node => exact served_insertHead inv proper
  | insertTail node => exact served_insertTail inv proper
  | deleteHead node => exact served_deleteHead inv proper
  | deleteTail node => exact served_deleteTail inv proper

/-- A step of the machine is a call that was served. -/
theorem dequeInv_step {made : DequeCall Addr} {next : DequeState Addr Content}
    (inv : DequeInv head state) (proper : Proper state made)
    (stepped : (dequeMachine head).step state made = some next) : DequeInv head next := by
  rcases served inv proper with ⟨reply, reached, done, kept, _⟩
  have same : (call head state made).map Prod.snd = some next := stepped
  rw [done] at same
  cases same
  exact kept

/-! ## Runs -/

/-- Following `next` from the head visits the sequence and comes back, and
following `prev` visits its reverse. -/
structure Spells (head : Addr) (state : DequeState Addr Content) : Prop where
  forward : follow state.heap.next head state.items.length = some (state.items.map Prod.fst)
  backward :
    follow state.heap.prev head state.items.length = some (state.items.map Prod.fst).reverse

theorem DequeInv.spells (inv : DequeInv head state) : Spells head state where
  forward := by simpa using inv.ring.ring.follow_next
  backward := by simpa using inv.ring.ring.follow_prev

/-- After `InitDoublyLinkedListNode` the list is the empty deque. -/
theorem dequeInv_initial {heap start : Heap Addr Content} {ret : Option Int}
    (initialised : initDoublyLinkedListNode heap (some head) = some (ret, start)) :
    DequeInv head ⟨start, [], []⟩ := by
  have live : (heap.cell head).isSome := by
    rcases Option.bind_eq_some_iff.mp initialised with ⟨first, nextDone, _⟩
    rcases Option.map_eq_some_iff.mp nextDone with ⟨found, isCell, _⟩
    rw [isCell]
    rfl
  rcases initDoublyLinkedListNode_spec live with ⟨after, done, ring, _⟩
  rw [done] at initialised
  cases initialised
  exact ⟨ring, by simp, by simp, by simp⟩

/-- Every sequence of proper calls on an initialised head can be executed, the
links spell the abstract sequence after every call, and every call returns and
frees what it should. -/
theorem linkedList_refines_deque {heap start : Heap Addr Content} {ret : Option Int}
    (initialised : initDoublyLinkedListNode heap (some head) = some (ret, start))
    (calls : List (DequeCall Addr))
    (proper : (dequeMachine head).AllSteps Proper ⟨start, [], []⟩ calls) :
    (Exists fun final => (dequeMachine head).run ⟨start, [], []⟩ calls = some final) ∧
    (dequeMachine head).EveryState (Spells head) ⟨start, [], []⟩ calls ∧
    (dequeMachine head).AllSteps
      (fun before made => Exists fun reply => Exists fun after =>
        call head before made = some (reply, after) ∧ Observed before made reply after)
      ⟨start, [], []⟩ calls := by
  have kept : forall (before : DequeState Addr Content) made after, DequeInv head before ->
      Proper before made -> (dequeMachine head).step before made = some after ->
      DequeInv head after := fun _ _ _ inv => dequeInv_step inv
  refine ⟨?_, ?_, ?_⟩
  · apply (dequeMachine head).exists_run_of_allSteps _ (dequeInv_initial initialised) proper
    intro before made inv isProper
    rcases served inv isProper with ⟨reply, after, done, stays, _⟩
    refine ⟨after, ?_, stays⟩
    change (call head before made).map Prod.snd = some after
    rw [done]
    rfl
  · exact (dequeMachine head).everyState_imp (fun _ inv => inv.spells)
      ((dequeMachine head).everyState_of_allSteps kept (dequeInv_initial initialised) proper)
  · apply (dequeMachine head).allSteps_of_invariant kept _ (dequeInv_initial initialised) proper
    intro before made inv isProper
    rcases served inv isProper with ⟨reply, after, done, _, observed⟩
    exact ⟨reply, after, done, observed⟩

/-- A head and a receiving cell whose links have not been set. -/
def twoCells : Heap Nat Unit := fun address =>
  if address < 2 then some (.node { nodeData := none, prev := 7, next := 8 }) else none

/-- The same with the head initialised. -/
def emptyList : Heap Nat Unit := fun address =>
  if address = 0 then some (.node { nodeData := none, prev := 0, next := 0 })
  else twoCells address

/-- Two cells go in at the two ends, and come out at the tail and at the head,
the last one into the head itself; the list is empty for the last call. -/
def twoCellCalls : List (DequeCall Nat) :=
  [.create (some 20) (some 2), .insertHead (some 2), .create (some 30) (some 3),
    .insertTail (some 3), .deleteTail (some 1), .create (some 40) (some 3), .insertTail (some 3),
    .deleteHead (some 1), .deleteHead (some 0), .deleteTail (some 1)]

theorem linkedList_refines_deque_twoCells :
    (Exists fun final => (dequeMachine 0).run (⟨emptyList, [], []⟩ : DequeState Nat Unit)
      twoCellCalls = some final) ∧
    (dequeMachine 0).EveryState (Spells 0) ⟨emptyList, [], []⟩ twoCellCalls ∧
    (dequeMachine 0).AllSteps
      (fun before made => Exists fun reply => Exists fun after =>
        call 0 before made = some (reply, after) ∧ Observed before made reply after)
      ⟨emptyList, [], []⟩ twoCellCalls := by
  have initialised : initDoublyLinkedListNode twoCells (some 0) = some (none, emptyList) := by
    have same : Function.update (Function.update twoCells 0
        (some (.node { nodeData := none, prev := 7, next := 0 }))) 0
        (some (.node { nodeData := none, prev := 0, next := 0 })) = emptyList := by
      funext address
      by_cases atHead : address = 0
      · rw [atHead]
        rfl
      · rw [Function.update_of_ne atHead, Function.update_of_ne atHead, emptyList, if_neg atHead]
    rw [← same]
    rfl
  exact linkedList_refines_deque initialised twoCellCalls (by decide +kernel)

end ListDeque
end V2x
