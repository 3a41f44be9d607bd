import Mathlib.Data.List.Perm.Basic
import V2x.Foundations.Programs
import V2x.ListTeardown

namespace V2x

open Foundations

/-!
# The accesses of a teardown

`DeInitDoublyLinkedListNode` as a program that reads, writes and frees.  The
accesses are noted in the order in which they are made, so what is freed, how
often, and what is read after that can be told from the notes.

Only the `next` links lead the loop, and nothing is asked of the `prev` links.
`free` is called with whatever a cell points to.
-/

/-- An access to a cell, or a call of `free`. -/
inductive HeapOp (Addr : Type) where
  | next (address : Addr)
  | nodeData (address : Addr)
  | free (address : Addr)
  | setNext (address target : Addr)
  | setPrev (address target : Addr)
deriving DecidableEq, Repr

namespace HeapOp

variable {Addr : Type}

def Answer : HeapOp Addr -> Type
  | .next _ => Addr
  | .nodeData _ => Option Addr
  | _ => Unit

/-- The block that is read, written or freed. -/
def address : HeapOp Addr -> Addr
  | .next address | .nodeData address | .free address | .setNext address _ | .setPrev address _ =>
      address

def freed : HeapOp Addr -> Option Addr
  | .free address => some address
  | _ => none

end HeapOp

abbrev HeapProgram (Addr : Type) := Program (HeapOp Addr) HeapOp.Answer

section Accesses

variable {Addr Content : Type} [DecidableEq Addr]

/-! ## The program -/

def readNext (address : Addr) : HeapProgram Addr Addr :=
  Program.perform (HeapOp.next address)

def readNodeData (address : Addr) : HeapProgram Addr (Option Addr) :=
  Program.perform (HeapOp.nodeData address)

/-- `free`, which does nothing with a null pointer. -/
def freePointer : Option Addr -> HeapProgram Addr Unit
  | some address => Program.perform (HeapOp.free address)
  | none => pure ()

def writeNext (address target : Addr) : HeapProgram Addr Unit :=
  Program.perform (HeapOp.setNext address target)

def writePrev (address target : Addr) : HeapProgram Addr Unit :=
  Program.perform (HeapOp.setPrev address target)

/-- The rest of a round, when the successor of the cell has been read. -/
def freeCell (delNode : Addr) : HeapProgram Addr Unit := do
  let nodeData <- readNodeData delNode
  if nodeData ≠ none then
    let nodeData <- readNodeData delNode
    freePointer nodeData
  freePointer (some delNode)

/-- The loop over the cells, with a bound on its rounds. -/
def freeCells (head : Addr) : Nat -> Addr -> HeapProgram Addr (Option Unit)
  | 0, _ => return none
  | fuel + 1, delNode =>
      if delNode = head then return some ()
      else do
        let node <- readNext delNode
        freeCell delNode
        freeCells head fuel node

/-- `DeInitDoublyLinkedListNode`.  Its regular path has no return value. -/
def deInitAccesses (fuel : Nat) : Option Addr -> HeapProgram Addr (Option (Option Int))
  | none => return some (some (-1))
  | some head => do
      let node <- readNext head
      let ended <- freeCells head fuel node
      if ended = none then return none
      else do
        writeNext head head
        writePrev head head
        return some none

/-- The heap answers.  What is freed is gone, whether it was allocated or not. -/
def accessKernel : Kernel (HeapOp Addr) HeapOp.Answer (Heap Addr Content) where
  answer heap
    | .next address => (heap.next address).map (fun next => (next, heap))
    | .nodeData address => (heap.cell address).map (fun cell => (cell.nodeData, heap))
    | .free address => some ((), Function.update heap address none)
    | .setNext address target => (heap.setNext address target).map (fun heap => ((), heap))
    | .setPrev address target => (heap.setPrev address target).map (fun heap => ((), heap))

/-- The same, with notes of the accesses. -/
def noting : Kernel (HeapOp Addr) HeapOp.Answer (Heap Addr Content × List (HeapOp Addr)) :=
  Program.logged accessKernel

/-! ## What the program does -/

variable {heap : Heap Addr Content} {head node : Addr} {nodes rest : List Addr}
  {log : List (HeapOp Addr)}

theorem exec_readNext : (readNext node).exec noting (heap, log) =
    (heap.next node).map (fun next => (next, heap, log ++ [.next node])) :=
  (Program.exec_perform noting (HeapOp.next node) (heap, log)).trans (Option.map_map _ _ _)

theorem exec_readNodeData : (readNodeData node).exec noting (heap, log) =
    (heap.cell node).map (fun cell => (cell.nodeData, heap, log ++ [.nodeData node])) :=
  (Program.exec_perform noting (HeapOp.nodeData node) (heap, log)).trans (Option.map_map _ _ _)

theorem exec_writeNext (target : Addr) : (writeNext node target).exec noting (heap, log) =
    (heap.setNext node target).map (fun heap => ((), heap, log ++ [.setNext node target])) :=
  (Program.exec_perform noting (HeapOp.setNext node target) (heap, log)).trans (Option.map_map _ _ _)

theorem exec_writePrev (target : Addr) : (writePrev node target).exec noting (heap, log) =
    (heap.setPrev node target).map (fun heap => ((), heap, log ++ [.setPrev node target])) :=
  (Program.exec_perform noting (HeapOp.setPrev node target) (heap, log)).trans (Option.map_map _ _ _)

theorem exec_freePointer (address : Addr) : (freePointer (some address)).exec noting (heap, log) =
    some ((), Function.update heap address none, log ++ [.free address]) :=
  rfl

omit [DecidableEq Addr] in
/-- The accesses of a round. -/
def roundAccesses (node : Addr) : Option Addr -> List (HeapOp Addr)
  | some data => [.next node, .nodeData node, .nodeData node, .free data, .free node]
  | none => [.next node, .nodeData node, .free node]

/-- A round reads the cell, frees its block, and then frees the cell. -/
theorem exec_round {cell : DoublyLinkedListNode Addr} (isCell : heap.cell node = some cell) :
    Exists fun after => FreesRound heap after node ∧
      forall log (continues : Addr -> HeapProgram Addr (Option Unit)),
        (readNext node >>= fun next => freeCell node >>= fun _ => continues next).exec noting
            (heap, log) =
          (continues cell.next).exec noting (after, log ++ roundAccesses node (heap.nodeData node)) := by
  have isData : heap.nodeData node = cell.nodeData := by
    rw [Heap.nodeData, isCell, Option.bind_some]
  have isNext : heap.next node = some cell.next := by
    rw [Heap.next, isCell, Option.map_some]
  rw [isData]
  cases points : cell.nodeData with
  | none =>
      refine ⟨Function.update heap node none, ⟨Function.update_self .., ?_, ?_⟩, ?_⟩
      · intro data isBlock
        rw [isData, points] at isBlock
        cases isBlock
      · exact fun other different _ => Function.update_of_ne different none heap
      · intro log continues
        simp only [freeCell, Program.exec_bind, Program.exec_ite, exec_readNext, exec_readNodeData,
          exec_freePointer, isNext, isCell, points, Option.map_some, Option.bind_some, ne_eq,
          not_true_eq_false, if_false, roundAccesses, List.append_assoc, List.cons_append,
          List.nil_append]
  | some data =>
      refine ⟨Function.update (Function.update heap data none) node none,
        ⟨Function.update_self .., ?_, ?_⟩, ?_⟩
      · intro other isBlock
        rw [isData, points] at isBlock
        cases isBlock
        rw [Function.update_apply]
        split
        · rfl
        · exact Function.update_self ..
      · intro other different notBlock
        rw [isData, points] at notBlock
        rw [Function.update_of_ne different, Function.update_of_ne]
        exact fun same => notBlock (congrArg some same.symm)
      · intro log continues
        simp only [freeCell, Program.exec_bind, Program.exec_ite, exec_readNext, exec_readNodeData,
          exec_freePointer, isNext, isCell, points, Option.map_some, Option.bind_some, ne_eq,
          reduceCtorEq, not_false_eq_true, if_true, roundAccesses, List.append_assoc,
          List.cons_append, List.nil_append]

/-! ## The loop -/

omit [DecidableEq Addr] in
/-- The second cell is the successor of the first one. -/
def NextTo (heap : Heap Addr Content) (first second : Addr) : Prop :=
  heap.next first = some second

omit [DecidableEq Addr] in
theorem nextTo_first (linked : (node :: rest ++ [head]).IsChain (NextTo heap)) :
    NextTo heap node (rest.headD head) := by
  cases rest with
  | nil => exact List.isChain_pair.mp linked
  | cons second others => exact (List.isChain_cons_cons.mp linked).1

omit [DecidableEq Addr] in
/-- The accesses of all rounds. -/
def loopAccesses (heap : Heap Addr Content) (nodes : List Addr) : List (HeapOp Addr) :=
  nodes.flatMap (fun node => roundAccesses node (heap.nodeData node))

/-- The loop ends after one round for each cell. -/
theorem exec_freeCells (separate : Separate heap head nodes)
    (linked : (nodes ++ [head]).IsChain (NextTo heap)) :
    Exists fun after => FreesAll heap after nodes ∧ forall fuel log, nodes.length < fuel ->
      (freeCells head fuel (nodes.headD head)).exec noting (heap, log) =
        some (some (), after, log ++ loopAccesses heap nodes) := by
  induction nodes generalizing heap with
  | nil =>
      refine ⟨heap, freesAll_nil heap, ?_⟩
      intro fuel log enough
      cases fuel with
      | zero => cases enough
      | succ fuel =>
          rw [List.headD_nil, freeCells, if_pos rfl, loopAccesses, List.flatMap_nil, List.append_nil]
          rfl
  | cons node rest inductionHypothesis =>
      have isNext := nextTo_first linked
      have notHead : node ≠ head := fun same =>
        (List.nodup_cons.mp separate.distinct).1 (same ▸ List.mem_cons_self)
      rcases Option.map_eq_some_iff.mp isNext with ⟨cell, isCell, nextIs⟩
      rcases exec_round isCell with ⟨middle, frees, round⟩
      have laterLinked : (rest ++ [head]).IsChain (NextTo middle) := by
        have tail : (rest ++ [head]).IsChain (NextTo heap) := List.IsChain.tail linked
        apply tail.imp_of_mem_imp
        intro first second isFirst _ follows
        have isCell : first ∈ head :: rest := by
          rw [List.mem_append, List.mem_singleton] at isFirst
          exact List.mem_cons.mpr isFirst.symm
        rw [NextTo, Heap.next, Heap.cell, separate.kept frees (Or.inl isCell)]
        exact follows
      rcases inductionHypothesis (separate.later frees) laterLinked with ⟨after, all, loops⟩
      have sameAccesses : loopAccesses middle rest = loopAccesses heap rest :=
        List.flatMap_congr fun cell member => by rw [separate.nodeData_kept frees member]
      refine ⟨after, .cons separate frees all, ?_⟩
      intro fuel log enough
      cases fuel with
      | zero => cases enough
      | succ fuel =>
          rw [List.headD_cons, freeCells, if_neg notHead]
          rw [round, nextIs, loops fuel _ (Nat.lt_of_succ_lt_succ enough), sameAccesses,
            List.append_assoc, loopAccesses, loopAccesses, List.flatMap_cons]

/-! ## The order of the accesses -/

omit [DecidableEq Addr] in
def freedBlocks (log : List (HeapOp Addr)) : List Addr :=
  log.filterMap HeapOp.freed

omit [DecidableEq Addr] in
/-- No block is read, written or freed after it was freed. -/
def NothingAfterFree (log : List (HeapOp Addr)) : Prop :=
  log.Pairwise (fun first second => first.freed ≠ some second.address)

omit [DecidableEq Addr] in
theorem nodup_freedBlocks {log : List (HeapOp Addr)} (ordered : NothingAfterFree log) :
    (freedBlocks log).Nodup := by
  apply List.Pairwise.filterMap _ _ ordered
  intro first second different address isFirst other isSecond same
  have isAddress : second.address = other := by
    cases second with
    | free address => exact Option.some.inj isSecond
    | next | nodeData | setNext | setPrev => cases isSecond
  exact different (isFirst.trans (congrArg some (same.trans isAddress.symm)))

omit [DecidableEq Addr] in
theorem mem_freedBlocks_round {data : Option Addr} {address : Addr} :
    address ∈ freedBlocks (roundAccesses node data) <-> address = node ∨ data = some address := by
  cases data with
  | none => simp [freedBlocks, roundAccesses, HeapOp.freed, eq_comm]
  | some block => simp [freedBlocks, roundAccesses, HeapOp.freed, or_comm, eq_comm]

omit [DecidableEq Addr] in
theorem address_round {data : Option Addr} {op : HeapOp Addr} (member : op ∈ roundAccesses node data) :
    op.address = node ∨ data = some op.address := by
  cases data with
  | none =>
      simp only [roundAccesses, List.mem_cons, List.not_mem_nil, or_false] at member
      rcases member with rfl | rfl | rfl <;> exact Or.inl rfl
  | some block =>
      simp only [roundAccesses, List.mem_cons, List.not_mem_nil, or_false] at member
      rcases member with rfl | rfl | rfl | rfl | rfl
      · exact Or.inl rfl
      · exact Or.inl rfl
      · exact Or.inl rfl
      · exact Or.inr rfl
      · exact Or.inl rfl

omit [DecidableEq Addr] in
theorem ordered_round {data : Option Addr} (apart : data ≠ some node) :
    NothingAfterFree (roundAccesses node data) := by
  cases data with
  | none => simp [NothingAfterFree, roundAccesses, HeapOp.freed]
  | some block =>
      simpa [NothingAfterFree, roundAccesses, HeapOp.freed, HeapOp.address] using
        fun same => apart (congrArg some same)

omit [DecidableEq Addr] in
theorem mem_freedBlocks_loop {address : Addr} : address ∈ freedBlocks (loopAccesses heap nodes) <->
    address ∈ nodes ∨ address ∈ heap.datas nodes := by
  rw [freedBlocks, loopAccesses, List.filterMap_flatMap, List.mem_flatMap, Heap.datas, List.mem_filterMap]
  constructor
  · rintro ⟨node, member, isFreed⟩
    rcases mem_freedBlocks_round.mp isFreed with rfl | isBlock
    · exact Or.inl member
    · exact Or.inr ⟨node, member, isBlock⟩
  · rintro (member | ⟨node, member, isBlock⟩)
    · exact ⟨address, member, mem_freedBlocks_round.mpr (Or.inl rfl)⟩
    · exact ⟨node, member, mem_freedBlocks_round.mpr (Or.inr isBlock)⟩

omit [DecidableEq Addr] in
theorem ordered_loop (separate : Separate heap head nodes) :
    NothingAfterFree (loopAccesses heap nodes) := by
  apply List.pairwise_flatMap.mpr
  constructor
  · intro node member
    apply ordered_round
    intro ownBlock
    exact separate.apart node (List.mem_filterMap.mpr ⟨node, member, ownBlock⟩)
      (List.mem_cons_of_mem _ member)
  · induction nodes with
    | nil => exact List.Pairwise.nil
    | cons node rest inductionHypothesis =>
        have parts := List.nodup_cons.mp (List.nodup_cons.mp separate.distinct).2
        apply List.Pairwise.cons
        · intro later isLater first isFirst second isSecond same
          have isBlock : forall {block}, heap.nodeData later = some block -> block ∈ heap.datas rest :=
            fun points => List.mem_filterMap.mpr ⟨later, isLater, points⟩
          have freed : second.address ∈ freedBlocks (roundAccesses node (heap.nodeData node)) :=
            List.mem_filterMap.mpr ⟨first, isFirst, same⟩
          rcases mem_freedBlocks_round.mp freed with isNode | ownBlock
          · rcases address_round isSecond with isCell | otherBlock
            · exact parts.1 (isNode ▸ isCell ▸ isLater)
            · apply separate.apart _ (heap.datas_subset node rest (isBlock otherBlock))
              exact isNode ▸ List.mem_cons_of_mem _ List.mem_cons_self
          · rcases address_round isSecond with isCell | otherBlock
            · apply separate.apart _ (heap.data_mem rest ownBlock)
              exact List.mem_cons_of_mem _ (List.mem_cons_of_mem _ (isCell ▸ isLater))
            · exact separate.data_fresh ownBlock (isBlock otherBlock)
        · exact inductionHypothesis separate.tail

/-! ## The whole call -/

omit [DecidableEq Addr] in
/-- Following `next` from the head visits these cells, which are distinct, and comes back. -/
structure LeadsBack (heap : Heap Addr Content) (head : Addr) (nodes : List Addr) : Prop where
  distinct : (head :: nodes).Nodup
  linked : (head :: nodes ++ [head]).IsChain (NextTo heap)

omit [DecidableEq Addr] in
/-- Every cell and every block is freed once, nothing is touched later, and the head is left as
an empty list. -/
structure Disposes (heap after : Heap Addr Content) (head : Addr) (nodes : List Addr)
    (log : List (HeapOp Addr)) : Prop where
  once : (freedBlocks log).Nodup
  freed : forall address, address ∈ freedBlocks log <->
    address ∈ nodes ∨ address ∈ heap.datas nodes
  nothingAfterFree : NothingAfterFree log
  headKept : head ∉ freedBlocks log
  empty : HeapRing after head []
  elsewhere : forall other, other ∉ head :: nodes -> other ∉ heap.datas nodes ->
    after other = heap other

/-- For a list of any length whose nodes and data are blocks of their own, the call ends, frees what
belongs to the list once, and reads nothing that it has freed. -/
theorem deInitAccesses_disposes (list : LeadsBack heap head nodes)
    (dataDistinct : (heap.datas nodes).Nodup)
    (apart : forall data, data ∈ heap.datas nodes -> data ∉ head :: nodes) :
    Exists fun after => Exists fun log => Disposes heap after head nodes log ∧
      forall fuel, nodes.length < fuel ->
        (deInitAccesses fuel (some head)).exec noting (heap, []) = some (some none, after, log) := by
  have separate : Separate heap head nodes := ⟨list.distinct, dataDistinct, apart⟩
  have isFirst := nextTo_first list.linked
  rcases exec_freeCells separate (List.IsChain.tail list.linked) with ⟨middle, all, loops⟩
  have headOutside : head ∉ nodes ∧ head ∉ heap.datas nodes :=
    ⟨(List.nodup_cons.mp list.distinct).1, fun member => apart head member List.mem_cons_self⟩
  have headLive : (middle.cell head).isSome := by
    rw [Heap.cell, all.elsewhere head headOutside.1 headOutside.2]
    rcases Option.map_eq_some_iff.mp isFirst with ⟨cell, isCell, _⟩
    exact Option.isSome_iff_exists.mpr ⟨cell, isCell⟩
  rcases Heap.setNext_spec headLive head with ⟨first, nextDone, nextRewrites, _⟩
  rcases initDoublyLinkedListNode_spec headLive with ⟨after, done, empty, rewrites, _⟩
  have prevDone : first.setPrev head head = some after := by
    simp only [initDoublyLinkedListNode, nextDone, Option.bind_eq_bind, Option.bind_some,
      Option.pure_def, Option.bind_eq_some_iff, Option.some.injEq, Prod.mk.injEq, true_and] at done
    rcases done with ⟨final, isFinal, rfl⟩
    exact isFinal
  have blocks : freedBlocks (.next head :: loopAccesses heap nodes ++
      [.setNext head head, .setPrev head head]) = freedBlocks (loopAccesses heap nodes) := by
    simp only [freedBlocks, List.cons_append, List.filterMap_cons, HeapOp.freed,
      List.filterMap_append, List.filterMap_nil, List.append_nil]
  have ordered : NothingAfterFree (.next head :: loopAccesses heap nodes ++
      [.setNext head head, .setPrev head head]) := by
    rw [List.cons_append]
    apply List.Pairwise.cons
    · intro later _ same
      cases same
    · apply List.pairwise_append.mpr
      refine ⟨ordered_loop separate, by simp [HeapOp.freed], ?_⟩
      intro access isAccess write isWrite same
      have isHead : write.address = head := by
        simp only [List.mem_cons, List.not_mem_nil, or_false] at isWrite
        rcases isWrite with rfl | rfl <;> rfl
      have freed : head ∈ freedBlocks (loopAccesses heap nodes) :=
        List.mem_filterMap.mpr ⟨access, isAccess, same.trans (congrArg some isHead)⟩
      rcases mem_freedBlocks_loop.mp freed with isCell | isBlock
      · exact headOutside.1 isCell
      · exact headOutside.2 isBlock
  refine ⟨after, _, ⟨nodup_freedBlocks ordered, ?_, ordered, ?_, empty, ?_⟩, ?_⟩
  · intro address
    rw [blocks]
    exact mem_freedBlocks_loop
  · rw [blocks, mem_freedBlocks_loop]
    exact not_or.mpr headOutside
  · intro other outside notBlock
    rw [rewrites.elsewhere other (fun same => outside (same ▸ List.mem_cons_self))]
    exact all.elsewhere other (fun member => outside (List.mem_cons_of_mem _ member)) notBlock
  · intro fuel enough
    rw [NextTo] at isFirst
    simp only [deInitAccesses, Program.exec_bind, exec_readNext, isFirst, Option.map_some,
      Option.bind_some, loops fuel _ enough, reduceCtorEq, if_false, exec_writeNext, nextDone,
      exec_writePrev, prevDone, Program.exec_pure, List.nil_append, List.cons_append,
      List.append_assoc]

/-! ## The accesses and the function -/

omit [DecidableEq Addr] in
theorem FreesRound.unique {first second : Heap Addr Content} (isFirst : FreesRound heap first node)
    (isSecond : FreesRound heap second node) : first = second := by
  funext address
  by_cases atCell : address = node
  · rw [atCell, isFirst.cell, isSecond.cell]
  · by_cases atBlock : heap.nodeData node = some address
    · rw [isFirst.data address atBlock, isSecond.data address atBlock]
    · rw [isFirst.elsewhere address atCell atBlock, isSecond.elsewhere address atCell atBlock]

theorem exec_freeCells_of_loop (log : List (HeapOp Addr)) {after : Heap Addr Content} {fuel : Nat}
    {delNode : Addr} (done : deInitDoublyLinkedListLoop head fuel heap delNode = some after) :
    Exists fun later =>
      (freeCells head fuel delNode).exec noting (heap, log) = some (some (), after, later) := by
  induction fuel generalizing heap delNode log with
  | zero => cases done
  | succ fuel inductionHypothesis =>
      by_cases atHead : delNode = head
      · rw [deInitDoublyLinkedListLoop, if_pos atHead] at done
        cases done
        rw [freeCells, if_pos atHead]
        exact ⟨log, rfl⟩
      · cases isCell : heap.cell delNode with
        | none =>
            rw [deInitDoublyLinkedListLoop, if_neg atHead, isCell] at done
            cases done
        | some cell =>
            have isData : heap.nodeData delNode = cell.nodeData := by
              rw [Heap.nodeData, isCell, Option.bind_some]
            rw [deInitDoublyLinkedListLoop_succ atHead isCell, ← isData] at done
            rcases Option.bind_eq_some_iff.mp done with ⟨middle, freed, rest⟩
            rcases exec_round isCell with ⟨other, frees, round⟩
            have same := frees.unique (freesRound_of_freeRound freed)
            rw [freeCells, if_neg atHead, round, same]
            exact inductionHypothesis _ rest

/-- Where the function has a result, the program has the same one. -/
theorem deInitAccesses_of_result {after : Heap Addr Content} {fuel : Nat} {pointer : Option Addr}
    {result : Option Int} (done : deInitDoublyLinkedListNode fuel heap pointer = some (result, after)) :
    (deInitAccesses fuel pointer).exec accessKernel heap = some (some result, after) := by
  rw [← Program.exec_logged accessKernel (deInitAccesses fuel pointer) heap []]
  change ((deInitAccesses fuel pointer).exec noting (heap, [])).map _ = _
  cases pointer with
  | none =>
      cases done
      rfl
  | some head =>
      simp only [deInitDoublyLinkedListNode, Option.bind_eq_bind, Option.pure_def,
        Option.bind_eq_some_iff, Option.some.injEq, Prod.mk.injEq] at done
      rcases done with ⟨first, isFirst, middle, loops, next, nextDone, prev, prevDone, rfl, rfl⟩
      rcases exec_freeCells_of_loop [.next head] loops with ⟨later, ran⟩
      simp only [deInitAccesses, Program.exec_bind, exec_readNext, isFirst, Option.map_some,
        Option.bind_some, List.nil_append, ran, reduceCtorEq, if_false, exec_writeNext, nextDone,
        exec_writePrev, prevDone, Program.exec_pure]

end Accesses

/-! ## Two cells -/

/-- The cells 1 and 2 hang at the head 0.  The first one has the block 10, the second one has
none, and the `prev` links are wrong. -/
def twoCells : Heap Nat Unit
  | 0 => some (.node ⟨none, 7, 1⟩)
  | 1 => some (.node ⟨some 10, 7, 2⟩)
  | 2 => some (.node ⟨none, 7, 0⟩)
  | 10 => some (.data ())
  | _ => none

theorem deInitAccesses_disposes_twoCells :
    Exists fun after => Exists fun log => Disposes twoCells after 0 [1, 2] log ∧
      forall fuel, 2 < fuel ->
        (deInitAccesses fuel (some 0)).exec noting (twoCells, []) = some (some none, after, log) := by
  have datas : twoCells.datas [1, 2] = [10] := by decide
  refine deInitAccesses_disposes ⟨by decide, ?_⟩ ?_ ?_
  · exact List.isChain_cons_cons.mpr ⟨rfl, List.isChain_cons_cons.mpr ⟨rfl, List.isChain_pair.mpr rfl⟩⟩
  · rw [datas]
    decide
  · rw [datas]
    decide

end V2x
