import V2x.LinkedList

namespace V2x
namespace ThreadPool

open Foundations

/-!
# The job list of the pool

`g_jobListHead` is the head of a doubly linked list whose cells point to
`ThreadPoolJobNodeInfo` blocks.  `JobList` says which jobs the list holds,
newest first, and which addresses carry them.  An accepted job is put in front
and a worker takes the last one, so the list is a queue.
-/

/-- The static list head, the local `curHead` of a worker, and the blocks that
`malloc` hands out. -/
inductive Addr where
  | jobListHead
  | curHead (thread : Nat)
  | block (index : Nat)
deriving DecidableEq, Repr

/-- `ThreadPoolJobInfo`.  `F` stands for the functions jobs may name. -/
structure ThreadPoolJobInfo (F : Type) where
  jobFunc : F
  arg : Addr
deriving DecidableEq, Repr

/-- What a block holds that is not a list cell: a `ThreadPoolJobNodeInfo`, whose
two links are never used, or an object of the rest of the program. -/
inductive Content (F X : Type) where
  | jobNode (jobInfo : ThreadPoolJobInfo F)
  | user (object : X)
deriving DecidableEq, Repr

abbrev PoolHeap (F X : Type) := Heap Addr (Content F X)

variable {F X : Type}

/-- The job description at an address, if there is one. -/
def jobInfoAt (heap : PoolHeap F X) (address : Addr) : Option (ThreadPoolJobInfo F) :=
  match heap.content address with
  | some (.jobNode jobInfo) => some jobInfo
  | _ => none

theorem jobInfoAt_congr {heap after : PoolHeap F X} {address : Addr}
    (same : after address = heap address) : jobInfoAt after address = jobInfoAt heap address := by
  simp only [jobInfoAt, Heap.content, same]

/-- A job description is not a list cell. -/
theorem cell_eq_none_of_jobInfo {heap : PoolHeap F X} {address : Addr}
    {jobInfo : ThreadPoolJobInfo F} (found : jobInfoAt heap address = some jobInfo) :
    heap.cell address = none := by
  apply Heap.cell_eq_none_of_content
  cases held : heap.content address with
  | none =>
      simp only [jobInfoAt, held] at found
      cases found
  | some content => rfl

theorem isSome_of_jobInfo {heap : PoolHeap F X} {address : Addr} {jobInfo : ThreadPoolJobInfo F}
    (found : jobInfoAt heap address = some jobInfo) : (heap address).isSome := by
  apply Heap.isSome_of_content
  cases held : heap.content address with
  | none =>
      simp only [jobInfoAt, held] at found
      cases found
  | some content => rfl

/-- The list holds the jobs, newest first: `nodes` are its cells and `datas` the
blocks they point to. -/
structure JobList (heap : PoolHeap F X) (nodes datas : List Addr)
    (jobs : List (ThreadPoolJobInfo F)) : Prop where
  ring : HeapRing heap .jobListHead nodes
  blocks : forall node, node ∈ nodes -> Exists fun index => node = .block index
  points : nodes.map heap.nodeData = datas.map some
  infos : datas.map (jobInfoAt heap) = jobs.map some
  distinct : datas.Nodup

namespace JobList

variable {heap after : PoolHeap F X} {nodes datas : List Addr} {jobs : List (ThreadPoolJobInfo F)}

theorem nodes_length (list : JobList heap nodes datas jobs) : nodes.length = datas.length := by
  have lengths := congrArg List.length list.points
  simpa only [List.length_map] using lengths

theorem datas_length (list : JobList heap nodes datas jobs) : datas.length = jobs.length := by
  have lengths := congrArg List.length list.infos
  simpa only [List.length_map] using lengths

/-- Every block the list points to is a job description. -/
theorem info_of_mem (list : JobList heap nodes datas jobs) {data : Addr} (member : data ∈ datas) :
    Exists fun jobInfo => jobInfoAt heap data = some jobInfo := by
  have mapped : jobInfoAt heap data ∈ jobs.map some :=
    list.infos ▸ List.mem_map_of_mem member
  rcases List.mem_map.mp mapped with ⟨jobInfo, _, same⟩
  exact ⟨jobInfo, same.symm⟩

/-- A cell on a worker's stack is no member of the list. -/
theorem curHead_not_mem (list : JobList heap nodes datas jobs) (thread : Nat) :
    Addr.curHead thread ∉ Addr.jobListHead :: nodes := by
  intro member
  rcases List.mem_cons.mp member with atHead | listed
  · cases atHead
  · rcases list.blocks _ listed with ⟨index, isBlock⟩
    cases isBlock

/-- The list is kept by every change outside its cells and blocks. -/
theorem congr (list : JobList heap nodes datas jobs)
    (cells : forall address, address ∈ Addr.jobListHead :: nodes -> after address = heap address)
    (infos : forall address, address ∈ datas -> after address = heap address) :
    JobList after nodes datas jobs where
  ring := list.ring.congr cells
  blocks := list.blocks
  points := by
    rw [← list.points]
    apply List.map_congr_left
    intro node member
    simp only [Heap.nodeData, Heap.cell, cells node (List.mem_cons_of_mem _ member)]
  infos := by
    rw [← list.infos]
    apply List.map_congr_left
    intro data member
    exact jobInfoAt_congr (infos data member)
  distinct := list.distinct

/-- An initialised head is the empty list. -/
theorem empty (ring : HeapRing heap .jobListHead []) : JobList heap [] [] [] where
  ring := ring
  blocks := fun _ member => absurd member List.not_mem_nil
  points := rfl
  infos := rfl
  distinct := List.nodup_nil

/-- Inserting a cell puts its job in front. -/
theorem push (list : JobList heap nodes datas jobs) {node data : Addr}
    {jobInfo : ThreadPoolJobInfo F} (live : (heap.cell node).isSome)
    (isBlock : Exists fun index => node = .block index)
    (points : heap.nodeData node = some data) (info : jobInfoAt heap data = some jobInfo)
    (freshNode : node ∉ Addr.jobListHead :: nodes) (freshData : data ∉ datas) :
    Exists fun after =>
      insertHeadDoublyLinkedListNode heap (some .jobListHead) (some node) = some (0, after) ∧
      JobList after (node :: nodes) (data :: datas) (jobInfo :: jobs) ∧
      InsertsFront heap after .jobListHead node nodes := by
  rcases insertHeadDoublyLinkedListNode_spec list.ring live freshNode with ⟨after, done, inserts⟩
  have sameInfo : jobInfoAt after = jobInfoAt heap := by
    funext address
    simp only [jobInfoAt, inserts.contents]
  refine ⟨after, done, ⟨inserts.ring, ?_, ?_, ?_, ?_⟩, inserts⟩
  · intro other member
    rcases List.mem_cons.mp member with rfl | listed
    · exact isBlock
    · exact list.blocks other listed
  · rw [inserts.nodeData, List.map_cons, List.map_cons, points, list.points]
  · rw [sameInfo, List.map_cons, List.map_cons, info, list.infos]
  · exact List.nodup_cons.mpr ⟨freshData, list.distinct⟩

/-- A list with a last cell has a last block and a last job. -/
theorem split_last {last : Addr} (list : JobList heap (nodes ++ [last]) datas jobs) :
    Exists fun restDatas => Exists fun data => Exists fun restJobs => Exists fun jobInfo =>
      datas = restDatas ++ [data] ∧ jobs = restJobs ++ [jobInfo] ∧
      heap.nodeData last = some data ∧ jobInfoAt heap data = some jobInfo := by
  have datasLength := list.nodes_length
  have jobsLength := list.datas_length
  rw [List.length_append, List.length_singleton] at datasLength
  cases datas using List.reverseRecOn with
  | nil => simp at datasLength
  | append_singleton restDatas data _ =>
      rw [List.length_append, List.length_singleton] at jobsLength
      cases jobs using List.reverseRecOn with
      | nil => simp at jobsLength
      | append_singleton restJobs jobInfo _ =>
          have points := list.points
          have infos := list.infos
          simp only [List.map_append, List.map_cons, List.map_nil] at points infos
          have lastPoint := (List.append_inj' points rfl).2
          have lastInfo := (List.append_inj' infos rfl).2
          exact ⟨restDatas, data, restJobs, jobInfo, rfl, rfl, List.singleton_injective lastPoint,
            List.singleton_injective lastInfo⟩

/-- A worker takes the oldest job off the list. -/
theorem pop {last data : Addr} {jobInfo : ThreadPoolJobInfo F} {thread : Nat}
    (list : JobList heap (nodes ++ [last]) (datas ++ [data]) (jobs ++ [jobInfo]))
    (stack : (heap.cell (.curHead thread)).isSome) :
    Exists fun after =>
      deleteTailDoublyLinkedListNode heap (some .jobListHead) (some (.curHead thread)) =
        some (0, after) ∧
      JobList after nodes datas jobs ∧
      RemovesBack heap after .jobListHead (.curHead thread) last nodes := by
  have notLast : (.curHead thread) ≠ last := by
    rintro rfl
    exact list.curHead_not_mem thread
      (List.mem_cons_of_mem _ (List.mem_append_right _ List.mem_cons_self))
  rcases deleteTailDoublyLinkedListNode_spec list.ring stack notLast with ⟨after, done, removes⟩
  have sameInfo : jobInfoAt after = jobInfoAt heap := by
    funext address
    simp only [jobInfoAt, removes.contents]
  have points := list.points
  have infos := list.infos
  simp only [List.map_append, List.map_cons, List.map_nil] at points infos
  have nodesDistinct := (List.nodup_cons.mp list.ring.ring.distinct).2
  refine ⟨after, done, ⟨removes.ring, ?_, ?_, ?_, ?_⟩, removes⟩
  · exact fun node member => list.blocks node (List.mem_append_left _ member)
  · rw [← (List.append_inj' points rfl).1]
    apply List.map_congr_left
    intro node member
    apply removes.nodeData
    · intro same
      exact list.curHead_not_mem thread
        (same ▸ List.mem_cons_of_mem _ (List.mem_append_left _ member))
    · intro same
      exact (List.nodup_append.mp nodesDistinct).2.2 node member last (List.mem_singleton_self _) same
  · rw [sameInfo]
    exact (List.append_inj' infos rfl).1
  · exact (List.nodup_append.mp list.distinct).1

end JobList
end ThreadPool
end V2x
