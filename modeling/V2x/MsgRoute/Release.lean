import V2x.MsgRoute.CoreLife

namespace V2x
namespace MsgRoute

open Foundations ThreadPool

/-!
# Who releases the buffers

A buffer is in the hands of the epoll thread, belongs to a job, has been
released by its job, or nobody has it any more.  `LedgerOk` says that the ledger
agrees with the jobs: the buffer of every job that is not over is live, and the
released buffers are those of the jobs that are over.  No other step frees a
buffer, so the last kind is never released.
-/

/-- The buffer that the epoll thread has in its hands. -/
def EpollPc.buffer? : EpollPc -> Option (Nat × Addr)
  | .calling id data | .adding id data => some (id, data)
  | .idle | .allocating _ | .added => none

/-! ## What a step does to the blocks -/

/-- The blocks of the server stay, except that of a job that returns. -/
structure HeapEffect (state next : RouteState) : Prop where
  kept : forall address bytes, state.shared.pool.heap.content address = some (.user bytes) ->
    (Exists fun later => next.shared.pool.heap.content address = some (.user later)) ∨
    (next.alive address = false ∧ Exists fun serial => Exists fun jobInfo =>
      Pending state.shared.pool.accepted state.runs serial jobInfo ∧ jobInfo.arg = address ∧
      Over next.runs serial)
  ended : forall serial, Over next.runs serial -> Over state.runs serial ∨
    Exists fun jobInfo => Pending state.shared.pool.accepted state.runs serial jobInfo ∧
      next.alive jobInfo.arg = false
  staysOver : forall serial, Over state.runs serial -> Over next.runs serial

section Effects

variable {state next : RouteState}

theorem HeapEffect.quiet (user : KeepsUser state.shared.pool.heap next.shared.pool.heap)
    (same : forall serial, Over next.runs serial <-> Over state.runs serial) :
    HeapEffect state next where
  kept := fun address bytes held => Or.inl ⟨bytes, user address bytes held⟩
  ended := fun serial ended => Or.inl ((same serial).mp ended)
  staysOver := fun serial ended => (same serial).mpr ended

/-- An execution that begins has not returned. -/
theorem startedRun_running {pool : RoutePool} {thread : Nat} {stack table : ClientInfoTable}
    {run : JobRun} (started : startedRun pool thread stack table = some run) :
    run.returned = false := by
  unfold startedRun at started
  split at started
  · rcases Option.map_eq_some_iff.mp started with ⟨jobInfo, _, rfl⟩
    rfl
  · cases started

/-- Only the last step of a job ends it. -/
theorem over_of_advance {run : JobRun} {packet : Packet} {frame : JobFrame} {calls : List SendCall}
    (moves : MovesOn state run packet frame calls) {serial : Nat}
    (ended : Over (state.runs.map (JobRun.advance run.serial frame calls)) serial) :
    Over state.runs serial ∨ (serial = run.serial ∧ run.frame.pc = .release) := by
  rcases ended with ⟨after, member, isSerial, returned⟩
  rcases List.mem_map.mp member with ⟨before, known, rfl⟩
  rw [serial_advance] at isSerial
  by_cases same : before.serial = run.serial
  · rw [advance_same same] at returned
    exact Or.inr ⟨isSerial.symm.trans same,
      (returned_iff_release moves.moved).2.mp (of_decide_eq_true returned)⟩
  · rw [advance_other same] at returned
    exact Or.inl ⟨before, known, isSerial, returned⟩

theorem heapEffect_job {thread : Nat} {run : JobRun} {frame : JobFrame} {calls : List SendCall}
    {heap : PoolHeap JobFunc (List UInt8)} (links : RouteLinks state)
    (isMove : jobMove state thread = some (run, frame, calls))
    (freed : heapAfter state.shared.pool.heap run = some heap) :
    HeapEffect state { state.withHeap heap with
      runs := state.runs.map (JobRun.advance run.serial frame calls) } := by
  rcases links.jobMove isMove with ⟨packet, moves⟩
  rcases moves.pending with ⟨jobInfo, isArg, pending⟩
  unfold heapAfter at freed
  split at freed
  next isRelease =>
    have frees := Heap.frees_of_free freed
    have dead : RouteState.alive { state.withHeap heap with
        runs := state.runs.map (JobRun.advance run.serial frame calls) } run.arg = false := by
      change (heap run.arg).isSome = false
      rw [frees.gone]
      rfl
    constructor
    · intro address bytes held
      by_cases same : address = run.arg
      · refine Or.inr ⟨same ▸ dead, run.serial, jobInfo, pending, isArg.trans same.symm, ?_⟩
        exact moves.nowOver isRelease
      · exact Or.inl ⟨bytes, content_of_free freed same held⟩
    · intro serial ended
      rcases over_of_advance moves ended with before | ⟨same, _⟩
      · exact Or.inl before
      · exact Or.inr ⟨jobInfo, same ▸ pending, isArg.symm ▸ dead⟩
    · exact fun serial ended => moves.stillOver links serial ended
  next notRelease =>
    cases freed
    refine .quiet (KeepsUser.refl _) fun serial => ?_
    constructor
    · intro ended
      rcases over_of_advance moves ended with before | ⟨_, isRelease⟩
      · exact before
      · exact absurd isRelease notRelease
    · exact moves.stillOver links serial

theorem heapEffect_step {label : RouteLabel} (links : RouteLinks state)
    (stepped : routeStep state label = some next) : HeapEffect state next := by
  rcases links.owned with ⟨nodes, datas, jobs, owned⟩
  have still : forall serial, Over state.runs serial <-> Over state.runs serial := fun _ => Iff.rfl
  cases routeStep_cases stepped with
  | hears event server isEpoll taken =>
      exact .quiet (KeepsUser.refl _) (over_observe_iff server.clientInfo state.runs)
  | noMemory id isEpoll => exact .quiet (KeepsUser.refl _) still
  | mallocs id index heap isEpoll done =>
      exact .quiet (.of_contents (keepsContents_malloc done)) still
  | calls id data shared isEpoll entered =>
      have samePool : shared.pool = state.shared.pool := by
        cases poolStep_cases entered with
        | rejects => rfl
        | enters => rfl
        | adds adder isHolder added => cases added
      refine .quiet ?_ still
      change KeepsUser _ shared.pool.heap
      rw [samePool]
      exact .refl _
  | inserts label id data shared adder isEpoll isHolder insertion taken =>
      exact .quiet (addEffect owned isHolder taken).user still
  | adds label id data shared adder isEpoll isHolder other taken =>
      exact .quiet (addEffect owned isHolder taken).user still
  | leaves label shared adder isEpoll isHolder taken =>
      exact .quiet (addEffect owned isHolder taken).user still
  | works thread stack pool may taken =>
      apply HeapEffect.quiet (workerEffect owned taken).user
      intro serial
      constructor
      · rintro ⟨run, member, isSerial, returned⟩
        rcases List.mem_append.mp member with old | new
        · exact ⟨run, old, isSerial, returned⟩
        · rw [startedRun_running (Option.mem_toList.mp new)] at returned
          cases returned
      · rintro ⟨run, member, isSerial, returned⟩
        exact ⟨run, List.mem_append_left _ member, isSerial, returned⟩
  | runs thread run frame calls heap isMove freed => exact heapEffect_job links isMove freed

end Effects

/-! ## The ledger and the jobs -/

structure LedgerOk (route : RouteState) (ledger : Ledger Nat Addr) : Prop where
  balanced : ledger.Balanced
  known : forall id, id ∈ ledger.allocated -> id < route.received.length
  fresh : forall id, route.epoll = .allocating id -> id ∉ ledger.allocated
  blocks : forall id place, (id, place) ∈ ledger.live ->
    Exists fun bytes => route.shared.pool.heap.content place = some (.user bytes)
  pending : forall serial jobInfo id,
    Pending route.shared.pool.accepted route.runs serial jobInfo -> route.ids[serial]? = some id ->
    (id, jobInfo.arg) ∈ ledger.live
  freed : forall id, id ∈ ledger.freed ->
    Exists fun serial => route.ids[serial]? = some id ∧ Over route.runs serial
  ended : forall serial id, route.ids[serial]? = some id -> Over route.runs serial ->
    id ∈ ledger.freed

/-- The ledger knows the buffer that the epoll thread has. -/
def HeldOk (route : RouteState) (ledger : Ledger Nat Addr) : Prop :=
  forall id place, route.epoll.buffer? = some (id, place) -> (id, place) ∈ ledger.live

section Ledgers

variable {state next : RouteState} {ledger : Ledger Nat Addr}

theorem alive_of_content {address : Addr} {bytes : List UInt8}
    (held : state.shared.pool.heap.content address = some (.user bytes)) :
    state.alive address = true := by
  apply Heap.isSome_of_content
  rw [held]
  rfl

/-- The block of a job that is not over is there. -/
theorem RouteLinks.alive_pending (links : RouteLinks state) {serial : Nat}
    {jobInfo : ThreadPoolJobInfo JobFunc}
    (pending : Pending state.shared.pool.accepted state.runs serial jobInfo) :
    state.alive jobInfo.arg = true := by
  have inside := (List.getElem?_eq_some_iff.mp pending.isJob).1
  rcases Option.isSome_iff_exists.mp (links.packet serial inside) with ⟨packet, isPacket⟩
  exact alive_of_content (links.blocks.holds serial jobInfo packet pending isPacket)

/-- What the epoll thread has in its hands has no job. -/
theorem RouteLinks.holds_buffer (links : RouteLinks state) {id : Nat} {place : Addr}
    (isBuffer : state.epoll.buffer? = some (id, place)) : Holds state id place := by
  have epoll := links.epoll
  unfold EpollOk at epoll
  cases isEpoll : state.epoll with
  | calling other data =>
      rw [isEpoll] at isBuffer epoll
      cases isBuffer
      exact epoll.2
  | adding other data =>
      rw [isEpoll] at isBuffer epoll
      cases isBuffer
      exact epoll.2
  | _ =>
      rw [isEpoll] at isBuffer
      cases isBuffer

theorem RouteLinks.alive_buffer (links : RouteLinks state) {id : Nat} {place : Addr}
    (isBuffer : state.epoll.buffer? = some (id, place)) : state.alive place = true := by
  rcases (links.holds_buffer isBuffer).owns with ⟨packet, _, owns⟩
  exact alive_of_content owns.holds

/-- An execution that has returned is one of an accepted job. -/
theorem RouteLinks.over_lt (links : RouteLinks state) {serial : Nat}
    (ended : Over state.runs serial) : serial < state.ids.length := by
  rcases ended with ⟨run, member, rfl, _⟩
  rcases links.owned with ⟨nodes, datas, jobs, owned⟩
  rw [links.counted]
  exact Nat.lt_of_lt_of_le (links.runs.serial_lt member) owned.dequeued_le_accepted

/-- The ledger agrees with the jobs after a step that allocates nothing. -/
theorem LedgerOk.settle (ok : LedgerOk state ledger) (links : RouteLinks state)
    (nextLinks : RouteLinks next) (effect : HeapEffect state next)
    (received : state.received <+: next.received)
    (fresh : forall id, next.epoll = .allocating id -> id ∉ ledger.allocated)
    (ids : forall serial, Over next.runs serial -> next.ids[serial]? = state.ids[serial]?)
    (pending : forall serial jobInfo id,
      Pending next.shared.pool.accepted next.runs serial jobInfo -> next.ids[serial]? = some id ->
      (id, jobInfo.arg) ∈ ledger.live) :
    LedgerOk next (ledger.settle next.alive) := by
  constructor
  · exact ok.balanced.settle next.alive
  · exact fun id member => Nat.lt_of_lt_of_le (ok.known id member) received.length_le
  · exact fresh
  · intro id place isLive
    rcases Ledger.mem_live_settle.mp isLive with ⟨before, alive⟩
    rcases ok.blocks id place before with ⟨bytes, held⟩
    rcases effect.kept place bytes held with later | ⟨dead, _⟩
    · exact later
    · rw [dead] at alive
      cases alive
  · intro serial jobInfo id isPending isId
    apply Ledger.mem_live_settle.mpr
    exact ⟨pending serial jobInfo id isPending isId, nextLinks.alive_pending isPending⟩
  · intro id released
    rcases Ledger.mem_freed_settle.mp released with before | ⟨place, isLive, dead⟩
    · rcases ok.freed id before with ⟨serial, isId, ended⟩
      have still := effect.staysOver serial ended
      exact ⟨serial, (ids serial still).trans isId, still⟩
    · rcases ok.blocks id place isLive with ⟨bytes, held⟩
      rcases effect.kept place bytes held with ⟨later, stays⟩ | ⟨_, serial, jobInfo, job, isArg, isOver⟩
      · rw [alive_of_content stays] at dead
        cases dead
      · have inside := (List.getElem?_eq_some_iff.mp job.isJob).1
        rw [← links.counted] at inside
        have isId := List.getElem?_eq_getElem inside
        have owner := ok.pending serial jobInfo _ job isId
        rw [isArg] at owner
        rw [← ok.balanced.sameName owner isLive]
        exact ⟨serial, (ids serial isOver).trans isId, isOver⟩
  · intro serial id isId ended
    have before := (ids serial ended).symm.trans isId
    apply Ledger.mem_freed_settle.mpr
    rcases effect.ended serial ended with already | ⟨jobInfo, job, dead⟩
    · exact Or.inl (ok.ended serial id before already)
    · exact Or.inr ⟨jobInfo.arg, ok.pending serial jobInfo id job before, dead⟩

/-- A new buffer belongs to the epoll thread, and to no job. -/
theorem LedgerOk.allocate (ok : LedgerOk state ledger) {id : Nat} {place : Addr}
    (newName : id ∉ ledger.allocated) (below : id < state.received.length)
    (newPlace : forall other, (other, place) ∉ ledger.live)
    (held : Exists fun bytes => state.shared.pool.heap.content place = some (.user bytes))
    (fresh : forall other, state.epoll ≠ .allocating other) :
    LedgerOk state (ledger.allocate id place) where
  balanced := ok.balanced.allocate newName newPlace
  known := by
    intro other member
    rcases Ledger.mem_allocated_allocate.mp member with known | rfl
    · exact ok.known other known
    · exact below
  fresh := fun other isEpoll => absurd isEpoll (fresh other)
  blocks := by
    intro other otherPlace isLive
    rcases Ledger.mem_live_allocate.mp isLive with known | ⟨rfl, rfl⟩
    · exact ok.blocks other otherPlace known
    · exact held
  pending := fun serial jobInfo other isPending isId =>
    Ledger.mem_live_allocate.mpr (Or.inl (ok.pending serial jobInfo other isPending isId))
  freed := ok.freed
  ended := ok.ended

end Ledgers

/-! ## The way of a buffer -/

section Buffers

variable {state next : RouteState} {label : RouteLabel}

theorem received_grow (stepped : routeStep state label = some next) :
    state.received <+: next.received := by
  cases routeStep_cases stepped with
  | hears event server isEpoll taken => exact List.prefix_append _ _
  | _ => exact List.prefix_rfl

/-- A packet is at hand when it comes in. -/
theorem allocating_next (stepped : routeStep state label = some next) {id : Nat}
    (isEpoll : next.epoll = .allocating id) :
    state.epoll = .allocating id ∨ id = state.received.length := by
  cases routeStep_cases stepped with
  | hears event server idle taken =>
      simp only at isEpoll
      split at isEpoll
      · cases isEpoll
        exact Or.inr rfl
      · cases isEpoll
  | adds =>
      simp only at isEpoll
      split at isEpoll <;> cases isEpoll
  | leaves =>
      simp only at isEpoll
      split at isEpoll <;> cases isEpoll
  | works thread stack pool may taken => exact Or.inl isEpoll
  | runs thread run frame calls heap isMove freed => exact Or.inl isEpoll
  | _ => cases isEpoll

/-- A buffer is at hand when it is allocated. -/
theorem buffer_next (stepped : routeStep state label = some next) {id : Nat} {place : Addr}
    (isBuffer : next.epoll.buffer? = some (id, place)) :
    state.epoll.buffer? = some (id, place) ∨ state.allocation label = some (id, place) := by
  cases routeStep_cases stepped with
  | hears event server idle taken =>
      simp only at isBuffer
      split at isBuffer <;> cases isBuffer
  | mallocs other index heap isEpoll done =>
      cases isBuffer
      refine Or.inr ?_
      simp only [RouteState.allocation, isEpoll]
  | calls other data shared isEpoll entered =>
      rw [isEpoll]
      exact Or.inl isBuffer
  | adds label other data shared adder isEpoll isHolder insertion taken =>
      rw [isEpoll]
      simp only at isBuffer
      split at isBuffer
      · exact Or.inl isBuffer
      · cases isBuffer
  | leaves =>
      simp only at isBuffer
      split at isBuffer <;> cases isBuffer
  | works thread stack pool may taken => exact Or.inl isBuffer
  | runs thread run frame calls heap isMove freed => exact Or.inl isBuffer
  | _ => cases isBuffer

/-- A buffer is new, and it goes to the epoll thread. -/
structure Allocates (state next : RouteState) (id : Nat) (place : Addr) : Prop where
  wanted : state.epoll = .allocating id
  holder : next.epoll = .calling id place
  unused : state.shared.pool.heap place = none
  holds : Exists fun bytes => next.shared.pool.heap.content place = some (.user bytes)

theorem allocates_of_allocation (stepped : routeStep state label = some next) {id : Nat}
    {place : Addr} (allocated : state.allocation label = some (id, place)) :
    Allocates state next id place := by
  cases routeStep_cases stepped with
  | mallocs other index heap isEpoll done =>
      simp only [RouteState.allocation, isEpoll] at allocated
      cases allocated
      have mallocs := Heap.mallocs_of_malloc done
      refine ⟨isEpoll, rfl, mallocs.unused, MsgRouteDataInfo.copy state.server.recvBuf, ?_⟩
      change Heap.content heap (.block index) = _
      simp only [Heap.content, mallocs.holds]
  | _ => cases allocated

/-- The insertion hands the buffer at hand over to its job. -/
theorem accepted_next (links : RouteLinks state) (stepped : routeStep state label = some next) :
    (next.shared.pool.accepted = state.shared.pool.accepted ∧ next.ids = state.ids) ∨
    Exists fun id => Exists fun data => state.epoll.buffer? = some (id, data) ∧
      next.ids = state.ids ++ [id] ∧ next.shared.pool.accepted =
        state.shared.pool.accepted ++ [⟨.msgRouteCoreJobFunc, data⟩] := by
  rcases links.owned with ⟨nodes, datas, jobs, owned⟩
  have sameAccepted : forall {label shared adder}, state.shared.initMutex = some adder ->
      addStep state.shared adder label = some shared ->
      label.isInsert = false -> shared.pool.accepted = state.shared.pool.accepted := by
    intro label shared adder isHolder taken other
    cases (addEffect owned isHolder taken).case with
    | ends _ _ accepted => exact accepted
    | moves _ _ _ _ accepted => exact accepted
    | inserts insertion =>
        rw [other] at insertion
        cases insertion
  cases routeStep_cases stepped with
  | calls id data shared isEpoll entered =>
      refine Or.inl ⟨?_, rfl⟩
      cases poolStep_cases entered with
      | rejects => rfl
      | enters => rfl
      | adds adder isHolder added => cases added
  | inserts label id data shared adder isEpoll isHolder insertion taken =>
      refine Or.inr ⟨id, data, ?_, rfl, ?_⟩
      · rw [isEpoll]
        rfl
      · have epoll := links.epoll
        unfold EpollOk at epoll
        rw [isEpoll] at epoll
        rcases epoll.1 with ⟨same, isSame, isJob⟩
        cases isHolder.symm.trans isSame
        cases (addEffect owned isHolder taken).case with
        | ends other =>
            rw [insertion] at other
            cases other
        | moves other =>
            rw [insertion] at other
            cases other
        | inserts _ jobInfo isInserted _ accepted =>
            cases isJob.symm.trans isInserted
            exact accepted
  | adds label id data shared adder isEpoll isHolder other taken =>
      exact Or.inl ⟨sameAccepted isHolder taken other, rfl⟩
  | leaves label shared adder isEpoll isHolder taken =>
      refine Or.inl ⟨?_, rfl⟩
      have epoll := links.epoll
      unfold EpollOk at epoll
      rw [isEpoll] at epoll
      rcases epoll with ⟨same, isSame, noJob⟩
      cases isHolder.symm.trans isSame
      cases (addEffect owned isHolder taken).case with
      | ends _ _ accepted => exact accepted
      | moves _ _ _ _ accepted => exact accepted
      | inserts _ jobInfo isInserted =>
          rw [noJob] at isInserted
          cases isInserted
  | works thread stack pool may taken => exact Or.inl ⟨(workerEffect owned taken).accepted, rfl⟩
  | _ => exact Or.inl ⟨rfl, rfl⟩

/-- A job that is not over has its buffer in the ledger, also one that was just inserted. -/
theorem LedgerOk.pending_next {ledger : Ledger Nat Addr} (ok : LedgerOk state ledger)
    (held : HeldOk state ledger) (links : RouteLinks state)
    (stepped : routeStep state label = some next) {serial id : Nat}
    {jobInfo : ThreadPoolJobInfo JobFunc}
    (pending : Pending next.shared.pool.accepted next.runs serial jobInfo)
    (isId : next.ids[serial]? = some id) : (id, jobInfo.arg) ∈ ledger.live := by
  have notOver : ¬ Over state.runs serial := fun before =>
    pending.notOver (over_next links stepped before)
  rcases accepted_next links stepped with ⟨accepted, ids⟩ | ⟨new, data, isBuffer, ids, accepted⟩
  · exact ok.pending serial jobInfo id ⟨accepted ▸ pending.isJob, notOver⟩ (ids ▸ isId)
  · have isJob := pending.isJob
    rw [accepted] at isJob
    rw [ids] at isId
    by_cases old : serial < state.ids.length
    · rw [List.getElem?_append_left old] at isId
      rw [List.getElem?_append_left (links.counted ▸ old)] at isJob
      exact ok.pending serial jobInfo id ⟨isJob, notOver⟩ isId
    · rw [List.getElem?_append_right (not_lt.mp old)] at isId
      rw [List.getElem?_append_right (links.counted ▸ not_lt.mp old)] at isJob
      rw [List.mem_singleton.mp (List.mem_of_getElem? isId),
        List.mem_singleton.mp (List.mem_of_getElem? isJob)]
      exact held new data isBuffer

/-- Every step of the server keeps the ledger right. -/
theorem LedgerOk.step {ledger : Ledger Nat Addr} (ok : LedgerOk state ledger)
    (held : HeldOk state ledger) (links : RouteLinks state)
    (stepped : routeStep state label = some next) :
    LedgerOk next ((ledger.settle next.alive).record (state.allocation label)) := by
  have grown := received_grow stepped
  have nextLinks := routeLinks_step links stepped
  have fresh : forall id, next.epoll = .allocating id -> id ∉ ledger.allocated := by
    intro id isEpoll
    rcases allocating_next stepped isEpoll with before | rfl
    · exact ok.fresh id before
    · exact fun member => Nat.lt_irrefl _ (ok.known _ member)
  have effect := heapEffect_step links stepped
  have ids : forall serial, Over next.runs serial -> next.ids[serial]? = state.ids[serial]? := by
    intro serial ended
    have inside : serial < state.ids.length := by
      rcases effect.ended serial ended with before | ⟨jobInfo, job, _⟩
      · exact links.over_lt before
      · rw [links.counted]
        exact (List.getElem?_eq_some_iff.mp job.isJob).1
    rcases ids_grow stepped with ⟨more, isMore⟩
    rw [← isMore, List.getElem?_append_left inside]
  have settled := ok.settle links nextLinks effect grown fresh ids
    (fun _ _ _ pending isId => ok.pending_next held links stepped pending isId)
  cases allocated : state.allocation label with
  | none => exact settled
  | some buffer =>
      rcases buffer with ⟨id, place⟩
      have allocates := allocates_of_allocation stepped allocated
      apply settled.allocate (ok.fresh id allocates.wanted)
      · have epoll := links.epoll
        unfold EpollOk at epoll
        rw [allocates.wanted] at epoll
        rcases epoll.2.2 with ⟨packet, isPacket, _⟩
        exact Nat.lt_of_lt_of_le (List.getElem?_eq_some_iff.mp isPacket).1 grown.length_le
      · intro other isLive
        rcases ok.blocks other place (Ledger.mem_live_settle.mp isLive).1 with ⟨bytes, content⟩
        rw [Heap.content, allocates.unused] at content
        cases content
      · exact allocates.holds
      · intro other isEpoll
        rw [allocates.holder] at isEpoll
        cases isEpoll

theorem HeldOk.step {ledger : Ledger Nat Addr} (held : HeldOk state ledger)
    (links : RouteLinks state) (stepped : routeStep state label = some next) :
    HeldOk next ((ledger.settle next.alive).record (state.allocation label)) := by
  intro id place isBuffer
  have alive := (routeLinks_step links stepped).alive_buffer isBuffer
  apply Ledger.mem_live_record.mpr
  rcases buffer_next stepped isBuffer with before | allocated
  · exact Or.inl (Ledger.mem_live_settle.mpr ⟨held id place before, alive⟩)
  · exact Or.inr allocated

end Buffers

/-! ## Runs of the core -/

structure CoreInv (state : CoreState) : Prop where
  links : RouteLinks state.route
  ledger : LedgerOk state.route state.ledger
  held : HeldOk state.route state.ledger
  alone : forall handle, state.deinit = .exiting handle -> state.route.shared.initMutex = none

theorem coreInv_init {start : RoutePool} (idle : Idle start) (memory recvBuf : Memory) :
    CoreInv (coreInit start memory recvBuf) where
  links := (routeInv_init idle memory recvBuf).links
  ledger := by
    constructor
    · exact .empty
    · exact fun id member => absurd member List.not_mem_nil
    · exact fun id isEpoll => by cases isEpoll
    · exact fun id place isLive => absurd isLive List.not_mem_nil
    · exact fun serial jobInfo id _ isId => by cases isId
    · exact fun id released => absurd released List.not_mem_nil
    · exact fun serial id isId => by cases isId
  held := fun id place isBuffer => by cases isBuffer
  alone := fun handle exiting => by cases exiting

section Core

variable {state next : CoreState}

/-- A change of the route that allocates nothing and leaves the hands of the epoll
thread alone. -/
theorem CoreInv.moveTo (inv : CoreInv state) {route : RouteState} (links : RouteLinks route)
    (user : KeepsUser state.route.shared.pool.heap route.shared.pool.heap)
    (sameOver : forall serial, Over route.runs serial <-> Over state.route.runs serial)
    (received : route.received = state.route.received) (epoll : route.epoll = state.route.epoll)
    (ids : forall serial, serial < route.ids.length ->
      route.ids[serial]? = state.route.ids[serial]?)
    (accepted : forall (serial : Nat) jobInfo, route.shared.pool.accepted[serial]? = some jobInfo ->
      state.route.shared.pool.accepted[serial]? = some jobInfo) (deinit : DeinitPc)
    (alone : forall handle, deinit = .exiting handle -> route.shared.initMutex = none) :
    CoreInv (state.moveTo route deinit none) where
  links := links
  ledger := by
    apply inv.ledger.settle inv.links links (.quiet user sameOver) (received ▸ List.prefix_rfl)
    · exact fun id isEpoll => inv.ledger.fresh id (epoll.symm.trans isEpoll)
    · exact fun serial ended => ids serial (links.over_lt ended)
    · intro serial jobInfo id pending isId
      have inside := (List.getElem?_eq_some_iff.mp isId).1
      apply inv.ledger.pending serial jobInfo id ?_ ((ids serial inside).symm.trans isId)
      exact ⟨accepted serial jobInfo pending.isJob, fun ended => pending.notOver ((sameOver serial).mpr ended)⟩
  held := by
    intro id place isBuffer
    apply Ledger.mem_live_settle.mpr
    exact ⟨inv.held id place (epoll ▸ isBuffer), links.alive_buffer isBuffer⟩
  alone := alone

/-- Only `ThreadPoolAddJob` takes the mutex, and `ThreadPoolDeinit` does not let it. -/
theorem unlocked_next {route : RouteState} {label : RouteLabel} {handle : ExitHandle}
    (free : (DeinitPc.exiting handle).blocks label = false)
    (stepped : routeStep state.route label = some route)
    (unlocked : state.route.shared.initMutex = none) : route.shared.initMutex = none := by
  cases routeStep_cases stepped with
  | calls => cases free
  | inserts label id data shared adder isEpoll isHolder =>
      rw [unlocked] at isHolder
      cases isHolder
  | adds label id data shared adder isEpoll isHolder =>
      rw [unlocked] at isHolder
      cases isHolder
  | leaves label shared adder isEpoll isHolder =>
      rw [unlocked] at isHolder
      cases isHolder
  | _ => exact unlocked

theorem coreInv_step {label : CoreLabel} (inv : CoreInv state)
    (stepped : coreStep state label = some next) : CoreInv next := by
  have sameOver : forall serial, Over state.route.runs serial <-> Over state.route.runs serial :=
    fun _ => Iff.rfl
  cases coreStep_cases stepped with
  | routes label route free moved =>
      refine ⟨routeLinks_step inv.links moved, inv.ledger.step inv.held inv.links moved,
        inv.held.step inv.links moved, fun handle exiting => ?_⟩
      change state.deinit = .exiting handle at exiting
      rw [exiting] at free
      exact unlocked_next free moved (inv.alone handle exiting)
  | begins notCalled unlocked =>
      exact inv.moveTo inv.links (.refl _) sameOver rfl rfl (fun _ _ => rfl)
        (fun _ _ isJob => isJob) _ (fun _ _ => unlocked)
  | exits handle after pool exiting moved =>
      have keeps := exitStep_keeps moved
      apply inv.moveTo (inv.links.exits keeps) ?_ sameOver rfl rfl (fun _ _ => rfl) ?_ _
        (fun _ _ => inv.alone handle exiting)
      · change KeepsUser _ pool.heap
        rw [keeps.heap]
        exact .refl _
      · intro serial jobInfo isJob
        change pool.accepted[serial]? = some jobInfo at isJob
        rw [keeps.accepted] at isJob
        exact isJob
  | tearsDown handle fuel done exiting finished torn =>
      have unlocked := inv.alone handle exiting
      rcases inv.links.owned with ⟨nodes, datas, jobs, owned⟩
      apply inv.moveTo (inv.links.tearDown unlocked torn) (keepsUser_tearDown owned.list torn)
        sameOver rfl rfl ?_ (fun serial jobInfo isJob => owned.accepted_of_dequeued isJob) _
        (fun _ _ => unlocked)
      intro serial inside
      change serial < (state.route.ids.take state.route.shared.pool.dequeued.length).length at inside
      rw [List.length_take] at inside
      exact List.getElem?_take_of_lt (Nat.lt_of_lt_of_le inside (Nat.min_le_left _ _))
  | completes poolReturned =>
      apply inv.moveTo inv.links.clientInfoDeinit ?_ (over_clientInfoDeinit state.route)
        (received_clientInfoDeinit _) (epoll_clientInfoDeinit _) ?_ ?_ .completed nofun
      · rw [shared_clientInfoDeinit]
        exact .refl _
      · intro serial _
        rw [ids_clientInfoDeinit]
      · intro serial jobInfo isJob
        rw [shared_clientInfoDeinit] at isJob
        exact isJob

theorem coreInv_of_run {start : RoutePool} {memory recvBuf : Memory} {labels : List CoreLabel}
    {final : CoreState} (idle : Idle start)
    (ran : core.run (coreInit start memory recvBuf) labels = some final) : CoreInv final :=
  core.run_invariant (fun _ _ _ => coreInv_step) (coreInv_init idle memory recvBuf) ran

end Core

end MsgRoute
end V2x
