import V2x.MsgRoute.Release

namespace V2x
namespace MsgRoute

open Foundations ThreadPool

/-!
# When every buffer is released

`MsgRouteCoreAddJobToThreadPool` does not free the buffer of a job that
`ThreadPoolAddJob` refuses, and the teardown of the job list frees the
descriptions of the jobs that are still in it but not their buffers.  A buffer
that nobody has any more is never released.  So a run releases every buffer
exactly if it avoids these two steps and `MsgRouteCoreDeinit` returns when no
buffer is on its way.
-/

/-! ## The steps that release every buffer -/

namespace RouteState

/-- The step makes `ThreadPoolAddJob` return an error. -/
def failsAdding (route : RouteState) : RouteLabel -> Bool
  | .add (.allocate _ tmp) => !route.shared.pool.isInit || tmp.isNone
  | .add (.create _ node) => node.isNone
  | _ => false

/-- `g_jobListHead` points to itself. -/
def queueEmpty (route : RouteState) : Bool :=
  decide (route.shared.pool.heap.next .jobListHead = some .jobListHead)

/-- The worker has no job, or its job has returned. -/
def jobDone (route : RouteState) (thread : Nat) : Bool :=
  match route.shared.pool.threads[thread]? with
  | some (.fetched _) => false
  | _ => mayStep route thread

/-- No buffer is on its way. -/
def settled (route : RouteState) : Bool :=
  route.queueEmpty && (List.range route.shared.pool.threads.length).all route.jobDone &&
    route.epoll.buffer?.isNone

end RouteState

/-- `ThreadPoolAddJob` succeeds, no job is in the list when it is torn down, and
no buffer is on its way when the call returns. -/
def releases (state : CoreState) : CoreLabel -> Bool
  | .route label => !state.route.failsAdding label
  | .poolReturns _ => state.route.queueEmpty
  | .clientInfoDeinit => state.route.settled
  | .threadPoolDeinit | .exitHandle => true

/-- A buffer is not released, and nobody has it or the run is over. -/
def Leaked (state : CoreState) : Prop :=
  Exists fun id => id ∈ state.ledger.allocated ∧ id ∉ state.ledger.freed ∧
    (state.deinit = .completed ∨
      (id ∉ state.route.ids ∧ forall place, state.route.epoll.buffer? ≠ some (id, place)))

/-! ## Where the buffers are -/

section Route

variable {state next : RouteState} {label : RouteLabel}

/-- The list is empty if every accepted job has been taken. -/
theorem queueEmpty_iff (links : RouteLinks state) :
    state.queueEmpty = true <-> state.shared.pool.dequeued.length = state.ids.length := by
  rcases links.owned with ⟨nodes, datas, jobs, owned⟩
  have lengths : state.shared.pool.dequeued.length + nodes.length = state.ids.length := by
    rw [links.counted, ← owned.fifo, List.length_append, List.length_reverse,
      owned.list.nodes_length, owned.list.datas_length]
  have first := owned.list.ring.ring.next_head
  have outside := (List.nodup_cons.mp owned.list.ring.ring.distinct).1
  rw [RouteState.queueEmpty, decide_eq_true_eq, first]
  cases nodes with
  | nil => exact iff_of_true rfl lengths
  | cons node rest =>
      apply iff_of_false
      · intro same
        exact outside (Option.some.inj same ▸ List.mem_cons_self)
      · rw [List.length_cons] at lengths
        omega

/-- A job that has been taken and whose worker is done has returned. -/
theorem over_of_jobDone {thread serial : Nat} (done : state.jobDone thread = true)
    (holds : serialOf state.shared.pool.threads thread = some serial) : Over state.runs serial := by
  rcases running_of_serialOf holds with ⟨pc, at_, _, isSerial⟩
  simp only [RouteState.jobDone, at_] at done
  cases pc with
  | fetched other => cases done
  | running other cur =>
      cases isSerial
      exact over_of_mayStep done at_
  | _ => cases isSerial

/-- A worker that is not done has a job that is not over. -/
theorem notOver_of_jobDone (links : RouteLinks state) {thread : Nat}
    (busy : state.jobDone thread = false) : Exists fun serial =>
      serialOf state.shared.pool.threads thread = some serial ∧ ¬ Over state.runs serial := by
  cases at_ : state.shared.pool.threads[thread]? with
  | none => simp [RouteState.jobDone, mayStep, at_] at busy
  | some pc =>
      simp only [RouteState.jobDone, at_] at busy
      cases pc with
      | fetched serial =>
          refine ⟨serial, serialOf_at at_, ?_⟩
          rintro ⟨run, member, isSerial, _⟩
          exact links.runs.notCalled thread serial at_ run member isSerial
      | running serial cur =>
          refine ⟨serial, serialOf_at at_, ?_⟩
          rintro ⟨run, member, isSerial, returned⟩
          have found : state.runs.any
              (fun run => decide (run.serial = serial) && run.returned) = true :=
            List.any_eq_true.mpr ⟨run, member, by simp [isSerial, returned]⟩
          simp only [mayStep, at_, found] at busy
          cases busy
      | _ => simp [mayStep, at_] at busy

/-- A refused call drops the buffer. -/
theorem buffer_dropped (links : RouteLinks state) (stepped : routeStep state label = some next)
    (fails : state.failsAdding label = true) : Exists fun id => Exists fun place =>
      state.epoll.buffer? = some (id, place) ∧ next.epoll.buffer? = none ∧
      next.ids = state.ids := by
  have epoll := links.epoll
  unfold EpollOk at epoll
  cases routeStep_cases stepped with
  | inserts label id data shared adder isEpoll isHolder insertion taken =>
      cases label with
      | insert caller => cases fails
      | _ => cases insertion
  | adds label id data shared adder isEpoll isHolder other taken =>
      rw [isEpoll]
      refine ⟨id, data, rfl, ?_, rfl⟩
      rcases adder with ⟨caller, pc⟩
      cases addStep_cases taken with
      | refused => rfl
      | noMemory => rfl
      | givesUp => rfl
      | allocates jobInfo index heap isInit done =>
          simp [RouteState.failsAdding, isInit] at fails
      | _ => cases fails
  | leaves label shared adder isEpoll isHolder taken =>
      rw [isEpoll] at epoll
      rcases epoll with ⟨same, isSame, noJob⟩
      cases isHolder.symm.trans isSame
      rcases adder with ⟨caller, pc⟩
      cases addStep_cases taken with
      | posts => cases fails
      | leaves => cases fails
      | _ => cases noJob
  | _ => cases fails

/-- A buffer at hand stays there until it goes to its job. -/
theorem buffer_after (links : RouteLinks state) (stepped : routeStep state label = some next)
    (succeeds : state.failsAdding label = false) {id : Nat} {place : Addr}
    (isBuffer : state.epoll.buffer? = some (id, place)) :
    next.epoll.buffer? = some (id, place) ∨ id ∈ next.ids := by
  have epoll := links.epoll
  unfold EpollOk at epoll
  cases routeStep_cases stepped with
  | hears event server isEpoll taken =>
      rw [isEpoll] at isBuffer
      cases isBuffer
  | noMemory other isEpoll =>
      rw [isEpoll] at isBuffer
      cases isBuffer
  | mallocs other index heap isEpoll done =>
      rw [isEpoll] at isBuffer
      cases isBuffer
  | calls other data shared isEpoll entered =>
      rw [isEpoll] at isBuffer
      exact Or.inl isBuffer
  | inserts label other data shared adder isEpoll isHolder insertion taken =>
      rw [isEpoll] at isBuffer
      cases isBuffer
      exact Or.inr (List.mem_append_right _ (List.mem_singleton_self _))
  | adds label other data shared adder isEpoll isHolder notInsert taken =>
      rw [isEpoll] at isBuffer epoll
      rcases epoll.1 with ⟨same, isSame, isJob⟩
      cases isHolder.symm.trans isSame
      rcases adder with ⟨caller, pc⟩
      cases addStep_cases taken with
      | refused jobInfo tmp notInit => simp [RouteState.failsAdding, notInit] at succeeds
      | noMemory jobInfo isInit => simp [RouteState.failsAdding] at succeeds
      | givesUp => cases succeeds
      | allocates => exact Or.inl isBuffer
      | creates => exact Or.inl isBuffer
      | inserts => cases notInsert
      | posts => cases isJob
      | leaves => cases isJob
  | leaves label shared adder isEpoll isHolder taken =>
      rw [isEpoll] at isBuffer
      cases isBuffer
  | works thread stack pool may taken => exact Or.inl isBuffer
  | runs thread run frame calls heap isMove freed => exact Or.inl isBuffer

end Route

/-! ## What one step decides -/

section Core

variable {state next : CoreState} {label : CoreLabel}

theorem allocated_grow (stepped : coreStep state label = some next) {id : Nat}
    (member : id ∈ state.ledger.allocated) : id ∈ next.ledger.allocated := by
  cases coreStep_cases stepped with
  | routes label route free moved => exact Ledger.mem_allocated_record.mpr (Or.inl member)
  | _ => exact member

theorem freed_grow (stepped : coreStep state label = some next) {id : Nat}
    (released : id ∈ state.ledger.freed) : id ∈ next.ledger.freed := by
  cases coreStep_cases stepped with
  | routes label route free moved =>
      simp only [CoreState.moveTo, Ledger.freed_record]
      exact Ledger.mem_freed_settle.mpr (Or.inl released)
  | _ => exact Ledger.mem_freed_settle.mpr (Or.inl released)

/-- A released buffer has a job. -/
theorem CoreInv.mem_ids (inv : CoreInv state) {id : Nat} (released : id ∈ state.ledger.freed) :
    id ∈ state.route.ids := by
  rcases inv.ledger.freed id released with ⟨serial, isId, _⟩
  exact List.mem_of_getElem? isId

/-- A live buffer is allocated and not released. -/
theorem CoreInv.unreleased (inv : CoreInv state) {id : Nat} {place : Addr}
    (isLive : (id, place) ∈ state.ledger.live) :
    id ∈ state.ledger.allocated ∧ id ∉ state.ledger.freed :=
  ⟨inv.ledger.balanced.mem_allocated.mpr (Or.inl ⟨place, isLive⟩),
    inv.ledger.balanced.not_freed isLive⟩

/-- A job that has not returned has a buffer that is not released. -/
theorem CoreInv.unreleased_of_notOver (inv : CoreInv state) {serial : Nat}
    (inside : serial < state.route.ids.length) (notOver : ¬ Over state.route.runs serial) :
    Exists fun id => state.route.ids[serial]? = some id ∧ id ∈ state.ledger.allocated ∧
      id ∉ state.ledger.freed := by
  have isId := List.getElem?_eq_getElem inside
  have isJob := List.getElem?_eq_getElem (inv.links.counted ▸ inside)
  exact ⟨_, isId, inv.unreleased (inv.ledger.pending serial _ _ ⟨isJob, notOver⟩ isId)⟩

/-- What nobody has, nobody gets. -/
theorem leaked_stays (inv : CoreInv state) (leaked : Leaked state)
    (stepped : coreStep state label = some next) : Leaked next := by
  rcases leaked with ⟨id, allocated, unreleased, isOver | ⟨noJob, notHeld⟩⟩
  · cases coreStep_cases stepped with
    | routes label route free moved =>
        rw [isOver] at free
        cases label <;> cases free
    | begins notCalled => cases isOver.symm.trans notCalled
    | exits handle after pool exiting => cases isOver.symm.trans exiting
    | tearsDown handle fuel done exiting => cases isOver.symm.trans exiting
    | completes poolReturned => cases isOver.symm.trans poolReturned
  · have noLaterJob : id ∉ next.route.ids ∧
        forall place, next.route.epoll.buffer? ≠ some (id, place) := by
      cases coreStep_cases stepped with
      | routes label route free moved =>
          constructor
          · rcases accepted_next inv.links moved with ⟨_, same⟩ | ⟨new, data, isBuffer, more, _⟩
            · exact same ▸ noJob
            · change id ∉ route.ids
              rw [more]
              intro member
              rcases List.mem_append.mp member with known | isNew
              · exact noJob known
              · exact notHeld data (List.mem_singleton.mp isNew ▸ isBuffer)
          · intro place isBuffer
            rcases buffer_next moved isBuffer with before | isNew
            · exact notHeld place before
            · have wanted := (allocates_of_allocation moved isNew).wanted
              exact inv.ledger.fresh id wanted allocated
      | begins => exact ⟨noJob, notHeld⟩
      | exits => exact ⟨noJob, notHeld⟩
      | tearsDown => exact ⟨fun member => noJob (List.mem_of_mem_take member), notHeld⟩
      | completes =>
          constructor
          · change id ∉ state.route.clientInfoDeinit.ids
            rw [ids_clientInfoDeinit]
            exact noJob
          · change forall place, state.route.clientInfoDeinit.epoll.buffer? ≠ some (id, place)
            rw [epoll_clientInfoDeinit]
            exact notHeld
    exact ⟨id, allocated_grow stepped allocated,
      fun released => noLaterJob.1 ((coreInv_step inv stepped).mem_ids released), Or.inr noLaterJob⟩

/-- As long as no buffer is leaked and the run goes on, somebody has every buffer
that is not released. -/
theorem owner_of_unreleased (fine : ¬ Leaked state) {id : Nat}
    (allocated : id ∈ state.ledger.allocated) (unreleased : id ∉ state.ledger.freed) :
    id ∈ state.route.ids ∨ Exists fun place => state.route.epoll.buffer? = some (id, place) := by
  by_contra nobody
  rcases not_or.mp nobody with ⟨noJob, notHeld⟩
  exact fine ⟨id, allocated, unreleased, Or.inr ⟨noJob, fun place held => notHeld ⟨place, held⟩⟩⟩

/-- A step of the server leaks a buffer if it makes `ThreadPoolAddJob` fail. -/
theorem leaked_routes (inv : CoreInv state) (fine : ¬ Leaked state) {routeLabel : RouteLabel}
    {route : RouteState} (free : state.deinit.blocks routeLabel = false)
    (moved : routeStep state.route routeLabel = some route)
    (stepped : coreStep state label = some
      (state.moveTo route state.deinit (state.route.allocation routeLabel))) :
    ¬ Leaked (state.moveTo route state.deinit (state.route.allocation routeLabel)) <->
      state.route.failsAdding routeLabel = false := by
  have nextInv := coreInv_step inv stepped
  constructor
  · intro stillFine
    by_contra fails
    rcases buffer_dropped inv.links moved (Bool.not_eq_false _ ▸ fails) with
      ⟨id, place, isBuffer, dropped, sameIds⟩
    have noJob : id ∉ route.ids := sameIds ▸ (inv.links.holds_buffer isBuffer).fresh
    apply stillFine
    refine ⟨id, ?_, fun released => noJob (nextInv.mem_ids released), Or.inr ⟨noJob, ?_⟩⟩
    · exact allocated_grow stepped (inv.unreleased (inv.held id place isBuffer)).1
    · change forall place, route.epoll.buffer? ≠ some (id, place)
      rw [dropped]
      exact fun _ => nofun
  · rintro succeeds ⟨id, allocated, unreleased, isOver | ⟨noJob, notHeld⟩⟩
    · change state.deinit = .completed at isOver
      rw [isOver] at free
      cases routeLabel <;> cases free
    · have isOld : id ∈ state.ledger.allocated := by
        rcases Ledger.mem_allocated_record.mp allocated with known | ⟨place, isNew⟩
        · exact known
        · have isBuffer : route.epoll.buffer? = some (id, place) := by
            rw [(allocates_of_allocation moved isNew).holder]
            rfl
          exact absurd isBuffer (notHeld place)
      have before : id ∉ state.ledger.freed := fun released =>
        unreleased (freed_grow stepped released)
      rcases owner_of_unreleased fine isOld before with known | ⟨place, isBuffer⟩
      · exact noJob ((ids_grow moved).subset known)
      · rcases buffer_after inv.links moved succeeds isBuffer with still | isJob
        · exact notHeld place still
        · exact noJob isJob

/-- A step of `ThreadPoolDeinit` that leaves the list alone leaks nothing. -/
theorem leaked_quiet (fine : ¬ Leaked state) {route : RouteState} {deinit : DeinitPc}
    (stepped : coreStep state label = some (state.moveTo route deinit none))
    (ids : route.ids = state.route.ids) (epoll : route.epoll = state.route.epoll)
    (goesOn : deinit ≠ .completed) : ¬ Leaked (state.moveTo route deinit none) := by
  rintro ⟨id, allocated, unreleased, isOver | ⟨noJob, notHeld⟩⟩
  · exact goesOn isOver
  · change id ∉ route.ids at noJob
    change forall place, route.epoll.buffer? ≠ some (id, place) at notHeld
    rw [ids] at noJob
    rw [epoll] at notHeld
    have before : id ∉ state.ledger.freed := fun released =>
      unreleased (freed_grow stepped released)
    rcases owner_of_unreleased fine allocated before with known | ⟨place, isBuffer⟩
    · exact noJob known
    · exact notHeld place isBuffer

/-- The teardown leaks the buffers of the jobs that are in the list. -/
theorem leaked_tearsDown (inv : CoreInv state) (fine : ¬ Leaked state)
    {heap : PoolHeap JobFunc (List UInt8)}
    (stepped : coreStep state label = some
      (state.moveTo (state.route.tornDown heap) .poolReturned none)) :
    ¬ Leaked (state.moveTo (state.route.tornDown heap) .poolReturned none) <->
      state.route.queueEmpty = true := by
  have nextInv := coreInv_step inv stepped
  rcases inv.links.owned with ⟨nodes, datas, jobs, owned⟩
  have atMost := owned.dequeued_le_accepted
  rw [← inv.links.counted] at atMost
  rw [queueEmpty_iff inv.links]
  constructor
  · intro stillFine
    by_contra waiting
    have inside : state.route.shared.pool.dequeued.length < state.route.ids.length :=
      Nat.lt_of_le_of_ne atMost waiting
    have notOver : ¬ Over state.route.runs state.route.shared.pool.dequeued.length := by
      rintro ⟨run, member, isSerial, _⟩
      exact Nat.ne_of_lt (inv.links.runs.serial_lt member) isSerial
    rcases inv.unreleased_of_notOver inside notOver with ⟨id, isId, allocated, _⟩
    have dropped : id ∉ state.route.ids.take state.route.shared.pool.dequeued.length := by
      intro member
      rcases List.getElem?_of_mem member with ⟨serial, isSerial⟩
      have below := (List.getElem?_eq_some_iff.mp isSerial).1
      rw [List.length_take] at below
      have early := Nat.lt_of_lt_of_le below (Nat.min_le_left _ _)
      rw [List.getElem?_take_of_lt early] at isSerial
      have same := (List.getElem?_inj inside inv.links.idsDistinct).mp (isId.trans isSerial.symm)
      exact Nat.ne_of_gt early same
    apply stillFine
    refine ⟨id, allocated, fun released => dropped (nextInv.mem_ids released), Or.inr ⟨dropped, ?_⟩⟩
    intro place isBuffer
    exact (inv.links.holds_buffer isBuffer).fresh (List.mem_of_getElem? isId)
  · intro allTaken
    apply leaked_quiet fine stepped ?_ rfl nofun
    change state.route.ids.take state.route.shared.pool.dequeued.length = state.route.ids
    rw [allTaken, List.take_length]

/-- When the call returns, the buffers that are on their way are not released. -/
theorem leaked_completes (inv : CoreInv state) (fine : ¬ Leaked state)
    (stepped : coreStep state label = some
      (state.moveTo state.route.clientInfoDeinit .completed none)) :
    ¬ Leaked (state.moveTo state.route.clientInfoDeinit .completed none) <->
      state.route.settled = true := by
  have nextInv := coreInv_step inv stepped
  have leaks : forall id, id ∈ state.ledger.allocated ->
      (forall serial, state.route.ids[serial]? = some id -> ¬ Over state.route.runs serial) ->
      Leaked (state.moveTo state.route.clientInfoDeinit .completed none) := by
    intro id allocated notOver
    refine ⟨id, allocated, fun released => ?_, Or.inl rfl⟩
    rcases nextInv.ledger.freed id released with ⟨serial, isId, ended⟩
    change state.route.clientInfoDeinit.ids[serial]? = some id at isId
    rw [ids_clientInfoDeinit] at isId
    exact notOver serial isId ((over_clientInfoDeinit state.route serial).mp ended)
  have leaks_of_notOver : forall serial, serial < state.route.ids.length ->
      ¬ Over state.route.runs serial ->
      Leaked (state.moveTo state.route.clientInfoDeinit .completed none) := by
    intro serial inside notOver
    rcases inv.unreleased_of_notOver inside notOver with ⟨id, isId, allocated, _⟩
    refine leaks id allocated fun other isOther => ?_
    rwa [(List.getElem?_inj inside inv.links.idsDistinct).mp (isId.trans isOther.symm)] at notOver
  rcases inv.links.owned with ⟨nodes, datas, jobs, owned⟩
  have atMost := owned.dequeued_le_accepted
  rw [← inv.links.counted] at atMost
  simp only [RouteState.settled, Bool.and_eq_true, List.all_eq_true, List.mem_range,
    Option.isNone_iff_eq_none]
  constructor
  · intro stillFine
    refine ⟨⟨?_, ?_⟩, ?_⟩
    · rw [queueEmpty_iff inv.links]
      by_contra waiting
      apply stillFine
      apply leaks_of_notOver _ (Nat.lt_of_le_of_ne atMost waiting)
      rintro ⟨run, member, isSerial, _⟩
      exact Nat.ne_of_lt (inv.links.runs.serial_lt member) isSerial
    · intro thread _
      by_contra busy
      rcases notOver_of_jobDone inv.links (Bool.eq_false_iff.mpr busy) with ⟨serial, holds, notOver⟩
      exact stillFine (leaks_of_notOver serial
        (Nat.lt_of_lt_of_le (owned.workers.serial_lt holds) atMost) notOver)
    · by_contra held
      rcases Option.ne_none_iff_exists'.mp held with ⟨⟨id, place⟩, isBuffer⟩
      apply stillFine
      apply leaks id (inv.unreleased (inv.held id place isBuffer)).1
      intro serial isId
      exact absurd (List.mem_of_getElem? isId) (inv.links.holds_buffer isBuffer).fresh
  · rintro ⟨⟨empty, done⟩, notHeld⟩ ⟨id, allocated, unreleased, _⟩
    have before : id ∉ state.ledger.freed := fun released =>
      unreleased (freed_grow stepped released)
    rcases owner_of_unreleased fine allocated before with known | ⟨place, isBuffer⟩
    · rcases List.getElem?_of_mem known with ⟨serial, isId⟩
      have inside := (List.getElem?_eq_some_iff.mp isId).1
      rw [← (queueEmpty_iff inv.links).mp empty] at inside
      apply before
      apply inv.ledger.ended serial id isId
      rcases inv.links.runs.finished serial inside with ⟨thread, holds⟩ | ended
      · rcases running_of_serialOf holds with ⟨pc, at_, _, _⟩
        exact over_of_jobDone (done thread (List.getElem?_eq_some_iff.mp at_).1) holds
      · exact ended
    · rw [notHeld] at isBuffer
      cases isBuffer

theorem leaked_step (inv : CoreInv state) (fine : ¬ Leaked state)
    (stepped : coreStep state label = some next) : ¬ Leaked next <-> releases state label = true := by
  have whole := stepped
  cases coreStep_cases stepped with
  | routes label route free moved =>
      rw [leaked_routes inv fine free moved whole, releases, Bool.not_eq_true']
  | begins notCalled unlocked =>
      refine iff_of_true (leaked_quiet fine whole rfl rfl ?_) rfl
      unfold CoreState.entered
      split <;> exact nofun
  | exits handle after pool exiting moved =>
      exact iff_of_true (leaked_quiet fine whole rfl rfl nofun) rfl
  | tearsDown handle fuel done exiting finished torn => exact leaked_tearsDown inv fine whole
  | completes poolReturned => exact leaked_completes inv fine whole

end Core

/-! ## Every buffer once -/

/-- A job that has not returned has its own live buffer, so its `free` releases
this buffer and never one that is gone. -/
theorem job_hasBuffer {state : CoreState} (inv : CoreInv state) {run : JobRun}
    (member : run ∈ state.route.runs) (running : run.returned = false) :
    Exists fun id => state.route.ids[run.serial]? = some id ∧
      (id, run.arg) ∈ state.ledger.live ∧ state.route.alive run.arg = true := by
  rcases inv.links.owned with ⟨nodes, datas, jobs, owned⟩
  rcases inv.links.runs.job run member with ⟨jobInfo, taken, isArg⟩
  have isJob := owned.accepted_of_dequeued taken
  have inside := (List.getElem?_eq_some_iff.mp isJob).1
  rw [← inv.links.counted] at inside
  have isId := List.getElem?_eq_getElem inside
  have pending : Pending state.route.shared.pool.accepted state.route.runs run.serial jobInfo := by
    refine ⟨isJob, ?_⟩
    rintro ⟨other, otherMember, same, returned⟩
    rw [inv.links.runs.eq_of_serial otherMember member same, running] at returned
    cases returned
  have isLive := inv.ledger.pending run.serial jobInfo _ pending isId
  rw [isArg] at isLive
  exact ⟨_, isId, isLive, isArg ▸ inv.links.alive_pending pending⟩

/-- At the end every buffer has been released once, if none is leaked. -/
theorem releasedOnce_iff {final : CoreState} (inv : CoreInv final)
    (completed : final.deinit = .completed) :
    (forall id, id ∈ final.ledger.allocated -> final.ledger.freed.count id = 1) <->
      ¬ Leaked final := by
  constructor
  · rintro once ⟨id, allocated, unreleased, _⟩
    exact unreleased (inv.ledger.balanced.count_freed.mp (once id allocated))
  · intro fine id allocated
    apply inv.ledger.balanced.count_freed.mpr
    by_contra unreleased
    exact fine ⟨id, allocated, unreleased, Or.inl completed⟩

/-- A run from `MsgRouteCoreInit` to the return of `MsgRouteCoreDeinit` releases
every buffer once exactly if no call of `ThreadPoolAddJob` fails, the list is empty
when it is torn down, and no buffer is on its way at the end.  The pool has no
threads of earlier initialisations that still run. -/
theorem buffers_releasedOnce_iff {pre start : RoutePool} {threadNum : Int} {outcome : InitOutcome}
    (uninitialised : pre.isInit = false) (noWorkers : forall pc, pc ∈ pre.threads -> pc = .exited)
    (initialised : threadPoolInit pre threadNum outcome = some (.returned 0 start))
    {memory recvBuf : Memory} {labels : List CoreLabel} {final : CoreState}
    (ran : core.run (coreInit start memory recvBuf) labels = some final)
    (completed : final.deinit = .completed) :
    (forall id, id ∈ final.ledger.allocated -> final.ledger.freed.count id = 1) <->
      core.AllSteps (fun state label => releases state label = true)
        (coreInit start memory recvBuf) labels := by
  have idle := idle_of_threadPoolInit uninitialised noWorkers initialised
  have started := coreInv_init idle memory recvBuf
  have fineStart : ¬ Leaked (coreInit start memory recvBuf) := by
    rintro ⟨id, allocated, _⟩
    exact absurd allocated List.not_mem_nil
  rw [releasedOnce_iff (coreInv_of_run idle ran) completed]
  have any : core.AllSteps (fun _ _ => True) (coreInit start memory recvBuf) labels :=
    core.allSteps_of_forall (fun _ _ => trivial) _ labels
  rw [← core.everyState_iff_allSteps (fun _ _ _ inv _ stepped => coreInv_step inv stepped)
    (fun _ _ _ inv fine _ stepped => leaked_step inv fine stepped) started fineStart any ran]
  constructor
  · exact core.everyState_of_final (fun _ _ _ inv stepped => coreInv_step inv stepped)
      (fun _ _ _ inv leaked stepped => leaked_stays inv leaked stepped) started ran
  · exact fun every => core.everyState_final every ran

/-- The steps of `MsgRouteCoreDeinit` in a pool of one worker. -/
def deinitLabels (fuel : Nat) : List CoreLabel :=
  [.threadPoolDeinit] ++ List.replicate 7 .exitHandle ++ [.poolReturns fuel, .clientInfoDeinit]

/-- A packet is routed by its job before `MsgRouteCoreDeinit` is called. -/
def routedThenDeinit : List CoreLabel :=
  notifySubscriber.map .route ++ deinitLabels 1

theorem buffers_releasedOnce_iff_routedThenDeinit :
    let cell : DoublyLinkedListNode Addr := ⟨none, .jobListHead, .jobListHead⟩
    Exists fun start => Exists fun final =>
      threadPoolInit (poolStatics JobFunc (List UInt8) cell) 1 (.success cell) =
        some (.returned 0 start) ∧
      core.run (coreInit start (Memory.ofBytes []) (Memory.ofBytes [])) routedThenDeinit =
        some final ∧ final.ledger.allocated = [0] ∧
      forall id, id ∈ final.ledger.allocated -> final.ledger.freed.count id = 1 := by
  intro cell
  have reached : ((threadPoolInit (poolStatics JobFunc (List UInt8) cell) 1 (.success cell)).bind
      InitResult.started).bind (fun start =>
        (core.run (coreInit start (Memory.ofBytes []) (Memory.ofBytes [])) routedThenDeinit).map
          (fun final => (final.deinit, final.ledger.allocated,
            decide (core.AllSteps (fun state label => releases state label = true)
              (coreInit start (Memory.ofBytes []) (Memory.ofBytes [])) routedThenDeinit)))) =
      some (.completed, [0], true) := by
    decide +kernel
  rcases InitResult.exists_run reached with ⟨start, final, done, ran, parts⟩
  simp only [Prod.mk.injEq, decide_eq_true_eq] at parts
  rcases parts with ⟨completed, allocated, all⟩
  refine ⟨start, final, done, ran, allocated, ?_⟩
  apply (buffers_releasedOnce_iff rfl ?_ done ran completed).mpr all
  exact fun pc member => absurd member List.not_mem_nil

/-- A packet is to be routed, and there is no memory for the description of its job. -/
def refuseLabels (data : Nat) : List RouteLabel :=
  [.event (.recv 6 (.packet notifyPacket)), .malloc (some data), .call, .add (.allocate 0 none)]

/-- The job of the first packet is refused, and that of the second one is in the
list when the core is taken down. -/
def refusedAndDropped : List CoreLabel :=
  [.route (.event (.accept 6 true))] ++ (refuseLabels 0).map .route ++
  [.route (.event (.recv 6 (.packet notifyPacket)))] ++ (enqueueLabels 1 2 3).map .route ++
  deinitLabels 2

/-- Neither buffer is ever released. -/
theorem refusedAndDropped_leaks :
    let cell : DoublyLinkedListNode Addr := ⟨none, .jobListHead, .jobListHead⟩
    Exists fun start => Exists fun final =>
      threadPoolInit (poolStatics JobFunc (List UInt8) cell) 1 (.success cell) =
        some (.returned 0 start) ∧
      core.run (coreInit start (Memory.ofBytes []) (Memory.ofBytes [])) refusedAndDropped =
        some final ∧ final.deinit = .completed ∧
      final.ledger.allocated = [0, 1] ∧ final.ledger.freed = [] ∧
      ¬ forall id, id ∈ final.ledger.allocated -> final.ledger.freed.count id = 1 := by
  intro cell
  have reached : ((threadPoolInit (poolStatics JobFunc (List UInt8) cell) 1 (.success cell)).bind
      InitResult.started).bind (fun start =>
        (core.run (coreInit start (Memory.ofBytes []) (Memory.ofBytes [])) refusedAndDropped).map
          (fun final => (final.deinit, final.ledger.allocated, final.ledger.freed))) =
      some (.completed, [0, 1], []) := by
    decide +kernel
  rcases InitResult.exists_run reached with ⟨start, final, done, ran, parts⟩
  simp only [Prod.mk.injEq] at parts
  rcases parts with ⟨completed, allocated, freed⟩
  refine ⟨start, final, done, ran, completed, allocated, freed, fun once => ?_⟩
  have released := once 0 (by rw [allocated]; exact List.mem_cons_self)
  rw [freed, List.count_nil] at released
  cases released

end MsgRoute
end V2x
