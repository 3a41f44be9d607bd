import V2x.MsgRoute.RouteInvariant

namespace V2x
namespace MsgRoute

open Foundations ThreadPool

/-!
# Every step of the server keeps the links

`RouteLinks` collects what links packets, jobs and executions.  Each kind of step
changes a few parts of it: an event touches the receive buffer and the table, a
step of `ThreadPoolAddJob` hands over a block, a worker moves a job, and a job
sends and frees.  `RouteInv` adds the accounts of the pool.  They follow from
those of the pool, because the server moves it by its own steps only.
-/

/-- The packet at hand has no job yet, and its block is not in use. -/
structure Holds (state : RouteState) (id : Nat) (data : Addr) : Prop where
  fresh : id ∉ state.ids
  owns : Exists fun packet => state.received[id]? = some packet ∧
    OwnsBlock state.shared.pool.heap state.shared.pool.accepted state.runs data packet.routed

/-- What the epoll thread has in its hands. -/
def EpollOk (state : RouteState) : Prop :=
  match state.epoll with
  | .idle => state.shared.initMutex = none
  | .allocating id =>
      state.shared.initMutex = none ∧ id ∉ state.ids ∧
      Exists fun packet => state.received[id]? = some packet ∧
        MsgRouteDataInfo.copy state.server.recvBuf = packet.routed
  | .calling id data => state.shared.initMutex = none ∧ Holds state id data
  | .adding id data =>
      (Exists fun adder => state.shared.initMutex = some adder ∧
        adder.pc.job? = some ⟨.msgRouteCoreJobFunc, data⟩) ∧ Holds state id data
  | .added => Exists fun adder => state.shared.initMutex = some adder ∧ adder.pc.job? = none

/-- Every block has one owner, and every job has its packet and its execution. -/
structure RouteLinks (state : RouteState) : Prop where
  owned : Exists fun nodes => Exists fun datas => Exists fun jobs =>
    Owned state.shared nodes datas jobs
  kinds : forall packet, packet ∈ state.received -> packetKind packet.bytes = .routed
  counted : state.ids.length = state.shared.pool.accepted.length
  idsBelow : forall id, id ∈ state.ids -> id < state.received.length
  idsDistinct : state.ids.Nodup
  runs : RunsOk state.shared.pool.threads state.shared.pool.dequeued state.runs
  blocks : BlocksOk state.shared.pool.heap state.packetOf state.shared.pool.accepted state.runs
  correct : RunsCorrect state.packetOf state.server.clientInfo state.runs
  epoll : EpollOk state

/-- The links, in a pool whose counter and semaphore agree with its list. -/
structure RouteInv (state : RouteState) : Prop where
  accounted : Exists fun nodes => Exists fun datas => Exists fun jobs =>
    Accounted state.shared nodes datas jobs
  kinds : forall packet, packet ∈ state.received -> packetKind packet.bytes = .routed
  counted : state.ids.length = state.shared.pool.accepted.length
  idsBelow : forall id, id ∈ state.ids -> id < state.received.length
  idsDistinct : state.ids.Nodup
  runs : RunsOk state.shared.pool.threads state.shared.pool.dequeued state.runs
  blocks : BlocksOk state.shared.pool.heap state.packetOf state.shared.pool.accepted state.runs
  correct : RunsCorrect state.packetOf state.server.clientInfo state.runs
  epoll : EpollOk state

/-! ## Events -/

theorem copy_of_handleMsg {table : ClientInfoTable} {msgData : MsgRouteDataInfo}
    {bytes : List UInt8} (isJob : (msgRouteCoreHandleMsg table msgData).2 = some bytes) :
    bytes = msgData.copy := by
  unfold msgRouteCoreHandleMsg at isJob
  split_ifs at isJob
  exact (Option.some.inj isJob).symm

/-- The block of a job is a copy of what the receive buffer holds. -/
theorem job_eq_copy {clientInfo : ClientInfoTable} {recvBuf : Memory} {clientFd : Int32}
    {result : RecvResult} {bytes : List UInt8}
    (isJob : (msgRouteServerHandleMsg clientInfo recvBuf clientFd result).job = some bytes) :
    bytes = MsgRouteDataInfo.copy
      (msgRouteServerHandleMsg clientInfo recvBuf clientFd result).recvBuf := by
  cases result with
  | error => cases isJob
  | packet sent =>
      simp only [msgRouteServerHandleMsg] at isJob ⊢
      split_ifs at isJob ⊢
      exact copy_of_handleMsg isJob

/-- What the server records is what passes its checks and is no control message. -/
theorem routedPacket_eq_some_iff {server : ServerState} {event : ServerEvent} {packet : Packet} :
    routedPacket server event = some packet <->
      Exists fun clientFd => Exists fun sent => Exists fun conn =>
        event = .recv clientFd (.packet sent) ∧ server.watchedConnection clientFd = some conn ∧
        packetKind (sent.take recvSize) = .routed ∧ packet = ⟨sent.take recvSize, conn.fd⟩ := by
  constructor
  · intro isPacket
    cases event with
    | recv clientFd result =>
        cases result with
        | error => cases isPacket
        | packet sent =>
            rcases Option.bind_eq_some_iff.mp isPacket with ⟨conn, watched, rest⟩
            rcases Option.map_eq_some_iff.mp rest with ⟨bytes, isJob, rfl⟩
            have effect :=
              (msgRouteServerHandleMsg_packet server.clientInfo server.recvBuf conn.fd sent).2.2
            refine ⟨clientFd, sent, conn, rfl, watched, ?_, rfl⟩
            rw [isJob] at effect
            cases kind : packetKind (sent.take recvSize) with
            | routed => rfl
            | _ =>
                rw [kind] at effect
                cases effect
    | _ => cases isPacket
  · rintro ⟨clientFd, sent, conn, rfl, watched, kind, rfl⟩
    have effect :=
      (msgRouteServerHandleMsg_packet server.clientInfo server.recvBuf conn.fd sent).2.2
    rw [kind] at effect
    simp only [routedPacket, watched, Option.bind_some]
    rw [effect]
    rfl

/-- A packet that is handed to the pool is in the receive buffer. -/
theorem routedPacket_spec {server next : ServerState} {event : ServerEvent} {packet : Packet}
    (stepped : serverStep server event = some next)
    (isPacket : routedPacket server event = some packet) :
    packetKind packet.bytes = .routed ∧ MsgRouteDataInfo.copy next.recvBuf = packet.routed := by
  cases event with
  | recv clientFd result =>
      cases result with
      | error => cases isPacket
      | packet sent =>
          rcases Option.map_eq_some_iff.mp stepped with ⟨conn, watched, rfl⟩
          rcases Option.bind_eq_some_iff.mp isPacket with ⟨same, sameWatched, rest⟩
          rw [watched] at sameWatched
          cases sameWatched
          rcases Option.map_eq_some_iff.mp rest with ⟨bytes, isJob, rfl⟩
          have effect := msgRouteServerHandleMsg_packet server.clientInfo server.recvBuf conn.fd sent
          dsimp only at effect
          have isKind := effect.2.2
          rw [isJob] at isKind
          have isCopy := job_eq_copy isJob
          cases kind : packetKind (sent.take recvSize) with
          | routed =>
              rw [kind] at isKind
              refine ⟨rfl, ?_⟩
              change MsgRouteDataInfo.copy (msgRouteServerHandleMsg server.clientInfo server.recvBuf
                conn.fd (.packet sent)).recvBuf = routedBytes (sent.take recvSize) conn.fd
              rw [← isCopy]
              exact Option.some.inj isKind
          | _ =>
              rw [kind] at isKind
              cases isKind
  | _ => cases isPacket

/-- Later packets do not change the packet of a job. -/
theorem packetOf_append {state : RouteState}
    (below : forall id, id ∈ state.ids -> id < state.received.length) (more : List Packet)
    (serial : Nat) :
    (state.ids[serial]?.bind (fun id => (state.received ++ more)[id]?)) = state.packetOf serial := by
  unfold RouteState.packetOf
  cases isId : state.ids[serial]? with
  | none => rfl
  | some id =>
      exact List.getElem?_append_left (below id (List.mem_of_getElem? isId))

theorem over_observe {runs : List JobRun} (table : ClientInfoTable) (serial : Nat)
    (ended : Over runs serial) : Over (runs.map (JobRun.observe table)) serial := by
  rcases ended with ⟨run, member, isSerial, returned⟩
  exact ⟨run.observe table, List.mem_map_of_mem member, (serial_observe table run).trans isSerial,
    (returned_observe table run).trans returned⟩

theorem over_observe_iff (table : ClientInfoTable) (runs : List JobRun) (serial : Nat) :
    Over (runs.map (JobRun.observe table)) serial <-> Over runs serial := by
  constructor
  · rintro ⟨run, member, isSerial, returned⟩
    rcases List.mem_map.mp member with ⟨before, known, rfl⟩
    rw [serial_observe] at isSerial
    rw [returned_observe] at returned
    exact ⟨before, known, isSerial, returned⟩
  · exact over_observe table serial

theorem routeLinks_event {state next : RouteState} {event : ServerEvent} (inv : RouteLinks state)
    (stepped : eventStep state event = some next) : RouteLinks next := by
  unfold eventStep at stepped
  split at stepped
  next isIdle =>
    rcases Option.map_eq_some_iff.mp stepped with ⟨server, taken, rfl⟩
    have unlocked : state.shared.initMutex = none := by
      have held := inv.epoll
      unfold EpollOk at held
      rw [isIdle] at held
      exact held
    have samePacket := packetOf_append inv.idsBelow (routedPacket state.server event).toList
    constructor
    · exact inv.owned
    · intro packet member
      rcases List.mem_append.mp member with old | new
      · exact inv.kinds packet old
      · exact (routedPacket_spec taken (Option.mem_toList.mp new)).1
    · exact inv.counted
    · intro id member
      change id < (state.received ++ _).length
      rw [List.length_append]
      exact Nat.lt_add_right _ (inv.idsBelow id member)
    · exact inv.idsDistinct
    · exact inv.runs.map _ (serial_observe server.clientInfo) (arg_observe server.clientInfo)
        (fun run _ ended => (returned_observe server.clientInfo run).trans ended)
    · have blocks := inv.blocks.congr (KeepsUser.refl _) (over_observe server.clientInfo)
      rw [← show _ = state.packetOf from funext samePacket] at blocks
      exact blocks
    · have correct := inv.correct.observe server.clientInfo
      rw [← show _ = state.packetOf from funext samePacket] at correct
      exact correct
    · unfold EpollOk
      cases isPacket : routedPacket state.server event with
      | none => exact unlocked
      | some packet =>
          refine ⟨unlocked, ?_, packet, ?_, (routedPacket_spec taken isPacket).2⟩
          · exact fun member => Nat.lt_irrefl _ (inv.idsBelow _ member)
          · exact List.getElem?_concat_length
  next => cases stepped

/-! ## Steps of `MsgRouteCoreAddJobToThreadPool` -/

section Adding

variable {state next : RouteState}

/-- A block that is not in use does not hold the packet of a job. -/
theorem ownsBlock_malloc {heap after : PoolHeap JobFunc (List UInt8)}
    {packetOf : Nat -> Option Packet} {accepted : List (ThreadPoolJobInfo JobFunc)}
    {runs : List JobRun} {address : Addr} {bytes : List UInt8}
    (ok : BlocksOk heap packetOf accepted runs)
    (known : forall serial, serial < accepted.length -> (packetOf serial).isSome)
    (done : heap.malloc address (.data (.user bytes)) = some after) :
    OwnsBlock after accepted runs address bytes := by
  have mallocs := Heap.mallocs_of_malloc done
  constructor
  · simp only [Heap.content, mallocs.holds]
  · rintro serial jobInfo pending rfl
    have inside := (List.getElem?_eq_some_iff.mp pending.isJob).1
    rcases Option.isSome_iff_exists.mp (known serial inside) with ⟨packet, isPacket⟩
    have held := ok.holds serial jobInfo packet pending isPacket
    rw [Heap.content, mallocs.unused] at held
    cases held

/-- Every accepted job has its packet. -/
theorem RouteLinks.packet (inv : RouteLinks state) (serial : Nat)
    (below : serial < state.shared.pool.accepted.length) : (state.packetOf serial).isSome := by
  rw [← inv.counted] at below
  have inside := inv.idsBelow _ (List.getElem_mem below)
  simp only [RouteState.packetOf, List.getElem?_eq_getElem below, Option.bind_some,
    List.getElem?_eq_getElem inside, Option.isSome_some]

theorem routeLinks_malloc {block : Option Nat} (inv : RouteLinks state)
    (stepped : mallocStep state block = some next) : RouteLinks next := by
  unfold mallocStep at stepped
  split at stepped
  next id isEpoll =>
    cases stepped
    have held := inv.epoll
    unfold EpollOk at held
    rw [isEpoll] at held
    exact ⟨inv.owned, inv.kinds, inv.counted, inv.idsBelow, inv.idsDistinct, inv.runs, inv.blocks,
      inv.correct, held.1⟩
  next id index isEpoll =>
    rcases Option.map_eq_some_iff.mp stepped with ⟨heap, done, rfl⟩
    have held := inv.epoll
    unfold EpollOk at held
    rw [isEpoll] at held
    rcases held with ⟨unlocked, fresh, packet, isPacket, isCopy⟩
    have owns := ownsBlock_malloc inv.blocks inv.packet done
    rw [isCopy] at owns
    have owned : Exists fun nodes => Exists fun datas => Exists fun jobs =>
        Owned (state.withHeap heap).shared nodes datas jobs := by
      rcases inv.owned with ⟨nodes, datas, jobs, owned⟩
      exact ⟨nodes, datas, jobs, owned.malloc done⟩
    exact ⟨owned, inv.kinds, inv.counted, inv.idsBelow, inv.idsDistinct, inv.runs,
      inv.blocks.congr (.of_contents (keepsContents_malloc done)) (fun _ ended => ended), inv.correct,
      unlocked, fresh, packet, isPacket, owns⟩
  next => cases stepped

theorem routeLinks_call (inv : RouteLinks state) (stepped : callStep state = some next) :
    RouteLinks next := by
  unfold callStep at stepped
  split at stepped
  next id data isEpoll =>
    rcases Option.map_eq_some_iff.mp stepped with ⟨shared, entered, rfl⟩
    have held := inv.epoll
    unfold EpollOk at held
    rw [isEpoll] at held
    rcases held with ⟨unlocked, holds⟩
    rcases inv.owned with ⟨nodes, datas, jobs, owned⟩
    have isShared : shared = { state.shared with
        initMutex := some ⟨0, .locked ⟨.msgRouteCoreJobFunc, data⟩⟩ } := by
      simp only [poolStep, enterStep, unlocked, Option.some.injEq] at entered
      exact entered.symm
    subst isShared
    exact ⟨owned_step owned entered, inv.kinds, inv.counted, inv.idsBelow, inv.idsDistinct,
      inv.runs, inv.blocks, inv.correct, ⟨_, rfl, rfl⟩, holds.fresh, holds.owns⟩
  next => cases stepped

/-- The steps of `ThreadPoolAddJob` before and after the insertion. -/
theorem RouteLinks.addStep (inv : RouteLinks state) {shared : SharedPool JobFunc (List UInt8)}
    {adder : Adder JobFunc} {label : PoolLabel JobFunc (List UInt8)}
    (isHolder : state.shared.initMutex = some adder)
    (stepped : ThreadPool.addStep state.shared adder label = some shared)
    (same : shared.pool.accepted = state.shared.pool.accepted) {epoll : EpollPc}
    (epollOk : EpollOk { state with shared := shared, epoll := epoll }) :
    RouteLinks { state with shared := shared, epoll := epoll } := by
  rcases inv.owned with ⟨nodes, datas, jobs, owned⟩
  have effect := addEffect owned isHolder stepped
  constructor
  · exact owned_add owned isHolder stepped
  · exact inv.kinds
  · exact inv.counted.trans (congrArg List.length same).symm
  · exact inv.idsBelow
  · exact inv.idsDistinct
  · change RunsOk shared.pool.threads shared.pool.dequeued state.runs
    rw [effect.threads, effect.dequeued]
    exact inv.runs
  · change BlocksOk shared.pool.heap state.packetOf shared.pool.accepted state.runs
    rw [same]
    exact inv.blocks.congr effect.user (fun _ ended => ended)
  · exact inv.correct
  · exact epollOk

/-- The insertion hands the block over to its job. -/
theorem RouteLinks.insert (inv : RouteLinks state) {shared : SharedPool JobFunc (List UInt8)}
    {adder : Adder JobFunc} {label : PoolLabel JobFunc (List UInt8)}
    (isHolder : state.shared.initMutex = some adder)
    (stepped : ThreadPool.addStep state.shared adder label = some shared) {id : Nat} {data : Addr}
    (holds : Holds state id data)
    (inserted : shared.pool.accepted =
      state.shared.pool.accepted ++ [⟨.msgRouteCoreJobFunc, data⟩])
    (locked : shared.initMutex = some ⟨adder.caller, .inserted⟩) :
    RouteLinks { state with shared := shared, epoll := .added, ids := state.ids ++ [id] } := by
  rcases inv.owned with ⟨nodes, datas, jobs, owned⟩
  have effect := addEffect owned isHolder stepped
  rcases holds.owns with ⟨packet, isPacket, owns⟩
  have old : forall serial, serial < state.shared.pool.accepted.length ->
      ((state.ids ++ [id])[serial]?.bind (fun id => state.received[id]?)) =
        state.packetOf serial := by
    intro serial below
    rw [← inv.counted] at below
    rw [List.getElem?_append_left below]
    rfl
  constructor
  · exact owned_add owned isHolder stepped
  · exact inv.kinds
  · change (state.ids ++ [id]).length = shared.pool.accepted.length
    rw [inserted, List.length_append, List.length_append, inv.counted]
    rfl
  · intro other member
    rcases List.mem_append.mp member with known | new
    · exact inv.idsBelow other known
    · rw [List.mem_singleton.mp new]
      exact (List.getElem?_eq_some_iff.mp isPacket).1
  · apply List.nodup_append.mpr
    refine ⟨inv.idsDistinct, List.nodup_singleton _, ?_⟩
    rintro other known last new rfl
    rw [List.mem_singleton.mp new] at known
    exact holds.fresh known
  · change RunsOk shared.pool.threads shared.pool.dequeued state.runs
    rw [effect.threads, effect.dequeued]
    exact inv.runs
  · change BlocksOk shared.pool.heap _ shared.pool.accepted state.runs
    rw [inserted]
    apply (inv.blocks.congr effect.user (fun _ ended => ended)).accept
      (owns.congr effect.user (fun _ ended => ended)) old
    rw [← inv.counted, List.getElem?_concat_length]
    exact isPacket
  · apply inv.correct.congr
    intro run member
    apply old
    exact Nat.lt_of_lt_of_le (inv.runs.serial_lt member) owned.dequeued_le_accepted
  · exact ⟨_, locked, rfl⟩

theorem routeLinks_add {label : PoolLabel JobFunc (List UInt8)} (inv : RouteLinks state)
    (stepped : addJobStep state label = some next) : RouteLinks next := by
  rcases Option.bind_eq_some_iff.mp stepped with ⟨adder, isHolder, rest⟩
  rcases inv.owned with ⟨nodes, datas, jobs, owned⟩
  have held := inv.epoll
  unfold EpollOk at held
  split at rest
  next id data isEpoll =>
    rcases Option.map_eq_some_iff.mp rest with ⟨shared, taken, rfl⟩
    have effect := addEffect owned isHolder taken
    rw [isEpoll] at held
    rcases held with ⟨⟨same, isSame, isJob⟩, holds⟩
    rw [isHolder] at isSame
    cases isSame
    cases effect.case with
    | ends other unlocked accepted =>
        rw [other, if_neg Bool.false_ne_true, unlocked]
        exact inv.addStep isHolder taken accepted unlocked
    | moves other pc locked sameJob accepted =>
        rw [other, if_neg Bool.false_ne_true, locked]
        apply inv.addStep isHolder taken accepted
        refine ⟨⟨_, locked, sameJob.trans isJob⟩, holds.fresh, ?_⟩
        rcases holds.owns with ⟨packet, isPacket, owns⟩
        refine ⟨packet, isPacket, ?_⟩
        change OwnsBlock shared.pool.heap shared.pool.accepted state.runs data packet.routed
        rw [accepted]
        exact owns.congr effect.user (fun _ ended => ended)
    | inserts insertion jobInfo isInserted locked accepted =>
        rw [insertion, if_pos rfl]
        rw [isJob] at isInserted
        cases isInserted
        exact inv.insert isHolder taken holds accepted locked
  next isEpoll =>
    rcases Option.map_eq_some_iff.mp rest with ⟨shared, taken, rfl⟩
    have effect := addEffect owned isHolder taken
    rw [isEpoll] at held
    rcases held with ⟨same, isSame, noJob⟩
    rw [isHolder] at isSame
    cases isSame
    cases effect.case with
    | ends other unlocked accepted =>
        rw [unlocked]
        exact inv.addStep isHolder taken accepted unlocked
    | moves other pc locked sameJob accepted =>
        rw [locked]
        exact inv.addStep isHolder taken accepted ⟨_, locked, sameJob.trans noJob⟩
    | inserts insertion jobInfo isInserted locked accepted =>
        rw [noJob] at isInserted
        cases isInserted
  next => cases rest

end Adding

/-! ## Steps of the workers -/

section Working

variable {state next : RouteState}

/-- The epoll thread stands still, and the blocks of the jobs are as they were. -/
theorem EpollOk.congr (ok : EpollOk state) (epoll : next.epoll = state.epoll)
    (initMutex : next.shared.initMutex = state.shared.initMutex) (ids : next.ids = state.ids)
    (received : next.received = state.received)
    (recvBuf : next.server.recvBuf = state.server.recvBuf)
    (owns : forall data bytes,
      OwnsBlock state.shared.pool.heap state.shared.pool.accepted state.runs data bytes ->
      OwnsBlock next.shared.pool.heap next.shared.pool.accepted next.runs data bytes) :
    EpollOk next := by
  have holds : forall id data, Holds state id data -> Holds next id data := by
    rintro id data ⟨fresh, packet, isPacket, owned⟩
    exact ⟨ids ▸ fresh, packet, received ▸ isPacket, owns data packet.routed owned⟩
  unfold EpollOk at ok ⊢
  rw [epoll, initMutex]
  cases isEpoll : state.epoll with
  | idle =>
      rw [isEpoll] at ok
      exact ok
  | allocating id =>
      rw [isEpoll] at ok
      rw [ids, received, recvBuf]
      exact ok
  | calling id data =>
      rw [isEpoll] at ok
      exact ⟨ok.1, holds id data ok.2⟩
  | adding id data =>
      rw [isEpoll] at ok
      exact ⟨ok.1, holds id data ok.2⟩
  | added =>
      rw [isEpoll] at ok
      exact ok

/-- The pool and the executions move, and no job is accepted. -/
theorem RouteLinks.work (inv : RouteLinks state) {pool : RoutePool} {runs : List JobRun}
    (owned : Exists fun nodes => Exists fun datas => Exists fun jobs =>
      Owned { state.shared with pool := pool } nodes datas jobs)
    (accepted : pool.accepted = state.shared.pool.accepted)
    (user : KeepsUser state.shared.pool.heap pool.heap)
    (runsOk : RunsOk pool.threads pool.dequeued runs)
    (ended : forall serial, Over state.runs serial -> Over runs serial)
    (correct : RunsCorrect state.packetOf state.server.clientInfo runs) :
    RouteLinks { state with shared := { state.shared with pool := pool }, runs := runs } where
  owned := owned
  kinds := inv.kinds
  counted := inv.counted.trans (congrArg List.length accepted).symm
  idsBelow := inv.idsBelow
  idsDistinct := inv.idsDistinct
  runs := runsOk
  blocks := by
    change BlocksOk pool.heap state.packetOf pool.accepted runs
    rw [accepted]
    exact inv.blocks.congr user ended
  correct := correct
  epoll := by
    refine inv.epoll.congr rfl rfl rfl rfl rfl ?_
    intro data bytes owns
    change OwnsBlock pool.heap pool.accepted runs data bytes
    rw [accepted]
    exact owns.congr user ended

/-- A worker that is not about to call a job begins no execution. -/
theorem startedRun_eq_none {pool : RoutePool} {threads : List WorkerPc} {thread : Nat}
    {old new : WorkerPc} {stack table : ClientInfoTable} (at_ : threads[thread]? = some old)
    (isSet : pool.threads = threads.set thread new)
    (notRunning : forall serial cur, new ≠ .running serial cur) :
    startedRun pool thread stack table = none := by
  unfold startedRun
  rw [isSet, List.getElem?_set_self (List.getElem?_eq_some_iff.mp at_).1]
  cases new with
  | running serial cur => exact absurd rfl (notRunning serial cur)
  | _ => rfl

/-- A worker that goes on after its job has an execution that has returned. -/
theorem over_of_mayStep {thread serial : Nat} {cur : Addr} (may : mayStep state thread = true)
    (at_ : state.shared.pool.threads[thread]? = some (.running serial cur)) :
    Over state.runs serial := by
  simp only [mayStep, at_, List.any_eq_true, Bool.and_eq_true, decide_eq_true_eq] at may
  exact may

theorem routeLinks_worker {thread : Nat} {stack : ClientInfoTable} (inv : RouteLinks state)
    (stepped : routeWorkerStep state thread stack = some next) : RouteLinks next := by
  unfold routeWorkerStep at stepped
  split at stepped
  next may =>
    rcases Option.map_eq_some_iff.mp stepped with ⟨pool, taken, rfl⟩
    rcases inv.owned with ⟨nodes, datas, jobs, owned⟩
    have effect := workerEffect owned taken
    have after := owned_worker owned taken
    cases effect.case with
    | idle old new at_ oldIdle newIdle threads dequeued =>
        rw [startedRun_eq_none at_ threads (fun serial cur same => by rw [same] at newIdle; cases newIdle),
          Option.toList_none, List.append_nil]
        apply inv.work after effect.accepted effect.user ?_ (fun _ ended => ended) inv.correct
        rw [threads, dequeued]
        exact inv.runs.idle at_ oldIdle newIdle
    | takes jobInfo at_ threads dequeued =>
        rw [startedRun_eq_none at_ threads (by simp), Option.toList_none, List.append_nil]
        apply inv.work after effect.accepted effect.user ?_ (fun _ ended => ended) inv.correct
        rw [threads, dequeued]
        exact inv.runs.take at_
    | calls serial cur at_ threads dequeued =>
        have here := (List.getElem?_eq_some_iff.mp at_).1
        have isRunning : pool.threads[thread]? = some (.running serial cur) := by
          rw [threads, List.getElem?_set_self here]
        rcases after with ⟨nodesAfter, datasAfter, jobsAfter, ownedAfter⟩
        rcases ownedAfter.runningJob isRunning with ⟨jobInfo, info, isTaken⟩
        have started : startedRun pool thread stack state.server.clientInfo =
            some ⟨serial, jobInfo.arg, .start stack, [], [state.server.clientInfo]⟩ := by
          unfold startedRun
          rw [isRunning]
          exact congrArg (Option.map _) info
        rw [started, Option.toList_some]
        apply inv.work ⟨nodesAfter, datasAfter, jobsAfter, ownedAfter⟩ effect.accepted effect.user
        · rw [threads, dequeued]
          change pool.dequeued[serial]? = some jobInfo at isTaken
          rw [dequeued] at isTaken
          apply inv.runs.call at_ rfl isTaken rfl
          intro other holds
          apply owned.workers.serials other thread serial holds
          rw [serialOf, at_]
          rfl
        · rintro number ⟨run, member, isSerial, returned⟩
          exact ⟨run, List.mem_append_left _ member, isSerial, returned⟩
        · exact inv.correct.call rfl rfl rfl
    | finishes serial cur at_ threads dequeued =>
        rcases over_of_mayStep may at_ with ⟨run, member, isSerial, returned⟩
        rw [startedRun_eq_none at_ threads (by simp), Option.toList_none, List.append_nil]
        apply inv.work after effect.accepted effect.user ?_ (fun _ ended => ended) inv.correct
        rw [threads, dequeued]
        exact inv.runs.finish at_ member isSerial returned
  next => cases stepped

/-- A job returns by its last step only. -/
theorem returned_iff_release {table : ClientInfoTable} {msgData : MsgRouteDataInfo}
    {frame after : JobFrame} {calls : List SendCall}
    (moved : msgRouteCoreJobFunc table msgData frame = some (after, calls)) :
    frame.pc ≠ .returned ∧ (after.pc = .returned <-> frame.pc = .release) := by
  have notNext : forall rest, JobPc.next rest ≠ .returned := by
    intro rest
    cases rest <;> simp [JobPc.next]
  rcases frame with ⟨stack, pc⟩
  rcases after with ⟨stackAfter, pcAfter⟩
  cases msgRouteCoreJobFunc_cases moved with
  | releases => exact ⟨by simp, iff_of_true rfl rfl⟩
  | routes | skipsFree | skipsUnset | sends =>
      exact ⟨by simp, iff_of_false (notNext _) (by simp)⟩
  | copies | answers | sendsAnswer | findsTaken | findsSet | loads => simp

/-- The job that a worker runs reads its own packet, and has not returned. -/
structure MovesOn (state : RouteState) (run : JobRun) (packet : Packet) (frame : JobFrame)
    (calls : List SendCall) : Prop where
  member : run ∈ state.runs
  isPacket : state.packetOf run.serial = some packet
  held : state.shared.pool.heap.content run.arg = some (.user packet.routed)
  moved : msgRouteCoreJobFunc state.server.clientInfo packet.msg run.frame = some (frame, calls)
  pending : Exists fun jobInfo => jobInfo.arg = run.arg ∧
    Pending state.shared.pool.accepted state.runs run.serial jobInfo

theorem RouteLinks.jobMove (inv : RouteLinks state) {thread : Nat} {run : JobRun} {frame : JobFrame}
    {calls : List SendCall} (moves : MsgRoute.jobMove state thread = some (run, frame, calls)) :
    Exists fun packet => MovesOn state run packet frame calls := by
  unfold MsgRoute.jobMove at moves
  split at moves
  next serial cur at_ =>
    rcases Option.bind_eq_some_iff.mp moves with ⟨found, isFound, rest⟩
    split at rest
    next bytes held =>
      rcases Option.map_eq_some_iff.mp rest with ⟨moved, stepped, isMove⟩
      cases isMove
      have member := List.mem_of_find?_eq_some isFound
      rcases inv.owned with ⟨nodes, datas, jobs, owned⟩
      rcases inv.runs.job run member with ⟨jobInfo, taken, isArg⟩
      have isJob := owned.accepted_of_dequeued taken
      have below := (List.getElem?_eq_some_iff.mp isJob).1
      rcases Option.isSome_iff_exists.mp (inv.packet run.serial below) with ⟨packet, isPacket⟩
      have running : run.returned = false := decide_eq_false (returned_iff_release stepped).1
      have pending : Pending state.shared.pool.accepted state.runs run.serial jobInfo := by
        refine ⟨isJob, ?_⟩
        rintro ⟨other, otherMember, same, returned⟩
        rw [inv.runs.eq_of_serial otherMember member same, running] at returned
        cases returned
      have isContent := inv.blocks.holds run.serial jobInfo packet pending isPacket
      rw [isArg, held] at isContent
      cases isContent
      exact ⟨packet, member, isPacket, held, stepped, jobInfo, isArg, pending⟩
    next => cases rest
  next => cases moves

section Advancing

variable {run : JobRun} {packet : Packet} {frame : JobFrame} {calls : List SendCall}

theorem MovesOn.running (moves : MovesOn state run packet frame calls) : run.returned = false :=
  decide_eq_false (returned_iff_release moves.moved).1

/-- The other executions that have returned are not the one that moves. -/
theorem MovesOn.notThis (moves : MovesOn state run packet frame calls) (inv : RouteLinks state)
    {other : JobRun} (member : other ∈ state.runs) (returned : other.returned = true) :
    other.serial ≠ run.serial := by
  intro same
  rw [inv.runs.eq_of_serial member moves.member same, moves.running] at returned
  cases returned

theorem MovesOn.runsOk (moves : MovesOn state run packet frame calls) (inv : RouteLinks state) :
    RunsOk state.shared.pool.threads state.shared.pool.dequeued
      (state.runs.map (JobRun.advance run.serial frame calls)) := by
  apply inv.runs.map _ (serial_advance run.serial frame calls) (arg_advance run.serial frame calls)
  intro other member returned
  rw [advance_other (moves.notThis inv member returned)]
  exact returned

theorem MovesOn.stillOver (moves : MovesOn state run packet frame calls) (inv : RouteLinks state)
    (serial : Nat) (ended : Over state.runs serial) :
    Over (state.runs.map (JobRun.advance run.serial frame calls)) serial := by
  rcases ended with ⟨other, member, isSerial, returned⟩
  refine ⟨other, ?_, isSerial, returned⟩
  apply List.mem_map.mpr
  exact ⟨other, member, advance_other (moves.notThis inv member returned)⟩

theorem MovesOn.correct (moves : MovesOn state run packet frame calls) (inv : RouteLinks state) :
    RunsCorrect state.packetOf state.server.clientInfo
      (state.runs.map (JobRun.advance run.serial frame calls)) :=
  inv.correct.advance (fun _ member same => inv.runs.eq_of_serial member moves.member same)
    moves.isPacket moves.running moves.moved

/-- The last step of the execution ends it. -/
theorem MovesOn.nowOver (moves : MovesOn state run packet frame calls)
    (isRelease : run.frame.pc = .release) :
    Over (state.runs.map (JobRun.advance run.serial frame calls)) run.serial := by
  refine ⟨_, List.mem_map_of_mem moves.member, serial_advance run.serial frame calls run, ?_⟩
  rw [advance_same rfl]
  exact decide_eq_true ((returned_iff_release moves.moved).2.mpr isRelease)

end Advancing

theorem routeLinks_job {thread : Nat} (inv : RouteLinks state)
    (stepped : jobStep state thread = some next) : RouteLinks next := by
  rcases Option.bind_eq_some_iff.mp stepped with ⟨⟨run, frame, calls⟩, isMove, rest⟩
  rcases Option.bind_eq_some_iff.mp rest with ⟨heap, freed, isNext⟩
  rcases inv.jobMove isMove with ⟨packet, moves⟩
  unfold heapAfter at freed
  split at freed
  next isRelease =>
    rcases inv.owned with ⟨nodes, datas, jobs, owned⟩
    rcases moves.pending with ⟨jobInfo, isArg, pending⟩
    cases isNext
    constructor
    · exact ⟨nodes, datas, jobs, owned.freeUser moves.held freed⟩
    · exact inv.kinds
    · exact inv.counted
    · exact inv.idsBelow
    · exact inv.idsDistinct
    · exact moves.runsOk inv
    · rw [← isArg] at freed
      exact inv.blocks.release pending freed (moves.stillOver inv) (moves.nowOver isRelease)
    · exact moves.correct inv
    · rw [← isArg] at freed
      exact inv.epoll.congr rfl rfl rfl rfl rfl
        (fun data bytes owns => owns.release pending freed (moves.stillOver inv))
  next notRelease =>
    cases freed
    cases isNext
    exact ⟨inv.owned, inv.kinds, inv.counted, inv.idsBelow, inv.idsDistinct, moves.runsOk inv,
      inv.blocks.congr (KeepsUser.refl _) (moves.stillOver inv), moves.correct inv,
      inv.epoll.congr rfl rfl rfl rfl rfl
        (fun data bytes owns => owns.congr (KeepsUser.refl _) (moves.stillOver inv))⟩

end Working

/-! ## What stays over a step -/

section Steps

variable {state next : RouteState}

/-- Only the insertion gives a job its position. -/
theorem ids_cases {label : RouteLabel} (stepped : routeStep state label = some next) :
    next.ids = state.ids ∨
    Exists fun id => state.epoll.id? = some id ∧ next.ids = state.ids ++ [id] := by
  cases routeStep_cases stepped with
  | inserts label id data shared adder isEpoll isHolder insertion taken =>
      refine Or.inr ⟨id, ?_, rfl⟩
      rw [isEpoll]
      rfl
  | _ => exact Or.inl rfl

theorem ids_grow {label : RouteLabel} (stepped : routeStep state label = some next) :
    state.ids <+: next.ids := by
  rcases ids_cases stepped with same | ⟨_, _, more⟩
  · exact same ▸ List.prefix_rfl
  · exact more ▸ List.prefix_append _ _

/-- A job that is over stays so. -/
theorem over_next {label : RouteLabel} (links : RouteLinks state)
    (stepped : routeStep state label = some next) {serial : Nat} (ended : Over state.runs serial) :
    Over next.runs serial := by
  cases routeStep_cases stepped with
  | hears event server isEpoll taken => exact over_observe server.clientInfo serial ended
  | works thread stack pool may taken =>
      rcases ended with ⟨run, member, isSerial, returned⟩
      exact ⟨run, List.mem_append_left _ member, isSerial, returned⟩
  | runs thread run frame calls heap isMove freed =>
      rcases links.jobMove isMove with ⟨packet, moves⟩
      exact moves.stillOver links serial ended
  | _ => exact ended

end Steps

/-! ## The pool moves by its own steps -/

/-- The steps of `ThreadPoolAddJob` are steps of the pool. -/
theorem poolStep_of_addStep {F X : Type} {state next : SharedPool F X} {adder : Adder F}
    {label : PoolLabel F X} (isHolder : state.initMutex = some adder)
    (stepped : addStep state adder label = some next) : poolStep state label = some next := by
  cases label with
  | enter caller jobFunc arg => cases stepped
  | background label => cases stepped
  | allocate | create | insert | post | leave =>
      simp only [poolStep, isHolder, Option.bind_some]
      exact stepped

/-- The block that a job reads is an object of the server. -/
theorem jobMove_content {state : RouteState} {thread : Nat} {run : JobRun} {frame : JobFrame}
    {calls : List SendCall} (moves : jobMove state thread = some (run, frame, calls)) :
    Exists fun bytes => state.shared.pool.heap.content run.arg = some (.user bytes) := by
  unfold jobMove at moves
  split at moves
  · rcases Option.bind_eq_some_iff.mp moves with ⟨found, _, rest⟩
    split at rest
    next bytes held =>
      rcases Option.map_eq_some_iff.mp rest with ⟨moved, _, isRun⟩
      cases isRun
      exact ⟨bytes, held⟩
    next => cases rest
  · cases moves

/-- A step of the server leaves the pool as it is, or it is a step of the pool. -/
theorem routeStep_shared {state next : RouteState} {label : RouteLabel}
    (stepped : routeStep state label = some next) :
    next.shared = state.shared ∨ Exists fun poolLabel =>
      poolStep state.shared poolLabel = some next.shared := by
  cases routeStep_cases stepped with
  | hears event server isEpoll taken => exact Or.inl rfl
  | noMemory id isEpoll => exact Or.inl rfl
  | mallocs id index heap isEpoll done =>
      refine Or.inr ⟨.background (.userMalloc index (MsgRouteDataInfo.copy state.server.recvBuf)), ?_⟩
      simp only [poolStep, backgroundStep, done, Option.map_some]
      rfl
  | calls id data shared isEpoll entered => exact Or.inr ⟨_, entered⟩
  | inserts label id data shared adder isEpoll isHolder insertion taken =>
      exact Or.inr ⟨label, poolStep_of_addStep isHolder taken⟩
  | adds label id data shared adder isEpoll isHolder other taken =>
      exact Or.inr ⟨label, poolStep_of_addStep isHolder taken⟩
  | leaves label shared adder isEpoll isHolder taken =>
      exact Or.inr ⟨label, poolStep_of_addStep isHolder taken⟩
  | works thread stack pool may taken =>
      refine Or.inr ⟨.background (.worker thread), ?_⟩
      simp only [poolStep, backgroundStep, taken, Option.map_some]
  | runs thread run frame calls heap isMove freed =>
      unfold heapAfter at freed
      split at freed
      · rcases jobMove_content isMove with ⟨bytes, held⟩
        refine Or.inr ⟨.background (.userFree run.arg), ?_⟩
        simp only [poolStep, backgroundStep, held, freed, Option.map_some]
        rfl
      · cases freed
        exact Or.inl rfl

/-! ## Runs of the server -/

theorem routeLinks_step {state next : RouteState} {label : RouteLabel} (inv : RouteLinks state)
    (stepped : routeStep state label = some next) : RouteLinks next := by
  cases label with
  | event event => exact routeLinks_event inv stepped
  | malloc block => exact routeLinks_malloc inv stepped
  | call => exact routeLinks_call inv stepped
  | add label => exact routeLinks_add inv stepped
  | worker thread stack => exact routeLinks_worker inv stepped
  | job thread => exact routeLinks_job inv stepped

theorem RouteInv.links {state : RouteState} (inv : RouteInv state) : RouteLinks state where
  owned := by
    rcases inv.accounted with ⟨nodes, datas, jobs, accounted⟩
    exact ⟨nodes, datas, jobs, accounted.owned⟩
  kinds := inv.kinds
  counted := inv.counted
  idsBelow := inv.idsBelow
  idsDistinct := inv.idsDistinct
  runs := inv.runs
  blocks := inv.blocks
  correct := inv.correct
  epoll := inv.epoll

theorem RouteLinks.accounted {state : RouteState} (links : RouteLinks state)
    (accounted : Exists fun nodes => Exists fun datas => Exists fun jobs =>
      Accounted state.shared nodes datas jobs) : RouteInv state :=
  ⟨accounted, links.kinds, links.counted, links.idsBelow, links.idsDistinct, links.runs,
    links.blocks, links.correct, links.epoll⟩

theorem routeInv_step {state next : RouteState} {label : RouteLabel} (inv : RouteInv state)
    (stepped : routeStep state label = some next) : RouteInv next := by
  apply (routeLinks_step inv.links stepped).accounted
  rcases inv.accounted with ⟨nodes, datas, jobs, accounted⟩
  rcases routeStep_shared stepped with same | ⟨poolLabel, moved⟩
  · rw [same]
    exact ⟨nodes, datas, jobs, accounted⟩
  · exact accounted_step accounted moved

theorem routeInv_init {start : RoutePool} (idle : Idle start) (memory recvBuf : Memory) :
    RouteInv (routeInit start memory recvBuf) := by
  have noJob : forall thread serial, serialOf start.threads thread ≠ some serial := by
    intro thread serial holds
    rcases running_of_serialOf holds with ⟨pc, at_, alive, isSerial⟩
    rcases idle.threads thread pc at_ with gone | ⟨ready, _⟩
    · exact alive gone
    · rw [ready] at isSerial
      cases isSerial
  constructor
  · exact ⟨[], [], [], accounted_of_idle idle⟩
  · exact fun packet member => absurd member List.not_mem_nil
  · exact (congrArg List.length idle.accepted).symm
  · exact fun id member => absurd member List.not_mem_nil
  · exact List.nodup_nil
  · change RunsOk start.threads start.dequeued []
    rw [idle.dequeued]
    exact .start noJob
  · change BlocksOk start.heap _ start.accepted []
    rw [idle.accepted]
    exact .start
  · exact .start
  · exact rfl

/-- The links hold in every state that the server reaches. -/
theorem routeInv_of_run {start : RoutePool} {memory recvBuf : Memory} {labels : List RouteLabel}
    {final : RouteState} (idle : Idle start)
    (ran : routeSystem.run (routeInit start memory recvBuf) labels = some final) :
    RouteInv final :=
  routeSystem.run_invariant (fun _ _ _ => routeInv_step) (routeInv_init idle memory recvBuf) ran

end MsgRoute
end V2x
