import V2x.Foundations.Ledger
import V2x.MsgRoute.Delivery
import V2x.ThreadPool.Teardown

namespace V2x
namespace MsgRoute

open Foundations ThreadPool

/-!
# The server core up to `MsgRouteCoreDeinit`

The machine has the steps of the server and those of one call of
`MsgRouteCoreDeinit`, which first takes down the thread pool and then the client
table.  `ThreadPoolDeinit` holds `g_initMutex` from its first access to its
return, so meanwhile no job is added.  The epoll thread, the workers and their
jobs go on all the time; the run ends with the return of `MsgRouteCoreDeinit`.

A ledger follows the buffers that `MsgRouteCoreAddJobToThreadPool` allocates.  It
names a buffer by the position of its packet among the received ones.
-/

/-! ## `MsgRouteClientInfoDeinit` -/

/-- One round: a slot that has a descriptor closes it, and the flags are cleared. -/
def deinitSlot (found : ClientInfoTable × List Int32) (index : Nat) :
    ClientInfoTable × List Int32 :=
  if found.1.fd index ≠ -1 then
    ((found.1.setFd index (-1)).clearMsgFlag index, found.2 ++ [found.1.fd index])
  else (found.1.clearMsgFlag index, found.2)

/-- `MsgRouteClientInfoDeinit`: the table it leaves, and the descriptors it closes. -/
def msgRouteClientInfoDeinit (table : ClientInfoTable) : ClientInfoTable × List Int32 :=
  (List.range maxAppId).foldl deinitSlot (table, [])

/-- The server afterwards. -/
def ServerState.deinit (server : ServerState) : ServerState :=
  let done := msgRouteClientInfoDeinit server.clientInfo
  { server with
    clientInfo := done.1
    connections := server.connections.filter (fun conn => decide (conn.fd ∉ done.2)) }

theorem recvBuf_deinit (server : ServerState) : server.deinit.recvBuf = server.recvBuf := by
  simp only [ServerState.deinit]

/-! ## The machine -/

/-- Where the caller stands in `MsgRouteCoreDeinit`. -/
inductive DeinitPc where
  | notCalled
  | exiting (handle : ExitHandle)
  | poolReturned
  | completed
deriving DecidableEq, Repr

structure CoreState where
  route : RouteState
  deinit : DeinitPc
  ledger : Ledger Nat Addr

/-- The labels of the caller of `MsgRouteCoreDeinit` are its lock of `g_initMutex`,
the steps of the handler, the rest of `ThreadPoolDeinit` with a bound on the
length of the job list, and `MsgRouteClientInfoDeinit`. -/
inductive CoreLabel where
  | route (label : RouteLabel)
  | threadPoolDeinit
  | exitHandle
  | poolReturns (fuel : Nat)
  | clientInfoDeinit

namespace RouteState

def alive (route : RouteState) (address : Addr) : Bool :=
  (route.shared.pool.heap address).isSome

def withPool (route : RouteState) (pool : RoutePool) : RouteState :=
  { route with shared := { route.shared with pool := pool } }

/-- The job list has been torn down.  The packets whose jobs were in it have no
job any more. -/
def tornDown (route : RouteState) (heap : PoolHeap JobFunc (List UInt8)) : RouteState :=
  { route.withPool (route.shared.pool.tornDown heap) with
    ids := route.ids.take route.shared.pool.dequeued.length }

/-- The client table has been emptied under the jobs that run. -/
def clientInfoDeinit (route : RouteState) : RouteState :=
  { route with
    server := route.server.deinit
    runs := route.runs.map (JobRun.observe route.server.deinit.clientInfo) }

/-- The buffer that a step allocates. -/
def allocation (route : RouteState) : RouteLabel -> Option (Nat × Addr)
  | .malloc (some index) =>
      match route.epoll with
      | .allocating id => some (id, .block index)
      | _ => none
  | _ => none

end RouteState

namespace CoreState

/-- The ledger looks at the memory after the step, and at what it has allocated. -/
def moveTo (state : CoreState) (route : RouteState) (deinit : DeinitPc)
    (allocation : Option (Nat × Addr)) : CoreState where
  route := route
  deinit := deinit
  ledger := (state.ledger.settle route.alive).record allocation

/-- `ThreadPoolDeinit` goes into the handler, or the pool is not initialised. -/
def entered (state : CoreState) : DeinitPc :=
  if state.route.shared.pool.isInit then
    .exiting (.start state.route.shared.pool.maxThreadNum.toNat)
  else .poolReturned

end CoreState

/-- While `ThreadPoolDeinit` holds `g_initMutex`, `ThreadPoolAddJob` waits for it. -/
def DeinitPc.blocks : DeinitPc -> RouteLabel -> Bool
  | .exiting _, .call => true
  | .completed, _ => true
  | _, _ => false

def coreStep (state : CoreState) : CoreLabel -> Option CoreState
  | .route label =>
      if state.deinit.blocks label then none
      else (routeStep state.route label).map (fun route =>
        state.moveTo route state.deinit (state.route.allocation label))
  | .threadPoolDeinit =>
      match state.deinit, state.route.shared.initMutex with
      | .notCalled, none => some (state.moveTo state.route state.entered none)
      | _, _ => none
  | .exitHandle =>
      match state.deinit with
      | .exiting handle =>
          (exitStep state.route.shared.pool handle).map (fun done =>
            state.moveTo (state.route.withPool done.1) (.exiting done.2) none)
      | _ => none
  | .poolReturns fuel =>
      match state.deinit with
      | .exiting handle =>
          if handle.pc = .finished then
            (deInitDoublyLinkedListNode fuel state.route.shared.pool.heap (some .jobListHead)).map
              (fun done => state.moveTo (state.route.tornDown done.2) .poolReturned none)
          else none
      | _ => none
  | .clientInfoDeinit =>
      match state.deinit with
      | .poolReturned => some (state.moveTo state.route.clientInfoDeinit .completed none)
      | _ => none

/-- The core as a machine. -/
def core : Machine CoreState CoreLabel where
  step := coreStep

/-- The core after `MsgRouteCoreInit`. -/
def coreInit (pool : RoutePool) (memory recvBuf : Memory) : CoreState where
  route := routeInit pool memory recvBuf
  deinit := .notCalled
  ledger := .empty

/-- The steps of the core. -/
inductive CoreMove (state : CoreState) : CoreLabel -> CoreState -> Prop where
  | routes (label : RouteLabel) (route : RouteState)
      (free : state.deinit.blocks label = false)
      (stepped : routeStep state.route label = some route) :
      CoreMove state (.route label)
        (state.moveTo route state.deinit (state.route.allocation label))
  | begins (notCalled : state.deinit = .notCalled)
      (unlocked : state.route.shared.initMutex = none) :
      CoreMove state .threadPoolDeinit (state.moveTo state.route state.entered none)
  | exits (handle after : ExitHandle) (pool : RoutePool) (exiting : state.deinit = .exiting handle)
      (stepped : exitStep state.route.shared.pool handle = some (pool, after)) :
      CoreMove state .exitHandle (state.moveTo (state.route.withPool pool) (.exiting after) none)
  | tearsDown (handle : ExitHandle) (fuel : Nat) (done : Option Int × PoolHeap JobFunc (List UInt8))
      (exiting : state.deinit = .exiting handle) (finished : handle.pc = .finished)
      (torn : deInitDoublyLinkedListNode fuel state.route.shared.pool.heap (some .jobListHead) =
        some done) :
      CoreMove state (.poolReturns fuel)
        (state.moveTo (state.route.tornDown done.2) .poolReturned none)
  | completes (poolReturned : state.deinit = .poolReturned) :
      CoreMove state .clientInfoDeinit (state.moveTo state.route.clientInfoDeinit .completed none)

theorem coreStep_cases {state next : CoreState} {label : CoreLabel}
    (stepped : coreStep state label = some next) : CoreMove state label next := by
  cases label with
  | route label =>
      simp only [coreStep] at stepped
      split at stepped
      next => cases stepped
      next free =>
        rcases Option.map_eq_some_iff.mp stepped with ⟨route, moved, rfl⟩
        exact .routes label route (Bool.eq_false_iff.mpr free) moved
  | threadPoolDeinit =>
      simp only [coreStep] at stepped
      split at stepped
      next notCalled unlocked =>
        exact Option.some.inj stepped ▸ .begins notCalled unlocked
      next => cases stepped
  | exitHandle =>
      simp only [coreStep] at stepped
      split at stepped
      next handle exiting =>
        rcases Option.map_eq_some_iff.mp stepped with ⟨⟨pool, after⟩, moved, rfl⟩
        exact .exits handle after pool exiting moved
      next => cases stepped
  | poolReturns fuel =>
      simp only [coreStep] at stepped
      split at stepped
      next handle exiting =>
        split at stepped
        next finished =>
          rcases Option.map_eq_some_iff.mp stepped with ⟨done, torn, rfl⟩
          exact .tearsDown handle fuel done exiting finished torn
        next => cases stepped
      next => cases stepped
  | clientInfoDeinit =>
      simp only [coreStep] at stepped
      split at stepped
      next poolReturned => exact Option.some.inj stepped ▸ .completes poolReturned
      next => cases stepped

/-! ## The links while the core is taken down -/

section ClientInfo

variable (route : RouteState)

@[simp] theorem shared_clientInfoDeinit : route.clientInfoDeinit.shared = route.shared := by
  simp only [RouteState.clientInfoDeinit]

@[simp] theorem epoll_clientInfoDeinit : route.clientInfoDeinit.epoll = route.epoll := by
  simp only [RouteState.clientInfoDeinit]

@[simp] theorem received_clientInfoDeinit : route.clientInfoDeinit.received = route.received := by
  simp only [RouteState.clientInfoDeinit]

@[simp] theorem ids_clientInfoDeinit : route.clientInfoDeinit.ids = route.ids := by
  simp only [RouteState.clientInfoDeinit]

@[simp] theorem over_clientInfoDeinit (serial : Nat) :
    Over route.clientInfoDeinit.runs serial <-> Over route.runs serial := by
  simp only [RouteState.clientInfoDeinit, over_observe_iff]

end ClientInfo

section Links

variable {route : RouteState}

theorem RouteLinks.exits (links : RouteLinks route) {pool : RoutePool}
    (keeps : ExitKeeps route.shared.pool pool) : RouteLinks (route.withPool pool) := by
  have owned : Exists fun nodes => Exists fun datas => Exists fun jobs =>
      Owned { route.shared with pool := pool } nodes datas jobs := by
    rcases links.owned with ⟨nodes, datas, jobs, owned⟩
    exact ⟨nodes, datas, jobs, owned.exitStep keeps⟩
  apply links.work owned keeps.accepted ?_ ?_ (fun _ ended => ended) links.correct
  · rw [keeps.heap]
    exact .refl _
  · rw [keeps.threads, keeps.dequeued]
    exact links.runs

/-- An event that brings no packet. -/
theorem RouteLinks.observe (links : RouteLinks route) (server : ServerState)
    (recvBuf : server.recvBuf = route.server.recvBuf) :
    RouteLinks { route with
      server := server
      runs := route.runs.map (JobRun.observe server.clientInfo) } where
  owned := links.owned
  kinds := links.kinds
  counted := links.counted
  idsBelow := links.idsBelow
  idsDistinct := links.idsDistinct
  runs := links.runs.map _ (serial_observe server.clientInfo) (arg_observe server.clientInfo)
    (fun run _ ended => (returned_observe server.clientInfo run).trans ended)
  blocks := links.blocks.congr (KeepsUser.refl _) (over_observe server.clientInfo)
  correct := links.correct.observe server.clientInfo
  epoll := links.epoll.congr rfl rfl rfl rfl recvBuf
    (fun _ _ owns => owns.congr (KeepsUser.refl _) (over_observe server.clientInfo))

theorem RouteLinks.clientInfoDeinit (links : RouteLinks route) :
    RouteLinks route.clientInfoDeinit :=
  links.observe route.server.deinit (recvBuf_deinit route.server)

/-- A job that has been taken is not among the jobs that are dropped. -/
theorem Pending.of_dequeued {shared : SharedPool JobFunc (List UInt8)} {nodes datas : List Addr}
    {jobs : List (ThreadPoolJobInfo JobFunc)} (owned : Owned shared nodes datas jobs)
    {runs : List JobRun} {serial : Nat} {jobInfo : ThreadPoolJobInfo JobFunc}
    (pending : Pending shared.pool.dequeued runs serial jobInfo) :
    Pending shared.pool.accepted runs serial jobInfo :=
  ⟨owned.accepted_of_dequeued pending.isJob, pending.notOver⟩

/-- The jobs that were in the list are gone, and the links of the others hold. -/
theorem RouteLinks.tearDown (links : RouteLinks route) (unlocked : route.shared.initMutex = none)
    {fuel : Nat} {done : Option Int × PoolHeap JobFunc (List UInt8)}
    (torn : deInitDoublyLinkedListNode fuel route.shared.pool.heap (some .jobListHead) =
      some done) : RouteLinks (route.tornDown done.2) := by
  rcases links.owned with ⟨nodes, datas, jobs, owned⟩
  have user := keepsUser_tearDown owned.list torn
  have below := owned.dequeued_le_accepted
  rw [← links.counted] at below
  have samePacket : forall serial, serial < route.shared.pool.dequeued.length ->
      (route.tornDown done.2).packetOf serial = route.packetOf serial := by
    intro serial inside
    change ((route.ids.take route.shared.pool.dequeued.length)[serial]?).bind _ = _
    rw [List.getElem?_take_of_lt inside]
    rfl
  constructor
  · exact ⟨[], [], [], owned.tearDown unlocked torn⟩
  · exact links.kinds
  · change (route.ids.take route.shared.pool.dequeued.length).length = _
    rw [List.length_take, Nat.min_eq_left below]
    rfl
  · exact fun id member => links.idsBelow id (List.mem_of_mem_take member)
  · exact links.idsDistinct.sublist (List.take_sublist _ _)
  · exact links.runs
  · have blocks := links.blocks.congr user (fun _ ended => ended)
    constructor
    · intro serial jobInfo packet pending isPacket
      have inside := (List.getElem?_eq_some_iff.mp pending.isJob).1
      rw [samePacket serial inside] at isPacket
      exact blocks.holds serial jobInfo packet (pending.of_dequeued owned) isPacket
    · intro first second firstJob secondJob firstPending secondPending
      exact blocks.apart first second firstJob secondJob (firstPending.of_dequeued owned)
        (secondPending.of_dequeued owned)
  · exact links.correct.congr (fun run member => samePacket run.serial (links.runs.serial_lt member))
  · have epoll := links.epoll
    unfold EpollOk at epoll ⊢
    have holds : forall id data, Holds route id data -> Holds (route.tornDown done.2) id data := by
      rintro id data ⟨fresh, packet, isPacket, owns⟩
      refine ⟨fun member => fresh (List.mem_of_mem_take member), packet, isPacket, ?_⟩
      have kept := owns.congr user (fun _ ended => ended)
      exact ⟨kept.holds, fun serial jobInfo pending =>
        kept.apart serial jobInfo (pending.of_dequeued owned)⟩
    have sameEpoll : (route.tornDown done.2).epoll = route.epoll := rfl
    rw [sameEpoll]
    cases isEpoll : route.epoll with
    | idle => exact unlocked
    | allocating id =>
        rw [isEpoll] at epoll
        exact ⟨epoll.1, fun member => epoll.2.1 (List.mem_of_mem_take member), epoll.2.2⟩
    | calling id data =>
        rw [isEpoll] at epoll
        exact ⟨unlocked, holds id data epoll.2⟩
    | adding id data =>
        rw [isEpoll] at epoll
        rcases epoll.1 with ⟨adder, isHolder, _⟩
        rw [unlocked] at isHolder
        cases isHolder
    | added =>
        rw [isEpoll] at epoll
        rcases epoll with ⟨adder, isHolder, _⟩
        rw [unlocked] at isHolder
        cases isHolder

end Links

end MsgRoute
end V2x
