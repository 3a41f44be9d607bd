import V2x.MsgRoute.JobSends
import V2x.MsgRoute.Server
import V2x.ThreadPool.JobHistory

namespace V2x
namespace MsgRoute

open Foundations ThreadPool

/-!
# The message route server

The machine joins the epoll thread, the thread pool and the routing jobs.  The
epoll thread handles one event after the other.  For a packet that is to be
routed it copies the receive buffer into a new block and calls
`ThreadPoolAddJob`, and it handles no other event before this call returns.  A
worker that runs a job takes the steps of `MsgRouteCoreJobFunc` one by one.

The run records the packets that were to be routed, those of them whose jobs
the pool has accepted, and every execution of `MsgRouteCoreJobFunc`.
-/

/-- The functions that the server hands to the pool. -/
inductive JobFunc where
  | msgRouteCoreJobFunc
deriving DecidableEq, Repr

abbrev RoutePool := PoolState JobFunc (List UInt8)

/-- A packet that is to be routed, and the descriptor it was received from. -/
structure Packet where
  bytes : List UInt8
  fd : Int32
deriving DecidableEq, Repr

/-- Where the epoll thread stands.  The numbers are positions in the list of the
received packets. -/
inductive EpollPc where
  | idle
  | allocating (id : Nat)
  | calling (id : Nat) (data : Addr)
  | adding (id : Nat) (data : Addr)
  | added
deriving DecidableEq, Repr

/-- The packet that the epoll thread has in its hands. -/
def EpollPc.id? : EpollPc -> Option Nat
  | .allocating id | .calling id _ | .adding id _ => some id
  | .idle | .added => none

/-- One execution of `MsgRouteCoreJobFunc`.  `serial` is the position of the job
among those that were taken, and `tables` are the states that the table went
through while the job ran. -/
structure JobRun where
  serial : Nat
  arg : Addr
  frame : JobFrame
  sends : List SendCall
  tables : List ClientInfoTable

namespace JobRun

def returned (run : JobRun) : Bool := decide (run.frame.pc = .returned)

/-- The table changes under a job that runs. -/
def observe (table : ClientInfoTable) (run : JobRun) : JobRun :=
  if run.returned then run else { run with tables := run.tables ++ [table] }

/-- A step of the job with this position. -/
def advance (serial : Nat) (frame : JobFrame) (calls : List SendCall) (run : JobRun) : JobRun :=
  if run.serial = serial then { run with frame := frame, sends := run.sends ++ calls } else run

end JobRun

structure RouteState where
  server : ServerState
  shared : SharedPool JobFunc (List UInt8)
  epoll : EpollPc
  received : List Packet
  ids : List Nat
  runs : List JobRun

/-- The labels carry the outcomes of the system calls and of `malloc`, and the
uninitialised stack of a job. -/
inductive RouteLabel where
  | event (event : ServerEvent)
  | malloc (block : Option Nat)
  | call
  | add (label : PoolLabel JobFunc (List UInt8))
  | worker (thread : Nat) (stack : ClientInfoTable)
  | job (thread : Nat)

namespace RouteState

def withHeap (state : RouteState) (heap : PoolHeap JobFunc (List UInt8)) : RouteState :=
  { state with shared := { state.shared with pool := { state.shared.pool with heap := heap } } }

/-- The packet of the job with this position. -/
def packetOf (state : RouteState) (serial : Nat) : Option Packet :=
  state.ids[serial]?.bind (fun id => state.received[id]?)

end RouteState

/-- The packet that an event brings, if it is handed to the pool. -/
def routedPacket (server : ServerState) : ServerEvent -> Option Packet
  | .recv clientFd (.packet sent) =>
      (server.watchedConnection clientFd).bind (fun conn =>
        (msgRouteServerHandleMsg server.clientInfo server.recvBuf conn.fd (.packet sent)).job.map
          (fun _ => ⟨sent.take recvSize, conn.fd⟩))
  | _ => none

/-- `MsgRouteServerHandleEvent`, up to `MsgRouteCoreAddJobToThreadPool`. -/
def eventStep (state : RouteState) (event : ServerEvent) : Option RouteState :=
  match state.epoll with
  | .idle =>
      (serverStep state.server event).map (fun server =>
        let packet := routedPacket state.server event
        { state with
          server := server
          epoll := if packet.isSome then .allocating state.received.length else .idle
          received := state.received ++ packet.toList
          runs := state.runs.map (JobRun.observe server.clientInfo) })
  | _ => none

/-- `malloc` and `memcpy` of `MsgRouteCoreAddJobToThreadPool`.  The bytes are
those that are in the receive buffer now. -/
def mallocStep (state : RouteState) (block : Option Nat) : Option RouteState :=
  match state.epoll, block with
  | .allocating _, none => some { state with epoll := .idle }
  | .allocating id, some index =>
      (state.shared.pool.heap.malloc (.block index)
        (.data (.user (MsgRouteDataInfo.copy state.server.recvBuf)))).map (fun heap =>
          { state.withHeap heap with epoll := .calling id (.block index) })
  | _, _ => none

/-- `ThreadPoolAddJob(MsgRouteCoreJobFunc, data)` gets its mutex.  The epoll
thread is the only caller, with the number 0. -/
def callStep (state : RouteState) : Option RouteState :=
  match state.epoll with
  | .calling id data =>
      (poolStep state.shared (.enter 0 (some .msgRouteCoreJobFunc) (some data))).map (fun shared =>
        { state with shared := shared, epoll := .adding id data })
  | _ => none

/-- The steps of `ThreadPoolAddJob` behind the mutex. -/
def addJobStep (state : RouteState) (label : PoolLabel JobFunc (List UInt8)) : Option RouteState :=
  state.shared.initMutex.bind (fun adder =>
    match state.epoll with
    | .adding id data =>
        (addStep state.shared adder label).map (fun shared =>
          if label.isInsert then
            { state with shared := shared, epoll := .added, ids := state.ids ++ [id] }
          else
            { state with
              shared := shared
              epoll := if shared.initMutex.isSome then .adding id data else .idle })
    | .added =>
        (addStep state.shared adder label).map (fun shared =>
          { state with
            shared := shared
            epoll := if shared.initMutex.isSome then .added else .idle })
    | _ => none)

/-- The execution that begins with the call of a job. -/
def startedRun (pool : RoutePool) (thread : Nat) (stack table : ClientInfoTable) : Option JobRun :=
  match pool.threads[thread]? with
  | some (.running serial cur) =>
      (jobInfoAt pool.heap cur).map (fun jobInfo =>
        { serial := serial
          arg := jobInfo.arg
          frame := .start stack
          sends := []
          tables := [table] })
  | _ => none

/-- A worker that runs a job waits for it to return. -/
def mayStep (state : RouteState) (thread : Nat) : Bool :=
  match state.shared.pool.threads[thread]? with
  | some (.running serial _) =>
      state.runs.any (fun run => decide (run.serial = serial) && run.returned)
  | _ => true

/-- A step of `PthreadPoolProcessThread`. -/
def routeWorkerStep (state : RouteState) (thread : Nat) (stack : ClientInfoTable) :
    Option RouteState :=
  if mayStep state thread then
    (workerStep state.shared.pool thread).map (fun pool =>
      { state with
        shared := { state.shared with pool := pool }
        runs := state.runs ++ (startedRun pool thread stack state.server.clientInfo).toList })
  else none

/-- The last step of a job frees its block. -/
def heapAfter (heap : PoolHeap JobFunc (List UInt8)) (run : JobRun) :
    Option (PoolHeap JobFunc (List UInt8)) :=
  if run.frame.pc = .release then heap.free run.arg else some heap

/-- What the job of a worker does next: its execution, the frame afterwards and
the calls of `send`. -/
def jobMove (state : RouteState) (thread : Nat) : Option (JobRun × JobFrame × List SendCall) :=
  match state.shared.pool.threads[thread]? with
  | some (.running serial _) =>
      (state.runs.find? (fun run => decide (run.serial = serial))).bind (fun run =>
        match state.shared.pool.heap.content run.arg with
        | some (.user bytes) =>
            (msgRouteCoreJobFunc state.server.clientInfo (Memory.ofBytes bytes) run.frame).map
              (fun moved => (run, moved.1, moved.2))
        | _ => none)
  | _ => none

/-- A step of the job that a worker runs. -/
def jobStep (state : RouteState) (thread : Nat) : Option RouteState := do
  let (run, frame, calls) <- jobMove state thread
  let heap <- heapAfter state.shared.pool.heap run
  return { state.withHeap heap with
           runs := state.runs.map (JobRun.advance run.serial frame calls) }

def routeStep (state : RouteState) : RouteLabel -> Option RouteState
  | .event event => eventStep state event
  | .malloc block => mallocStep state block
  | .call => callStep state
  | .add label => addJobStep state label
  | .worker thread stack => routeWorkerStep state thread stack
  | .job thread => jobStep state thread

def routeSystem : Machine RouteState RouteLabel where
  step := routeStep

/-- The steps of the server: of the epoll thread through the handling of a
packet, of a worker, and of the job that a worker runs. -/
inductive RouteMove (state : RouteState) : RouteLabel -> RouteState -> Prop where
  | hears (event : ServerEvent) (server : ServerState) (isEpoll : state.epoll = .idle)
      (taken : serverStep state.server event = some server) :
      RouteMove state (.event event) { state with
        server := server
        epoll :=
          if (routedPacket state.server event).isSome then .allocating state.received.length
          else .idle
        received := state.received ++ (routedPacket state.server event).toList
        runs := state.runs.map (JobRun.observe server.clientInfo) }
  | noMemory (id : Nat) (isEpoll : state.epoll = .allocating id) :
      RouteMove state (.malloc none) { state with epoll := .idle }
  | mallocs (id index : Nat) (heap : PoolHeap JobFunc (List UInt8))
      (isEpoll : state.epoll = .allocating id)
      (done : state.shared.pool.heap.malloc (.block index)
        (.data (.user (MsgRouteDataInfo.copy state.server.recvBuf))) = some heap) :
      RouteMove state (.malloc (some index))
        { state.withHeap heap with epoll := .calling id (.block index) }
  | calls (id : Nat) (data : Addr) (shared : SharedPool JobFunc (List UInt8))
      (isEpoll : state.epoll = .calling id data)
      (entered : poolStep state.shared (.enter 0 (some .msgRouteCoreJobFunc) (some data)) =
        some shared) :
      RouteMove state .call { state with shared := shared, epoll := .adding id data }
  | inserts (label : PoolLabel JobFunc (List UInt8)) (id : Nat) (data : Addr)
      (shared : SharedPool JobFunc (List UInt8)) (adder : Adder JobFunc)
      (isEpoll : state.epoll = .adding id data) (isHolder : state.shared.initMutex = some adder)
      (insertion : label.isInsert = true) (taken : addStep state.shared adder label = some shared) :
      RouteMove state (.add label)
        { state with shared := shared, epoll := .added, ids := state.ids ++ [id] }
  | adds (label : PoolLabel JobFunc (List UInt8)) (id : Nat) (data : Addr)
      (shared : SharedPool JobFunc (List UInt8)) (adder : Adder JobFunc)
      (isEpoll : state.epoll = .adding id data) (isHolder : state.shared.initMutex = some adder)
      (other : label.isInsert = false) (taken : addStep state.shared adder label = some shared) :
      RouteMove state (.add label)
        { state with
          shared := shared
          epoll := if shared.initMutex.isSome then .adding id data else .idle }
  | leaves (label : PoolLabel JobFunc (List UInt8)) (shared : SharedPool JobFunc (List UInt8))
      (adder : Adder JobFunc) (isEpoll : state.epoll = .added)
      (isHolder : state.shared.initMutex = some adder)
      (taken : addStep state.shared adder label = some shared) :
      RouteMove state (.add label)
        { state with
          shared := shared
          epoll := if shared.initMutex.isSome then .added else .idle }
  | works (thread : Nat) (stack : ClientInfoTable) (pool : RoutePool)
      (may : mayStep state thread = true) (taken : workerStep state.shared.pool thread = some pool) :
      RouteMove state (.worker thread stack) { state with
        shared := { state.shared with pool := pool }
        runs := state.runs ++ (startedRun pool thread stack state.server.clientInfo).toList }
  | runs (thread : Nat) (run : JobRun) (frame : JobFrame) (calls : List SendCall)
      (heap : PoolHeap JobFunc (List UInt8)) (isMove : jobMove state thread = some (run, frame, calls))
      (freed : heapAfter state.shared.pool.heap run = some heap) :
      RouteMove state (.job thread) { state.withHeap heap with
        runs := state.runs.map (JobRun.advance run.serial frame calls) }

theorem routeStep_cases {state next : RouteState} {label : RouteLabel}
    (stepped : routeStep state label = some next) : RouteMove state label next := by
  cases label with
  | event event =>
      simp only [routeStep, eventStep] at stepped
      split at stepped
      next isEpoll =>
        rcases Option.map_eq_some_iff.mp stepped with ⟨server, taken, rfl⟩
        exact .hears event server isEpoll taken
      next => cases stepped
  | malloc block =>
      simp only [routeStep, mallocStep] at stepped
      split at stepped
      next id isEpoll =>
        cases stepped
        exact .noMemory id isEpoll
      next id index isEpoll =>
        rcases Option.map_eq_some_iff.mp stepped with ⟨heap, done, rfl⟩
        exact .mallocs id index heap isEpoll done
      next => cases stepped
  | call =>
      simp only [routeStep, callStep] at stepped
      split at stepped
      next id data isEpoll =>
        rcases Option.map_eq_some_iff.mp stepped with ⟨shared, entered, rfl⟩
        exact .calls id data shared isEpoll entered
      next => cases stepped
  | add label =>
      rcases Option.bind_eq_some_iff.mp stepped with ⟨adder, isHolder, rest⟩
      split at rest
      next id data isEpoll =>
        rcases Option.map_eq_some_iff.mp rest with ⟨shared, taken, rfl⟩
        split
        next insertion => exact .inserts label id data shared adder isEpoll isHolder insertion taken
        next other =>
          exact .adds label id data shared adder isEpoll isHolder (Bool.eq_false_iff.mpr other) taken
      next isEpoll =>
        rcases Option.map_eq_some_iff.mp rest with ⟨shared, taken, rfl⟩
        exact .leaves label shared adder isEpoll isHolder taken
      next => cases rest
  | worker thread stack =>
      simp only [routeStep, routeWorkerStep] at stepped
      split at stepped
      next may =>
        rcases Option.map_eq_some_iff.mp stepped with ⟨pool, taken, rfl⟩
        exact .works thread stack pool may taken
      next => cases stepped
  | job thread =>
      rcases Option.bind_eq_some_iff.mp stepped with ⟨⟨run, frame, calls⟩, isMove, rest⟩
      rcases Option.bind_eq_some_iff.mp rest with ⟨heap, freed, isNext⟩
      cases isNext
      exact .runs thread run frame calls heap isMove freed

/-- The server after `MsgRouteCoreInit`, with the pool it has started. -/
def routeInit (pool : RoutePool) (memory recvBuf : Memory) : RouteState where
  server := serverInit memory recvBuf
  shared := ⟨pool, none⟩
  epoll := .idle
  received := []
  ids := []
  runs := []

end MsgRoute
end V2x
