import V2x.Foundations.TransitionSystem
import V2x.MsgRoute.CoreLife

namespace V2x
namespace MsgRoute

open Foundations ThreadPool

/-!
# The start of the server

`InitMsgRouteManager` opens the socket of the server, starts the thread pool,
and then opens the descriptor of epoll.  When a step fails,
`DeinitMsgRouteManager` closes the two descriptors and takes down the core,
whatever has been initialised by then.  The client table is static, so before
`MsgRouteClientInfoInit` every slot of it holds the descriptor 0.

Every descriptor that is opened and every one that is passed to `close` is
recorded.
-/

variable {F X : Type}

/-! ## Complete calls of the thread pool -/

/-- What happens while a thread is in `ThreadPoolExitHandle`. -/
inductive ExitMove (X : Type) where
  | handler
  | background (label : Background X)

def exitMoveStep (state : PoolState F X × ExitHandle) : ExitMove X -> Option (PoolState F X × ExitHandle)
  | .handler => exitStep state.1 state.2
  | .background label => (backgroundStep state.1 label).map (fun pool => (pool, state.2))

def exitMoves (F X : Type) : Machine (PoolState F X × ExitHandle) (ExitMove X) where
  step := exitMoveStep

/-- `ThreadPoolExitHandle`, with what happens until it returns. -/
def threadPoolExitHandle (pool : PoolState F X) (num : Nat) (moves : List (ExitMove X)) :
    Option (PoolState F X) :=
  ((exitMoves F X).run (pool, .start num) moves).bind (fun done =>
    if done.2.pc = .finished then some done.1 else none)

/-- `ThreadPoolInit` up to its return. -/
def threadPoolInitCall (pool : PoolState F X) (threadNum : Int) (outcome : InitOutcome)
    (moves : List (ExitMove X)) : Option (Int × PoolState F X) :=
  (threadPoolInit pool threadNum outcome).bind (fun result =>
    match result with
    | .returned ret pool => some (ret, pool)
    | .exiting num ret pool => (threadPoolExitHandle pool num moves).map (fun pool => (ret, pool)))

/-- `ThreadPoolDeinit`.  It leaves `g_isInit` as it is. -/
def threadPoolDeinit (pool : PoolState F X) (moves : List (ExitMove X)) (fuel : Nat) :
    Option (PoolState F X) :=
  if pool.isInit then
    (threadPoolExitHandle pool pool.maxThreadNum.toNat moves).bind (fun pool =>
      (deInitDoublyLinkedListNode fuel pool.heap (some .jobListHead)).map (fun done =>
        pool.cleared done.2))
  else some pool

/-! ## `InitMsgRouteManager` -/

/-- The static variables of the server, its thread pool and its client table, with the
descriptors that were opened and closed. -/
structure ManagerState (F X : Type) where
  serverfd : Int32
  epollfd : Int32
  clientInfo : ClientInfoTable
  pool : PoolState F X
  opened : List Int32
  closed : List Int32

/-- What the calls of the system return.  The moves and the bound are those of the call of
`ThreadPoolExitHandle`, if there is one. -/
structure StartOutcome (X : Type) where
  socket : Int32
  bind : Int32
  listen : Int32
  pool : InitOutcome
  epollCreate : Int32
  epollCtl : Int32
  pthreadCreate : Int32
  moves : List (ExitMove X)
  fuel : Nat

namespace ManagerState

/-- The static variables before the first call. -/
def statics (F X : Type) (jobListHead : DoublyLinkedListNode Addr) : ManagerState F X where
  serverfd := -1
  epollfd := -1
  clientInfo := fun _ => 0
  pool := poolStatics F X jobListHead
  opened := []
  closed := []

def opens (state : ManagerState F X) (fd : Int32) : ManagerState F X :=
  { state with opened := state.opened ++ [fd] }

def closes (state : ManagerState F X) (fd : Int32) : ManagerState F X :=
  { state with closed := state.closed ++ [fd] }

end ManagerState

section Functions

variable (outcome : StartOutcome X)

def createMsgRouteServer (state : ManagerState F X) : Int32 × ManagerState F X :=
  let sock := outcome.socket
  if sock = -1 then (-1, state)
  else if outcome.bind ≠ 0 then (-1, (state.opens sock).closes sock)
  else if outcome.listen ≠ 0 then (-1, (state.opens sock).closes sock)
  else (0, { state.opens sock with serverfd := sock })

def msgRouteCoreInit (state : ManagerState F X) (threadNum : Int) : Option (Int32 × ManagerState F X) :=
  (threadPoolInitCall state.pool threadNum outcome.pool outcome.moves).map (fun done =>
    if done.1 ≠ 0 then (-1, { state with pool := done.2 })
    else (0, { state with pool := done.2, clientInfo := msgRouteClientInfoInit state.clientInfo }))

def msgRouteCoreDeinit (state : ManagerState F X) : Option (ManagerState F X) :=
  (threadPoolDeinit state.pool outcome.moves outcome.fuel).map (fun pool =>
    let emptied := msgRouteClientInfoDeinit state.clientInfo
    { state with pool := pool, clientInfo := emptied.1, closed := state.closed ++ emptied.2 })

/-- The descriptor of `g_serverfd` is closed. -/
def closeServerfd (state : ManagerState F X) : ManagerState F X :=
  if state.serverfd ≠ -1 then { state.closes state.serverfd with serverfd := -1 } else state

/-- The descriptor of `g_epollfd` is closed. -/
def closeEpollfd (state : ManagerState F X) : ManagerState F X :=
  if state.epollfd ≠ -1 then { state.closes state.epollfd with epollfd := -1 } else state

def deinitMsgRouteManager (state : ManagerState F X) : Option (ManagerState F X) :=
  msgRouteCoreDeinit outcome (closeEpollfd (closeServerfd state))

/-- The steps of `InitMsgRouteManager` after the core is initialised. -/
def startEpoll (state : ManagerState F X) : Int32 × ManagerState F X :=
  if outcome.epollCreate < 0 then (outcome.epollCreate, state)
  else
    let state := { state.opens outcome.epollCreate with epollfd := outcome.epollCreate }
    if outcome.epollCtl ≠ 0 then (-1, state) else (outcome.pthreadCreate, state)

def initMsgRouteManager (state : ManagerState F X) : Option (Int32 × ManagerState F X) :=
  let created := createMsgRouteServer outcome state
  if created.1 ≠ 0 then some (-1, created.2)
  else
    (msgRouteCoreInit outcome created.2 3).bind (fun core =>
      let started := if core.1 ≠ 0 then core else startEpoll outcome core.2
      if started.1 ≠ 0 then
        (deinitMsgRouteManager outcome started.2).map (fun final => (started.1, final))
      else some started)

end Functions

/-! ## The property -/

/-- Every opened descriptor was closed once and nothing else was closed, the two static
descriptors are -1, and the pool is not initialised. -/
structure Released (state : ManagerState F X) : Prop where
  descriptors : state.closed.Perm state.opened
  serverfd : state.serverfd = -1
  epollfd : state.epollfd = -1
  pool : state.pool.isInit = false

/-- The call that fails is `socket`, `bind` or `listen`. -/
def StartOutcome.SocketFails (outcome : StartOutcome X) : Prop :=
  outcome.socket = -1 ∨ outcome.bind ≠ 0 ∨ outcome.listen ≠ 0

/-! ## The pool -/

theorem exitMoveStep_isInit {state next : PoolState F X × ExitHandle} {move : ExitMove X}
    (stepped : exitMoveStep state move = some next) : next.1.isInit = state.1.isInit := by
  cases move with
  | handler => exact (exitStep_change stepped).isInit
  | background label =>
      rcases Option.map_eq_some_iff.mp stepped with ⟨pool, moved, rfl⟩
      exact (backgroundStep_change moved).isInit

/-- The handler leaves `g_isInit` alone. -/
theorem threadPoolExitHandle_isInit {pool after : PoolState F X} {num : Nat} {moves : List (ExitMove X)}
    (exited : threadPoolExitHandle pool num moves = some after) : after.isInit = pool.isInit := by
  rcases Option.bind_eq_some_iff.mp exited with ⟨⟨done, handle⟩, ran, finished⟩
  have kept : done.isInit = pool.isInit :=
    (exitMoves F X).run_invariant
      (fun _ _ _ (same : _ = pool.isInit) stepped => (exitMoveStep_isInit stepped).trans same) rfl ran
  split at finished
  · cases finished
    exact kept
  · cases finished

theorem threadPoolInitCall_isInit {pool after : PoolState F X} {threadNum ret : Int}
    {outcome : InitOutcome} {moves : List (ExitMove X)}
    (valid : 0 < threadNum ∧ threadNum < threadPoolNumMax) (notInit : pool.isInit = false)
    (ids : forall idx thread, pool.threadId idx = some thread -> thread < pool.threads.length)
    (returned : threadPoolInitCall pool threadNum outcome moves = some (ret, after)) :
    after.isInit = decide (ret = 0) := by
  rcases Option.bind_eq_some_iff.mp returned with ⟨result, done, rest⟩
  have failed : forall {code : Int} {failedPool : PoolState F X},
      some (code, failedPool) = some (ret, after) -> code ≠ 0 -> failedPool.isInit = false ->
      after.isInit = decide (ret = 0) := by
    intro code failedPool same nonzero isFalse
    cases same
    rw [isFalse, decide_eq_false nonzero]
  rcases threadPoolInit_cases done with
    ⟨invalid, _⟩ | ⟨_, ⟨isInit, _⟩ | ⟨_, heap, _, ⟨nonzero, rfl⟩ | ⟨_, nonzero, rfl⟩ | ⟨_, _, created⟩⟩⟩
  · omega
  · cases notInit.symm.trans isInit
  · exact failed rest nonzero notInit
  · exact failed rest nonzero notInit
  · have opened : Crew (pool.reset threadNum heap).opened pool.threads.length 0 :=
      (Crew.start ids).congr rfl rfl
    rcases createWorkers_cases opened created with
      ⟨final, rfl, _, _, isInit, _⟩ | ⟨num, final, rfl, _, isInit, _, _, nonzero⟩
    · cases rest
      exact isInit
    · rcases Option.map_eq_some_iff.mp rest with ⟨exitedPool, exited, same⟩
      exact failed (congrArg some same) nonzero
        ((threadPoolExitHandle_isInit exited).trans (isInit.trans notInit))

/-- `ThreadPoolDeinit` leaves `g_isInit` alone too. -/
theorem threadPoolDeinit_isInit {pool after : PoolState F X} {moves : List (ExitMove X)} {fuel : Nat}
    (done : threadPoolDeinit pool moves fuel = some after) : after.isInit = pool.isInit := by
  unfold threadPoolDeinit at done
  split at done
  · rcases Option.bind_eq_some_iff.mp done with ⟨exitedPool, exited, torn⟩
    rcases Option.map_eq_some_iff.mp torn with ⟨_, _, rfl⟩
    have kept := threadPoolExitHandle_isInit exited
    exact kept
  · exact Option.some.inj done ▸ rfl

/-! ## The client table -/

theorem fd_deinitSlot (found : ClientInfoTable × List Int32) {index other : Nat}
    (different : other ≠ index) : (deinitSlot found index).1.fd other = found.1.fd other := by
  unfold deinitSlot
  split
  · exact congrArg MsgRouteClientInfo.fd (slot_resetSlot_other found.1 different)
  · exact congrArg MsgRouteClientInfo.fd
      (ClientInfoTable.slot_clearMsgFlag_other found.1 different)

theorem closed_foldl_deinitSlot {slots : List Nat} (distinct : slots.Nodup)
    (found : ClientInfoTable × List Int32) :
    (slots.foldl deinitSlot found).2 =
      found.2 ++ (slots.map found.1.fd).filter (fun fd => decide (fd ≠ -1)) := by
  induction slots generalizing found with
  | nil => exact (List.append_nil _).symm
  | cons index slots inductionHypothesis =>
      have ⟨fresh, rest⟩ := List.nodup_cons.mp distinct
      have same : slots.map (deinitSlot found index).1.fd = slots.map found.1.fd := by
        apply List.map_congr_left
        intro other member
        exact fd_deinitSlot found (fun same => fresh (same ▸ member))
      rw [List.foldl_cons, inductionHypothesis rest, same, List.map_cons]
      by_cases isOpen : found.1.fd index ≠ -1
      · have keeps : decide (found.1.fd index ≠ -1) = true := decide_eq_true isOpen
        simp only [deinitSlot, List.filter_cons, keeps, if_pos isOpen, if_true, List.append_assoc,
          List.singleton_append]
      · have drops : decide (found.1.fd index ≠ -1) = false := decide_eq_false isOpen
        simp only [deinitSlot, List.filter_cons, drops, if_neg isOpen, Bool.false_eq_true, if_false]

/-- The descriptors in the table are closed. -/
theorem msgRouteClientInfoDeinit_closed (table : ClientInfoTable) :
    (msgRouteClientInfoDeinit table).2 =
      ((List.range maxAppId).map table.fd).filter (fun fd => decide (fd ≠ -1)) :=
  closed_foldl_deinitSlot List.nodup_range (table, [])

/-- An initialised table holds no descriptor. -/
theorem closed_of_clientInfoInit (table : ClientInfoTable) :
    (msgRouteClientInfoDeinit (msgRouteClientInfoInit table)).2 = [] := by
  rw [msgRouteClientInfoDeinit_closed, List.filter_eq_nil_iff]
  intro fd member
  rcases List.mem_map.mp member with ⟨slot, inside, rfl⟩
  have released := slot_foldl_resetSlot (List.range maxAppId) table slot (Or.inl inside)
  have noFd : (msgRouteClientInfoInit table).fd slot = -1 := congrArg MsgRouteClientInfo.fd released
  rw [noFd]
  decide

/-- Before it is initialised, the table holds the descriptor 0 in every slot. -/
theorem closed_of_statics (F X : Type) (jobListHead : DoublyLinkedListNode Addr) :
    (msgRouteClientInfoDeinit (ManagerState.statics F X jobListHead).clientInfo).2 = [0, 0, 0] := by
  rw [msgRouteClientInfoDeinit_closed]
  rfl

/-! ## A failed start -/

section Failure

variable {outcome : StartOutcome X} {state final : ManagerState F X}

/-- What `DeinitMsgRouteManager` closes besides the two static descriptors is in the table. -/
theorem deinitMsgRouteManager_effect (done : deinitMsgRouteManager outcome state = some final) :
    final.opened = state.opened ∧
      final.closed = state.closed ++
        ([state.serverfd, state.epollfd].filter (fun fd => decide (fd ≠ -1)) ++
          (msgRouteClientInfoDeinit state.clientInfo).2) ∧
      final.pool.isInit = state.pool.isInit := by
  rcases Option.map_eq_some_iff.mp done with ⟨pool, torn, rfl⟩
  have kept := threadPoolDeinit_isInit torn
  by_cases server : state.serverfd = -1 <;> by_cases epoll : state.epollfd = -1 <;>
    simp only [closeServerfd, closeEpollfd, ManagerState.closes, server, epoll, ne_eq, not_true_eq_false,
      not_false_iff, if_true, if_false, decide_true, decide_false, List.filter_cons, List.filter_nil,
      Bool.false_eq_true, List.append_assoc, List.nil_append, List.cons_append, true_and] at kept ⊢ <;>
    exact kept

/-- The ways in which a start can fail. -/
inductive FailedStart (outcome : StartOutcome X) (final : ManagerState F X) : Prop where
  | early (fails : outcome.SocketFails) (released : Released final)
  | inPool (passed : ¬ outcome.SocketFails) (opened : final.opened = [outcome.socket])
      (closed : final.closed = [outcome.socket, 0, 0, 0])
  | later (passed : ¬ outcome.SocketFails) (closed : final.closed = final.opened)
      (isInit : final.pool.isInit = true)

/-- The socket is there, and nothing else has happened. -/
structure ServerCreated (outcome : StartOutcome X) (state : ManagerState F X) : Prop where
  passed : ¬ outcome.SocketFails
  serverfd : state.serverfd = outcome.socket
  epollfd : state.epollfd = -1
  opened : state.opened = [outcome.socket]
  closed : state.closed = []

theorem ServerCreated.socket_ne (created : ServerCreated outcome state) : outcome.socket ≠ -1 :=
  fun same => created.passed (Or.inl same)

variable (outcome) in
theorem createMsgRouteServer_cases (jobListHead : DoublyLinkedListNode Addr) :
    let created := createMsgRouteServer outcome (.statics F X jobListHead)
    (created.1 ≠ 0 ∧ outcome.SocketFails ∧ Released created.2) ∨
      (created.1 = 0 ∧ ServerCreated outcome created.2 ∧
        created.2.pool = poolStatics F X jobListHead ∧
        created.2.clientInfo = (ManagerState.statics F X jobListHead).clientInfo) := by
  intro created
  have code : (-1 : Int32) ≠ 0 := by decide
  by_cases noSocket : outcome.socket = -1
  · have isCreated : created = (-1, .statics F X jobListHead) := if_pos noSocket
    rw [isCreated]
    exact Or.inl ⟨code, Or.inl noSocket, List.Perm.refl _, rfl, rfl, rfl⟩
  · have closes : Released (((ManagerState.statics F X jobListHead).opens outcome.socket).closes
        outcome.socket) := ⟨List.Perm.refl _, rfl, rfl, rfl⟩
    by_cases noBind : outcome.bind ≠ 0
    · have isCreated : created = (-1, ((ManagerState.statics F X jobListHead).opens outcome.socket).closes
          outcome.socket) := (if_neg noSocket).trans (if_pos noBind)
      rw [isCreated]
      exact Or.inl ⟨code, Or.inr (Or.inl noBind), closes⟩
    · by_cases noListen : outcome.listen ≠ 0
      · have isCreated : created = (-1,
            ((ManagerState.statics F X jobListHead).opens outcome.socket).closes outcome.socket) :=
          (if_neg noSocket).trans ((if_neg noBind).trans (if_pos noListen))
        rw [isCreated]
        exact Or.inl ⟨code, Or.inr (Or.inr noListen), closes⟩
      · have isCreated : created = (0,
            { (ManagerState.statics F X jobListHead).opens outcome.socket with
              serverfd := outcome.socket }) :=
          (if_neg noSocket).trans ((if_neg noBind).trans (if_neg noListen))
        rw [isCreated]
        refine Or.inr ⟨rfl, ⟨?_, rfl, rfl, rfl, rfl⟩, rfl, rfl⟩
        rintro (isSocket | isBind | isListen)
        · exact noSocket isSocket
        · exact noBind isBind
        · exact noListen isListen

/-- A failure after the core was initialised.  The descriptors are closed, but the pool still
counts as initialised. -/
theorem startEpoll_failed (created : ServerCreated outcome state) (isInit : state.pool.isInit = true)
    (noFds : (msgRouteClientInfoDeinit state.clientInfo).2 = [])
    (done : deinitMsgRouteManager outcome (startEpoll outcome state).2 = some final) :
    FailedStart outcome final := by
  have server : decide (outcome.socket ≠ -1) = true := decide_eq_true created.socket_ne
  have ⟨opened, closed, kept⟩ := deinitMsgRouteManager_effect done
  by_cases noEpoll : outcome.epollCreate < 0
  · have isStarted : (startEpoll outcome state).2 = state := by
      simp only [startEpoll, if_pos noEpoll]
    rw [isStarted] at opened closed kept
    refine .later created.passed ?_ (kept.trans isInit)
    have unused : decide (state.epollfd ≠ -1) = false := decide_eq_false (not_not.mpr created.epollfd)
    rw [closed, opened, created.closed, created.opened, noFds, created.serverfd]
    simp only [List.filter_cons, List.filter_nil, server, unused, if_true, Bool.false_eq_true, if_false,
      List.nil_append, List.append_nil]
  · have isStarted : (startEpoll outcome state).2 =
        { state.opens outcome.epollCreate with epollfd := outcome.epollCreate } := by
      simp only [startEpoll, if_neg noEpoll]
      split <;> rfl
    rw [isStarted] at opened closed kept
    refine .later created.passed ?_ (kept.trans isInit)
    have epoll : decide (outcome.epollCreate ≠ -1) = true := by
      apply decide_eq_true
      intro same
      rw [same] at noEpoll
      exact noEpoll (by decide)
    simp only [ManagerState.opens, created.closed, created.opened, created.serverfd, noFds, List.filter_cons,
      List.filter_nil, server, epoll, if_true, List.nil_append, List.append_nil, List.cons_append] at opened closed
    rw [closed, opened]

theorem initMsgRouteManager_failed {jobListHead : DoublyLinkedListNode Addr} {ret : Int32}
    (returned : initMsgRouteManager outcome (.statics F X jobListHead) = some (ret, final))
    (failed : ret ≠ 0) : FailedStart outcome final := by
  unfold initMsgRouteManager at returned
  have ways := createMsgRouteServer_cases (F := F) outcome jobListHead
  generalize createMsgRouteServer outcome (ManagerState.statics F X jobListHead) = server at ways returned
  rcases server with ⟨code, server⟩
  rcases ways with ⟨nonzero, fails, released⟩ | ⟨zero, created, isPool, isTable⟩
  · rw [if_pos nonzero] at returned
    cases returned
    exact .early fails released
  · rw [if_neg (not_not.mpr zero)] at returned
    rcases Option.bind_eq_some_iff.mp returned with ⟨core, initialised, rest⟩
    rcases Option.map_eq_some_iff.mp initialised with ⟨⟨poolRet, pool⟩, called, isCore⟩
    rw [isPool] at called
    have isInit := threadPoolInitCall_isInit (by decide) rfl (fun _ _ isThread => by cases isThread) called
    by_cases poolFailed : poolRet ≠ 0
    · rw [if_pos poolFailed] at isCore
      subst isCore
      have code : (-1 : Int32) ≠ 0 := by decide
      simp only [if_pos code] at rest
      rcases Option.map_eq_some_iff.mp rest with ⟨final, done, same⟩
      cases same
      have ⟨opened, closed, _⟩ := deinitMsgRouteManager_effect done
      refine .inPool created.passed (opened.trans created.opened) ?_
      have socket : decide (outcome.socket ≠ -1) = true := decide_eq_true created.socket_ne
      rw [closed, isTable, closed_of_statics, created.closed, created.serverfd, created.epollfd]
      simp only [List.filter_cons, List.filter_nil, socket, if_true, ne_eq, not_true_eq_false, decide_false,
        Bool.false_eq_true, if_false, List.nil_append, List.singleton_append]
    · rw [if_neg poolFailed] at isCore
      subst isCore
      rw [decide_eq_true (not_not.mp poolFailed)] at isInit
      have coreCreated : ServerCreated outcome { server with
          pool := pool
          clientInfo := msgRouteClientInfoInit server.clientInfo } :=
        ⟨created.passed, created.serverfd, created.epollfd, created.opened, created.closed⟩
      have noFds := closed_of_clientInfoInit server.clientInfo
      simp only [ne_eq, not_true_eq_false, if_false] at rest
      split at rest
      · rcases Option.map_eq_some_iff.mp rest with ⟨final, done, same⟩
        cases same
        exact startEpoll_failed coreCreated isInit noFds done
      next succeeded =>
        rw [Option.some.inj rest] at succeeded
        exact absurd failed succeeded

end Failure

/-- Whatever the system calls return, and whatever numbers their descriptors have: a failed start
releases what it has acquired, and nothing else, exactly if it fails at the socket. -/
theorem failedStart_released_iff {outcome : StartOutcome X} {jobListHead : DoublyLinkedListNode Addr}
    {ret : Int32} {final : ManagerState F X}
    (returned : initMsgRouteManager outcome (.statics F X jobListHead) = some (ret, final))
    (failed : ret ≠ 0) : Released final <-> outcome.SocketFails := by
  cases initMsgRouteManager_failed returned failed with
  | early fails released => exact iff_of_true released fails
  | inPool passed opened closed =>
      refine iff_of_false (fun released => ?_) passed
      have lengths := released.descriptors.length_eq
      rw [opened, closed] at lengths
      exact absurd lengths (by simp only [List.length_cons, List.length_nil]; decide)
  | later passed closed isInit =>
      refine iff_of_false (fun released => ?_) passed
      cases isInit.symm.trans released.pool

/-- The calls after the socket, up to a failure. -/
def socketOutcome (bind : Int32) (pthreadCreate : Int) (epollCreate : Int32) (moves : Nat) :
    StartOutcome Unit where
  socket := 5
  bind := bind
  listen := 0
  pool := ⟨0, 0, fun _ => (pthreadCreate, ⟨none, .jobListHead, .jobListHead⟩)⟩
  epollCreate := epollCreate
  epollCtl := 0
  pthreadCreate := 0
  moves := List.replicate moves .handler
  fuel := 1

/-- `bind` fails, and the socket is closed. -/
theorem failedStart_released_iff_bindFails :
    Exists fun final => initMsgRouteManager (socketOutcome (-1) 0 6 0)
        (.statics Unit Unit ⟨none, .jobListHead, .jobListHead⟩) = some (-1, final) ∧ Released final := by
  have returned : initMsgRouteManager (socketOutcome (-1) 0 6 0)
      (.statics Unit Unit ⟨none, .jobListHead, .jobListHead⟩) = some (-1, _) := rfl
  exact ⟨_, returned, (failedStart_released_iff returned (by decide)).mpr (Or.inr (Or.inl (by decide)))⟩

/-- The first thread of the pool cannot be created, and the standard input is closed.  Or the
descriptor of epoll cannot be opened, and the pool without threads counts as initialised. -/
theorem failedStart_closesStdin :
    (Exists fun final => initMsgRouteManager (socketOutcome 0 11 6 4)
        (.statics Unit Unit ⟨none, .jobListHead, .jobListHead⟩) = some (-1, final) ∧
      final.opened = [5] ∧ final.closed = [5, 0, 0, 0] ∧ ¬ Released final) ∧
    (Exists fun final => initMsgRouteManager (socketOutcome 0 0 (-1) 13)
        (.statics Unit Unit ⟨none, .jobListHead, .jobListHead⟩) = some (-1, final) ∧
      final.opened = [5] ∧ final.closed = [5] ∧ final.pool.isInit = true ∧ ¬ Released final) := by
  constructor
  · have observed : (initMsgRouteManager (socketOutcome 0 11 6 4)
        (.statics Unit Unit ⟨none, .jobListHead, .jobListHead⟩)).any (fun done => decide (done.1 = -1 ∧
          done.2.opened = [5] ∧ done.2.closed = [5, 0, 0, 0])) = true := by decide +kernel
    rcases (Option.any_eq_true _ _).mp observed with ⟨⟨ret, final⟩, returned, holds⟩
    have ⟨isRet, opened, closed⟩ := of_decide_eq_true holds
    cases isRet
    refine ⟨final, returned, opened, closed, fun released => ?_⟩
    have lengths := released.descriptors.length_eq
    rw [opened, closed] at lengths
    cases lengths
  · have observed : (initMsgRouteManager (socketOutcome 0 0 (-1) 13)
        (.statics Unit Unit ⟨none, .jobListHead, .jobListHead⟩)).any (fun done => decide (done.1 = -1 ∧
          done.2.opened = [5] ∧ done.2.closed = [5] ∧ done.2.pool.isInit = true)) = true := by
      decide +kernel
    rcases (Option.any_eq_true _ _).mp observed with ⟨⟨ret, final⟩, returned, holds⟩
    have ⟨isRet, opened, closed, isInit⟩ := of_decide_eq_true holds
    cases isRet
    refine ⟨final, returned, opened, closed, isInit, fun released => ?_⟩
    cases isInit.symm.trans released.pool

end MsgRoute
end V2x
