import V2x.Foundations.Descriptors
import V2x.Foundations.Simulation
import V2x.MsgRoute.ManagerStart

namespace V2x
namespace MsgRoute

open Foundations ThreadPool

/-!
# The loop of the epoll thread

`MsgRouteServerEpollThread` takes up to `MSG_ROUTE_EPOLL_FD_SIZE` events from
`epoll_wait` and handles them one after the other.  By the time an event is
handled, earlier events of the same batch have closed connections and accepted
new ones, and the kernel gives a new connection the lowest free number.

Here the thread runs on the descriptors of its process.  `server` is the same
thread without them: it assumes of each event that its descriptor is an open
connection.  The refinement at the end discharges that assumption, and with it
the accounting of the descriptors.
-/

/-- `MSG_ROUTE_EPOLL_FD_SIZE`. -/
def msgRouteEpollFdSize : Nat := 100

/-- An entry of `events`.  `file` is the open file on which `epoll_wait` found the event; the
thread sees the number `fd` only. -/
structure EpollEvent where
  fd : Int32
  epollIn : Bool
  file : Nat
deriving DecidableEq, Repr

inductive LoopPc where
  | malloc
  | epollWait
  | handleEvent (events : List EpollEvent)
  | free
  | returned
deriving DecidableEq, Repr

/-- The thread, the variables it uses, and the descriptors of the process.  `strayUses` counts the
uses of `recvBuf` while it is not allocated. -/
structure LoopState where
  pc : LoopPc
  serverfd : Int32
  epollfd : Int32
  files : Descriptors Int32
  clientInfo : ClientInfoTable
  recvBuf : Memory
  allocated : Bool
  strayUses : Nat

/-- What `epoll_wait` returns; an error is `EINTR` or not. -/
inductive WaitOutcome where
  | failed (isEintr : Bool)
  | ready (events : List EpollEvent)
deriving DecidableEq, Repr

/-- What the system calls for one event return. -/
structure EventOutcome where
  accept : Int32
  epollCtl : Int32
  recv : RecvResult
deriving DecidableEq, Repr

inductive LoopLabel where
  | malloc (succeeds : Bool)
  | epollWait (outcome : WaitOutcome)
  | event (outcome : EventOutcome)
  | batchDone
  | free
deriving DecidableEq, Repr

/-! ## The functions of the thread -/

/-- `MsgRouteServerAccept`.  The kernel returns -1 or a number that is not in use. -/
def msgRouteServerAccept (state : LoopState) (clientFd epollCtl : Int32) : Option LoopState :=
  if clientFd = -1 then some state
  else if clientFd < 0 ∨ (state.files.file clientFd).isSome then none
  else
    let files := state.files.create clientFd
    if epollCtl ≠ 0 then some { state with files := files }
    else some { state with files := files.watch state.epollfd clientFd }

/-- `MsgRouteServerHandleMsg` with its two calls for the end of a connection. -/
def LoopState.handleMsg (state : LoopState) (clientFd : Int32) (result : RecvResult) : LoopState :=
  let handled := msgRouteServerHandleMsg state.clientInfo state.recvBuf clientFd result
  { state with
    clientInfo := handled.clientInfo
    recvBuf := handled.recvBuf
    strayUses := if state.allocated then state.strayUses else state.strayUses + 1
    files :=
      if handled.closed then (state.files.unwatch state.epollfd clientFd).close clientFd
      else state.files }

/-- The body of the loop of `MsgRouteServerHandleEvent`. -/
def msgRouteServerHandleEvent (state : LoopState) (event : EpollEvent) (outcome : EventOutcome) :
    Option LoopState :=
  if event.fd = state.serverfd ∧ event.epollIn = true then
    msgRouteServerAccept state outcome.accept outcome.epollCtl
  else if event.epollIn then some (state.handleMsg event.fd outcome.recv)
  else some state

/-- The events are about different descriptors, and each of these is watched and stands for the
file of its event. -/
def LoopState.Reported (state : LoopState) (events : List EpollEvent) : Prop :=
  (events.map EpollEvent.fd).Nodup ∧
  forall event, event ∈ events -> state.files.watches state.epollfd event.fd = true ∧
    state.files.file event.fd = some event.file

instance (state : LoopState) (events : List EpollEvent) : Decidable (state.Reported events) :=
  inferInstanceAs (Decidable (_ ∧ _))

/-- `MsgRouteServerEpollThread`. -/
def loopStep (state : LoopState) (label : LoopLabel) : Option LoopState :=
  match state.pc, label with
  | .malloc, .malloc succeeds =>
      if succeeds then some { state with pc := .epollWait, allocated := true }
      else some { state with pc := .returned }
  | .epollWait, .epollWait (.failed isEintr) =>
      if isEintr then some state else some { state with pc := .free }
  | .epollWait, .epollWait (.ready events) =>
      if events.length ≤ msgRouteEpollFdSize ∧ state.Reported events then
        some { state with pc := .handleEvent events }
      else none
  | .handleEvent (event :: rest), .event outcome =>
      msgRouteServerHandleEvent { state with pc := .handleEvent rest } event outcome
  | .handleEvent [], .batchDone => some { state with pc := .epollWait }
  | .free, .free =>
      some { state with
        pc := .returned
        allocated := false
        strayUses := if state.allocated then state.strayUses else state.strayUses + 1 }
  | _, _ => none

def epollLoop : Machine LoopState LoopLabel where
  step := loopStep

/-- The thread when `InitMsgRouteManager` creates it. -/
def ManagerState.epollThread {F X : Type} (manager : ManagerState F X) (recvBuf : Memory) :
    LoopState where
  pc := .malloc
  serverfd := manager.serverfd
  epollfd := manager.epollfd
  files := (manager.opened.foldl Descriptors.create Descriptors.empty).watch manager.epollfd
    manager.serverfd
  clientInfo := manager.clientInfo
  recvBuf := recvBuf
  allocated := false
  strayUses := 0

/-- The event of `server` that the step handles. -/
def handledEvent (state : LoopState) (label : LoopLabel) : List ServerEvent :=
  match state.pc, label with
  | .handleEvent (event :: _), .event outcome =>
      if event.fd = state.serverfd ∧ event.epollIn = true then
        if outcome.accept = -1 then [.acceptFailed]
        else [.accept outcome.accept (outcome.epollCtl == 0)]
      else if event.epollIn then [.recv event.fd outcome.recv]
      else [.notReadable event.fd]
  | _, _ => []

/-! ## What a step can do -/

/-- The thread has `recvBuf`. -/
def LoopPc.holdsBuf : LoopPc -> Bool
  | .malloc | .returned => false
  | .epollWait | .handleEvent _ | .free => true

/-- The buffer is allocated where the thread uses it, and nowhere else. -/
structure LoopState.BufferOk (state : LoopState) : Prop where
  allocated : state.allocated = state.pc.holdsBuf
  strayUses : state.strayUses = 0

/-- A step that handles no event: nothing changes but the place of the thread and its buffer. -/
structure Turns (state next : LoopState) : Prop where
  serverfd : next.serverfd = state.serverfd
  epollfd : next.epollfd = state.epollfd
  files : next.files = state.files
  clientInfo : next.clientInfo = state.clientInfo
  recvBuf : next.recvBuf = state.recvBuf
  buffer : state.BufferOk -> next.BufferOk
  batch : forall events, next.pc = .handleEvent events -> state.Reported events

/-- A step either handles the next event of the batch or none. -/
inductive LoopMove (state : LoopState) : LoopLabel -> LoopState -> Prop where
  | turns {label : LoopLabel} {next : LoopState} (quiet : handledEvent state label = [])
      (turn : Turns state next) : LoopMove state label next
  | handles {event : EpollEvent} {rest : List EpollEvent} {outcome : EventOutcome} {next : LoopState}
      (at_ : state.pc = .handleEvent (event :: rest))
      (done : msgRouteServerHandleEvent { state with pc := .handleEvent rest } event outcome = some next) :
      LoopMove state (.event outcome) next

section Steps

variable {state next : LoopState} {label : LoopLabel}

theorem loopStep_cases (taken : loopStep state label = some next) : LoopMove state label next := by
  have noBatch : forall {pc : LoopPc}, (forall events, pc ≠ .handleEvent events) ->
      forall events, pc = .handleEvent events -> state.Reported events :=
    fun other events same => absurd same (other events)
  unfold loopStep at taken
  split at taken
  next at_ =>
    have quiet : forall succeeds, handledEvent state (.malloc succeeds) = [] := by
      intro succeeds
      simp only [handledEvent, at_]
    split at taken
    · cases taken
      exact .turns (quiet _) ⟨rfl, rfl, rfl, rfl, rfl, fun buffer => ⟨rfl, buffer.strayUses⟩,
        noBatch (by rintro events ⟨⟩)⟩
    · cases taken
      refine .turns (quiet _) ⟨rfl, rfl, rfl, rfl, rfl, fun buffer => ⟨?_, buffer.strayUses⟩,
        noBatch (by rintro events ⟨⟩)⟩
      rw [buffer.allocated, at_]
      rfl
  next at_ =>
    have quiet : forall outcome, handledEvent state (.epollWait outcome) = [] := by
      intro outcome
      simp only [handledEvent, at_]
    split at taken
    · cases taken
      refine .turns (quiet _) ⟨rfl, rfl, rfl, rfl, rfl, id, noBatch ?_⟩
      rw [at_]
      rintro events ⟨⟩
    · cases taken
      refine .turns (quiet _) ⟨rfl, rfl, rfl, rfl, rfl, fun buffer => ⟨?_, buffer.strayUses⟩,
        noBatch (by rintro events ⟨⟩)⟩
      rw [buffer.allocated, at_]
      rfl
  next events at_ =>
    have quiet : forall outcome, handledEvent state (.epollWait outcome) = [] := by
      intro outcome
      simp only [handledEvent, at_]
    split at taken
    next promised =>
      cases taken
      refine .turns (quiet _) ⟨rfl, rfl, rfl, rfl, rfl, fun buffer => ⟨?_, buffer.strayUses⟩, ?_⟩
      · rw [buffer.allocated, at_]
        rfl
      · rintro others ⟨⟩
        exact promised.2
    · cases taken
  next event rest outcome at_ => exact .handles at_ taken
  next at_ =>
    cases taken
    refine .turns ?_ ⟨rfl, rfl, rfl, rfl, rfl, fun buffer => ⟨?_, buffer.strayUses⟩,
      noBatch (by rintro events ⟨⟩)⟩
    · simp only [handledEvent, at_]
    · rw [buffer.allocated, at_]
      rfl
  next at_ =>
    cases taken
    refine .turns ?_ ⟨rfl, rfl, rfl, rfl, rfl, fun buffer => ⟨rfl, ?_⟩, noBatch (by rintro events ⟨⟩)⟩
    · simp only [handledEvent, at_]
    · rw [buffer.allocated, at_]
      exact buffer.strayUses
  next => cases taken

end Steps

/-! ## The thread refines `server` -/

/-- The descriptors of the process are the two of the server and those of the connections, and epoll
watches what `server` says it watches. -/
structure LoopRefines (state : LoopState) (image : ServerState) : Prop where
  clientInfo : image.clientInfo = state.clientInfo
  recvBuf : image.recvBuf = state.recvBuf
  connected : image.Connected
  apart : forall conn, conn ∈ image.connections -> conn.fd ≠ state.serverfd ∧ conn.fd ≠ state.epollfd
  files : state.files.Holds (state.serverfd :: state.epollfd :: image.connections.map Connection.fd)
  watched : forall fd, state.files.watches state.epollfd fd = true <-> fd = state.serverfd ∨
    Exists fun conn => conn ∈ image.connections ∧ conn.fd = fd ∧ conn.watched = true
  buffer : state.BufferOk
  batch : forall events, state.pc = .handleEvent events -> state.Reported events

/-- What no change of the descriptors concerns is still reported. -/
theorem LoopState.Reported.frame {state next : LoopState} {events : List EpollEvent}
    (reported : state.Reported events) (sameEpollfd : next.epollfd = state.epollfd)
    (same : forall event, event ∈ events -> next.files.file event.fd = state.files.file event.fd ∧
      next.files.watches state.epollfd event.fd = state.files.watches state.epollfd event.fd) :
    next.Reported events := by
  refine ⟨reported.1, fun event member => ?_⟩
  rw [sameEpollfd, (same event member).1, (same event member).2]
  exact reported.2 event member

/-- A watched connection is found. -/
theorem exists_watchedConnection {image : ServerState} {conn : Connection}
    (member : conn ∈ image.connections) (watched : conn.watched = true) :
    Exists fun found => image.watchedConnection conn.fd = some found := by
  apply Option.isSome_iff_exists.mp
  rw [ServerState.watchedConnection, List.find?_isSome]
  exact ⟨conn, member, by simp only [BEq.rfl, watched, Bool.and_self]⟩

/-- What `MsgRouteServerAccept` does to the descriptors. -/
theorem msgRouteServerAccept_cases {state next : LoopState} {clientFd epollCtl : Int32}
    (done : msgRouteServerAccept state clientFd epollCtl = some next) :
    (clientFd = -1 ∧ next = state) ∨
    (clientFd ≠ -1 ∧ ¬ clientFd < 0 ∧ state.files.file clientFd = none ∧
      next = { state with
        files := if epollCtl = 0 then (state.files.create clientFd).watch state.epollfd clientFd
          else state.files.create clientFd }) := by
  unfold msgRouteServerAccept at done
  split at done
  next failed => exact Or.inl ⟨failed, (Option.some.inj done).symm⟩
  next succeeded =>
    split at done
    · cases done
    next promised =>
      rw [not_or, Bool.not_eq_true, Option.isSome_eq_false_iff, Option.isNone_iff_eq_none] at promised
      refine Or.inr ⟨succeeded, promised.1, promised.2, ?_⟩
      by_cases added : epollCtl = 0
      · rw [if_neg (not_not.mpr added)] at done
        rw [if_pos added, ← Option.some.inj done]
      · rw [if_pos added] at done
        rw [if_neg added, ← Option.some.inj done]

namespace LoopRefines

variable {state next : LoopState} {image : ServerState} {event : EpollEvent} {rest : List EpollEvent}

theorem turn (refines : LoopRefines state image) (turn : Turns state next) : LoopRefines next image where
  clientInfo := refines.clientInfo.trans turn.clientInfo.symm
  recvBuf := refines.recvBuf.trans turn.recvBuf.symm
  connected := refines.connected
  apart := by
    rw [turn.serverfd, turn.epollfd]
    exact refines.apart
  files := by
    rw [turn.files, turn.serverfd, turn.epollfd]
    exact refines.files
  watched := by
    rw [turn.files, turn.serverfd, turn.epollfd]
    exact refines.watched
  buffer := turn.buffer refines.buffer
  batch := by
    intro events at_
    exact (turn.batch events at_).frame turn.epollfd (fun _ _ => by rw [turn.files]; exact ⟨rfl, rfl⟩)

/-- The thread takes the next event of the batch. -/
theorem next_event (refines : LoopRefines state image) (at_ : state.pc = .handleEvent (event :: rest)) :
    LoopRefines { state with pc := .handleEvent rest } image ∧ event.fd ∉ rest.map EpollEvent.fd ∧
    state.files.watches state.epollfd event.fd = true ∧ state.files.file event.fd = some event.file := by
  have reported := refines.batch _ at_
  have distinct := List.nodup_cons.mp reported.1
  refine ⟨⟨refines.clientInfo, refines.recvBuf, refines.connected, refines.apart, refines.files,
    refines.watched, ⟨?_, refines.buffer.strayUses⟩, ?_⟩, distinct.1, reported.2 event List.mem_cons_self⟩
  · rw [refines.buffer.allocated, at_]
    rfl
  · rintro events ⟨⟩
    exact ⟨distinct.2, fun other member => reported.2 other (List.mem_cons_of_mem event member)⟩

/-- `MsgRouteServerAccept` is an event of `server`. -/
theorem accept (refines : LoopRefines state image) {clientFd epollCtl : Int32}
    (done : msgRouteServerAccept state clientFd epollCtl = some next) :
    Exists fun after => serverStep image (if clientFd = -1 then .acceptFailed
        else .accept clientFd (epollCtl == 0)) = some after ∧ LoopRefines next after := by
  rcases msgRouteServerAccept_cases done with ⟨failed, rfl⟩ | ⟨succeeded, valid, unused, rfl⟩
  · refine ⟨image, ?_, refines⟩
    rw [if_pos failed]
    rfl
  · have fresh : clientFd ∉ state.serverfd :: state.epollfd :: image.connections.map Connection.fd := by
      intro isUsed
      have used := (refines.files.isOpen clientFd).mpr isUsed
      rw [unused] at used
      cases used
    simp only [List.mem_cons, List.mem_map, not_or, not_exists, not_and] at fresh
    rcases fresh with ⟨notServer, notEpoll, notConn⟩
    have stepped : serverStep image (.accept clientFd (epollCtl == 0)) = some { image with
        connections := ⟨image.accepted, clientFd, epollCtl == 0, image.controls.length⟩ :: image.connections
        accepted := image.accepted + 1 } := by
      apply if_neg
      simp only [List.any_eq_true, beq_iff_eq, not_or, not_exists, not_and]
      exact ⟨valid, notConn⟩
    refine ⟨_, (congrArg (serverStep image) (if_neg succeeded)).trans stepped, ?_⟩
    have file : forall fd, (if epollCtl = 0 then
        (state.files.create clientFd).watch state.epollfd clientFd else state.files.create clientFd).file fd =
          if fd = clientFd then some state.files.created else state.files.file fd := by
      intro fd
      split
      · exact Descriptors.file_create
      · exact Descriptors.file_create
    have watches : forall fd, (if epollCtl = 0 then
        (state.files.create clientFd).watch state.epollfd clientFd else
        state.files.create clientFd).watches state.epollfd fd =
          (decide (epollCtl = 0 ∧ fd = clientFd) || state.files.watches state.epollfd fd) := by
      intro fd
      split
      next added => simp only [Descriptors.watches_watch, Descriptors.watches_create, added, true_and]
      next refused => simp only [Descriptors.watches_create, refused, false_and, decide_false, Bool.false_or]
    refine ⟨refines.clientInfo, refines.recvBuf, connected_step refines.connected (serverStep_change stepped),
      ?_, ⟨?_, ?_⟩, ?_, ⟨refines.buffer.allocated, refines.buffer.strayUses⟩, ?_⟩
    · intro conn member
      rcases List.mem_cons.mp member with rfl | old
      · exact ⟨notServer, notEpoll⟩
      · exact refines.apart conn old
    · intro fd
      rw [file]
      simp only [List.map_cons, List.mem_cons]
      split
      next same => exact iff_of_true rfl (Or.inr (Or.inr (Or.inl same)))
      next different =>
        rw [refines.files.isOpen, List.mem_cons, List.mem_cons, or_iff_right different]
    · split
      · exact refines.files.noStray
      · exact refines.files.noStray
    · intro fd
      rw [watches, Bool.or_eq_true, decide_eq_true_eq, refines.watched, or_left_comm]
      apply or_congr Iff.rfl
      constructor
      · rintro (⟨added, rfl⟩ | ⟨conn, member, sameFd, isWatched⟩)
        · exact ⟨_, List.mem_cons_self, rfl, beq_iff_eq.mpr added⟩
        · exact ⟨conn, List.mem_cons_of_mem _ member, sameFd, isWatched⟩
      · rintro ⟨conn, member, rfl, isWatched⟩
        rcases List.mem_cons.mp member with rfl | old
        · exact Or.inl ⟨beq_iff_eq.mp isWatched, rfl⟩
        · exact Or.inr ⟨conn, old, rfl, isWatched⟩
    · intro events at_
      refine (refines.batch events at_).frame rfl (fun other member => ?_)
      have different : other.fd ≠ clientFd := by
        intro same
        have isFile := ((refines.batch events at_).2 other member).2
        rw [same, unused] at isFile
        cases isFile
      rw [file, watches, if_neg different]
      exact ⟨rfl, by simp only [different, and_false, decide_false, Bool.false_or]⟩

/-- `MsgRouteServerHandleMsg` on a watched connection is an event of `server`. -/
theorem handleMsg (refines : LoopRefines state image) {clientFd : Int32} (result : RecvResult)
    (watched : state.files.watches state.epollfd clientFd = true) (notServer : clientFd ≠ state.serverfd)
    (once : forall events, state.pc = .handleEvent events -> clientFd ∉ events.map EpollEvent.fd)
    (holdsBuf : state.pc.holdsBuf = true) :
    Exists fun after => serverStep image (.recv clientFd result) = some after ∧
      LoopRefines (state.handleMsg clientFd result) after := by
  rcases ((refines.watched clientFd).mp watched).resolve_left notServer with ⟨some_, isConn, rfl, isWatched⟩
  rcases exists_watchedConnection isConn isWatched with ⟨conn, found⟩
  rcases watchedConnection_spec found with ⟨member, sameFd, _⟩
  have stepped : serverStep image (.recv some_.fd result) = some (image.receive conn result) :=
    congrArg (Option.map _) found
  refine ⟨_, stepped, ?_⟩
  have connected := connected_step refines.connected (serverStep_change stepped)
  rw [← sameFd] at once ⊢
  have open_ : (state.files.file conn.fd).isSome := by
    apply (refines.files.isOpen conn.fd).mpr
    exact List.mem_cons_of_mem _ (List.mem_cons_of_mem _ (List.mem_map_of_mem member))
  have buffer : (state.handleMsg conn.fd result).BufferOk := by
    refine ⟨refines.buffer.allocated, ?_⟩
    simp only [LoopState.handleMsg, refines.buffer.allocated, holdsBuf, if_true]
    exact refines.buffer.strayUses
  have sameResult : msgRouteServerHandleMsg image.clientInfo image.recvBuf conn.fd result =
      msgRouteServerHandleMsg state.clientInfo state.recvBuf conn.fd result := by
    rw [refines.clientInfo, refines.recvBuf]
  cases closed : (msgRouteServerHandleMsg state.clientInfo state.recvBuf conn.fd result).closed with
  | false =>
      have files : (state.handleMsg conn.fd result).files = state.files := by
        simp only [LoopState.handleMsg, closed, Bool.false_eq_true, if_false]
      have connections : (image.receive conn result).connections = image.connections := by
        simp only [ServerState.receive, sameResult, closed, Bool.false_eq_true, if_false]
      refine ⟨congrArg HandleResult.clientInfo sameResult, congrArg HandleResult.recvBuf sameResult,
        connected, ?_, ?_, ?_, buffer, ?_⟩
      · rw [connections]
        exact refines.apart
      · rw [files, connections]
        exact refines.files
      · rw [files, connections]
        exact refines.watched
      · intro events at_
        exact (refines.batch events at_).frame rfl (fun _ _ => by rw [files]; exact ⟨rfl, rfl⟩)
  | true =>
      have files : (state.handleMsg conn.fd result).files = state.files.close conn.fd := by
        simp only [LoopState.handleMsg, closed, if_true]
        exact Descriptors.close_unwatch open_
      have connections : (image.receive conn result).connections =
          image.connections.filter (fun other => other.fd != conn.fd) := by
        simp only [ServerState.receive, sameResult, closed, if_true]
      have notOwn := refines.apart conn member
      refine ⟨congrArg HandleResult.clientInfo sameResult, congrArg HandleResult.recvBuf sameResult,
        connected, ?_, ?_, ?_, buffer, ?_⟩
      · rw [connections]
        exact fun other old => refines.apart other (List.mem_filter.mp old).1
      · rw [files, connections]
        apply refines.files.remove ((refines.files.isOpen conn.fd).mp open_)
        intro other
        simp only [List.mem_cons, List.mem_map, List.mem_filter, bne_iff_ne]
        constructor
        · rintro (rfl | rfl | ⟨kept, ⟨old, different⟩, rfl⟩)
          · exact ⟨Or.inl rfl, notOwn.1.symm⟩
          · exact ⟨Or.inr (Or.inl rfl), notOwn.2.symm⟩
          · exact ⟨Or.inr (Or.inr ⟨kept, old, rfl⟩), different⟩
        · rintro ⟨rfl | rfl | ⟨kept, old, rfl⟩, different⟩
          · exact Or.inl rfl
          · exact Or.inr (Or.inl rfl)
          · exact Or.inr (Or.inr ⟨kept, ⟨old, different⟩, rfl⟩)
      · intro fd
        rw [files, connections, Descriptors.watches_close open_, Bool.and_eq_true, decide_eq_true_eq]
        change _ ∧ state.files.watches state.epollfd fd = true <-> fd = state.serverfd ∨ _
        rw [refines.watched]
        constructor
        · rintro ⟨⟨_, different⟩, isServer | ⟨kept, old, rfl, keeps⟩⟩
          · exact Or.inl isServer
          · exact Or.inr ⟨kept, List.mem_filter.mpr ⟨old, bne_iff_ne.mpr different⟩, rfl, keeps⟩
        · rintro (rfl | ⟨kept, old, rfl, keeps⟩)
          · exact ⟨⟨notOwn.2.symm, notOwn.1.symm⟩, Or.inl rfl⟩
          · rcases List.mem_filter.mp old with ⟨old, different⟩
            exact ⟨⟨notOwn.2.symm, bne_iff_ne.mp different⟩, Or.inr ⟨kept, old, rfl, keeps⟩⟩
      · intro events at_
        refine (refines.batch events at_).frame rfl (fun other waiting => ?_)
        have different : other.fd ≠ conn.fd :=
          fun same => once events at_ (same ▸ List.mem_map_of_mem waiting)
        rw [files, Descriptors.file_close, if_neg different, Descriptors.watches_close open_]
        exact ⟨rfl, by simp only [ne_eq, notOwn.2.symm, different, not_false_eq_true, and_self, decide_true,
          Bool.true_and]⟩

/-- A step of the loop is the event that it handles, if there is one. -/
theorem step (refines : LoopRefines state image) {label : LoopLabel}
    (taken : epollLoop.step state label = some next) :
    Exists fun after => server.run image (handledEvent state label) = some after ∧
      LoopRefines next after := by
  have one : forall {event : ServerEvent} {after : ServerState}, serverStep image event = some after ->
      server.run image [event] = some after :=
    fun stepped => (server.run_cons_iff image _ _ []).mpr ⟨_, stepped, rfl⟩
  cases loopStep_cases taken with
  | turns quiet turn =>
      rw [quiet]
      exact ⟨image, rfl, refines.turn turn⟩
  | @handles event rest outcome _ at_ done =>
      rcases refines.next_event at_ with ⟨later, once, watched, _⟩
      unfold msgRouteServerHandleEvent at done
      simp only [handledEvent, at_]
      split at done
      next isServer =>
        rw [if_pos isServer]
        rcases later.accept done with ⟨after, stepped, refinesNext⟩
        refine ⟨after, ?_, refinesNext⟩
        rw [← apply_ite (fun event => [event])]
        exact one stepped
      next notServer =>
        rw [if_neg notServer]
        split at done
        next epollIn =>
          cases done
          rw [if_pos epollIn]
          rcases later.handleMsg outcome.recv watched (fun same => notServer ⟨same, epollIn⟩)
            (by rintro events ⟨⟩; exact once) rfl with ⟨after, stepped, refinesNext⟩
          exact ⟨after, one stepped, refinesNext⟩
        next notReadable =>
          cases done
          rw [if_neg notReadable]
          exact ⟨image, rfl, later⟩

end LoopRefines

/-- Some state of `server` explains the state of the loop. -/
def Refined (state : LoopState) : Prop :=
  Exists fun image => LoopRefines state image

theorem refined_step (state : LoopState) (label : LoopLabel) (next : LoopState) (refined : Refined state)
    (taken : epollLoop.step state label = some next) : Refined next := by
  rcases refined with ⟨image, refines⟩
  rcases refines.step taken with ⟨after, _, refinesNext⟩
  exact ⟨after, refinesNext⟩

/-! ## Runs of the thread -/

section Runs

variable {F X : Type} {outcome : StartOutcome X} {jobListHead : DoublyLinkedListNode Addr}
  {manager : ManagerState F X}

/-- What a successful start leaves. -/
theorem initMsgRouteManager_started
    (returned : initMsgRouteManager outcome (.statics F X jobListHead) = some (0, manager)) :
    manager.serverfd = outcome.socket ∧ manager.epollfd = outcome.epollCreate ∧
    manager.opened = [outcome.socket, outcome.epollCreate] ∧
    manager.clientInfo = msgRouteClientInfoInit (fun _ => 0) := by
  unfold initMsgRouteManager at returned
  have ways := createMsgRouteServer_cases (F := F) outcome jobListHead
  generalize createMsgRouteServer outcome (ManagerState.statics F X jobListHead) = server at ways returned
  rcases server with ⟨code, server⟩
  rcases ways with ⟨nonzero, _, _⟩ | ⟨zero, created, isPool, isTable⟩
  · rw [if_pos nonzero] at returned
    cases returned
  · rw [if_neg (not_not.mpr zero)] at returned
    rcases Option.bind_eq_some_iff.mp returned with ⟨core, initialised, rest⟩
    rcases Option.map_eq_some_iff.mp initialised with ⟨⟨poolRet, pool⟩, called, isCore⟩
    by_cases poolFailed : poolRet ≠ 0
    · rw [if_pos poolFailed] at isCore
      subst isCore
      have code : (-1 : Int32) ≠ 0 := by decide
      simp only [if_pos code] at rest
      rcases Option.map_eq_some_iff.mp rest with ⟨final, _, same⟩
      exact absurd (Prod.ext_iff.mp same).1 code
    · rw [if_neg poolFailed] at isCore
      subst isCore
      simp only [ne_eq, not_true_eq_false, if_false] at rest
      split at rest
      next failed =>
        rcases Option.map_eq_some_iff.mp rest with ⟨final, _, same⟩
        exact absurd (Prod.ext_iff.mp same).1 failed
      next succeeded =>
        have started := Option.some.inj rest
        unfold startEpoll at started
        split at started
        next negative =>
          rw [(Prod.mk.inj started).1] at negative
          exact absurd negative (by decide)
        next =>
          dsimp only at started
          split at started
          · exact absurd (Prod.mk.inj started).1 (by decide)
          · have isManager := (Prod.mk.inj started).2
            rw [← isManager]
            refine ⟨created.serverfd, rfl, ?_, congrArg msgRouteClientInfoInit isTable⟩
            exact congrArg (fun opened => opened ++ [outcome.epollCreate]) created.opened

/-- The thread starts as `server` does. -/
theorem loopRefines_epollThread
    (returned : initMsgRouteManager outcome (.statics F X jobListHead) = some (0, manager))
    (recvBuf : Memory) :
    LoopRefines (manager.epollThread recvBuf) (serverInit (fun _ => 0) recvBuf) := by
  rcases initMsgRouteManager_started returned with ⟨serverfd, epollfd, opened, clientInfo⟩
  have files : (manager.epollThread recvBuf).files =
      ((Descriptors.empty.create outcome.socket).create outcome.epollCreate).watch outcome.epollCreate
        outcome.socket := by
    simp only [ManagerState.epollThread, serverfd, epollfd, opened, List.foldl_cons, List.foldl_nil]
  have isServerfd : (manager.epollThread recvBuf).serverfd = outcome.socket := serverfd
  have isEpollfd : (manager.epollThread recvBuf).epollfd = outcome.epollCreate := epollfd
  refine ⟨clientInfo.symm, rfl, connected_serverInit _ recvBuf, fun conn member => absurd member List.not_mem_nil,
    ?_, ?_, ⟨rfl, rfl⟩, by rintro events ⟨⟩⟩
  · rw [files, isServerfd, isEpollfd]
    have holds := (Descriptors.holds_empty.create outcome.socket).create outcome.epollCreate
    have swapped := holds.of_mem_iff
      (fun fd => (List.Perm.swap outcome.epollCreate outcome.socket []).mem_iff)
    exact ⟨swapped.isOpen, swapped.noStray⟩
  · intro fd
    rw [files, isServerfd, isEpollfd, Descriptors.watches_watch]
    simp only [Descriptors.watches_create, Descriptors.empty, Bool.or_false, true_and, decide_eq_true_eq]
    exact (or_iff_left (by rintro ⟨conn, member, _⟩; exact absurd member List.not_mem_nil)).symm

variable {recvBuf : Memory} {labels : List LoopLabel} {final : LoopState}

/-- The thread handles its events as `server` does, and each event of a batch is handled while its
descriptor still stands for the file on which it was found. -/
theorem epollThread_refines_server
    (returned : initMsgRouteManager outcome (.statics F X jobListHead) = some (0, manager))
    (ran : epollLoop.run (manager.epollThread recvBuf) labels = some final) :
    (Exists fun image => server.run (serverInit (fun _ => 0) recvBuf)
        (epollLoop.trace handledEvent (manager.epollThread recvBuf) labels) = some image ∧
      LoopRefines final image) ∧
    forall event rest, final.pc = .handleEvent (event :: rest) ->
      final.files.file event.fd = some event.file ∧
      final.files.watches final.epollfd event.fd = true := by
  rcases Machine.run_trace (fun refines taken => refines.step taken) (loopRefines_epollThread returned recvBuf)
    ran with ⟨image, ranImage, refines⟩
  refine ⟨⟨image, ranImage, refines⟩, fun event rest at_ => ?_⟩
  rcases refines.next_event at_ with ⟨_, _, watched, isFile⟩
  exact ⟨isFile, watched⟩

/-- A number is used again while its batch is handled: connection 7 ends, and the next connection
is accepted as 7 and cannot be registered. -/
def reuseInBatch : List LoopLabel :=
  [.malloc true,
    .epollWait (.ready [⟨5, true, 0⟩]), .event ⟨7, 0, .error⟩, .batchDone,
    .epollWait (.ready [⟨5, true, 0⟩]), .event ⟨8, 0, .error⟩, .batchDone,
    .epollWait (.ready [⟨7, true, 2⟩, ⟨5, true, 0⟩, ⟨8, true, 3⟩]),
    .event ⟨0, 0, .packet []⟩, .event ⟨7, -1, .error⟩]

/-- The run that reuses a number, with what is observed at its end. -/
theorem exists_reuseInBatch : Exists fun manager => Exists fun final =>
    initMsgRouteManager (socketOutcome 0 0 6 0) (.statics Unit Unit ⟨none, .jobListHead, .jobListHead⟩) =
      some (0, manager) ∧
    epollLoop.run (manager.epollThread (fun _ => 0)) reuseInBatch = some final ∧
    final.pc = .handleEvent [⟨8, true, 3⟩] ∧ final.files.file 7 = some 4 ∧ final.epollfd = 6 ∧
    final.files.watches 6 7 = false := by
  have observed : (initMsgRouteManager (socketOutcome 0 0 6 0)
      (.statics Unit Unit ⟨none, .jobListHead, .jobListHead⟩)).any (fun done => decide (done.1 = 0) &&
        (epollLoop.run (done.2.epollThread (fun _ => 0)) reuseInBatch).any (fun final =>
          decide (final.pc = .handleEvent [⟨8, true, 3⟩] ∧ final.files.file 7 = some 4 ∧
            final.epollfd = 6 ∧ final.files.watches 6 7 = false))) = true := by
    decide +kernel
  rcases (Option.any_eq_true _ _).mp observed with ⟨⟨ret, manager⟩, returned, holds⟩
  rcases (Bool.and_eq_true ..).mp holds with ⟨isRet, ranAny⟩
  rcases (Option.any_eq_true _ _).mp ranAny with ⟨final, ran, seen⟩
  cases of_decide_eq_true isRet
  exact ⟨manager, final, returned, ran, of_decide_eq_true seen⟩

/-- The event of connection 8 is handled on the connection it was found on. -/
theorem epollThread_refines_server_reuseInBatch : Exists fun manager : ManagerState Unit Unit =>
    Exists fun final =>
      epollLoop.run (manager.epollThread (fun _ => 0)) reuseInBatch = some final ∧
      final.files.file 7 = some 4 ∧ final.files.file 8 = some 3 ∧
      Exists fun image => server.run (serverInit (fun _ => 0) (fun _ => 0))
        (epollLoop.trace handledEvent (manager.epollThread (fun _ => 0)) reuseInBatch) = some image := by
  rcases exists_reuseInBatch with ⟨manager, final, returned, ran, at_, isFile, _⟩
  rcases epollThread_refines_server returned ran with ⟨⟨image, ranImage, _⟩, reported⟩
  exact ⟨manager, final, ran, isFile, (reported _ _ at_).1, image, ranImage⟩

end Runs

end MsgRoute
end V2x
