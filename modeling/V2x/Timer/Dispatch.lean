import V2x.Timer.Consistency
import V2x.Timer.Shutdown

namespace V2x
namespace Timer

open Foundations

/-!
# Callbacks of deleted timers

The handler thread works through a batch of events with a copy of the table that
it made before the first of them.  A timer that is deleted in the meantime keeps
its callback in the copy, and a timer that is created in the meantime may get
the descriptor of an event that has not been read.

The condition that excludes both is about two kinds of steps: the return of
`DeleteTimerEvent`, and the creation of a descriptor by `AddTimerEvent`.
-/

namespace HandlerPc

/-- The events whose descriptors the handler thread is going to read. -/
def unread : HandlerPc -> List Event
  | .lockTable events => events
  | .unlockTable batch | .read batch | .dispatch _ batch | .callback batch => batch.events
  | _ => []

/-- The timers whose callbacks the handler thread is going to start. -/
def pending : HandlerPc -> List (Option Nat)
  | .unlockTable batch | .read batch | .callback batch =>
      batch.events.map (fun event => batch.owner event.fd)
  | .dispatch event batch =>
      batch.owner event.fd :: batch.events.map (fun event => batch.owner event.fd)
  | _ => []

end HandlerPc

/-- The timer of a `DeleteTimerEvent` that is about to return. -/
def CallPc.returns : CallPc -> Option Nat
  | .returning (.deleted timer) => timer
  | _ => none

/-- What the next step of the handler thread does is right: it takes the
expirations of no other timer than the one whose event it handles, and it starts
no callback that was registered for another timer, or for one whose
`DeleteTimerEvent` has returned. -/
def System.HandlesOwn (system : System) : HandlerPc -> Prop
  | .read batch => forall event, event ∈ batch.events.head? ->
      forall timer, timer ∈ system.timer.fds.file event.fd ->
        0 < system.expirations timer -> timer = event.timer
  | .dispatch event batch => (batch.lookup system.timer.maxEventNum event.fd).isSome ->
      batch.owner event.fd = some event.timer ∧ event.timer ∉ system.deleted
  | _ => True

instance (system : System) : (pc : HandlerPc) -> Decidable (system.HandlesOwn pc)
  | .read batch => inferInstanceAs (Decidable (forall event, event ∈ batch.events.head? ->
      forall timer, timer ∈ system.timer.fds.file event.fd ->
        0 < system.expirations timer -> timer = event.timer))
  | .dispatch event batch =>
      inferInstanceAs (Decidable ((batch.lookup system.timer.maxEventNum event.fd).isSome ->
        batch.owner event.fd = some event.timer ∧ event.timer ∉ system.deleted))
  | .off | .test | .wait | .lockTable _ | .unlockTable _ | .callback _ => isTrue trivial

def HandlesOwnTimer (system : System) : SystemLabel -> Prop
  | .handler .advance => system.HandlesOwn system.handler
  | _ => True

instance (system : System) : (label : SystemLabel) -> Decidable (HandlesOwnTimer system label)
  | .handler .advance => inferInstanceAs (Decidable (system.HandlesOwn system.handler))
  | .handler (.wait _) | .begin _ _ | .advance _ | .create _ _ | .initialise _ _ | .expire _ =>
      isTrue trivial

/-- `DeleteTimerEvent` returns after the handler thread has started the
callbacks it copied for the timer, and `AddTimerEvent` gets no descriptor whose
event has still to be read. -/
def KeepsBatch (system : System) : SystemLabel -> Prop
  | .advance party => forall timer, timer ∈ (system.calls party).bind CallPc.returns ->
      some timer ∉ system.handler.pending
  | .create _ timerfdCreate => forall event, event ∈ system.handler.unread ->
      timerfdCreate ≠ some event.fd
  | _ => True

instance (system : System) : (label : SystemLabel) -> Decidable (KeepsBatch system label)
  | .advance party =>
      inferInstanceAs (Decidable (forall timer, timer ∈ (system.calls party).bind CallPc.returns ->
        some timer ∉ system.handler.pending))
  | .create _ timerfdCreate =>
      inferInstanceAs (Decidable (forall event, event ∈ system.handler.unread ->
        timerfdCreate ≠ some event.fd))
  | .begin _ _ | .initialise _ _ | .handler _ | .expire _ => isTrue trivial

/-- `InitTimerEventManage` and `DeinitTimerEventManage` are not called. -/
def TableCallsOnly : SystemLabel -> Prop
  | .begin _ request => request.isLifecycle = false
  | _ => True

instance : (label : SystemLabel) -> Decidable (TableCallsOnly label)
  | .begin _ request => inferInstanceAs (Decidable (request.isLifecycle = false))
  | .advance _ | .create _ _ | .initialise _ _ | .handler _ | .expire _ => isTrue trivial

/-! ## The invariant -/

/-- The descriptor that a call of `AddTimerEvent` has not put into the table. -/
def CallPc.spare (maxEventNum : Nat) : CallPc -> Option Int32
  | .unlockTable (.added (some (timerFd, i))) | .returning (.added (some (timerFd, i))) =>
      if i = maxEventNum then some timerFd else none
  | _ => none

/-- The timer that a call of `DeleteTimerEvent` has closed. -/
def CallPc.closed : CallPc -> Option Nat
  | .unlockTable (.deleted timer) | .returning (.deleted timer) => timer
  | _ => none

/-- The descriptor that a call of `DeleteTimerEvent` looks for. -/
def CallPc.target : CallPc -> Option Int32
  | .lockInit (.delete timerFd) | .testInit (.delete timerFd) | .lockTable (.delete timerFd) =>
      some timerFd
  | _ => none

/-- An open descriptor that is neither in the table nor that of the epoll set. -/
def TimerState.Spare (timer : TimerState) (fd : Int32) : Prop :=
  (timer.fds.file fd).isSome ∧ fd ≠ timer.epollfd ∧
    forall i, i < slotCount -> timer.timerFd i ≠ fd

/-- A descriptor in the events stands for the timer of its event, if it is open. -/
def Current (fds : Descriptors Int32) (events : List Event) : Prop :=
  forall event, event ∈ events -> 0 ≤ event.fd ∧
    forall timer, fds.file event.fd = some timer -> timer = event.timer

/-- A callback that was copied for an event is one of its timer, which has not
been deleted. -/
def Fresh (deleted : List Nat) (batch : Batch) (events : List Event) : Prop :=
  forall event, event ∈ events -> 0 ≤ event.fd ∧
    forall timer, batch.owner event.fd = some timer -> timer = event.timer ∧ timer ∉ deleted

/-- The copied table has the descriptors of open timers only. -/
def Batch.Copied (batch : Batch) : Prop :=
  forall i, i < slotCount -> 0 ≤ (batch.table i).timerFd ->
    (batch.owner (batch.table i).timerFd).isSome

def HandlerOk (fds : Descriptors Int32) (deleted : List Nat) : HandlerPc -> Prop
  | .off | .test | .wait => True
  | .lockTable events => Current fds events
  | .unlockTable batch | .read batch | .callback batch =>
      Current fds batch.events ∧ Fresh deleted batch batch.events ∧ batch.Copied
  | .dispatch event batch =>
      Current fds batch.events ∧ Fresh deleted batch (event :: batch.events) ∧ batch.Copied

structure CallOk (timer : TimerState) (pc : CallPc) : Prop where
  tableCall : pc.isLifecycle = false
  target : forall fd, pc.target = some fd -> 0 ≤ fd
  spare : forall fd, pc.spare timer.maxEventNum = some fd -> timer.Spare fd
  closed : forall number, pc.closed = some number -> timer.fds.Gone number

/-- The spare descriptor of a party. -/
def System.spareOf (system : System) (party : Party) : Option Int32 :=
  (system.calls party).bind (CallPc.spare system.timer.maxEventNum)

structure DispatchInv (system : System) : Prop where
  numbered : system.timer.fds.WellNumbered
  nonnegative : forall fd, (system.timer.fds.file fd).isSome -> 0 ≤ fd
  slots : SlotInv system.timer
  epoll : (system.timer.fds.file system.timer.epollfd).isSome
  calls : forall party pc, system.calls party = some pc -> CallOk system.timer pc
  spares : forall party other fd, system.spareOf party = some fd -> system.spareOf other = some fd ->
    party = other
  deleted : forall number, number ∈ system.deleted -> system.timer.fds.Gone number
  handler : HandlerOk system.timer.fds system.deleted system.handler

/-! ## The handler is right -/

theorem lookup_owner {batch : Batch} {maxEventNum : Nat} {fd : Int32} (copied : batch.Copied)
    (bound : maxEventNum ≤ slotCount) (nonnegative : 0 ≤ fd)
    (found : (batch.lookup maxEventNum fd).isSome) : (batch.owner fd).isSome := by
  unfold Batch.lookup at found
  cases search : (List.range maxEventNum).find? (fun j => decide ((batch.table j).timerFd = fd)) with
  | none =>
      rw [search] at found
      cases found
  | some j =>
      have holds := List.find?_some search
      have isFd : (batch.table j).timerFd = fd := of_decide_eq_true holds
      have inside : j < maxEventNum := List.mem_range.mp (List.mem_of_find?_eq_some search)
      have isOpen := copied j (Nat.lt_of_lt_of_le inside bound) (isFd ▸ nonnegative)
      exact isFd ▸ isOpen

theorem DispatchInv.handlesOwnTimer {system : System} (inv : DispatchInv system)
    (label : SystemLabel) : HandlesOwnTimer system label := by
  unfold HandlesOwnTimer
  split
  · have ok := inv.handler
    cases isPc : system.handler with
    | off | test | wait | lockTable | unlockTable | callback => trivial
    | read batch =>
        rw [isPc] at ok
        intro event isHead timer isFile _
        exact (ok.1 event (List.mem_of_mem_head? isHead)).2 timer isFile
    | dispatch event batch =>
        rw [isPc] at ok
        intro found
        have eventOk := ok.2.1 event List.mem_cons_self
        have owned := lookup_owner ok.2.2 inv.slots.bound eventOk.1 found
        rcases Option.isSome_iff_exists.mp owned with ⟨timer, isOwner⟩
        rcases eventOk.2 timer isOwner with ⟨rfl, notDeleted⟩
        exact ⟨isOwner, notDeleted⟩
  · trivial

/-! ## The steps of a call -/

theorem Current.moves {fds fds' : Descriptors Int32} {new : Option Int32} {events : List Event}
    (current : Current fds events) (moves : fds.Moves fds' new)
    (notNew : forall event, event ∈ events -> new ≠ some event.fd) : Current fds' events := by
  intro event member
  refine ⟨(current event member).1, fun timer isFile => ?_⟩
  rcases moves.files event.fd timer isFile with wasFile | ⟨isNew, _⟩
  · exact (current event member).2 timer wasFile
  · exact absurd isNew (notNew event member)

theorem Fresh.deletes {deleted deleted' : List Nat} {batch : Batch} {events : List Event}
    (fresh : Fresh deleted batch events)
    (notPending : forall number, number ∈ deleted' -> number ∈ deleted ∨
      some number ∉ events.map (fun event => batch.owner event.fd)) : Fresh deleted' batch events := by
  intro event member
  refine ⟨(fresh event member).1, fun timer isOwner => ?_⟩
  refine ⟨((fresh event member).2 timer isOwner).1, fun isDeleted => ?_⟩
  rcases notPending timer isDeleted with wasDeleted | notPending
  · exact ((fresh event member).2 timer isOwner).2 wasDeleted
  · exact notPending (isOwner ▸ List.mem_map_of_mem member)

/-- What a step of a call may do to the batch of the handler thread. -/
theorem HandlerOk.moves {fds fds' : Descriptors Int32} {new : Option Int32}
    {deleted deleted' : List Nat} {pc : HandlerPc} (ok : HandlerOk fds deleted pc)
    (moves : fds.Moves fds' new) (notNew : forall event, event ∈ pc.unread -> new ≠ some event.fd)
    (notPending : forall number, number ∈ deleted' -> number ∈ deleted ∨
      some number ∉ pc.pending) : HandlerOk fds' deleted' pc := by
  cases pc with
  | off | test | wait => trivial
  | lockTable events => exact Current.moves ok moves notNew
  | unlockTable batch | read batch | callback batch =>
      exact ⟨ok.1.moves moves notNew, ok.2.1.deletes notPending, ok.2.2⟩
  | dispatch event batch => exact ⟨ok.1.moves moves notNew, ok.2.1.deletes notPending, ok.2.2⟩

/-- What a step of a call leaves behind, as far as the invariant sees it. -/
structure CallLeaves (system next : System) (party : Party) (pc' : Option CallPc)
    (timer : TimerState) (deleted : List Nat) : Prop where
  calls : next.calls = Function.update system.calls party pc'
  handler : next.handler = system.handler
  timer : next.timer = timer
  deleted : next.deleted = deleted

section Calls

variable {system next : System} {party : Party} {pc' : Option CallPc} {timer : TimerState}
  {deleted : List Nat}

theorem takeInit_leaves {pc : CallPc} (done : takeInit system party pc = some next) :
    CallLeaves system next party (some pc) system.timer system.deleted := by
  unfold takeInit at done
  split at done
  · cases done
    exact ⟨rfl, rfl, rfl, rfl⟩
  · cases done

theorem takeTable_leaves {pc : CallPc} (done : takeTable system party timer pc = some next) :
    CallLeaves system next party (some pc) timer system.deleted := by
  unfold takeTable at done
  split at done
  · cases done
    exact ⟨rfl, rfl, rfl, rfl⟩
  · cases done

theorem spareOf_eq {pc : CallPc} (isPc : system.calls party = some pc) :
    system.spareOf party = pc.spare system.timer.maxEventNum := by
  rw [System.spareOf, isPc, Option.bind_some]

theorem DispatchInv.spareOf (inv : DispatchInv system) {fd : Int32}
    (isSpare : system.spareOf party = some fd) : system.timer.Spare fd := by
  rcases Option.bind_eq_some_iff.mp isSpare with ⟨pc, isPc, spare⟩
  exact (inv.calls party pc isPc).spare fd spare

/-- A step of a call that keeps its part of the invariant keeps the rest. -/
theorem DispatchInv.called {new : Option Int32} (inv : DispatchInv system)
    (leaves : CallLeaves system next party pc' timer deleted)
    (maxEventNum : timer.maxEventNum = system.timer.maxEventNum)
    (moves : system.timer.fds.Moves timer.fds new) (newNonnegative : forall fd, new = some fd -> 0 ≤ fd)
    (slots : SlotInv timer) (epoll : (timer.fds.file timer.epollfd).isSome)
    (others : forall other fd, other ≠ party -> system.spareOf other = some fd -> timer.Spare fd)
    (own : forall pc, pc' = some pc -> CallOk timer pc)
    (ownSpare : forall other fd, other ≠ party ->
      pc'.bind (CallPc.spare system.timer.maxEventNum) = some fd -> system.spareOf other ≠ some fd)
    (isDeleted : forall number, number ∈ deleted -> number ∈ system.deleted ∨
      timer.fds.Gone number ∧ some number ∉ system.handler.pending)
    (notNew : forall event, event ∈ system.handler.unread -> new ≠ some event.fd) :
    DispatchInv next := by
  rcases leaves with ⟨calls, handler, rfl, rfl⟩
  have otherPc : forall other, other ≠ party -> next.calls other = system.calls other :=
    fun other different => by rw [calls, Function.update_of_ne different]
  have otherSpare : forall other, other ≠ party -> next.spareOf other = system.spareOf other :=
    fun other different => by
      rw [System.spareOf, System.spareOf, otherPc other different, maxEventNum]
  have partySpare : next.spareOf party = pc'.bind (CallPc.spare system.timer.maxEventNum) := by
    rw [System.spareOf, calls, Function.update_self, maxEventNum]
  refine ⟨moves.wellNumbered inv.numbered, ?_, slots, epoll, ?_, ?_, ?_, ?_⟩
  · intro fd isOpen
    rcases Option.isSome_iff_exists.mp isOpen with ⟨number, isFile⟩
    rcases moves.files fd number isFile with wasFile | ⟨isNew, _⟩
    · apply inv.nonnegative
      rw [wasFile]
      rfl
    · exact newNonnegative fd isNew
  · intro other pc isPc
    by_cases same : other = party
    · rw [same, calls, Function.update_self] at isPc
      exact own pc isPc
    · have wasPc := isPc
      rw [otherPc other same] at wasPc
      have ok := inv.calls other pc wasPc
      refine ⟨ok.tableCall, ok.target, fun fd isSpare => ?_, fun number isClosed => ?_⟩
      · apply others other fd same
        rw [spareOf_eq wasPc, ← maxEventNum]
        exact isSpare
      · exact moves.gone (ok.closed number isClosed)
  · intro first second fd firstSpare secondSpare
    by_cases isFirst : first = party
    · by_cases isSecond : second = party
      · rw [isFirst, isSecond]
      · rw [isFirst, partySpare] at firstSpare
        rw [otherSpare second isSecond] at secondSpare
        exact absurd secondSpare (ownSpare second fd isSecond firstSpare)
    · rw [otherSpare first isFirst] at firstSpare
      by_cases isSecond : second = party
      · rw [isSecond, partySpare] at secondSpare
        exact absurd firstSpare (ownSpare first fd isFirst secondSpare)
      · rw [otherSpare second isSecond] at secondSpare
        exact inv.spares first second fd firstSpare secondSpare
  · intro number member
    rcases isDeleted number member with wasDeleted | ⟨gone, _⟩
    · exact moves.gone (inv.deleted number wasDeleted)
    · exact gone
  · rw [handler]
    exact inv.handler.moves moves notNew fun number member =>
      (isDeleted number member).imp_right And.right

/-- A step of a call that changes no timer. -/
theorem DispatchInv.quiet (inv : DispatchInv system)
    (leaves : CallLeaves system next party pc' system.timer deleted)
    (own : forall pc, pc' = some pc -> CallOk system.timer pc)
    (ownSpare : forall fd, pc'.bind (CallPc.spare system.timer.maxEventNum) = some fd ->
      system.spareOf party = some fd)
    (isDeleted : forall number, number ∈ deleted -> number ∈ system.deleted ∨
      system.timer.fds.Gone number ∧ some number ∉ system.handler.pending) :
    DispatchInv next := by
  apply inv.called leaves rfl (Descriptors.moves_refl _) (by simp) inv.slots inv.epoll
  · exact fun other fd _ isSpare => inv.spareOf isSpare
  · exact own
  · intro other fd different isSpare otherSpare
    exact different (inv.spares other party fd otherSpare (ownSpare fd isSpare))
  · exact isDeleted
  · intro event _ isNew
    cases isNew

/-- A point of a call that has done nothing to the table. -/
structure CallPc.IsPlain (pc : CallPc) : Prop where
  tableCall : pc.isLifecycle = false
  target : forall fd, pc.target = some fd -> 0 ≤ fd
  noSpare : forall maxEventNum, pc.spare maxEventNum = none
  notClosed : pc.closed = none

theorem CallPc.IsPlain.callOk {pc : CallPc} (isPlain : pc.IsPlain) : CallOk timer pc where
  tableCall := isPlain.tableCall
  target := isPlain.target
  spare := by
    intro fd isSpare
    rw [isPlain.noSpare] at isSpare
    cases isSpare
  closed := by
    intro number isClosed
    rw [isPlain.notClosed] at isClosed
    cases isClosed

theorem DispatchInv.plain (inv : DispatchInv system)
    (leaves : CallLeaves system next party pc' system.timer system.deleted)
    (isPlain : forall pc, pc' = some pc -> pc.IsPlain) : DispatchInv next := by
  apply inv.quiet leaves
  · exact fun pc isPc => (isPlain pc isPc).callOk
  · intro fd isSpare
    rcases Option.bind_eq_some_iff.mp isSpare with ⟨pc, isPc, spare⟩
    rw [(isPlain pc isPc).noSpare] at spare
    cases spare
  · exact fun number member => Or.inl member

/-- `DeleteTimerEvent` under `g_eventInfoMutex`. -/
theorem DispatchInv.deletes {timerFd : Int32} (inv : DispatchInv system)
    (nonnegative : 0 ≤ timerFd)
    (done : takeTable system party (deleteTimerEventLocked system.timer timerFd)
      (.unlockTable (.deleted (foundTimer system.timer timerFd))) = some next) :
    DispatchInv next := by
  have leaves := takeTable_leaves done
  unfold deleteTimerEventLocked foundTimer at leaves
  simp only at leaves
  split at leaves
  next found =>
    have inside := Nat.lt_of_lt_of_le found inv.slots.bound
    have isSlot := TimerState.findSlot_found found
    have used : system.timer.timerFd (system.timer.findSlot timerFd) ≠ -1 := by
      rw [isSlot]
      rintro rfl
      exact absurd nonnegative (by decide)
    have moves : system.timer.fds.Moves
        (system.timer.release (system.timer.findSlot timerFd)).fds none := by
      have closes := Descriptors.moves_close (system.timer.fds.unwatch system.timer.epollfd
        (system.timer.timerFd (system.timer.findSlot timerFd)))
        (system.timer.timerFd (system.timer.findSlot timerFd))
      exact ⟨closes.files, closes.created, closes.counted⟩
    apply inv.called leaves rfl moves (by simp) (inv.slots.release inside used)
    · change ((system.timer.release (system.timer.findSlot timerFd)).fds.file
        system.timer.epollfd).isSome
      rw [file_release, if_neg (inv.slots.apart _ inside used).symm]
      exact inv.epoll
    · intro other fd _ isSpare
      rcases inv.spareOf isSpare with ⟨isOpen, notEpoll, noSlot⟩
      refine ⟨?_, notEpoll, fun j jInside holds => ?_⟩
      · rw [file_release, if_neg (noSlot _ inside).symm]
        exact isOpen
      · rw [timerFd_release] at holds
        split at holds
        · have isNonnegative := inv.nonnegative fd isOpen
          rw [← holds] at isNonnegative
          exact absurd isNonnegative (by decide)
        · exact noSlot j jInside holds
    · intro pc isPc
      cases isPc
      refine ⟨rfl, by simp [CallPc.target], by simp [CallPc.spare], fun number isClosed => ?_⟩
      have isFile : system.timer.fds.file timerFd = some number := isClosed
      have unwatched : (system.timer.fds.unwatch system.timer.epollfd timerFd).WellNumbered :=
        ⟨inv.numbered.below, inv.numbered.injective⟩
      have gone := Descriptors.gone_close unwatched isFile
      rw [TimerState.release, isSlot]
      exact gone
    · intro other fd _ isSpare
      cases isSpare
    · exact fun number member => Or.inl member
    · intro event _ isNew
      cases isNew
  next =>
    apply inv.plain leaves
    rintro pc ⟨⟩
    exact ⟨rfl, by simp [CallPc.target], fun _ => rfl, rfl⟩

theorem TimerState.Spare.slotInv {fd : Int32} (spare : timer.Spare fd) (slots : SlotInv timer) :
    SlotInv { timer with fds := timer.fds.close fd } where
  bound := slots.bound
  regular := slots.regular
  below := slots.below
  distinct := slots.distinct
  callbacks := slots.callbacks
  opened := by
    intro i inside used
    change ((timer.fds.close fd).file (timer.timerFd i)).isSome
    rw [Descriptors.file_close, if_neg (spare.2.2 i inside)]
    exact slots.opened i inside used
  apart := slots.apart
  watched := by
    intro watcher watched isWatched
    rw [Descriptors.watches_close spare.1, Bool.and_eq_true] at isWatched
    exact slots.watched watcher watched isWatched.2

/-- The end of `AddTimerEvent`, which closes a timer that has no slot. -/
theorem DispatchInv.added {result : Option (Int32 × Nat)} (inv : DispatchInv system)
    (isPc : system.calls party = some (.returning (.added result))) :
    DispatchInv (finishCall system party (.added result)) := by
  have noPc : forall pc, (none : Option CallPc) = some pc -> pc.IsPlain := by simp
  cases result with
  | none => exact inv.plain ⟨rfl, rfl, rfl, rfl⟩ noPc
  | some found =>
      rcases found with ⟨timerFd, i⟩
      have leaves : CallLeaves system (finishCall system party (.added (some (timerFd, i)))) party
          none (addTimerEventUnlocked system.timer timerFd i).2 system.deleted :=
        ⟨rfl, rfl, rfl, rfl⟩
      unfold addTimerEventUnlocked at leaves
      split at leaves
      next noSlot =>
        have isSpare : system.spareOf party = some timerFd := by
          rw [spareOf_eq isPc, noSlot]
          exact if_pos rfl
        have spare := inv.spareOf isSpare
        apply inv.called leaves rfl (Descriptors.moves_close _ _) (by simp)
          (spare.slotInv inv.slots)
        · change ((system.timer.fds.close timerFd).file system.timer.epollfd).isSome
          rw [Descriptors.file_close, if_neg spare.2.1.symm]
          exact inv.epoll
        · intro other fd different otherSpare
          rcases inv.spareOf otherSpare with ⟨isOpen, notEpoll, notSlot⟩
          refine ⟨?_, notEpoll, notSlot⟩
          change ((system.timer.fds.close timerFd).file fd).isSome
          rw [Descriptors.file_close, if_neg]
          · exact isOpen
          · rintro rfl
            exact different (inv.spares other party fd otherSpare isSpare)
        · simp
        · simp
        · exact fun number member => Or.inl member
        · intro event _ isNew
          cases isNew
      next => exact inv.plain leaves noPc

/-- `AddTimerEvent` under `g_eventInfoMutex`. -/
theorem DispatchInv.creates {timerfdCreate : Option Int32} {cb : TimerEventProcCb}
    (inv : DispatchInv system) (canCreate : timerfdCreate.all system.timer.canCreate = true)
    (notUnread : forall event, event ∈ system.handler.unread -> timerfdCreate ≠ some event.fd)
    (done : takeTable system party (addTimerEventLocked system.timer cb timerfdCreate).2
      (.unlockTable (.added (addTimerEventLocked system.timer cb timerfdCreate).1)) = some next) :
    DispatchInv next := by
  have leaves := takeTable_leaves done
  cases timerfdCreate with
  | none =>
      apply inv.plain leaves
      rintro pc ⟨⟩
      exact ⟨rfl, by simp [CallPc.target], fun _ => rfl, rfl⟩
  | some timerFd =>
      rw [Option.all_some, TimerState.canCreate, Bool.and_eq_true, decide_eq_true_eq] at canCreate
      have nonnegative := canCreate.1
      have unused := Option.isNone_iff_eq_none.mp canCreate.2
      have isOld : forall fd, (system.timer.fds.file fd).isSome -> fd ≠ timerFd := by
        rintro fd isOpen rfl
        rw [unused] at isOpen
        cases isOpen
      have notEpoll := (isOld _ inv.epoll).symm
      have notNone : timerFd ≠ -1 := by
        rintro rfl
        exact absurd nonnegative (by decide)
      have keepsOpen : forall fd, (system.timer.fds.file fd).isSome ->
          ((system.timer.fds.create timerFd).file fd).isSome := by
        intro fd isOpen
        rw [Descriptors.file_create, if_neg (isOld fd isOpen)]
        exact isOpen
      have notSlot : forall j, j < slotCount -> system.timer.timerFd j ≠ timerFd := by
        intro j inside same
        have used : system.timer.timerFd j ≠ -1 := same ▸ notNone
        exact isOld _ (inv.slots.opened j inside used) same
      have moves := Descriptors.moves_create system.timer.fds timerFd
      by_cases hasRoom : system.timer.findSlot (-1) < system.timer.maxEventNum
      · rw [addTimerEventLocked_fill hasRoom] at leaves
        have isFree := TimerState.findSlot_found hasRoom
        have inside := Nat.lt_of_lt_of_le hasRoom inv.slots.bound
        have filled : SlotInv (system.timer.fill (system.timer.findSlot (-1)) timerFd cb) :=
          inv.slots.fill hasRoom isFree nonnegative unused notEpoll
        have slotIs : (system.timer.fill (system.timer.findSlot (-1)) timerFd cb).timerFd
            (system.timer.findSlot (-1)) = timerFd := by
          rw [timerFd_fill, if_pos rfl]
        have slots := filled.watch inside (by rw [slotIs]; exact notNone)
        rw [slotIs] at slots
        apply inv.called leaves rfl ⟨moves.files, moves.created, moves.counted⟩ ?_ slots
          (keepsOpen _ inv.epoll) ?_ ?_ ?_ (fun number member => Or.inl member) notUnread
        · rintro fd ⟨⟩
          exact nonnegative
        · intro other fd _ otherSpare
          rcases inv.spareOf otherSpare with ⟨isOpen, isNotEpoll, noSlot⟩
          refine ⟨keepsOpen fd isOpen, isNotEpoll, fun j jInside holds => ?_⟩
          have shape : (if j = system.timer.findSlot (-1) then timerFd
              else system.timer.timerFd j) = fd := by
            have filledIs : (system.timer.fill (system.timer.findSlot (-1)) timerFd cb).timerFd j =
                fd := holds
            rwa [timerFd_fill] at filledIs
          split at shape
          · exact isOld fd isOpen shape.symm
          · exact noSlot j jInside shape
        · rintro pc ⟨⟩
          refine ⟨rfl, by simp [CallPc.target], ?_, by simp [CallPc.closed]⟩
          intro fd isSpare
          have noSpare : (if system.timer.findSlot (-1) = system.timer.maxEventNum then some timerFd
              else none) = some fd := isSpare
          rw [if_neg (Nat.ne_of_lt hasRoom)] at noSpare
          cases noSpare
        · intro other fd _ isSpare
          have noSpare : (if system.timer.findSlot (-1) = system.timer.maxEventNum then some timerFd
              else none) = some fd := isSpare
          rw [if_neg (Nat.ne_of_lt hasRoom)] at noSpare
          cases noSpare
      · rw [addTimerEventLocked_full hasRoom] at leaves
        have newSpare : TimerState.Spare { system.timer with
            fds := system.timer.fds.create timerFd } timerFd := by
          refine ⟨?_, notEpoll, notSlot⟩
          rw [Descriptors.file_create, if_pos rfl]
          rfl
        have isSpare : forall fd, (if system.timer.findSlot (-1) = system.timer.maxEventNum then
            some timerFd else none) = some fd -> timerFd = fd := by
          intro fd same
          split at same
          · exact Option.some.inj same
          · cases same
        apply inv.called leaves rfl moves ?_ ?_ (keepsOpen _ inv.epoll) ?_ ?_ ?_
          (fun number member => Or.inl member) notUnread
        · rintro fd ⟨⟩
          exact nonnegative
        · exact ⟨inv.slots.bound, inv.slots.regular, inv.slots.below, inv.slots.distinct,
            inv.slots.callbacks, fun j inside used => keepsOpen _ (inv.slots.opened j inside used),
            inv.slots.apart, inv.slots.watched⟩
        · intro other fd _ otherSpare
          rcases inv.spareOf otherSpare with ⟨isOpen, isNotEpoll, noSlot⟩
          exact ⟨keepsOpen fd isOpen, isNotEpoll, noSlot⟩
        · rintro pc ⟨⟩
          refine ⟨rfl, by simp [CallPc.target], ?_, by simp [CallPc.closed]⟩
          intro fd holds
          exact isSpare fd holds ▸ newSpare
        · intro other fd _ partySpare otherSpare
          exact isOld fd (inv.spareOf otherSpare).1 (isSpare fd partySpare).symm

theorem DispatchInv.advanced {pc : CallPc} (inv : DispatchInv system)
    (isPc : system.calls party = some pc) (keeps : KeepsBatch system (.advance party))
    (done : advanceCall system party pc = some next) : DispatchInv next := by
  have ok := inv.calls party pc isPc
  cases pc with
  | lockInit locked =>
      apply inv.plain (takeInit_leaves done)
      rintro pc ⟨⟩
      refine ⟨rfl, ?_, fun _ => rfl, rfl⟩
      cases locked with
      | add cb => simp [CallPc.target]
      | delete timerFd => exact ok.target
  | testInit locked =>
      have leaves : CallLeaves system next party
          (if system.timer.isInit then some (.lockTable locked) else none) system.timer
          system.deleted := by
        cases done
        exact ⟨rfl, rfl, rfl, rfl⟩
      apply inv.plain leaves
      intro pc isNext
      split at isNext
      · cases isNext
        refine ⟨rfl, ?_, fun _ => rfl, rfl⟩
        cases locked with
        | add cb => simp [CallPc.target]
        | delete timerFd => exact ok.target
      · cases isNext
  | lockTable locked =>
      cases locked with
      | add cb => cases done
      | delete timerFd => exact inv.deletes (ok.target timerFd rfl) done
  | unlockTable result =>
      have spareIs : forall maxEventNum, CallPc.spare maxEventNum (.returning result) =
          CallPc.spare maxEventNum (.unlockTable result) := by
        intro maxEventNum
        rcases result with (none | found) | timer <;> rfl
      have closedIs : CallPc.closed (.returning result) = CallPc.closed (.unlockTable result) := by
        cases result <;> rfl
      have leaves : CallLeaves system next party (some (.returning result)) system.timer
          system.deleted := by
        cases done
        exact ⟨rfl, rfl, rfl, rfl⟩
      apply inv.quiet leaves
      · rintro pc ⟨⟩
        refine ⟨rfl, by simp [CallPc.target], ?_, ?_⟩
        · rw [spareIs]
          exact ok.spare
        · rw [closedIs]
          exact ok.closed
      · intro fd isSpare
        rw [Option.bind_some, spareIs] at isSpare
        rw [spareOf_eq isPc]
        exact isSpare
      · exact fun number member => Or.inl member
  | returning result =>
      cases done
      cases result with
      | added result => exact inv.added isPc
      | deleted timer =>
          have leaves : CallLeaves system (finishCall system party (.deleted timer)) party none
              system.timer (timer.toList ++ system.deleted) := ⟨rfl, rfl, rfl, rfl⟩
          apply inv.quiet leaves (by simp) (by simp)
          intro number member
          rcases List.mem_append.mp member with isTimer | wasDeleted
          · have isReturning : timer = some number := Option.mem_toList.mp isTimer
            rw [isReturning] at isPc ok
            have returns : number ∈ (system.calls party).bind CallPc.returns := by
              rw [isPc]
              rfl
            exact Or.inr ⟨ok.closed number rfl, keeps number returns⟩
          · exact Or.inl wasDeleted
  | deinitLock | deinitTest | deinitJoin | deinitLockTable | deinitUnlock | initLock | initBody =>
      cases ok.tableCall

theorem DispatchInv.created {pc : CallPc} {timerfdCreate : Option Int32} (inv : DispatchInv system)
    (keeps : KeepsBatch system (.create party timerfdCreate))
    (done : createStep system party timerfdCreate pc = some next) : DispatchInv next := by
  unfold createStep at done
  split at done
  · split at done
    next canCreate => exact inv.creates canCreate keeps done
    next => cases done
  · cases done

end Calls

/-! ## The other steps -/

section Others

variable {system next : System}

theorem DispatchInv.expirations (inv : DispatchInv system) (expirations : Nat -> Nat) :
    DispatchInv { system with expirations := expirations } :=
  ⟨inv.numbered, inv.nonnegative, inv.slots, inv.epoll, inv.calls, inv.spares, inv.deleted,
    inv.handler⟩

theorem DispatchInv.begun {party : Party} {request : Request} (inv : DispatchInv system)
    (tableCall : request.isLifecycle = false) : DispatchInv (beginCall system party request) := by
  have started : forall call : TableCall, (forall fd, call = .delete fd -> 0 ≤ fd) ->
      DispatchInv (system.setCall party (some (.lockInit call))) := by
    intro call nonnegative
    have leaves : CallLeaves system (system.setCall party (some (.lockInit call))) party
        (some (.lockInit call)) system.timer system.deleted := ⟨rfl, rfl, rfl, rfl⟩
    apply inv.plain leaves
    rintro pc ⟨⟩
    refine ⟨rfl, ?_, fun _ => rfl, rfl⟩
    cases call with
    | add cb => simp [CallPc.target]
    | delete timerFd =>
        rintro fd ⟨⟩
        exact nonnegative _ rfl
  cases request with
  | add cb =>
      cases cb with
      | none => exact inv
      | some cb => exact started (.add cb) (by simp)
  | delete timerFd =>
      simp only [beginCall]
      split
      · exact inv
      next nonnegative =>
        apply started
        rintro fd ⟨⟩
        exact Int32.not_lt.mp nonnegative
  | set timerFd startTime period =>
      simp only [beginCall, System.settime]
      split
      · exact inv
      · split
        · exact inv.expirations _
        · exact inv
  | init maxEventNum => cases tableCall
  | deinit => cases tableCall

/-- A step of the handler thread changes neither the timers nor the calls. -/
theorem DispatchInv.handled (inv : DispatchInv system) {handler : HandlerPc}
    {expirations : Nat -> Nat} {tableMutex : Option Party}
    (ok : HandlerOk system.timer.fds system.deleted handler) :
    DispatchInv { system with
      handler := handler, expirations := expirations, tableMutex := tableMutex } :=
  ⟨inv.numbered, inv.nonnegative, inv.slots, inv.epoll, inv.calls, inv.spares, inv.deleted, ok⟩

theorem current_of_ready (nonnegative : forall fd, (system.timer.fds.file fd).isSome -> 0 ≤ fd)
    {events : List Event} (ready : events.all system.ready = true) :
    Current system.timer.fds events := by
  intro event member
  have isReady := List.all_eq_true.mp ready event member
  simp only [System.ready, Bool.and_eq_true, decide_eq_true_eq] at isReady
  have isFile := isReady.1.2
  refine ⟨nonnegative event.fd (by rw [isFile]; rfl), fun timer isTimer => ?_⟩
  rw [isFile] at isTimer
  exact (Option.some.inj isTimer).symm

/-- The copy is made of open timers, and no open timer has been deleted. -/
theorem DispatchInv.copies (inv : DispatchInv system) {events : List Event}
    (current : Current system.timer.fds events) :
    Fresh system.deleted ⟨system.timer.eventInfo, system.timer.fds.file, 0, events⟩ events ∧
      Batch.Copied ⟨system.timer.eventInfo, system.timer.fds.file, 0, events⟩ := by
  constructor
  · intro event member
    refine ⟨(current event member).1, fun timer isOwner => ?_⟩
    refine ⟨(current event member).2 timer isOwner, fun isDeleted => ?_⟩
    exact (inv.deleted timer isDeleted).2 event.fd isOwner
  · intro i inside nonnegative
    apply inv.slots.opened i inside
    intro isNone
    have slotIs : (system.timer.eventInfo i).timerFd = -1 := isNone
    rw [slotIs] at nonnegative
    exact absurd nonnegative (by decide)

theorem DispatchInv.handlerStep {label : HandlerLabel} (inv : DispatchInv system)
    (done : Timer.handlerStep system label = some next) : DispatchInv next := by
  have ok := inv.handler
  unfold Timer.handlerStep at done
  cases label with
  | wait result =>
      simp only at done
      split at done
      · cases result with
        | failed =>
            cases done
            exact inv.handled trivial
        | interrupted =>
            cases done
            exact inv.handled trivial
        | ready events =>
            simp only at done
            split at done
            next possible =>
              cases done
              have isOk : HandlerOk system.timer.fds system.deleted (.lockTable events) :=
                current_of_ready inv.nonnegative possible.2.2
              exact inv.handled isOk
            next => cases done
      · cases done
  | advance =>
      simp only at done
      split at done
      next =>
        cases done
        apply inv.handled
        cases system.timer.isRunning <;> trivial
      next events isPc =>
        split at done
        next =>
          cases done
          rw [isPc] at ok
          have isOk : HandlerOk system.timer.fds system.deleted (.unlockTable
              ⟨system.timer.eventInfo, system.timer.fds.file, 0, events⟩) := ⟨ok, inv.copies ok⟩
          exact inv.handled isOk
        next => cases done
      next batch isPc =>
        cases done
        rw [isPc] at ok
        have isOk : HandlerOk system.timer.fds system.deleted (.read batch) := ok
        exact inv.handled isOk
      next batch isPc =>
        rw [isPc] at ok
        split at done
        next =>
          cases done
          exact inv.handled trivial
        next event rest isEvents =>
          cases done
          have kept : (readTimer system batch event.fd).1.owner = batch.owner ∧
              (readTimer system batch event.fd).1.table = batch.table := by
            unfold readTimer
            split
            · exact ⟨rfl, rfl⟩
            · split <;> exact ⟨rfl, rfl⟩
          rcases ok with ⟨current, fresh, copied⟩
          rw [isEvents] at current fresh
          apply inv.handled
          refine ⟨fun other member => current other (List.mem_cons_of_mem _ member), ?_, ?_⟩
          · intro other member
            have isOk := fresh other member
            rw [← kept.1] at isOk
            exact isOk
          · intro i inside
            have isOpen := copied i inside
            rw [← kept.1, ← kept.2] at isOpen
            exact isOpen
      next event batch isPc =>
        rw [isPc] at ok
        rcases ok with ⟨current, fresh, copied⟩
        have rest : Fresh system.deleted batch batch.events :=
          fun other member => fresh other (List.mem_cons_of_mem _ member)
        have onCallback : HandlerOk system.timer.fds system.deleted (.callback batch) :=
          ⟨current, rest, copied⟩
        have onRead : HandlerOk system.timer.fds system.deleted (.read batch) :=
          ⟨current, rest, copied⟩
        split at done
        · cases done
          exact inv.handled onCallback
        · cases done
          exact inv.handled onRead
      next batch isPc =>
        rw [isPc] at ok
        have isOk : HandlerOk system.timer.fds system.deleted (.read batch) := ok
        split at done
        · cases done
          exact inv.handled isOk
        · cases done
      next => cases done
      next => cases done

end Others

/-! ## Runs -/

theorem DispatchInv.step {system next : System} {label : SystemLabel} (inv : DispatchInv system)
    (tableCalls : TableCallsOnly label) (keeps : KeepsBatch system label)
    (stepped : systemStep system label = some next) : DispatchInv next := by
  cases label with
  | begin party request =>
      simp only [systemStep] at stepped
      split at stepped
      · cases stepped
        exact inv.begun tableCalls
      · cases stepped
  | advance party =>
      rcases Option.bind_eq_some_iff.mp stepped with ⟨pc, isPc, done⟩
      exact inv.advanced isPc keeps done
  | create party timerfdCreate =>
      rcases Option.bind_eq_some_iff.mp stepped with ⟨pc, isPc, done⟩
      exact inv.created keeps done
  | initialise party outcome =>
      rcases Option.bind_eq_some_iff.mp stepped with ⟨pc, isPc, done⟩
      unfold initialiseStep at done
      split at done
      · cases (inv.calls party _ isPc).tableCall
      · cases done
  | handler label => exact inv.handlerStep stepped
  | expire timer =>
      simp only [systemStep, expireStep] at stepped
      split at stepped
      · cases stepped
        exact inv.expirations _
      · cases stepped

theorem dispatchInv_started {calls : List TimerCall} {timer : TimerState}
    (ran : timerCallMachine.run timerStatics calls = some timer) (isInit : timer.isInit = true) :
    DispatchInv (System.started timer) where
  numbered := wellNumbered_of_run ran
  nonnegative := fun _ isOpen => (up_of_run ran isInit).nonnegative isOpen
  slots := (up_of_run ran isInit).slots
  epoll := (up_of_run ran isInit).complete.epoll (up_of_run ran isInit).hasEpoll
  calls := by
    intro party pc isPc
    cases isPc
  spares := by
    intro party other fd isSpare
    cases isSpare
  deleted := by
    intro number isDeleted
    cases isDeleted
  handler := trivial

/-- In every run without `InitTimerEventManage` and `DeinitTimerEventManage` in
which every delete and every new timer keeps clear of the batch, the handler
thread starts no callback of a deleted timer and mistakes no timer for another. -/
theorem dispatch_ownTimer {calls : List TimerCall} {timer : TimerState}
    (up : timerCallMachine.run timerStatics calls = some timer) (isInit : timer.isInit = true)
    {labels : List SystemLabel}
    (tableCalls : systemMachine.AllSteps (fun _ label => TableCallsOnly label)
      (System.started timer) labels)
    (keeps : systemMachine.AllSteps KeepsBatch (System.started timer) labels) :
    systemMachine.AllSteps HandlesOwnTimer (System.started timer) labels := by
  have kept : forall (system : System) label next, DispatchInv system ->
      TableCallsOnly label ∧ KeepsBatch system label ->
      systemMachine.step system label = some next -> DispatchInv next :=
    fun _ _ _ inv conditions stepped => inv.step conditions.1 conditions.2 stepped
  exact systemMachine.allSteps_of_invariant kept (fun _ label inv _ => inv.handlesOwnTimer label)
    (dispatchInv_started up isInit) (systemMachine.allSteps_and tableCalls keeps)

/-- The callback of a timer deletes it and adds another, which gets the same
descriptor and expires as well. -/
def reusedDescriptor : List SystemLabel :=
  untilCallback ++
    [.begin .handler (.delete 5), .advance .handler, .advance .handler, .advance .handler,
      .advance .handler, .advance .handler, .begin .handler (.add (some (.client 1))),
      .advance .handler, .advance .handler, .create .handler (some 5), .advance .handler,
      .advance .handler, .expire 3, .handler .advance, .handler .advance, .handler .advance,
      .handler (.wait (.ready [⟨5, 3⟩])), .handler .advance, .handler .advance, .handler .advance,
      .handler .advance]

theorem dispatch_ownTimer_reusedDescriptor :
    (systemMachine.run (System.started runningModule) reusedDescriptor).isSome ∧
    systemMachine.AllSteps HandlesOwnTimer (System.started runningModule) reusedDescriptor := by
  have up : timerCallMachine.run timerStatics [.init 2 ⟨some 3, some 4, 0, 0⟩] =
      some runningModule := rfl
  refine ⟨by decide +kernel, ?_⟩
  exact dispatch_ownTimer up (by decide +kernel) (by decide +kernel) (by decide +kernel)

/-- Two timers expire, and the callback of the first deletes the second before
its callback is started from the copy. -/
def deletedInBatch : List SystemLabel :=
  [.begin (.thread 0) (.add (some (.client 0))), .advance (.thread 0), .advance (.thread 0),
    .create (.thread 0) (some 5), .advance (.thread 0), .advance (.thread 0),
    .begin (.thread 0) (.add (some (.client 1))), .advance (.thread 0), .advance (.thread 0),
    .create (.thread 0) (some 6), .advance (.thread 0), .advance (.thread 0), .expire 2, .expire 3,
    .handler .advance, .handler (.wait (.ready [⟨5, 2⟩, ⟨6, 3⟩])), .handler .advance,
    .handler .advance, .handler .advance, .handler .advance, .begin .handler (.delete 6),
    .advance .handler, .advance .handler, .advance .handler, .advance .handler, .advance .handler,
    .handler .advance, .handler .advance, .handler .advance]

theorem deletedInBatch_startsCallback : Exists fun final =>
    systemMachine.run (System.started runningModule) deletedInBatch = some final ∧
      systemMachine.AllSteps (fun _ label => TableCallsOnly label) (System.started runningModule)
        deletedInBatch ∧
      ¬ systemMachine.AllSteps HandlesOwnTimer (System.started runningModule) deletedInBatch := by
  have ran : (systemMachine.run (System.started runningModule) deletedInBatch).isSome := by
    decide +kernel
  rcases Option.isSome_iff_exists.mp ran with ⟨final, same⟩
  exact ⟨final, same, by decide +kernel, by decide +kernel⟩

end Timer
end V2x
