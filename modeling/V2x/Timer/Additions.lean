import V2x.Timer.Locks
import V2x.Timer.Tidiness

namespace V2x
namespace Timer

open Foundations

/-!
# What a call of `AddTimerEvent` leaves

`AddTimerEvent` does not look at the result of `epoll_ctl`, and it compares the
index of its loop with `g_maxEventNum` after it has given `g_eventInfoMutex`
back.  The threads of the module are run with notes about each call: the state
before and after what it did under the mutex, and the state in which it gave
the mutex back.

A call is all or nothing as long as its comparison tells whether there was a
free slot.  Until then a descriptor without a slot is in nobody's way.
-/

/-- `AddTimerEvent` under `g_eventInfoMutex`, with the result of `epoll_ctl`. -/
def addTimerEventSection (state : TimerState) (cb : TimerEventProcCb) (timerfdCreate : Option Int32)
    (epollCtl : Int32) : Option (Int32 × Nat) × TimerState :=
  match timerfdCreate with
  | none => (none, state)
  | some timerFd =>
      let state := { state with fds := state.fds.create timerFd }
      let i := state.findSlot (-1)
      if i < state.maxEventNum then
        (some (timerFd, i),
          { state.setSlot i ⟨timerFd, some cb⟩ with
            fds := if epollCtl = 0 then state.fds.watch state.epollfd timerFd else state.fds })
      else (some (timerFd, i), state)

theorem addTimerEventSection_zero (state : TimerState) (cb : TimerEventProcCb)
    (timerfdCreate : Option Int32) :
    addTimerEventSection state cb timerfdCreate 0 = addTimerEventLocked state cb timerfdCreate := by
  cases timerfdCreate with
  | none => rfl
  | some timerFd => simp only [addTimerEventSection, addTimerEventLocked, if_true]

/-- The notes about a call: its callback, what the system calls returned, and
the states around and after its time under the mutex. -/
structure AddCall where
  cb : TimerEventProcCb
  timerfdCreate : Option Int32
  epollCtl : Int32
  before : TimerState
  inside : TimerState
  released : TimerState

structure AddSystem where
  system : System
  adds : Party -> Option AddCall

/-- The steps of the threads, where `AddTimerEvent` under the mutex has a result of `epoll_ctl`. -/
inductive AddLabel where
  | create (party : Party) (timerfdCreate : Option Int32) (epollCtl : Int32)
  | other (label : SystemLabel)
deriving DecidableEq, Repr

namespace AddSystem

/-- No function of the module has been called. -/
def initial : AddSystem where
  system := { System.started timerStatics with handler := .off }
  adds := fun _ => none

/-- The notes when the mutex is given back. -/
def noted (state : AddSystem) : SystemLabel -> Party -> Option AddCall
  | .advance party =>
      match state.system.calls party with
      | some (.unlockTable (.added _)) => Function.update state.adds party
          ((state.adds party).map (fun call => { call with released := state.system.timer }))
      | _ => state.adds
  | _ => state.adds

end AddSystem

/-- `AddTimerEvent` takes `g_eventInfoMutex`. -/
def createSection (state : AddSystem) (party : Party) (timerfdCreate : Option Int32)
    (epollCtl : Int32) : CallPc -> Option AddSystem
  | .lockTable (.add cb) =>
      if timerfdCreate.all state.system.timer.canCreate then
        let result := addTimerEventSection state.system.timer cb timerfdCreate epollCtl
        (takeTable state.system party result.2 (.unlockTable (.added result.1))).map (fun next =>
          ⟨next, Function.update state.adds party
            (some ⟨cb, timerfdCreate, epollCtl, state.system.timer, result.2, result.2⟩)⟩)
      else none
  | _ => none

def addSystemStep (state : AddSystem) : AddLabel -> Option AddSystem
  | .create party timerfdCreate epollCtl =>
      (state.system.calls party).bind (createSection state party timerfdCreate epollCtl)
  | .other (.create _ _) => none
  | .other label => (systemStep state.system label).map (fun next => ⟨next, state.noted label⟩)

def addMachine : Machine AddSystem AddLabel where
  step := addSystemStep

/-- With an `epoll_ctl` that succeeds these are the steps of the threads. -/
theorem addSystemStep_zero (state : AddSystem) (party : Party) (timerfdCreate : Option Int32) :
    (addSystemStep state (.create party timerfdCreate 0)).map AddSystem.system =
      systemStep state.system (.create party timerfdCreate) := by
  simp only [addSystemStep, systemStep]
  cases state.system.calls party with
  | none => rfl
  | some pc =>
      cases pc with
      | lockTable call =>
          cases call with
          | add cb =>
              simp only [Option.bind_some, createSection, createStep, addTimerEventSection_zero]
              split
              · rw [Option.map_map]
                exact Option.map_id_apply
              · rfl
          | delete timerFd => rfl
      | lockInit | testInit | unlockTable | returning | deinitLock | deinitTest | deinitJoin
      | deinitLockTable | deinitUnlock | initLock | initBody => rfl

/-! ## All or nothing -/

namespace AddSystem

/-- A step in which `AddTimerEvent` returns: the value, and the notes of a call that has had the
mutex. -/
def finished (state : AddSystem) : AddLabel -> Option (Int32 × Option AddCall)
  | .other (.begin _ (.add none)) => some (-1, none)
  | .other (.advance party) =>
      match state.system.calls party with
      | some (.testInit (.add _)) => if state.system.timer.isInit then none else some (-1, none)
      | some (.returning (.added none)) => some (-1, state.adds party)
      | some (.returning (.added (some (timerFd, i)))) =>
          some ((addTimerEventUnlocked state.system.timer timerFd i).1, state.adds party)
      | _ => none
  | _ => none

end AddSystem

/-- The descriptor was in a slot and in the epoll set when the mutex was given back. -/
def AddCall.Registered (call : AddCall) (fd : Int32) : Prop :=
  (Exists fun i => i < call.released.maxEventNum ∧ call.released.eventInfo i = ⟨fd, some call.cb⟩) ∧
    call.released.fds.watches call.released.epollfd fd = true

/-- The call has changed neither the table nor the epoll set, and has closed what it created. -/
structure Undone (state next : AddSystem) (noted : Option AddCall) : Prop where
  table : forall call, call ∈ noted -> call.inside.eventInfo = call.before.eventInfo ∧
    call.inside.fds.watches = call.before.fds.watches
  last : next.system.timer.eventInfo = state.system.timer.eventInfo ∧
    next.system.timer.fds.watches = state.system.timer.fds.watches
  closed : forall call, call ∈ noted -> forall fd, fd ∈ call.timerfdCreate ->
    state.system.timer.fds.file fd = call.inside.fds.file fd ∧
      next.system.timer.fds.file fd = none

/-- What the return value of `AddTimerEvent` says about the call. -/
def AllOrNothing (state : AddSystem) (label : AddLabel) : Prop :=
  forall next returned noted, addSystemStep state label = some next ->
    state.finished label = some (returned, noted) ->
    (0 ≤ returned -> Exists fun call => call ∈ noted ∧ call.Registered returned) ∧
    (returned = -1 -> Undone state next noted)

/-- A slot was free under the mutex. -/
def AddCall.HasRoom (call : AddCall) : Prop :=
  call.before.findSlot (-1) < call.before.maxEventNum

/-- With a free slot the epoll set takes the timer, and the size of the table is not the index of
that slot.  Without one the size is what it was. -/
def AddCall.Fits (call : AddCall) (maxEventNum : Nat) : Prop :=
  (call.HasRoom -> call.epollCtl = 0 ∧ maxEventNum ≠ call.before.findSlot (-1)) ∧
  (¬ call.HasRoom -> maxEventNum = call.before.maxEventNum)

/-- The table that a call finds when it compares its index with `g_maxEventNum`. -/
def SizeFits (state : AddSystem) : AddLabel -> Prop
  | .other (.advance party) => forall found,
      state.system.calls party = some (.returning (.added (some found))) ->
      forall call, call ∈ state.adds party -> call.Fits state.system.timer.maxEventNum
  | _ => True

/-! ## What a call keeps until it returns -/

/-- What such a call has put into a slot. -/
structure AddCall.Stored (call : AddCall) (timer : TimerState) (fd : Int32) (i : Nat) : Prop where
  inside : i < timer.maxEventNum
  info : timer.eventInfo i = ⟨fd, some call.cb⟩
  watched : timer.fds.watches timer.epollfd fd = true <-> call.epollCtl = 0

/-- The notes agree with what the call has found under the mutex. -/
structure AddCall.Noted (call : AddCall) (result : Option (Int32 × Nat)) : Prop where
  made : addTimerEventSection call.before call.cb call.timerfdCreate call.epollCtl =
    (result, call.inside)
  possible : forall fd, fd ∈ call.timerfdCreate -> CanCreate call.before fd
  tidy : Tidy call.before

/-- A call that has been under the mutex. -/
def CallPc.added : CallPc -> Option (Option (Int32 × Nat))
  | .unlockTable (.added result) | .returning (.added result) => some result
  | _ => none

/-- The arguments and the tests that a call has passed. -/
def CallPc.Passed (timer : TimerState) : CallPc -> Prop
  | .lockInit (.delete timerFd) | .testInit (.delete timerFd) | .lockTable (.delete timerFd) =>
      timerFd ≠ -1
  | .deinitJoin | .deinitLockTable => timer.isInit = true
  | _ => True

/-- The descriptor of a call that found no free slot. -/
def AddSystem.Discards (state : AddSystem) (party : Party) (call : AddCall) (fd : Int32) : Prop :=
  (Exists fun pc => Exists fun i => state.system.calls party = some pc ∧
    pc.added = some (some (fd, i))) ∧ state.adds party = some call ∧ ¬ call.HasRoom

structure AddInv (state : AddSystem) : Prop where
  mutexes : MutexInv state.system
  tidy : Tidy state.system.timer
  sized : Sized state.system.timer
  passed : forall party pc, state.system.calls party = some pc -> pc.Passed state.system.timer
  noted : forall party pc result, state.system.calls party = some pc -> pc.added = some result ->
    Exists fun call => state.adds party = some call ∧ call.Noted result
  locked : forall party call fd i,
    state.system.calls party = some (.unlockTable (.added (some (fd, i)))) ->
    state.adds party = some call -> call.HasRoom ->
    state.system.timer.isInit = true ∧ call.Stored state.system.timer fd i
  released : forall party call fd i,
    state.system.calls party = some (.returning (.added (some (fd, i)))) ->
    state.adds party = some call ->
    (call.HasRoom -> call.Stored call.released fd i) ∧
    (¬ call.HasRoom -> forall j, ¬ call.released.Has j fd)
  stray : forall party call fd, state.Discards party call fd ->
    Stray state.system.timer fd ∧
      state.system.timer.fds.file fd = call.inside.fds.file fd
  apart : forall party other call otherCall fd, state.Discards party call fd ->
    state.Discards other otherCall fd -> party = other

section Inversion

variable {call : AddCall} {fd : Int32} {i : Nat} {state : TimerState} {cb : TimerEventProcCb}
  {epollCtl : Int32}

/-- What a call has found that created a descriptor. -/
theorem AddCall.Noted.created (noted : call.Noted (some (fd, i))) :
    call.timerfdCreate = some fd ∧ i = call.before.findSlot (-1) ∧
    call.inside = (addTimerEventSection call.before call.cb (some fd) call.epollCtl).2 := by
  have made := noted.made
  cases created : call.timerfdCreate with
  | none =>
      rw [created] at made
      cases made
  | some timerFd =>
      have inside : (addTimerEventSection call.before call.cb (some timerFd) call.epollCtl).2 =
          call.inside := by rw [← created, made]
      have found : (addTimerEventSection call.before call.cb (some timerFd) call.epollCtl).1 =
          some (timerFd, call.before.findSlot (-1)) := by
        simp only [addTimerEventSection]
        split <;> rfl
      rw [← created, made, Option.some.injEq, Prod.mk.injEq] at found
      rcases found with ⟨rfl, rfl⟩
      exact ⟨rfl, rfl, inside.symm⟩

theorem addTimerEventSection_room (hasRoom : state.findSlot (-1) < state.maxEventNum) :
    (addTimerEventSection state cb (some fd) epollCtl).2 =
      { state.setSlot (state.findSlot (-1)) ⟨fd, some cb⟩ with
        fds := if epollCtl = 0 then (state.fds.create fd).watch state.epollfd fd
          else state.fds.create fd } :=
  congrArg Prod.snd (if_pos hasRoom)

theorem addTimerEventSection_full (full : ¬ state.findSlot (-1) < state.maxEventNum) :
    (addTimerEventSection state cb (some fd) epollCtl).2 = { state with fds := state.fds.create fd } :=
  congrArg Prod.snd (if_neg full)

/-- A new descriptor is in nobody's interest set. -/
theorem Tidy.created_unwatched (tidy : Tidy state) (canCreate : CanCreate state fd) (watcher : Int32) :
    state.fds.watches watcher fd = false := by
  by_contra isWatched
  rcases tidy.watched watcher fd (by simpa using isWatched) with ⟨_, j, has⟩
  exact tidy.not_has_created canCreate has

theorem Tidy.section_keeps (tidy : Tidy state) (canCreate : CanCreate state fd) :
    Keeps state (addTimerEventSection state cb (some fd) epollCtl).2 := by
  rcases tidy.create canCreate with ⟨created, isStray⟩
  by_cases hasRoom : state.findSlot (-1) < state.maxEventNum
  · rw [addTimerEventSection_room hasRoom]
    rcases created.tidy.store cb isStray (TimerState.findSlot_found hasRoom) with ⟨stored, strays⟩
    have filled : Keeps state (state.fill (state.findSlot (-1)) fd cb) :=
      ⟨stored, fun other stray => strays other (stray.not_created canCreate) (created.stray other stray),
        created.file⟩
    split
    · exact filled.trans (filled.tidy.watch
        ⟨hasRoom, timerFd_fill.trans (if_pos rfl), canCreate.notNone⟩)
    · exact filled
  · rw [addTimerEventSection_full hasRoom]
    exact created

/-- With a free slot the descriptor is in it afterwards. -/
theorem Tidy.section_stored (tidy : Tidy state) (canCreate : CanCreate state fd)
    (isCb : call.cb = cb) (isCtl : call.epollCtl = epollCtl)
    (hasRoom : state.findSlot (-1) < state.maxEventNum) :
    call.Stored (addTimerEventSection state cb (some fd) epollCtl).2 fd (state.findSlot (-1)) := by
  rw [addTimerEventSection_room hasRoom]
  refine ⟨hasRoom, ?_, ?_⟩
  · rw [isCb]
    exact TimerState.eventInfo_setSlot.trans (if_pos rfl)
  · rw [isCtl]
    have unwatched := tidy.created_unwatched canCreate state.epollfd
    by_cases succeeds : epollCtl = 0
    · simp [succeeds, Descriptors.watch, TimerState.setSlot]
    · simp [succeeds, TimerState.setSlot, unwatched]

theorem Tidy.section_stray (tidy : Tidy state) (canCreate : CanCreate state fd)
    (full : ¬ state.findSlot (-1) < state.maxEventNum) :
    Stray (addTimerEventSection state cb (some fd) epollCtl).2 fd := by
  rw [addTimerEventSection_full full]
  exact (tidy.create canCreate).2

end Inversion

/-! ## Steps that leave the calls of `AddTimerEvent` alone -/

/-- A step after which the calls that have been under the mutex stand where they stood. -/
structure Frame (state next : AddSystem) : Prop where
  adds : next.adds = state.adds
  calls : forall party pc, next.system.calls party = some pc -> pc.added ≠ none ->
    state.system.calls party = some pc
  tidy : Tidy next.system.timer
  stray : forall party call fd, next.Discards party call fd -> Stray state.system.timer fd ->
    Stray next.system.timer fd ∧ next.system.timer.fds.file fd = state.system.timer.fds.file fd
  table : (Exists fun party => Exists fun found =>
      state.system.calls party = some (.unlockTable (.added (some found)))) ->
    state.system.timer.isInit = true -> next.system.timer.isInit = true ∧
      next.system.timer.eventInfo = state.system.timer.eventInfo ∧
      next.system.timer.maxEventNum = state.system.timer.maxEventNum ∧
      next.system.timer.epollfd = state.system.timer.epollfd ∧
      next.system.timer.fds.watches = state.system.timer.fds.watches

section Steps

variable {state next : AddSystem} {party : Party} {call : AddCall} {fd : Int32} {i : Nat}

theorem Frame.discards (frame : Frame state next) (discards : next.Discards party call fd) :
    state.Discards party call fd := by
  rcases discards with ⟨⟨pc, i, isPc, added⟩, noted, full⟩
  refine ⟨⟨pc, i, frame.calls party pc isPc (by rw [added]; simp), added⟩, ?_, full⟩
  rw [← frame.adds]
  exact noted

theorem AddInv.framed (inv : AddInv state) (frame : Frame state next)
    (mutexes : MutexInv next.system) (sized : Sized next.system.timer)
    (passed : forall party pc, next.system.calls party = some pc -> pc.Passed next.system.timer) :
    AddInv next where
  mutexes := mutexes
  tidy := frame.tidy
  sized := sized
  passed := passed
  noted := by
    intro party pc result isPc added
    rw [frame.adds]
    exact inv.noted party pc result (frame.calls party pc isPc (by rw [added]; simp)) added
  locked := by
    intro party call fd i isPc noted hasRoom
    rw [frame.adds] at noted
    have wasPc := frame.calls party _ isPc (by simp [CallPc.added])
    rcases inv.locked party call fd i wasPc noted hasRoom with ⟨isInit, stored⟩
    rcases frame.table ⟨party, (fd, i), wasPc⟩ isInit with ⟨stillInit, info, size, epollfd, watches⟩
    refine ⟨stillInit, ?_, ?_, ?_⟩
    · rw [size]
      exact stored.inside
    · rw [info]
      exact stored.info
    · rw [watches, epollfd]
      exact stored.watched
  released := by
    intro party call fd i isPc noted
    rw [frame.adds] at noted
    exact inv.released party call fd i (frame.calls party _ isPc (by simp [CallPc.added])) noted
  stray := by
    intro party call fd discards
    rcases inv.stray party call fd (frame.discards discards) with ⟨stray, file⟩
    rcases frame.stray party call fd discards stray with ⟨stillStray, sameFile⟩
    exact ⟨stillStray, sameFile.trans file⟩
  apart := fun party other call otherCall fd first second =>
    inv.apart party other call otherCall fd (frame.discards first) (frame.discards second)

theorem CallPc.Passed.congr {timer after : TimerState} {pc : CallPc}
    (stays : timer.isInit = true -> after.isInit = true) (passed : pc.Passed timer) :
    pc.Passed after := by
  cases pc with
  | deinitJoin | deinitLockTable => exact stays passed
  | lockInit call | testInit call | lockTable call =>
      cases call with
      | add cb => exact trivial
      | delete timerFd => exact passed
  | unlockTable | returning | deinitLock | deinitTest | deinitUnlock | initLock | initBody =>
      exact trivial

/-- One party goes on, and `g_isInit` is as before. -/
theorem AddInv.passed_step (inv : AddInv state) {pc' : Option CallPc}
    (calls : next.system.calls = Function.update state.system.calls party pc')
    (stays : state.system.timer.isInit = true -> next.system.timer.isInit = true)
    (passed : forall pc, pc ∈ pc' -> pc.Passed state.system.timer) (other : Party) (pc : CallPc)
    (isPc : next.system.calls other = some pc) : pc.Passed next.system.timer := by
  rw [calls, Function.update_apply] at isPc
  split at isPc
  next => exact (passed pc isPc).congr stays
  next => exact (inv.passed other pc isPc).congr stays

theorem calls_step {pc' : Option CallPc} (notAdded : forall pc, pc ∈ pc' -> pc.added = none)
    (calls : next.system.calls = Function.update state.system.calls party pc') (other : Party)
    (pc : CallPc) (isPc : next.system.calls other = some pc) (added : pc.added ≠ none) :
    state.system.calls other = some pc := by
  rw [calls, Function.update_apply] at isPc
  split at isPc
  next => exact absurd (notAdded pc isPc) added
  next => exact isPc

/-- A step that leaves the table and the descriptors alone. -/
theorem AddInv.quiet (inv : AddInv state) {pc' : Option CallPc} {isRunning : Bool}
    (calls : next.system.calls = Function.update state.system.calls party pc')
    (adds : next.adds = state.adds)
    (timer : next.system.timer = { state.system.timer with isRunning := isRunning })
    (mutexes : MutexInv next.system) (notAdded : forall pc, pc ∈ pc' -> pc.added = none)
    (passed : forall pc, pc ∈ pc' -> pc.Passed state.system.timer) : AddInv next := by
  have isInit : next.system.timer.isInit = state.system.timer.isInit := by rw [timer]
  refine inv.framed ⟨adds, calls_step notAdded calls, ?_, fun _ _ fd _ stray => ?_,
    fun _ stillInit => ?_⟩ mutexes ?_ (inv.passed_step calls isInit.trans passed)
  · rw [timer]
    exact ⟨inv.tidy.opened, inv.tidy.distinct, inv.tidy.apart, inv.tidy.epoll, inv.tidy.watched⟩
  · rw [timer]
    exact ⟨⟨stray.notNone, stray.isOpen, stray.notEpoll, stray.outside⟩, rfl⟩
  · rw [timer]
    exact ⟨stillInit, rfl, rfl, rfl, rfl⟩
  · rw [timer]
    exact ⟨inv.sized.down, inv.sized.running⟩

/-- Who takes the mutex finds no other call under it. -/
theorem AddInv.notLocked (inv : AddInv state) (free : state.system.tableMutex = none)
    {other : Party} {result : TableResult} :
    state.system.calls other ≠ some (.unlockTable result) := by
  intro isPc
  have owner := (inv.mutexes.tableOwner other).mpr (Or.inl (by rw [isPc]; rfl))
  rw [free] at owner
  cases owner

theorem takeTable_done {system after : System} {timer : TimerState} {pc' : CallPc}
    (done : takeTable system party timer pc' = some after) : system.tableMutex = none ∧
      after = { system.setCall party (some pc') with timer := timer, tableMutex := some party } := by
  unfold takeTable at done
  split at done
  next free => exact ⟨Option.isNone_iff_eq_none.mp free, (Option.some.inj done).symm⟩
  next => cases done

/-- Another function takes the mutex and works on the table. -/
theorem AddInv.taken (inv : AddInv state) {timer : TimerState} {pc' : CallPc}
    (done : takeTable state.system party timer pc' = some next.system) (adds : next.adds = state.adds)
    (keeps : Keeps state.system.timer timer) (sized : Sized timer) (mutexes : MutexInv next.system)
    (notAdded : pc'.added = none)
    (passed : forall other pc, next.system.calls other = some pc -> pc.Passed next.system.timer) :
    AddInv next := by
  rcases takeTable_done done with ⟨free, same⟩
  have noneAdded : forall pc, pc ∈ some pc' -> pc.added = none := by
    intro pc isPc
    cases isPc
    exact notAdded
  have calls : next.system.calls = Function.update state.system.calls party (some pc') := by
    rw [same]
    rfl
  refine inv.framed ⟨adds, calls_step noneAdded calls, ?_, ?_, ?_⟩ mutexes ?_ passed
  · rw [same]
    exact keeps.tidy
  · intro _ _ fd _ stray
    rw [same]
    exact ⟨keeps.stray fd stray, keeps.file fd stray⟩
  · rintro ⟨other, found, isPc⟩
    exact absurd isPc (inv.notLocked free)
  · rw [same]
    exact sized

/-! ## Steps of a call and its notes -/

/-- A step after which one party stands at `pc` with these notes, and every other party where it
stood. -/
structure PartyStep (state next : AddSystem) (party : Party) (pc : CallPc) (call : AddCall) :
    Prop where
  calls : next.system.calls = Function.update state.system.calls party (some pc)
  adds : next.adds = Function.update state.adds party (some call)

namespace PartyStep

variable {pc : CallPc} (step : PartyStep state next party pc call)
include step

theorem ownPc : next.system.calls party = some pc := by
  rw [step.calls, Function.update_self]

theorem ownAdd : next.adds party = some call := by
  rw [step.adds, Function.update_self]

theorem otherCalls {other : Party} (different : other ≠ party) :
    next.system.calls other = state.system.calls other := by
  rw [step.calls, Function.update_of_ne different]

theorem otherAdds {other : Party} (different : other ≠ party) : next.adds other = state.adds other := by
  rw [step.adds, Function.update_of_ne different]

/-- The notes of every call agree with what it found, if those of this one do. -/
theorem noted (inv : AddInv state)
    (ownNoted : forall result, pc.added = some result -> call.Noted result) (other : Party)
    (otherPc : CallPc) (result : Option (Int32 × Nat)) (isPc : next.system.calls other = some otherPc)
    (added : otherPc.added = some result) :
    Exists fun call => next.adds other = some call ∧ call.Noted result := by
  by_cases same : other = party
  · subst same
    cases step.ownPc.symm.trans isPc
    exact ⟨call, step.ownAdd, ownNoted result added⟩
  · rw [step.otherCalls same] at isPc
    rw [step.otherAdds same]
    exact inv.noted other otherPc result isPc added

/-- A call that discards its descriptor is the one of this step, or it did so before. -/
theorem discards {other : Party} {otherCall : AddCall} (discards : next.Discards other otherCall fd) :
    (other = party ∧ otherCall = call ∧ (Exists fun i => pc.added = some (some (fd, i))) ∧
      ¬ call.HasRoom) ∨
    (other ≠ party ∧ state.Discards other otherCall fd) := by
  rcases discards with ⟨⟨otherPc, i, isPc, added⟩, noted, full⟩
  by_cases same : other = party
  · subst same
    cases step.ownPc.symm.trans isPc
    cases step.ownAdd.symm.trans noted
    exact Or.inl ⟨rfl, rfl, ⟨i, added⟩, full⟩
  · rw [step.otherCalls same] at isPc
    rw [step.otherAdds same] at noted
    exact Or.inr ⟨same, ⟨otherPc, i, isPc, added⟩, noted, full⟩

end PartyStep

/-! ## The call gives the mutex back -/

theorem AddInv.unlocked (inv : AddInv state) {result : Option (Int32 × Nat)}
    (isPc : state.system.calls party = some (.unlockTable (.added result)))
    (calls : next.system.calls =
      Function.update state.system.calls party (some (.returning (.added result))))
    (timer : next.system.timer = state.system.timer) (mutexes : MutexInv next.system)
    (adds : next.adds = Function.update state.adds party
      ((state.adds party).map (fun call => { call with released := state.system.timer }))) :
    AddInv next := by
  rcases inv.noted party _ result isPc rfl with ⟨own, isOwn, ownNoted⟩
  rw [isOwn, Option.map_some] at adds
  have step : PartyStep state next party (.returning (.added result))
      { own with released := state.system.timer } := ⟨calls, adds⟩
  have wasDiscard : forall {other call fd}, next.Discards other call fd ->
      Exists fun before => state.Discards other before fd ∧ before.inside = call.inside := by
    intro other call fd discards
    rcases step.discards discards with ⟨rfl, rfl, ⟨i, added⟩, full⟩ | ⟨_, discarded⟩
    · exact ⟨own, ⟨⟨_, i, isPc, added⟩, isOwn, full⟩, rfl⟩
    · exact ⟨call, discarded, rfl⟩
  refine ⟨mutexes, timer ▸ inv.tidy, timer ▸ inv.sized, ?_, ?_, ?_, ?_, ?_, ?_⟩
  · refine inv.passed_step calls (by rw [timer]; exact id) ?_
    intro pc isNew
    cases isNew
    exact trivial
  · apply step.noted inv
    intro found added
    cases added
    exact ⟨ownNoted.made, ownNoted.possible, ownNoted.tidy⟩
  · intro other call fd i otherPc noted hasRoom
    by_cases same : other = party
    · subst same
      cases step.ownPc.symm.trans otherPc
    · rw [step.otherCalls same] at otherPc
      rw [step.otherAdds same] at noted
      rw [timer]
      exact inv.locked other call fd i otherPc noted hasRoom
  · intro other call fd i otherPc noted
    by_cases same : other = party
    · subst same
      cases step.ownPc.symm.trans otherPc
      cases step.ownAdd.symm.trans noted
      refine ⟨fun hasRoom => ?_, fun full => ?_⟩
      · have stored := (inv.locked other own fd i isPc isOwn hasRoom).2
        exact ⟨stored.inside, stored.info, stored.watched⟩
      · exact (inv.stray other own fd ⟨⟨_, i, isPc, rfl⟩, isOwn, full⟩).1.outside
    · rw [step.otherCalls same] at otherPc
      rw [step.otherAdds same] at noted
      exact inv.released other call fd i otherPc noted
  · intro other call fd discards
    rcases wasDiscard discards with ⟨before, wasDiscarded, same⟩
    rw [timer, ← same]
    exact inv.stray other before fd wasDiscarded
  · intro first second call otherCall fd isFirst isSecond
    rcases wasDiscard isFirst with ⟨firstBefore, firstDiscards, _⟩
    rcases wasDiscard isSecond with ⟨secondBefore, secondDiscards, _⟩
    exact inv.apart first second firstBefore secondBefore fd firstDiscards secondDiscards

/-! ## The call returns -/

/-- The value that a call returns, and what it leaves, when its comparison tells the truth. -/
theorem AddInv.returned (inv : AddInv state)
    (isPc : state.system.calls party = some (.returning (.added (some (fd, i)))))
    (noted : state.adds party = some call) (fits : call.Fits state.system.timer.maxEventNum)
    (calls : next.system.calls = Function.update state.system.calls party none)
    (timer : next.system.timer = (addTimerEventUnlocked state.system.timer fd i).2)
    (mutexes : MutexInv next.system) (adds : next.adds = state.adds) : AddInv next := by
  have nothing : forall pc, pc ∈ (none : Option CallPc) -> pc.added = none := by
    rintro pc ⟨⟩
  rcases inv.noted party _ _ isPc rfl with ⟨own, isOwn, ownNoted⟩
  cases isOwn.symm.trans noted
  rcases ownNoted.created with ⟨_, rfl, _⟩
  by_cases hasRoom : call.HasRoom
  · have notEnd : call.before.findSlot (-1) ≠ state.system.timer.maxEventNum := (fits.1 hasRoom).2.symm
    rw [addTimerEventUnlocked, if_neg notEnd] at timer
    exact inv.quiet calls adds timer mutexes nothing (by rintro pc ⟨⟩)
  · have atEnd : call.before.findSlot (-1) = state.system.timer.maxEventNum := by
      rw [fits.2 hasRoom]
      exact Nat.le_antisymm TimerState.findSlot_le (Nat.not_lt.mp hasRoom)
    rw [addTimerEventUnlocked, if_pos atEnd] at timer
    have ownDiscard : state.Discards party call fd := ⟨⟨_, _, isPc, rfl⟩, noted, hasRoom⟩
    rcases inv.tidy.closeStray (inv.stray party call fd ownDiscard).1 with ⟨tidy, watches, others⟩
    refine inv.framed ⟨adds, calls_step nothing calls, ?_, ?_, fun _ stillInit => ?_⟩ mutexes ?_
      (inv.passed_step calls (by rw [timer]; exact id) (by rintro pc ⟨⟩))
    · rw [timer]
      exact tidy
    · intro other otherCall otherFd discards stray
      have different : otherFd ≠ fd := by
        rintro rfl
        rcases discards with ⟨⟨pc, i, otherPc, added⟩, otherNoted, full⟩
        rw [adds] at otherNoted
        have wasPc := calls_step nothing calls other pc otherPc (by rw [added]; simp)
        have same := inv.apart party other call otherCall otherFd ownDiscard
          ⟨⟨pc, i, wasPc, added⟩, otherNoted, full⟩
        rw [← same, calls, Function.update_self] at otherPc
        cases otherPc
      rw [timer]
      exact others otherFd different stray
    · rw [timer]
      exact ⟨stillInit, rfl, rfl, rfl, watches⟩
    · rw [timer]
      exact ⟨inv.sized.down, inv.sized.running⟩

/-! ## The call takes the mutex -/

/-- What the step of `AddTimerEvent` under the mutex says about the state before it. -/
theorem createSection_done {timerfdCreate : Option Int32} {epollCtl : Int32} {pc : CallPc}
    (done : createSection state party timerfdCreate epollCtl pc = some next) :
    Exists fun cb => pc = .lockTable (.add cb) ∧ state.system.tableMutex = none ∧
      (forall fd, fd ∈ timerfdCreate -> CanCreate state.system.timer fd) ∧
      next = ⟨{ state.system.setCall party (some (.unlockTable (.added
            (addTimerEventSection state.system.timer cb timerfdCreate epollCtl).1))) with
          timer := (addTimerEventSection state.system.timer cb timerfdCreate epollCtl).2
          tableMutex := some party },
        Function.update state.adds party (some ⟨cb, timerfdCreate, epollCtl, state.system.timer,
          (addTimerEventSection state.system.timer cb timerfdCreate epollCtl).2,
          (addTimerEventSection state.system.timer cb timerfdCreate epollCtl).2⟩)⟩ := by
  unfold createSection at done
  split at done
  next cb =>
    split at done
    next possible =>
      rcases Option.map_eq_some_iff.mp done with ⟨after, taken, rfl⟩
      rcases takeTable_done taken with ⟨free, rfl⟩
      refine ⟨cb, rfl, free, fun fd isFd => ?_, rfl⟩
      cases isFd
      simp only [Option.all_some, TimerState.canCreate, Bool.and_eq_true, decide_eq_true_eq,
        Option.isNone_iff_eq_none] at possible
      exact possible
    next => cases done
  next => cases done

theorem Sized.congr {timer after : TimerState} (sized : Sized timer)
    (same : after.isInit = timer.isInit ∧ after.maxEventNum = timer.maxEventNum ∧
      after.epollfd = timer.epollfd) : Sized after := by
  rcases same with ⟨isInit, size, epollfd⟩
  refine ⟨fun notInit => ?_, fun stillInit => ?_⟩
  · rw [size, epollfd]
    exact sized.down (isInit ▸ notInit)
  · rw [size]
    exact sized.running (isInit ▸ stillInit)

/-- Under the mutex only the slots and the descriptors change. -/
theorem addTimerEventSection_same (timer : TimerState) (cb : TimerEventProcCb)
    (timerfdCreate : Option Int32) (epollCtl : Int32) :
    (addTimerEventSection timer cb timerfdCreate epollCtl).2.isInit = timer.isInit ∧
    (addTimerEventSection timer cb timerfdCreate epollCtl).2.maxEventNum = timer.maxEventNum ∧
    (addTimerEventSection timer cb timerfdCreate epollCtl).2.epollfd = timer.epollfd := by
  cases timerfdCreate with
  | none => exact ⟨rfl, rfl, rfl⟩
  | some timerFd =>
      simp only [addTimerEventSection]
      split <;> exact ⟨rfl, rfl, rfl⟩

theorem Tidy.section_all {timer : TimerState} {cb : TimerEventProcCb} {timerfdCreate : Option Int32}
    {epollCtl : Int32} (tidy : Tidy timer)
    (possible : forall fd, fd ∈ timerfdCreate -> CanCreate timer fd) :
    Keeps timer (addTimerEventSection timer cb timerfdCreate epollCtl).2 := by
  cases timerfdCreate with
  | none => exact tidy.keeps_refl
  | some timerFd => exact tidy.section_keeps (possible timerFd rfl)

theorem createSection_moved {timerfdCreate : Option Int32} {epollCtl : Int32} {pc : CallPc}
    (done : createSection state party timerfdCreate epollCtl pc = some next) :
    CallMoved state.system next.system party pc (next.system.calls party) := by
  rcases createSection_done done with ⟨cb, rfl, free, _, rfl⟩
  have ownPc := Function.update_self party (some (CallPc.unlockTable (.added
    (addTimerEventSection state.system.timer cb timerfdCreate epollCtl).1))) state.system.calls
  simp only [System.setCall, ownPc]
  exact takeTable_moved rfl rfl rfl (by simp [CallPc.isLifecycle])
    (Or.inl (addTimerEventSection_same state.system.timer cb timerfdCreate epollCtl).1) (by simp)
    (by simp) (by simp) (by simp) (if_pos (Option.isNone_iff_eq_none.mpr free))

/-- `AddTimerEvent` has had the mutex, and the notes tell what it did under it. -/
structure CreateStep (state next : AddSystem) (party : Party) (call : AddCall)
    (result : Option (Int32 × Nat)) : Prop where
  step : PartyStep state next party (.unlockTable (.added result)) call
  free : state.system.tableMutex = none
  noted : call.Noted result
  before : call.before = state.system.timer
  inside : call.inside = next.system.timer

theorem AddInv.createStep (inv : AddInv state) {timerfdCreate : Option Int32} {epollCtl : Int32}
    {pc : CallPc} (done : createSection state party timerfdCreate epollCtl pc = some next) :
    Exists fun call => Exists fun result => CreateStep state next party call result := by
  rcases createSection_done done with ⟨cb, rfl, free, possible, rfl⟩
  exact ⟨_, _, ⟨rfl, rfl⟩, free, ⟨rfl, possible, inv.tidy⟩, rfl, rfl⟩

namespace CreateStep

variable {result : Option (Int32 × Nat)} (created : CreateStep state next party call result)
include created

theorem timer : next.system.timer =
    (addTimerEventSection state.system.timer call.cb call.timerfdCreate call.epollCtl).2 := by
  rw [← created.inside, ← created.before, created.noted.made]

theorem same : next.system.timer.isInit = state.system.timer.isInit ∧
    next.system.timer.maxEventNum = state.system.timer.maxEventNum ∧
    next.system.timer.epollfd = state.system.timer.epollfd := by
  rw [created.timer]
  exact addTimerEventSection_same ..

theorem possible (isFd : fd ∈ call.timerfdCreate) : CanCreate state.system.timer fd := by
  rw [← created.before]
  exact created.noted.possible fd isFd

theorem keeps : Keeps state.system.timer next.system.timer := by
  have tidy := created.noted.tidy
  rw [created.before] at tidy
  rw [created.timer]
  exact tidy.section_all fun _ isFd => created.possible isFd

theorem sized (sized : Sized state.system.timer) : Sized next.system.timer :=
  sized.congr created.same

/-- A descriptor that found no free slot is a new one, and it is in nobody's way. -/
theorem discarded (isFound : result = some (fd, i)) (full : ¬ call.HasRoom) :
    CanCreate state.system.timer fd ∧ Stray next.system.timer fd := by
  subst isFound
  rcases created.noted.created with ⟨isFd, _, inside⟩
  have canCreate := created.noted.possible fd isFd
  refine ⟨created.possible isFd, ?_⟩
  rw [← created.inside, inside]
  exact created.noted.tidy.section_stray canCreate full

/-- A descriptor that found a free slot is in it, and the module is initialised. -/
theorem stored (sized : Sized state.system.timer) (isFound : result = some (fd, i))
    (hasRoom : call.HasRoom) :
    next.system.timer.isInit = true ∧ call.Stored next.system.timer fd i := by
  subst isFound
  rcases created.noted.created with ⟨isFd, rfl, inside⟩
  constructor
  · rw [created.same.1]
    by_contra notInit
    have empty := (sized.down (Bool.eq_false_iff.mpr notInit)).1
    have below : call.before.findSlot (-1) < call.before.maxEventNum := hasRoom
    rw [created.before, empty] at below
    cases below
  · rw [← created.inside, inside]
    exact created.noted.tidy.section_stored (created.noted.possible fd isFd) rfl rfl hasRoom

end CreateStep

theorem AddInv.created (inv : AddInv state) {timerfdCreate : Option Int32} {epollCtl : Int32}
    {pc : CallPc} (isPc : state.system.calls party = some pc)
    (done : createSection state party timerfdCreate epollCtl pc = some next) : AddInv next := by
  have mutexes := inv.mutexes.called isPc (createSection_moved done)
  rcases inv.createStep done with ⟨call, result, created⟩
  have step := created.step
  have keeps := created.keeps
  refine ⟨mutexes, keeps.tidy, created.sized inv.sized, ?_, ?_, ?_, ?_, ?_, ?_⟩
  · refine inv.passed_step step.calls created.same.1.trans ?_
    intro pc isNew
    cases isNew
    exact trivial
  · apply step.noted inv
    intro found added
    cases added
    exact created.noted
  · intro other otherCall fd i otherPc noted hasRoom
    by_cases isParty : other = party
    · subst isParty
      have samePc := Option.some.inj (step.ownPc.symm.trans otherPc)
      cases step.ownAdd.symm.trans noted
      simp only [CallPc.unlockTable.injEq, TableResult.added.injEq] at samePc
      exact created.stored inv.sized samePc hasRoom
    · rw [step.otherCalls isParty] at otherPc
      exact absurd otherPc (inv.notLocked created.free)
  · intro other otherCall fd i otherPc noted
    by_cases isParty : other = party
    · subst isParty
      cases step.ownPc.symm.trans otherPc
    · rw [step.otherCalls isParty] at otherPc
      rw [step.otherAdds isParty] at noted
      exact inv.released other otherCall fd i otherPc noted
  · intro other otherCall fd discards
    rcases step.discards discards with ⟨rfl, rfl, ⟨i, added⟩, full⟩ | ⟨_, discarded⟩
    · rw [created.inside]
      exact ⟨(created.discarded (Option.some.inj added) full).2, rfl⟩
    · rcases inv.stray other otherCall fd discarded with ⟨stray, file⟩
      exact ⟨keeps.stray fd stray, (keeps.file fd stray).trans file⟩
  · -- The new descriptor is none that another call still has to discard.
    have fresh : forall {other otherCall fd i}, result = some (fd, i) -> ¬ call.HasRoom ->
        ¬ state.Discards other otherCall fd := fun isFound full discarded =>
      (inv.stray _ _ _ discarded).1.not_created (created.discarded isFound full).1 rfl
    intro first second firstCall secondCall fd isFirst isSecond
    rcases step.discards isFirst with ⟨rfl, rfl, ⟨i, added⟩, full⟩ | ⟨_, firstDiscards⟩
    · rcases step.discards isSecond with ⟨rfl, _⟩ | ⟨_, secondDiscards⟩
      · rfl
      · exact absurd secondDiscards (fresh (Option.some.inj added) full)
    · rcases step.discards isSecond with ⟨rfl, rfl, ⟨i, added⟩, full⟩ | ⟨_, secondDiscards⟩
      · exact absurd firstDiscards (fresh (Option.some.inj added) full)
      · exact inv.apart first second firstCall secondCall fd firstDiscards secondDiscards

/-! ## The other steps -/

theorem deleteTimerEventLocked_same (timer : TimerState) (timerFd : Int32) :
    (deleteTimerEventLocked timer timerFd).isInit = timer.isInit ∧
    (deleteTimerEventLocked timer timerFd).maxEventNum = timer.maxEventNum ∧
    (deleteTimerEventLocked timer timerFd).epollfd = timer.epollfd := by
  simp only [deleteTimerEventLocked]
  split <;> exact ⟨rfl, rfl, rfl⟩

theorem takeInit_done {system after : System} {pc' : CallPc}
    (done : takeInit system party pc' = some after) :
    after = { system.setCall party (some pc') with initMutex := some party } := by
  unfold takeInit at done
  split at done
  next => exact (Option.some.inj done).symm
  next => cases done

/-- A step of a call, with a condition only where it returns from the comparison. -/
theorem AddInv.advanced (inv : AddInv state) {pc : CallPc} {system : System}
    (isPc : state.system.calls party = some pc) (fits : SizeFits state (.other (.advance party)))
    (done : advanceCall state.system party pc = some system) :
    AddInv ⟨system, state.noted (.advance party)⟩ := by
  rcases advanceCall_moved done with ⟨pc', moved⟩
  have mutexes := inv.mutexes.called isPc moved
  have passed := inv.passed party pc isPc
  have adds : state.noted (.advance party) = match some pc with
      | some (.unlockTable (.added _)) => Function.update state.adds party
          ((state.adds party).map (fun call => { call with released := state.system.timer }))
      | _ => state.adds := by
    simp only [AddSystem.noted, isPc]
  rw [adds]
  have quiet : forall {pc' : Option CallPc} {isRunning : Bool},
      system.calls = Function.update state.system.calls party pc' ->
      system.timer = { state.system.timer with isRunning := isRunning } ->
      (forall pc, pc ∈ pc' -> pc.added = none ∧ pc.Passed state.system.timer) ->
      AddInv ⟨system, state.adds⟩ := fun calls timer fine =>
    inv.quiet calls rfl timer mutexes (fun pc isNew => (fine pc isNew).1) (fun pc isNew => (fine pc isNew).2)
  have ends : forall pc, pc ∈ (none : Option CallPc) -> pc.added = none ∧ pc.Passed state.system.timer := by
    rintro pc ⟨⟩
  have goes : forall {pc' : CallPc}, pc'.added = none -> pc'.Passed state.system.timer ->
      forall pc, pc ∈ some pc' -> pc.added = none ∧ pc.Passed state.system.timer := by
    rintro pc' notAdded isPassed pc ⟨⟩
    exact ⟨notAdded, isPassed⟩
  cases pc with
  | lockInit call =>
      cases takeInit_done done
      refine quiet rfl rfl (goes rfl ?_)
      cases call with
      | add cb => exact trivial
      | delete timerFd => exact passed
  | testInit call =>
      cases done
      refine quiet rfl rfl ?_
      split
      · refine goes rfl ?_
        cases call with
        | add cb => exact trivial
        | delete timerFd => exact passed
      · exact ends
  | lockTable call =>
      cases call with
      | add cb => cases done
      | delete timerFd =>
          have same := deleteTimerEventLocked_same state.system.timer timerFd
          refine inv.taken done rfl (inv.tidy.deleteLocked passed) (inv.sized.congr same) mutexes rfl ?_
          cases (takeTable_done done).2
          apply inv.passed_step rfl same.1.trans
          rintro pc ⟨⟩
          exact trivial
  | unlockTable result =>
      cases done
      cases result with
      | added result =>
          exact inv.unlocked isPc rfl rfl mutexes rfl
      | deleted timer =>
          exact quiet rfl rfl (goes rfl trivial)
  | returning result =>
      cases done
      cases result with
      | added result =>
          cases result with
          | none =>
              exact quiet rfl rfl ends
          | some found =>
              rcases inv.noted party _ _ isPc rfl with ⟨call, noted, _⟩
              exact inv.returned isPc noted (fits found isPc call noted) rfl rfl
                mutexes rfl
      | deleted timer =>
          exact quiet rfl rfl ends
  | deinitLock =>
      cases takeInit_done done
      exact quiet rfl rfl (goes rfl trivial)
  | deinitTest =>
      simp only [advanceCall] at done
      split at done
      next isInit =>
        cases done
        have joins : forall pc, pc ∈ some CallPc.deinitJoin ->
            pc.added = none ∧ pc.Passed state.system.timer := goes rfl isInit
        refine quiet ?_ (settime_timer _) joins
        exact congrArg (fun calls => Function.update calls party _) (settime_locks _ _).1
      next =>
        cases done
        exact quiet rfl rfl ends
  | deinitJoin =>
      simp only [advanceCall] at done
      split at done
      next =>
        cases done
        exact quiet rfl rfl (goes rfl passed)
      next => cases done
  | deinitLockTable =>
      have downs := inv.tidy.deinitLocked (inv.sized.running passed)
      refine inv.taken done rfl downs.keeps downs.sized mutexes rfl ?_
      cases (takeTable_done done).2
      intro other pc otherPc
      by_cases isParty : other = party
      · cases (Function.update_self party _ state.system.calls).symm.trans (isParty ▸ otherPc)
        exact trivial
      · have wasPc : state.system.calls other = some pc :=
          (Function.update_of_ne isParty _ _).symm.trans otherPc
        have notInit : ¬ state.system.HoldsInit other := fun holds =>
          isParty (inv.mutexes.initOwner.unique holds ((holdsInit_iff isPc).mpr rfl))
        cases pc with
        | deinitJoin | deinitLockTable => exact absurd ((holdsInit_iff wasPc).mpr rfl) notInit
        | lockInit call | testInit call | lockTable call =>
            cases call with
            | add cb => exact trivial
            | delete timerFd => exact inv.passed other _ wasPc
        | unlockTable | returning | deinitLock | deinitTest | deinitUnlock | initLock | initBody =>
            exact trivial
  | deinitUnlock =>
      cases done
      exact quiet rfl rfl ends
  | initLock maxEventNum =>
      cases takeInit_done done
      exact quiet rfl rfl (goes rfl trivial)
  | initBody maxEventNum => cases done

theorem possibleCall_of_canInit {timer : TimerState} {maxEventNum : Int32} {outcome : InitOutcome}
    (possible : timer.canInit outcome = true) : PossibleCall timer (.init maxEventNum outcome) := by
  intro epollfd isEpoll
  simp only [TimerState.canInit, TimerState.canCreate, Option.all_eq_true, Bool.and_eq_true,
    decide_eq_true_eq, Option.isNone_iff_eq_none, bne_iff_ne] at possible
  exact possible epollfd isEpoll

/-- `InitTimerEventManage` under `g_initMutex`. -/
theorem AddInv.initialised (inv : AddInv state) {outcome : InitOutcome} {pc : CallPc} {system : System}
    (isPc : state.system.calls party = some pc)
    (done : initialiseStep state.system party outcome pc = some system) :
    AddInv ⟨system, state.adds⟩ := by
  have mutexes := inv.mutexes.called isPc (initialiseStep_moved done)
  have nothing : forall pc, pc ∈ (none : Option CallPc) -> pc.added = none := by
    rintro pc ⟨⟩
  unfold initialiseStep at done
  split at done
  next maxEventNum =>
    split at done
    next possible =>
      have calls : system.calls = Function.update state.system.calls party none := by
        cases done
        rfl
      have timer : system.timer = (initTimerEventManage state.system.timer maxEventNum outcome).2 := by
        cases done
        rfl
      cases isInit : state.system.timer.isInit with
      | true =>
          rw [initTimerEventManage, if_pos isInit] at timer
          exact inv.quiet calls rfl timer mutexes nothing (by rintro pc ⟨⟩)
      | false =>
          rw [initTimerEventManage, if_neg (by simp [isInit])] at timer
          have possibleCall : PossibleCall state.system.timer (.init maxEventNum outcome) :=
            possibleCall_of_canInit possible
          have starts := inv.tidy.initFresh inv.sized isInit possibleCall
          rw [← timer] at starts
          refine inv.framed ⟨rfl, calls_step nothing calls, starts.keeps.tidy, ?_, ?_⟩ mutexes
            starts.sized (inv.passed_step calls (fun wasInit => absurd (isInit.symm.trans wasInit)
              Bool.false_ne_true) (by rintro pc ⟨⟩))
          · exact fun _ _ fd _ stray => ⟨starts.keeps.stray fd stray, starts.keeps.file fd stray⟩
          · exact fun _ wasInit => absurd (isInit.symm.trans wasInit) Bool.false_ne_true
    next => cases done
  next => cases done

/-- A step that moves no call of the module. -/
theorem AddInv.elsewhere (inv : AddInv state) {system : System} (mutexes : MutexInv system)
    (calls : system.calls = state.system.calls) (timer : system.timer = state.system.timer) :
    AddInv ⟨system, state.adds⟩ := by
  refine inv.framed ⟨rfl, ?_, ?_, ?_, ?_⟩ mutexes ?_ ?_
  · intro party pc isPc _
    exact calls ▸ isPc
  · exact timer ▸ inv.tidy
  · intro _ _ fd _ stray
    simp only [timer]
    exact ⟨stray, trivial⟩
  · intro _ stillInit
    simp only [timer]
    exact ⟨stillInit, trivial, trivial, trivial, trivial⟩
  · exact timer ▸ inv.sized
  · intro party pc isPc
    rw [calls] at isPc
    simp only [timer]
    exact inv.passed party pc isPc

theorem AddInv.begun (inv : AddInv state) {request : Request} (mutexes : MutexInv (beginCall state.system party request)) :
    AddInv ⟨beginCall state.system party request, state.adds⟩ := by
  have goes : forall {pc' : CallPc}, pc'.added = none -> pc'.Passed state.system.timer ->
      MutexInv (state.system.setCall party (some pc')) ->
      AddInv ⟨state.system.setCall party (some pc'), state.adds⟩ := by
    intro pc' notAdded passed isMutex
    have calls : (AddSystem.mk (state.system.setCall party (some pc')) state.adds).system.calls =
        Function.update state.system.calls party (some pc') := rfl
    refine inv.quiet calls rfl rfl isMutex ?_ ?_
    · rintro pc ⟨⟩
      exact notAdded
    · rintro pc ⟨⟩
      exact passed
  cases request with
  | add cb =>
      cases cb with
      | none => exact inv.elsewhere mutexes rfl rfl
      | some cb => exact goes rfl trivial mutexes
  | delete timerFd =>
      simp only [beginCall] at mutexes ⊢
      split at mutexes
      next negative =>
        rw [if_pos negative]
        exact inv.elsewhere mutexes rfl rfl
      next notNegative =>
        rw [if_neg notNegative]
        refine goes rfl ?_ mutexes
        rintro rfl
        exact notNegative (by decide)
  | set timerFd startTime period =>
      simp only [beginCall] at mutexes ⊢
      split at mutexes
      next negative =>
        rw [if_pos negative]
        exact inv.elsewhere mutexes rfl rfl
      next notNegative =>
        rw [if_neg notNegative]
        exact inv.elsewhere mutexes (settime_locks _ _).1 (settime_timer _)
  | init maxEventNum => exact goes rfl trivial mutexes
  | deinit => exact goes rfl trivial mutexes

theorem AddInv.step (inv : AddInv state) {label : AddLabel} (fits : SizeFits state label)
    (stepped : addSystemStep state label = some next) : AddInv next := by
  cases label with
  | create party timerfdCreate epollCtl =>
      rcases Option.bind_eq_some_iff.mp stepped with ⟨pc, isPc, done⟩
      exact inv.created isPc done
  | other label =>
      cases label with
      | create party timerfdCreate => cases stepped
      | begin party request =>
          rcases Option.map_eq_some_iff.mp stepped with ⟨system, done, rfl⟩
          have mutexes := inv.mutexes.step done
          simp only [systemStep] at done
          split at done
          next =>
            cases done
            exact inv.begun mutexes
          next => cases done
      | advance party =>
          rcases Option.map_eq_some_iff.mp stepped with ⟨system, done, rfl⟩
          rcases Option.bind_eq_some_iff.mp done with ⟨pc, isPc, advanced⟩
          exact inv.advanced isPc fits advanced
      | initialise party outcome =>
          rcases Option.map_eq_some_iff.mp stepped with ⟨system, done, rfl⟩
          rcases Option.bind_eq_some_iff.mp done with ⟨pc, isPc, initialised⟩
          exact inv.initialised isPc initialised
      | handler label =>
          rcases Option.map_eq_some_iff.mp stepped with ⟨system, done, rfl⟩
          have moved := handlerStep_moved done
          exact inv.elsewhere (inv.mutexes.handled moved) moved.calls moved.timer
      | expire timer =>
          rcases Option.map_eq_some_iff.mp stepped with ⟨system, done, rfl⟩
          have mutexes := inv.mutexes.step done
          simp only [systemStep, expireStep] at done
          split at done
          next =>
            cases done
            exact inv.elsewhere mutexes rfl rfl
          next => cases done

/-! ## The law of one step -/

theorem undone_none (timer : next.system.timer = state.system.timer) : Undone state next none := by
  refine ⟨by rintro call ⟨⟩, ?_, by rintro call ⟨⟩⟩
  rw [timer]
  exact ⟨rfl, rfl⟩

/-- A call that has created nothing. -/
theorem AddCall.Noted.unchanged (noted : call.Noted none) :
    call.timerfdCreate = none ∧ call.inside = call.before := by
  have made := noted.made
  cases created : call.timerfdCreate with
  | none =>
      rw [created] at made
      exact ⟨rfl, (congrArg Prod.snd made).symm⟩
  | some timerFd =>
      rw [created] at made
      have found := congrArg (fun result => result.1.isSome) made
      simp only [addTimerEventSection] at found
      split at found <;> cases found

/-- A call that found a free slot has put its descriptor there. -/
theorem AddCall.Noted.room (noted : call.Noted (some (fd, i))) (hasRoom : call.HasRoom) :
    call.inside.eventInfo ≠ call.before.eventInfo := by
  rcases noted.created with ⟨isCreate, rfl, inside⟩
  have canCreate := noted.possible fd isCreate
  have stored : call.Stored call.inside fd (call.before.findSlot (-1)) := by
    rw [inside]
    exact noted.tidy.section_stored canCreate rfl rfl hasRoom
  intro same
  have isFree := TimerState.findSlot_found hasRoom
  have info := stored.info
  rw [same] at info
  have isFd : call.before.timerFd (call.before.findSlot (-1)) = fd := by
    rw [TimerState.timerFd, info]
  exact canCreate.notNone (isFd.symm.trans isFree)

theorem AddCall.Noted.full (noted : call.Noted (some (fd, i))) (full : ¬ call.HasRoom) :
    call.inside.eventInfo = call.before.eventInfo ∧
      call.inside.fds.watches = call.before.fds.watches ∧ i = call.before.maxEventNum := by
  rcases noted.created with ⟨_, rfl, inside⟩
  rw [inside, addTimerEventSection_full full]
  exact ⟨rfl, rfl, Nat.le_antisymm TimerState.findSlot_le (Nat.not_lt.mp full)⟩

/-- The comparison decides whether the return value is right. -/
theorem AddInv.law_iff (inv : AddInv state)
    (isPc : state.system.calls party = some (.returning (.added (some (fd, i)))))
    (noted : state.adds party = some call) :
    AllOrNothing state (.other (.advance party)) <-> call.Fits state.system.timer.maxEventNum := by
  rcases inv.noted party _ _ isPc rfl with ⟨own, isOwn, ownNoted⟩
  cases isOwn.symm.trans noted
  have canCreate := ownNoted.possible fd ownNoted.created.1
  have finished : state.finished (.other (.advance party)) =
      some ((addTimerEventUnlocked state.system.timer fd i).1, some call) := by
    simp only [AddSystem.finished, isPc, noted]
  have stepped : addSystemStep state (.other (.advance party)) =
      some ⟨finishCall state.system party (.added (some (fd, i))), state.noted (.advance party)⟩ := by
    simp only [addSystemStep, systemStep, isPc, Option.bind_some, advanceCall, Option.map_some]
  have law : AllOrNothing state (.other (.advance party)) <->
      (0 ≤ (addTimerEventUnlocked state.system.timer fd i).1 ->
        call.Registered (addTimerEventUnlocked state.system.timer fd i).1) ∧
      ((addTimerEventUnlocked state.system.timer fd i).1 = -1 ->
        Undone state ⟨finishCall state.system party (.added (some (fd, i))),
          state.noted (.advance party)⟩ (some call)) := by
    constructor
    · intro holds
      have here := holds _ _ _ stepped finished
      refine ⟨fun succeeds => ?_, here.2⟩
      rcases here.1 succeeds with ⟨other, isCall, registered⟩
      cases isCall
      exact registered
    · intro holds next returned other isNext isReturned
      cases stepped.symm.trans isNext
      cases finished.symm.trans isReturned
      exact ⟨fun succeeds => ⟨call, rfl, holds.1 succeeds⟩, holds.2⟩
  rw [law]
  have released := inv.released party call fd i isPc noted
  have notNegative : fd ≠ -1 := canCreate.notNone
  by_cases atEnd : i = state.system.timer.maxEventNum
  · have unlocked : addTimerEventUnlocked state.system.timer fd i =
        (-1, { state.system.timer with fds := state.system.timer.fds.close fd }) := if_pos atEnd
    rw [unlocked]
    have negative : ¬ (0 : Int32) ≤ -1 := by decide
    by_cases hasRoom : call.HasRoom
    · apply iff_of_false
      · exact fun holds => ownNoted.room hasRoom ((holds.2 rfl).table call rfl).1
      · intro fits
        rw [ownNoted.created.2.1] at atEnd
        exact (fits.1 hasRoom).2 atEnd.symm
    · rcases ownNoted.full hasRoom with ⟨info, watches, isSize⟩
      rcases inv.stray party call fd ⟨⟨_, i, isPc, rfl⟩, noted, hasRoom⟩ with ⟨stray, file⟩
      apply iff_of_true
      · refine ⟨fun nonnegative => absurd nonnegative negative, fun _ => ⟨?_, ?_, ?_⟩⟩
        · rintro other ⟨⟩
          exact ⟨info, watches⟩
        · simp only [finishCall, unlocked]
          exact ⟨trivial, (inv.tidy.closeStray stray).2.1⟩
        · rintro other ⟨⟩ created isCreated
          cases ownNoted.created.1.symm.trans isCreated
          refine ⟨file, ?_⟩
          simp only [finishCall, unlocked, Descriptors.file_close, if_true]
      · exact ⟨fun room => absurd room hasRoom, fun _ => atEnd.symm.trans isSize⟩
  · have unlocked : addTimerEventUnlocked state.system.timer fd i = (fd, state.system.timer) :=
      if_neg atEnd
    rw [unlocked]
    by_cases hasRoom : call.HasRoom
    · have stored := released.1 hasRoom
      constructor
      · intro holds
        refine ⟨fun _ => ⟨stored.watched.mp (holds.1 canCreate.1).2, ?_⟩, fun full => absurd hasRoom full⟩
        rw [← ownNoted.created.2.1]
        exact Ne.symm atEnd
      · intro fits
        refine ⟨fun _ => ⟨⟨i, stored.inside, stored.info⟩, ?_⟩, fun isNone => absurd isNone notNegative⟩
        exact stored.watched.mpr (fits.1 hasRoom).1
    · apply iff_of_false
      · intro holds
        rcases (holds.1 canCreate.1).1 with ⟨j, inside, info⟩
        refine released.2 hasRoom j ⟨inside, ?_, notNegative⟩
        rw [TimerState.timerFd, info]
      · intro fits
        rw [(ownNoted.full hasRoom).2.2] at atEnd
        exact atEnd (fits.2 hasRoom).symm

theorem allOrNothing_of_running {label : AddLabel} (running : state.finished label = none) :
    AllOrNothing state label := by
  intro next returned noted _ finished
  rw [running] at finished
  cases finished

/-- A call that returns `-1` without having created anything. -/
theorem allOrNothing_of_failed {label : AddLabel} {noted : Option AddCall}
    (finished : state.finished label = some (-1, noted))
    (undone : forall next, addSystemStep state label = some next -> Undone state next noted) :
    AllOrNothing state label := by
  intro next returned other stepped isReturned
  cases finished.symm.trans isReturned
  exact ⟨fun nonnegative => absurd nonnegative (by decide), fun _ => undone next stepped⟩

/-- A step other than the return from the comparison is as it should be. -/
theorem AddInv.law_advance (inv : AddInv state) {pc : CallPc}
    (isPc : state.system.calls party = some pc)
    (notCompared : forall found, pc ≠ .returning (.added (some found))) :
    AllOrNothing state (.other (.advance party)) := by
  have stepped : addSystemStep state (.other (.advance party)) =
      (advanceCall state.system party pc).map (fun next => ⟨next, state.noted (.advance party)⟩) := by
    simp only [addSystemStep, systemStep, isPc, Option.bind_some]
  cases pc with
  | testInit call =>
      cases call with
      | add cb =>
          by_cases isInit : state.system.timer.isInit = true
          · apply allOrNothing_of_running
            simp only [AddSystem.finished, isPc, if_pos isInit]
          · have finished : state.finished (.other (.advance party)) = some (-1, none) := by
              simp only [AddSystem.finished, isPc, if_neg isInit]
            apply allOrNothing_of_failed finished
            intro next isNext
            rw [stepped] at isNext
            cases isNext
            exact undone_none rfl
      | delete timerFd =>
          apply allOrNothing_of_running
          simp only [AddSystem.finished, isPc]
  | returning result =>
      cases result with
      | added result =>
          cases result with
          | none =>
              rcases inv.noted party _ _ isPc rfl with ⟨call, noted, isNoted⟩
              rcases isNoted.unchanged with ⟨notCreated, same⟩
              apply allOrNothing_of_failed
              · simp only [AddSystem.finished, isPc, noted]
                rfl
              · intro next isNext
                rw [stepped] at isNext
                cases isNext
                refine ⟨?_, ⟨rfl, rfl⟩, ?_⟩
                · rintro other ⟨⟩
                  rw [same]
                  exact ⟨rfl, rfl⟩
                · rintro other ⟨⟩ fd created
                  rw [notCreated] at created
                  cases created
          | some found => exact absurd rfl (notCompared found)
      | deleted timer =>
          apply allOrNothing_of_running
          simp only [AddSystem.finished, isPc]
  | lockInit | lockTable | unlockTable | deinitLock | deinitTest | deinitJoin | deinitLockTable
  | deinitUnlock | initLock | initBody =>
      apply allOrNothing_of_running
      simp only [AddSystem.finished, isPc]

theorem AddInv.law (inv : AddInv state) (label : AddLabel) :
    AllOrNothing state label <-> SizeFits state label := by
  cases label with
  | create party timerfdCreate epollCtl => exact iff_of_true (allOrNothing_of_running rfl) trivial
  | other label =>
      cases label with
      | begin party request =>
          refine iff_of_true ?_ trivial
          cases request with
          | add cb =>
              cases cb with
              | none =>
                  apply allOrNothing_of_failed rfl
                  intro next stepped
                  rcases Option.map_eq_some_iff.mp stepped with ⟨system, done, rfl⟩
                  simp only [systemStep] at done
                  split at done
                  · cases done
                    exact undone_none rfl
                  · cases done
              | some cb => exact allOrNothing_of_running rfl
          | delete | set | init | deinit => exact allOrNothing_of_running rfl
      | advance party =>
          by_cases compared : Exists fun found =>
              state.system.calls party = some (.returning (.added (some found)))
          · rcases compared with ⟨⟨fd, i⟩, isPc⟩
            rcases inv.noted party _ _ isPc rfl with ⟨call, noted, _⟩
            rw [inv.law_iff isPc noted]
            constructor
            · intro fits found _ other isCall
              cases noted.symm.trans isCall
              exact fits
            · exact fun fits => fits (fd, i) isPc call noted
          · refine iff_of_true ?_ (fun found isPc => absurd ⟨found, isPc⟩ compared)
            cases isPc : state.system.calls party with
            | none =>
                apply allOrNothing_of_running
                simp only [AddSystem.finished, isPc]
            | some pc =>
                apply inv.law_advance isPc
                rintro found rfl
                exact compared ⟨found, isPc⟩
      | create | initialise | handler | expire => exact iff_of_true (allOrNothing_of_running rfl) trivial

end Steps

/-! ## Runs -/

theorem addInv_initial : AddInv AddSystem.initial := by
  have notHeld : forall party pc, AddSystem.initial.system.calls party ≠ some pc := by
    rintro party pc ⟨⟩
  refine ⟨⟨?_, ?_, ?_, ?_, fun _ => rfl⟩, ?_, ?_, ?_, ?_, ?_, ?_, ?_, ?_⟩
  · intro party
    simp [AddSystem.initial, System.started, System.HoldsInit]
  · intro party
    simp [AddSystem.initial, System.started, System.HoldsTable, HandlerPc.holdsTable]
  · exact fun calling => absurd rfl calling
  · rintro party (isPc | isPc)
    · exact absurd isPc (notHeld party _)
    · exact absurd isPc (notHeld party _)
  · exact tidy_of_empty (fun i fd => not_has_of_size rfl) (fun notNone => absurd rfl notNone)
      (fun _ _ => rfl)
  · exact ⟨fun _ => ⟨rfl, rfl⟩, fun isInit => absurd isInit Bool.false_ne_true⟩
  · exact fun party pc isPc => absurd isPc (notHeld party pc)
  · exact fun party pc _ isPc => absurd isPc (notHeld party pc)
  · exact fun party _ _ _ isPc => absurd isPc (notHeld party _)
  · exact fun party _ _ _ isPc => absurd isPc (notHeld party _)
  · rintro party call fd ⟨⟨pc, i, isPc, _⟩, _⟩
    exact absurd isPc (notHeld party pc)
  · rintro party other call otherCall fd ⟨⟨pc, i, isPc, _⟩, _⟩
    exact absurd isPc (notHeld party pc)

/-- In every run every call of `AddTimerEvent` is all or nothing exactly if every comparison with
`g_maxEventNum` tells whether there was a free slot, and `epoll_ctl` succeeds where there was one. -/
theorem addTimerEvent_allOrNothing_iff (labels : List AddLabel) :
    addMachine.AllSteps AllOrNothing AddSystem.initial labels <->
      addMachine.AllSteps SizeFits AddSystem.initial labels := by
  have decides : forall (state : AddSystem) (label : AddLabel), AddInv state -> True ->
      (AllOrNothing state label <-> SizeFits state label) :=
    fun state label inv _ => inv.law label
  have kept : forall (state : AddSystem) (label : AddLabel) (next : AddSystem), AddInv state -> True ->
      SizeFits state label -> addMachine.step state label = some next -> AddInv next :=
    fun state label next inv _ fits stepped => inv.step fits stepped
  exact addMachine.allSteps_iff decides kept addInv_initial
    (addMachine.allSteps_of_forall (fun _ _ => trivial) _ labels)

/-- The epoll set takes the heartbeat timer, and then has no room for another one. -/
def unwatchedTimer : List AddLabel :=
  [.other (.begin (.thread 0) (.init 2)), .other (.advance (.thread 0)),
    .other (.initialise (.thread 0) ⟨some 3, some 4, 0, 0⟩),
    .other (.begin (.thread 0) (.add (some (.client 0)))), .other (.advance (.thread 0)),
    .other (.advance (.thread 0)), .create (.thread 0) (some 5) 28, .other (.advance (.thread 0))]

/-- The call then returns the descriptor of a timer that is not in the epoll set. -/
theorem unwatchedTimer_returned : Exists fun state =>
    addMachine.run AddSystem.initial unwatchedTimer = some state ∧
      ¬ AllOrNothing state (.other (.advance (.thread 0))) := by
  have ran : (addMachine.run AddSystem.initial unwatchedTimer).any (fun state =>
      (addSystemStep state (.other (.advance (.thread 0)))).isSome &&
        (state.finished (.other (.advance (.thread 0)))).any (fun result => decide (result.1 = 5) &&
          result.2.all (fun call => !call.released.fds.watches call.released.epollfd 5))) = true := by
    decide +kernel
  rcases (Option.any_eq_true _ _).mp ran with ⟨state, same, holds⟩
  rcases Bool.and_eq_true_iff.mp holds with ⟨possible, finished⟩
  rcases Option.isSome_iff_exists.mp possible with ⟨next, stepped⟩
  rcases (Option.any_eq_true _ _).mp finished with ⟨⟨returned, noted⟩, isReturned, facts⟩
  rcases Bool.and_eq_true_iff.mp facts with ⟨isFive, unwatched⟩
  refine ⟨state, same, fun law => ?_⟩
  have value : returned = 5 := of_decide_eq_true isFive
  subst value
  rcases (law next 5 noted stepped isReturned).1 (by decide) with ⟨call, isCall, _, watched⟩
  have notWatched := (Option.all_eq_true _ _).mp unwatched call isCall
  rw [watched] at notWatched
  cases notWatched

end Timer
end V2x
