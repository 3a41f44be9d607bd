import Mathlib.Data.List.Basic
import V2x.Foundations.Descriptors

namespace V2x
namespace Timer

open Foundations

/-!
# The timer module `timer_event_manage.c`

The static variables and the descriptors of the module are one state.  The
functions are cut where they take and release a mutex: what stands between
`pthread_mutex_lock` and `pthread_mutex_unlock` is one definition, and a whole
call is put together from these pieces.

The results of the system calls are arguments.  A descriptor that a call of the
system creates is `none` where it fails.
-/

/-- `TIMER_EVENT_NUM_MAX`. -/
def timerEventNumMax : Nat := 10

/-- `TimerEventProcCb`: the callback of the module itself, or one of the
program's. -/
inductive TimerEventProcCb where
  | timerEventManageHeartbeatCb
  | client (index : Nat)
deriving DecidableEq, Repr

structure TimerEventManageInfo where
  timerFd : Int32
  cb : Option TimerEventProcCb
deriving DecidableEq, Repr

/-- The static variables, and the descriptors that the module has open. -/
structure TimerState where
  isInit : Bool
  eventInfo : Nat -> TimerEventManageInfo
  isRunning : Bool
  maxEventNum : Nat
  epollfd : Int32
  fds : Descriptors Int32

/-- Static variables without an initialiser are zero. -/
def timerStatics : TimerState where
  isInit := false
  eventInfo := fun _ => ⟨0, none⟩
  isRunning := false
  maxEventNum := 0
  epollfd := -1
  fds := Descriptors.empty

namespace TimerState

def setSlot (state : TimerState) (i : Nat) (info : TimerEventManageInfo) : TimerState :=
  { state with eventInfo := Function.update state.eventInfo i info }

/-- `timerFd` of a slot. -/
def timerFd (state : TimerState) (i : Nat) : Int32 :=
  (state.eventInfo i).timerFd

/-- The index at which a loop over `g_eventInfo` stops that looks for this
descriptor. -/
def findSlot (state : TimerState) (timerFd : Int32) : Nat :=
  (List.range state.maxEventNum).findIdx (fun i => decide (state.timerFd i = timerFd))

end TimerState

/-! ## Adding, deleting and setting a timer -/

/-- `AddTimerEvent` under `g_eventInfoMutex`: the new descriptor and the index
at which the loop stopped. -/
def addTimerEventLocked (state : TimerState) (cb : TimerEventProcCb) (timerfdCreate : Option Int32) :
    Option (Int32 × Nat) × TimerState :=
  match timerfdCreate with
  | none => (none, state)
  | some timerFd =>
      let state := { state with fds := state.fds.create timerFd }
      let i := state.findSlot (-1)
      if i < state.maxEventNum then
        (some (timerFd, i),
          { state.setSlot i ⟨timerFd, some cb⟩ with
            fds := state.fds.watch state.epollfd timerFd })
      else (some (timerFd, i), state)

/-- `AddTimerEvent` after the mutex. -/
def addTimerEventUnlocked (state : TimerState) (timerFd : Int32) (i : Nat) : Int32 × TimerState :=
  if i = state.maxEventNum then (-1, { state with fds := state.fds.close timerFd })
  else (timerFd, state)

/-- `AddTimerEvent`. -/
def addTimerEvent (state : TimerState) (cb : Option TimerEventProcCb)
    (timerfdCreate : Option Int32) : Int32 × TimerState :=
  match cb with
  | none => (-1, state)
  | some cb =>
      if ¬ state.isInit then (-1, state)
      else
        match addTimerEventLocked state cb timerfdCreate with
        | (none, state) => (-1, state)
        | (some (timerFd, i), state) => addTimerEventUnlocked state timerFd i

/-- The descriptor of a slot leaves the epoll set and is closed. -/
def TimerState.release (state : TimerState) (i : Nat) : TimerState :=
  { state.setSlot i ⟨-1, none⟩ with
    fds := (state.fds.unwatch state.epollfd (state.timerFd i)).close (state.timerFd i) }

/-- `DeleteTimerEvent` under `g_eventInfoMutex`. -/
def deleteTimerEventLocked (state : TimerState) (timerFd : Int32) : TimerState :=
  let i := state.findSlot timerFd
  if i < state.maxEventNum then state.release i else state

/-- `DeleteTimerEvent`. -/
def deleteTimerEvent (state : TimerState) (timerFd : Int32) : Int32 × TimerState :=
  if timerFd < 0 then (-1, state)
  else if ¬ state.isInit then (-1, state)
  else (0, deleteTimerEventLocked state timerFd)

/-! ## Starting and stopping the module -/

/-- `DeinitTimerEventManageCore`. -/
def deinitTimerEventManageCore (state : TimerState) : TimerState :=
  let state := if state.timerFd 0 ≠ -1 then state.release 0 else state
  let state :=
    if state.epollfd ≠ -1 then
      { state with fds := state.fds.close state.epollfd, epollfd := -1 }
    else state
  { state with maxEventNum := 0, isInit := false }

/-- `InitTimerEventManageData`. -/
def initTimerEventManageData (state : TimerState) : TimerState :=
  { state with
    eventInfo := fun i => if i < timerEventNumMax + 1 then ⟨-1, none⟩ else state.eventInfo i
    isRunning := true
    maxEventNum := 0 }

/-- What the system calls of `InitTimerEventManage` return. -/
structure InitOutcome where
  epollCreate : Option Int32
  timerfdCreate : Option Int32
  epollCtl : Int32
  threadCreate : Int32
deriving DecidableEq, Repr

/-- `InitTimerEventManage` after its test of `g_isInit`. -/
def initTimerEventManageFresh (state : TimerState) (maxEventNum : Int32) (outcome : InitOutcome) :
    Int32 × TimerState :=
  let state := initTimerEventManageData state
  if maxEventNum ≤ 0 ∨ Int32.ofNat timerEventNumMax < maxEventNum then
    (-1, deinitTimerEventManageCore state)
  else
    let state := { state with maxEventNum := maxEventNum.toInt.toNat + 1 }
    match outcome.epollCreate with
    | none => (-1, deinitTimerEventManageCore { state with epollfd := -1 })
    | some epollfd =>
        let state := { state with epollfd := epollfd, fds := state.fds.create epollfd }
        match outcome.timerfdCreate with
        | none =>
            (-1, deinitTimerEventManageCore
              (state.setSlot 0 ⟨-1, some .timerEventManageHeartbeatCb⟩))
        | some timerFd =>
            let state :=
              { state.setSlot 0 ⟨timerFd, some .timerEventManageHeartbeatCb⟩ with
                fds := state.fds.create timerFd }
            if outcome.epollCtl ≠ 0 then (outcome.epollCtl, deinitTimerEventManageCore state)
            else
              let state := { state with fds := state.fds.watch state.epollfd timerFd }
              if outcome.threadCreate ≠ 0 then
                (outcome.threadCreate, deinitTimerEventManageCore state)
              else (0, { state with isInit := true })

/-- `InitTimerEventManage`. -/
def initTimerEventManage (state : TimerState) (maxEventNum : Int32) (outcome : InitOutcome) :
    Int32 × TimerState :=
  if state.isInit then (0, state) else initTimerEventManageFresh state maxEventNum outcome

/-- One round of the loop in `DeinitTimerEventManage`. -/
def deinitSlot (state : TimerState) (i : Nat) : TimerState :=
  if state.timerFd i ≠ -1 then state.release i
  else state.setSlot i ⟨-1, none⟩

/-- `DeinitTimerEventManage` under `g_eventInfoMutex`. -/
def deinitTimerEventManageLocked (state : TimerState) : TimerState :=
  deinitTimerEventManageCore ((List.range state.maxEventNum).foldl deinitSlot state)

/-- `DeinitTimerEventManage`, when the handler thread ends. -/
def deinitTimerEventManage (state : TimerState) : TimerState :=
  if ¬ state.isInit then state
  else deinitTimerEventManageLocked { state with isRunning := false }

end Timer
end V2x
