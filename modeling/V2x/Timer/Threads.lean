import V2x.Foundations.TransitionSystem
import V2x.Timer.SlotTable

namespace V2x
namespace Timer

open Foundations

/-!
# The threads of the timer module

Any number of threads call the functions of the module, and so do the callbacks
that the handler thread runs.  Taking a mutex is a step of its own, and so is
everything that happens outside the mutexes.  What a thread does while it holds
`g_eventInfoMutex` happens when it takes the mutex; no other thread sees these
variables before it is released.

Timers expire at any time.  `epoll_wait` returns some of the timers that have
expired, and `read` takes the expirations of the timer that the descriptor
stands for at that moment.

Every event carries the number of the timer that was ready, and the copy of the
table carries the numbers of the timers that its descriptors stood for.  The
code knows neither.
-/

/-- The handler thread, which also runs the callbacks, or another thread. -/
inductive Party where
  | handler
  | thread (index : Nat)
deriving DecidableEq, Repr

/-- A call with its arguments. -/
inductive Request where
  | add (cb : Option TimerEventProcCb)
  | delete (timerFd : Int32)
  | set (timerFd : Int32) (startTime period : UInt16)
  | init (maxEventNum : Int32)
  | deinit
deriving DecidableEq, Repr

/-- A call of `AddTimerEvent` or `DeleteTimerEvent` that passed the test of its
argument. -/
inductive TableCall where
  | add (cb : TimerEventProcCb)
  | delete (timerFd : Int32)
deriving DecidableEq, Repr

/-- What such a call has done to the table: the descriptor with the index of
`AddTimerEvent`, or the number of the timer that was deleted. -/
inductive TableResult where
  | added (result : Option (Int32 × Nat))
  | deleted (timer : Option Nat)
deriving DecidableEq, Repr

/-- Where a call stands. -/
inductive CallPc where
  | lockInit (call : TableCall)
  | testInit (call : TableCall)
  | lockTable (call : TableCall)
  | unlockTable (result : TableResult)
  | returning (result : TableResult)
  | deinitLock
  | deinitTest
  | deinitJoin
  | deinitLockTable
  | deinitUnlock
  | initLock (maxEventNum : Int32)
  | initBody (maxEventNum : Int32)
deriving DecidableEq, Repr

structure Event where
  fd : Int32
  timer : Nat
deriving DecidableEq, Repr

/-- The local variables of `TimerEventManageHandleEvent`: the copied table with
the timers behind its descriptors, `count`, and the events that are left. -/
structure Batch where
  table : Nat -> TimerEventManageInfo
  owner : Int32 -> Option Nat
  count : Nat
  events : List Event

/-- Where the handler thread stands; `off` before it is created and after it has
returned.  Between its `read` and its callback an event is no longer left. -/
inductive HandlerPc where
  | off
  | test
  | wait
  | lockTable (events : List Event)
  | unlockTable (batch : Batch)
  | read (batch : Batch)
  | dispatch (event : Event) (batch : Batch)
  | callback (batch : Batch)

structure System where
  timer : TimerState
  expirations : Nat -> Nat
  initMutex : Option Party
  tableMutex : Option Party
  handler : HandlerPc
  calls : Party -> Option CallPc
  deleted : List Nat

/-- What `epoll_wait` returns. -/
inductive WaitResult where
  | failed
  | interrupted
  | ready (events : List Event)
deriving DecidableEq, Repr

inductive HandlerLabel where
  | advance
  | wait (result : WaitResult)
deriving DecidableEq, Repr

/-- The party that moves, with the results of its system calls. -/
inductive SystemLabel where
  | begin (party : Party) (request : Request)
  | advance (party : Party)
  | create (party : Party) (timerfdCreate : Option Int32)
  | initialise (party : Party) (outcome : InitOutcome)
  | handler (label : HandlerLabel)
  | expire (timer : Nat)
deriving DecidableEq, Repr

namespace System

/-- The module runs and nobody calls it. -/
def started (timer : TimerState) : System where
  timer := timer
  expirations := fun _ => 0
  initMutex := none
  tableMutex := none
  handler := .test
  calls := fun _ => none
  deleted := []

def setCall (system : System) (party : Party) (pc : Option CallPc) : System :=
  { system with calls := Function.update system.calls party pc }

/-- `timerfd_settime` takes the pending expirations away. -/
def settime (system : System) (timerFd : Int32) : System :=
  match system.timer.fds.file timerFd with
  | some timer => { system with expirations := Function.update system.expirations timer 0 }
  | none => system

/-- The handler thread calls the module only from a callback. -/
def canCall (system : System) : Party -> Bool
  | .handler => match system.handler with
      | .callback _ => true
      | _ => false
  | .thread _ => true

end System

/-! ## Calls -/

/-- A call up to its first mutex. -/
def beginCall (system : System) (party : Party) : Request -> System
  | .add none => system
  | .add (some cb) => system.setCall party (some (.lockInit (.add cb)))
  | .delete timerFd =>
      if timerFd < 0 then system else system.setCall party (some (.lockInit (.delete timerFd)))
  | .set timerFd _ _ => if timerFd < 0 then system else system.settime timerFd
  | .init maxEventNum => system.setCall party (some (.initLock maxEventNum))
  | .deinit => system.setCall party (some .deinitLock)

/-- Take `g_initMutex`. -/
def takeInit (system : System) (party : Party) (pc : CallPc) : Option System :=
  if system.initMutex.isNone then
    some { system.setCall party (some pc) with initMutex := some party }
  else none

/-- Take `g_eventInfoMutex` and do what is to be done under it. -/
def takeTable (system : System) (party : Party) (timer : TimerState) (pc : CallPc) :
    Option System :=
  if system.tableMutex.isNone then
    some { system.setCall party (some pc) with timer := timer, tableMutex := some party }
  else none

/-- The timer that `DeleteTimerEvent` finds. -/
def foundTimer (timer : TimerState) (timerFd : Int32) : Option Nat :=
  if timer.findSlot timerFd < timer.maxEventNum then timer.fds.file timerFd else none

/-- The end of a call after `g_eventInfoMutex`. -/
def finishCall (system : System) (party : Party) : TableResult -> System
  | .added none => system.setCall party none
  | .added (some (timerFd, i)) =>
      { system.setCall party none with
        timer := (addTimerEventUnlocked system.timer timerFd i).2 }
  | .deleted timer => { system.setCall party none with deleted := timer.toList ++ system.deleted }

/-- The steps of a call that make no system call with a result. -/
def advanceCall (system : System) (party : Party) : CallPc -> Option System
  | .lockInit call => takeInit system party (.testInit call)
  | .testInit call =>
      some { system.setCall party (if system.timer.isInit then some (.lockTable call) else none) with
        initMutex := none }
  | .lockTable (.add _) => none
  | .lockTable (.delete timerFd) =>
      takeTable system party (deleteTimerEventLocked system.timer timerFd)
        (.unlockTable (.deleted (foundTimer system.timer timerFd)))
  | .unlockTable result =>
      some { system.setCall party (some (.returning result)) with tableMutex := none }
  | .returning result => some (finishCall system party result)
  | .deinitLock => takeInit system party .deinitTest
  | .deinitTest =>
      if system.timer.isInit then
        let system := { system with timer := { system.timer with isRunning := false } }
        some ((system.settime (system.timer.timerFd 0)).setCall party (some .deinitJoin))
      else some { system.setCall party none with initMutex := none }
  | .deinitJoin =>
      match system.handler with
      | .off => some (system.setCall party (some .deinitLockTable))
      | _ => none
  | .deinitLockTable =>
      takeTable system party (deinitTimerEventManageLocked system.timer) .deinitUnlock
  | .deinitUnlock => some { system.setCall party none with tableMutex := none, initMutex := none }
  | .initLock maxEventNum => takeInit system party (.initBody maxEventNum)
  | .initBody _ => none

/-- A descriptor that the system creates is not open. -/
def TimerState.canCreate (timer : TimerState) (fd : Int32) : Bool :=
  decide (0 ≤ fd) && (timer.fds.file fd).isNone

/-- `AddTimerEvent` under `g_eventInfoMutex`. -/
def createStep (system : System) (party : Party) (timerfdCreate : Option Int32) :
    CallPc -> Option System
  | .lockTable (.add cb) =>
      if timerfdCreate.all system.timer.canCreate then
        let result := addTimerEventLocked system.timer cb timerfdCreate
        takeTable system party result.2 (.unlockTable (.added result.1))
      else none
  | _ => none

/-- The descriptors of `InitTimerEventManage` are new ones. -/
def TimerState.canInit (timer : TimerState) (outcome : InitOutcome) : Bool :=
  outcome.epollCreate.all (fun epollfd => timer.canCreate epollfd &&
    outcome.timerfdCreate.all (fun timerFd => timer.canCreate timerFd && timerFd != epollfd))

/-- `InitTimerEventManage` under `g_initMutex`; a call that succeeds has created
the handler thread. -/
def initialiseStep (system : System) (party : Party) (outcome : InitOutcome) :
    CallPc -> Option System
  | .initBody maxEventNum =>
      if system.timer.canInit outcome then
        let result := initTimerEventManage system.timer maxEventNum outcome
        some { system.setCall party none with
          timer := result.2
          initMutex := none
          handler := if system.timer.isInit = false ∧ result.1 = 0 then .test else system.handler }
      else none
  | _ => none

/-! ## The handler thread -/

/-- The callback that the copied table has for a descriptor. -/
def Batch.lookup (batch : Batch) (maxEventNum : Nat) (fd : Int32) : Option TimerEventProcCb :=
  ((List.range maxEventNum).find? (fun j => decide ((batch.table j).timerFd = fd))).bind
    (fun j => (batch.table j).cb)

/-- An event of `epoll_wait` is a timer in the epoll set that has expired. -/
def System.ready (system : System) (event : Event) : Bool :=
  system.timer.fds.watches system.timer.epollfd event.fd &&
    decide (system.timer.fds.file event.fd = some event.timer) &&
    decide (0 < system.expirations event.timer)

/-- `read(fd, &count, sizeof(count))`: it fails on a closed descriptor and on a
timer without expirations. -/
def readTimer (system : System) (batch : Batch) (fd : Int32) : Batch × (Nat -> Nat) :=
  match system.timer.fds.file fd with
  | none => (batch, system.expirations)
  | some timer =>
      if system.expirations timer = 0 then (batch, system.expirations)
      else
        ({ batch with count := system.expirations timer },
          Function.update system.expirations timer 0)

/-- A step of `TimerEventManageHandleThread`. -/
def handlerStep (system : System) : HandlerLabel -> Option System
  | .wait result =>
      match system.handler with
      | .wait =>
          match result with
          | .failed => some { system with handler := .off }
          | .interrupted => some { system with handler := .test }
          | .ready events =>
              if events.length ≤ timerEventNumMax + 1 ∧ (events.map Event.fd).Nodup ∧
                  events.all system.ready then
                some { system with handler := .lockTable events }
              else none
      | _ => none
  | .advance =>
      match system.handler with
      | .test => some { system with handler := if system.timer.isRunning then .wait else .off }
      | .lockTable events =>
          if system.tableMutex.isNone then
            some { system with
              tableMutex := some .handler
              handler := .unlockTable ⟨system.timer.eventInfo, system.timer.fds.file, 0, events⟩ }
          else none
      | .unlockTable batch => some { system with tableMutex := none, handler := .read batch }
      | .read batch =>
          match batch.events with
          | [] => some { system with handler := .test }
          | event :: rest =>
              let result := readTimer system batch event.fd
              some { system with
                handler := .dispatch event { result.1 with events := rest }
                expirations := result.2 }
      | .dispatch event batch =>
          match batch.lookup system.timer.maxEventNum event.fd with
          | some _ => some { system with handler := .callback batch }
          | none => some { system with handler := .read batch }
      | .callback batch =>
          if (system.calls .handler).isNone then some { system with handler := .read batch }
          else none
      | .off => none
      | .wait => none

/-! ## The machine -/

/-- A timer that is open may expire. -/
def expireStep (system : System) (timer : Nat) : Option System :=
  if timer < system.timer.fds.created then
    some { system with
      expirations := Function.update system.expirations timer (system.expirations timer + 1) }
  else none

def systemStep (system : System) : SystemLabel -> Option System
  | .begin party request =>
      if (system.calls party).isNone ∧ system.canCall party then
        some (beginCall system party request)
      else none
  | .advance party => (system.calls party).bind (advanceCall system party)
  | .create party timerfdCreate =>
      (system.calls party).bind (createStep system party timerfdCreate)
  | .initialise party outcome => (system.calls party).bind (initialiseStep system party outcome)
  | .handler label => handlerStep system label
  | .expire timer => expireStep system timer

def systemMachine : Machine System SystemLabel where
  step := systemStep

end Timer
end V2x
