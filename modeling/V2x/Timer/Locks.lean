import V2x.Foundations.Mutex
import V2x.Timer.Threads

namespace V2x
namespace Timer

open Foundations

/-!
# Who holds which mutex

The owners of the two mutexes follow from the program counters.  Every step of
a call moves one program counter and takes or gives back what the two counters
say; this is stated once for all calls.
-/

/-- `g_initMutex` is held between the test of `g_isInit` and its release, and by
`InitTimerEventManage` and `DeinitTimerEventManage` all the time. -/
def CallPc.holdsInit : CallPc -> Bool
  | .testInit _ | .deinitTest | .deinitJoin | .deinitLockTable | .deinitUnlock | .initBody _ => true
  | _ => false

def CallPc.holdsTable : CallPc -> Bool
  | .unlockTable _ | .deinitUnlock => true
  | _ => false

/-- A step of `InitTimerEventManage` or `DeinitTimerEventManage`. -/
def CallPc.isLifecycle : CallPc -> Bool
  | .deinitLock | .deinitTest | .deinitJoin | .deinitLockTable | .deinitUnlock | .initLock _
  | .initBody _ => true
  | _ => false

def HandlerPc.holdsTable : HandlerPc -> Bool
  | .unlockTable _ => true
  | _ => false

def HandlerPc.isCallback : HandlerPc -> Bool
  | .callback _ => true
  | _ => false

def HandlerPc.isOff : HandlerPc -> Bool
  | .off => true
  | _ => false

namespace System

def HoldsInit (system : System) (party : Party) : Prop :=
  (system.calls party).any CallPc.holdsInit = true

def HoldsTable (system : System) (party : Party) : Prop :=
  (system.calls party).any CallPc.holdsTable = true ∨
    party = .handler ∧ system.handler.holdsTable = true

end System

/-- A step of a call. -/
structure CallMoved (system next : System) (party : Party) (pc : CallPc) (pc' : Option CallPc) :
    Prop where
  calls : next.calls = Function.update system.calls party pc'
  initMutex : MutexMove party pc.holdsInit (pc'.any CallPc.holdsInit) system.initMutex next.initMutex
  tableMutex :
    MutexMove party pc.holdsTable (pc'.any CallPc.holdsTable) system.tableMutex next.tableMutex
  lifecycle : (pc'.any CallPc.isLifecycle) = true -> pc.isLifecycle = true
  handler : next.handler = system.handler ∨
    (Exists fun maxEventNum => pc = .initBody maxEventNum) ∧ system.timer.isInit = false ∧
      next.timer.isInit = true ∧ next.handler = .test
  isInit : next.timer.isInit = system.timer.isInit ∨ pc = .deinitLockTable ∨
    (Exists fun maxEventNum => pc = .initBody maxEventNum) ∧ system.timer.isInit = false
  joined : pc' = some .deinitLockTable -> pc = .deinitJoin ∧ system.handler = .off
  unlocks : pc' = some .deinitUnlock -> pc = .deinitLockTable
  waits : forall call, pc' ≠ some (.lockInit call)
  joins : pc' = some .deinitJoin -> pc = .deinitTest ∧ system.timer.isInit = true

/-! ## The steps of a call -/

section Steps

variable {system next : System} {party : Party} {pc : CallPc}

theorem isInit_deleteTimerEventLocked (timer : TimerState) (timerFd : Int32) :
    (deleteTimerEventLocked timer timerFd).isInit = timer.isInit := by
  simp only [deleteTimerEventLocked]
  split <;> rfl

theorem isInit_addTimerEventLocked (timer : TimerState) (cb : TimerEventProcCb)
    (timerfdCreate : Option Int32) :
    (addTimerEventLocked timer cb timerfdCreate).2.isInit = timer.isInit := by
  cases timerfdCreate with
  | none => rfl
  | some timerFd =>
      unfold addTimerEventLocked
      simp only
      split <;> rfl

theorem isInit_addTimerEventUnlocked (timer : TimerState) (timerFd : Int32) (i : Nat) :
    (addTimerEventUnlocked timer timerFd i).2.isInit = timer.isInit := by
  unfold addTimerEventUnlocked
  split <;> rfl

/-- `InitTimerEventManage` returns `0` exactly if it sets `g_isInit`. -/
theorem isInit_initTimerEventManageFresh (timer : TimerState) (maxEventNum : Int32)
    (outcome : InitOutcome) :
    (initTimerEventManageFresh timer maxEventNum outcome).2.isInit =
      decide ((initTimerEventManageFresh timer maxEventNum outcome).1 = 0) := by
  have failed : forall state : TimerState,
      (deinitTimerEventManageCore state).isInit = false := fun _ => rfl
  have negative : decide ((-1 : Int32) = 0) = false := by decide
  rcases outcome with ⟨epollCreate, timerfdCreate, epollCtl, threadCreate⟩
  unfold initTimerEventManageFresh
  simp only
  split
  · exact negative.symm
  · cases epollCreate with
    | none => exact negative.symm
    | some epollfd =>
        cases timerfdCreate with
        | none => exact negative.symm
        | some timerFd =>
            simp only
            split
            next nonzero => rw [failed, decide_eq_false nonzero]
            next =>
              split
              next nonzero => rw [failed, decide_eq_false nonzero]
              next => rfl

theorem settime_timer (timerFd : Int32) : (system.settime timerFd).timer = system.timer := by
  unfold System.settime
  split <;> rfl

theorem settime_locks (system : System) (timerFd : Int32) :
    (system.settime timerFd).calls = system.calls ∧
    (system.settime timerFd).initMutex = system.initMutex ∧
    (system.settime timerFd).tableMutex = system.tableMutex ∧
    (system.settime timerFd).handler = system.handler ∧
    (system.settime timerFd).deleted = system.deleted := by
  unfold System.settime
  split <;> exact ⟨rfl, rfl, rfl, rfl, rfl⟩

/-- A step that takes `g_initMutex`. -/
theorem takeInit_moved {pc' : CallPc} (unlocked : pc.holdsInit = false)
    (locks : pc'.holdsInit = true) (tableKept : pc.holdsTable = pc'.holdsTable)
    (lifecycle : pc'.isLifecycle = true -> pc.isLifecycle = true)
    (joined : pc' ≠ .deinitLockTable) (unlocks : pc' ≠ .deinitUnlock)
    (waits : forall call, pc' ≠ .lockInit call) (joins : pc' ≠ .deinitJoin)
    (done : takeInit system party pc' = some next) :
    CallMoved system next party pc (some pc') := by
  unfold takeInit at done
  split at done
  next free =>
    cases done
    refine ⟨rfl, ?_, ?_, lifecycle, Or.inl rfl, Or.inl rfl, ?_, ?_, ?_, ?_⟩
    · change MutexMove party _ pc'.holdsInit system.initMutex (some party)
      rw [unlocked, locks, Option.isNone_iff_eq_none.mp free]
      exact .takes
    · change MutexMove party _ pc'.holdsTable system.tableMutex system.tableMutex
      rw [tableKept]
      exact .keeps
    · exact fun same => absurd (Option.some.inj same) joined
    · exact fun same => absurd (Option.some.inj same) unlocks
    · exact fun call same => waits call (Option.some.inj same)
    · exact fun same => absurd (Option.some.inj same) joins
  next => cases done

theorem takeTable_moved {pc' : CallPc} {timer : TimerState} (unlocked : pc.holdsTable = false)
    (locks : pc'.holdsTable = true) (initKept : pc.holdsInit = pc'.holdsInit)
    (lifecycle : pc'.isLifecycle = true -> pc.isLifecycle = true)
    (isInit : timer.isInit = system.timer.isInit ∨ pc = .deinitLockTable)
    (joined : pc' ≠ .deinitLockTable) (unlocks : pc' = .deinitUnlock -> pc = .deinitLockTable)
    (waits : forall call, pc' ≠ .lockInit call) (joins : pc' ≠ .deinitJoin)
    (done : takeTable system party timer pc' = some next) :
    CallMoved system next party pc (some pc') := by
  unfold takeTable at done
  split at done
  next free =>
    cases done
    refine ⟨rfl, ?_, ?_, lifecycle, Or.inl rfl, ?_, ?_, ?_, ?_, ?_⟩
    · change MutexMove party _ pc'.holdsInit system.initMutex system.initMutex
      rw [initKept]
      exact .keeps
    · change MutexMove party _ pc'.holdsTable system.tableMutex (some party)
      rw [unlocked, locks, Option.isNone_iff_eq_none.mp free]
      exact .takes
    · exact isInit.imp_right Or.inl
    · exact fun same => absurd (Option.some.inj same) joined
    · exact fun same => unlocks (Option.some.inj same)
    · exact fun call same => waits call (Option.some.inj same)
    · exact fun same => absurd (Option.some.inj same) joins
  next => cases done

theorem advanceCall_moved (done : advanceCall system party pc = some next) :
    Exists fun pc' => CallMoved system next party pc pc' := by
  cases pc with
  | lockInit call =>
      exact ⟨some (.testInit call), takeInit_moved rfl rfl rfl (by simp [CallPc.isLifecycle]) (by simp) (by simp)
        (by simp) (by simp) done⟩
  | testInit call =>
      cases done
      refine ⟨_, rfl, ?_, ?_, ?_, Or.inl rfl, Or.inl rfl, ?_, ?_, ?_, ?_⟩
      · cases system.timer.isInit <;> exact .gives
      · cases system.timer.isInit <;> exact .keeps
      · cases system.timer.isInit <;> simp [CallPc.isLifecycle]
      · cases system.timer.isInit <;> simp
      · cases system.timer.isInit <;> simp
      · cases system.timer.isInit <;> simp
      · cases system.timer.isInit <;> simp
  | lockTable call =>
      cases call with
      | add cb => cases done
      | delete timerFd =>
          exact ⟨some (.unlockTable _), takeTable_moved rfl rfl rfl (by simp [CallPc.isLifecycle])
            (Or.inl (isInit_deleteTimerEventLocked system.timer timerFd)) (by simp) (by simp)
            (by simp) (by simp) done⟩
  | unlockTable result =>
      cases done
      exact ⟨_, rfl, .keeps, .gives, by simp [CallPc.isLifecycle], Or.inl rfl, Or.inl rfl, by simp,
        by simp, by simp, by simp⟩
  | returning result =>
      cases done
      have moved : forall reached : System, reached.calls = Function.update system.calls party none ->
          reached.initMutex = system.initMutex -> reached.tableMutex = system.tableMutex ->
          reached.handler = system.handler -> reached.timer.isInit = system.timer.isInit ->
          CallMoved system reached party (.returning result) none := by
        intro reached calls initMutex tableMutex handler isInit
        refine ⟨calls, ?_, ?_, by simp, Or.inl handler, Or.inl isInit, by simp, by simp, by simp,
          by simp⟩
        · rw [initMutex]
          exact .keeps
        · rw [tableMutex]
          exact .keeps
      refine ⟨none, ?_⟩
      cases result with
      | added result =>
          cases result with
          | none => exact moved _ rfl rfl rfl rfl rfl
          | some found =>
              exact moved _ rfl rfl rfl rfl (isInit_addTimerEventUnlocked system.timer found.1 found.2)
      | deleted timer => exact moved _ rfl rfl rfl rfl rfl
  | deinitLock =>
      exact ⟨some .deinitTest, takeInit_moved rfl rfl rfl (fun _ => rfl) (by simp) (by simp) (by simp) (by simp)
        done⟩
  | deinitTest =>
      simp only [advanceCall] at done
      split at done
      next isInit =>
        cases done
        rcases settime_locks { system with timer := { system.timer with isRunning := false } }
          (TimerState.timerFd { system.timer with isRunning := false } 0) with
          ⟨calls, initMutex, tableMutex, handler, _⟩
        refine ⟨some .deinitJoin, ?_, ?_, ?_, fun _ => rfl, Or.inl handler, Or.inl ?_, by simp,
          by simp, by simp, fun _ => ⟨rfl, isInit⟩⟩
        · simp only [System.setCall, calls]
        · simp only [System.setCall, initMutex]
          exact .keeps
        · simp only [System.setCall, tableMutex]
          exact .keeps
        · simp only [System.setCall, settime_timer]
      next =>
        cases done
        exact ⟨none, rfl, .gives, .keeps, by simp, Or.inl rfl, Or.inl rfl, by simp, by simp,
          by simp, by simp⟩
  | deinitJoin =>
      simp only [advanceCall] at done
      split at done
      next isOff =>
        cases done
        exact ⟨_, rfl, .keeps, .keeps, fun _ => rfl, Or.inl rfl, Or.inl rfl, fun _ => ⟨rfl, isOff⟩,
          by simp, by simp, by simp⟩
      next => cases done
  | deinitLockTable =>
      exact ⟨some .deinitUnlock, takeTable_moved rfl rfl rfl (fun _ => rfl) (Or.inr rfl) (by simp) (fun _ => rfl)
        (by simp) (by simp) done⟩
  | deinitUnlock =>
      cases done
      exact ⟨none, rfl, .gives, .gives, by simp, Or.inl rfl, Or.inl rfl, by simp, by simp, by simp,
        by simp⟩
  | initLock maxEventNum =>
      exact ⟨some (.initBody maxEventNum), takeInit_moved rfl rfl rfl (fun _ => rfl) (by simp) (by simp) (by simp) (by simp)
        done⟩
  | initBody maxEventNum => cases done

theorem createStep_moved {timerfdCreate : Option Int32}
    (done : createStep system party timerfdCreate pc = some next) :
    Exists fun pc' => CallMoved system next party pc pc' := by
  unfold createStep at done
  split at done
  next cb =>
    split at done
    next =>
      exact ⟨some (.unlockTable _), takeTable_moved rfl rfl rfl (by simp [CallPc.isLifecycle])
        (Or.inl (isInit_addTimerEventLocked system.timer cb timerfdCreate)) (by simp) (by simp)
        (by simp) (by simp) done⟩
    next => cases done
  next => cases done

theorem initialiseStep_moved {outcome : InitOutcome}
    (done : initialiseStep system party outcome pc = some next) :
    CallMoved system next party pc none := by
  unfold initialiseStep at done
  split at done
  next maxEventNum =>
    split at done
    next =>
      cases done
      refine ⟨rfl, .gives, .keeps, by simp, ?_, ?_, by simp, by simp, by simp, by simp⟩
      · by_cases succeeds : system.timer.isInit = false ∧
            (initTimerEventManage system.timer maxEventNum outcome).1 = 0
        · refine Or.inr ⟨⟨maxEventNum, rfl⟩, succeeds.1, ?_, if_pos succeeds⟩
          have fresh := succeeds.2
          simp only [initTimerEventManage, succeeds.1, Bool.false_eq_true, if_false] at fresh ⊢
          rw [isInit_initTimerEventManageFresh, decide_eq_true fresh]
        · exact Or.inl (if_neg succeeds)
      · cases isInit : system.timer.isInit with
        | true =>
            refine Or.inl ?_
            simp only [initTimerEventManage, isInit, if_true]
        | false => exact Or.inr (Or.inr ⟨⟨maxEventNum, rfl⟩, rfl⟩)
    next => cases done
  next => cases done

end Steps

/-! ## The steps of the handler thread -/

/-- A step of the handler thread, which is not off. -/
structure HandlerMoved (system next : System) : Prop where
  calls : next.calls = system.calls
  initMutex : next.initMutex = system.initMutex
  tableMutex : MutexMove .handler system.handler.holdsTable next.handler.holdsTable
    system.tableMutex next.tableMutex
  timer : next.timer = system.timer
  deleted : next.deleted = system.deleted
  notOff : system.handler ≠ .off
  noCall : system.handler.isCallback = true -> system.calls .handler = none

theorem handlerStep_moved {system next : System} {label : HandlerLabel}
    (done : handlerStep system label = some next) : HandlerMoved system next := by
  have kept : forall (pc pc' : HandlerPc) (expirations : Nat -> Nat), system.handler = pc ->
      pc ≠ .off -> pc.isCallback = false -> pc.holdsTable = pc'.holdsTable ->
      HandlerMoved system { system with handler := pc', expirations := expirations } := by
    intro pc pc' expirations isPc notOff notCallback same
    refine ⟨rfl, rfl, ?_, rfl, rfl, isPc ▸ notOff, fun isCallback => ?_⟩
    · rw [isPc, same]
      exact .keeps
    · rw [isPc, notCallback] at isCallback
      cases isCallback
  unfold handlerStep at done
  cases label with
  | wait result =>
      simp only at done
      split at done
      next isPc =>
        cases result with
        | failed =>
            cases done
            exact kept .wait .off system.expirations isPc (by simp) rfl rfl
        | interrupted =>
            cases done
            exact kept .wait .test system.expirations isPc (by simp) rfl rfl
        | ready events =>
            simp only at done
            split at done
            next =>
              cases done
              exact kept .wait (.lockTable events) system.expirations isPc (by simp) rfl rfl
            next => cases done
      next => cases done
  | advance =>
      simp only at done
      split at done
      next isPc =>
        cases done
        refine kept .test _ system.expirations isPc (by simp) rfl ?_
        cases system.timer.isRunning <;> rfl
      next events isPc =>
        split at done
        next free =>
          cases done
          refine ⟨rfl, rfl, ?_, rfl, rfl, by rw [isPc]; simp, fun isCallback => ?_⟩
          · rw [isPc, Option.isNone_iff_eq_none.mp free]
            exact .takes
          · rw [isPc] at isCallback
            cases isCallback
        next => cases done
      next batch isPc =>
        cases done
        refine ⟨rfl, rfl, ?_, rfl, rfl, by rw [isPc]; simp, fun isCallback => ?_⟩
        · rw [isPc]
          exact .gives
        · rw [isPc] at isCallback
          cases isCallback
      next batch isPc =>
        split at done
        · cases done
          exact kept (.read batch) .test system.expirations isPc (by simp) rfl rfl
        · cases done
          exact kept (.read batch) (.dispatch _ _) _ isPc (by simp) rfl rfl
      next event batch isPc =>
        split at done
        · cases done
          exact kept (.dispatch event batch) (.callback _) system.expirations isPc (by simp) rfl rfl
        · cases done
          exact kept (.dispatch event batch) (.read _) system.expirations isPc (by simp) rfl rfl
      next batch isPc =>
        split at done
        next free =>
          cases done
          refine ⟨rfl, rfl, ?_, rfl, rfl, by rw [isPc]; simp,
            fun _ => Option.isNone_iff_eq_none.mp free⟩
          rw [isPc]
          exact .keeps
        next => cases done
      next => cases done
      next => cases done

/-! ## The invariant -/

/-- The owners are right, only callbacks call from the handler thread, and the
handler thread is off when it was joined or has not been created. -/
structure MutexInv (system : System) : Prop where
  initOwner : Owns system.initMutex system.HoldsInit
  tableOwner : Owns system.tableMutex system.HoldsTable
  callbackOnly : system.calls .handler ≠ none -> system.handler.isCallback = true
  joined : forall party, system.calls party = some .deinitLockTable ∨
    system.calls party = some .deinitUnlock -> system.handler = .off
  runs : system.timer.isInit = false -> system.handler = .off

/-- The same, with callbacks that neither start nor stop the module. -/
structure LockInv (system : System) : Prop where
  initOwner : Owns system.initMutex system.HoldsInit
  tableOwner : Owns system.tableMutex system.HoldsTable
  callbackOnly : system.calls .handler ≠ none -> system.handler.isCallback = true
  callbackCalls : (system.calls .handler).any CallPc.isLifecycle = false
  joined : forall party, system.calls party = some .deinitLockTable ∨
    system.calls party = some .deinitUnlock -> system.handler = .off
  runs : system.timer.isInit = false -> system.handler = .off

theorem holdsInit_iff {system : System} {party : Party} {pc : Option CallPc}
    (isPc : system.calls party = pc) :
    system.HoldsInit party <-> pc.any CallPc.holdsInit = true := by
  rw [System.HoldsInit, isPc]

theorem LockInv.mutexes {system : System} (inv : LockInv system) : MutexInv system :=
  ⟨inv.initOwner, inv.tableOwner, inv.callbackOnly, inv.joined, inv.runs⟩

theorem MutexInv.withCallbacks {system : System} (inv : MutexInv system)
    (callbackCalls : (system.calls .handler).any CallPc.isLifecycle = false) : LockInv system :=
  ⟨inv.initOwner, inv.tableOwner, inv.callbackOnly, callbackCalls, inv.joined, inv.runs⟩

theorem MutexInv.handler_holdsTable {system : System} (inv : MutexInv system)
    (calling : system.calls .handler ≠ none) : system.handler.holdsTable = false := by
  have isCallback := inv.callbackOnly calling
  cases isPc : system.handler with
  | callback batch => rfl
  | off | test | wait | lockTable | unlockTable | read | dispatch =>
      rw [isPc] at isCallback
      cases isCallback

theorem MutexInv.called {system next : System} {party : Party} {pc : CallPc} {pc' : Option CallPc}
    (inv : MutexInv system) (isPc : system.calls party = some pc)
    (moved : CallMoved system next party pc pc') : MutexInv next := by
  have nextPc : next.calls party = pc' := by rw [moved.calls, Function.update_self]
  have otherPc : forall other, other ≠ party -> next.calls other = system.calls other :=
    fun other different => by rw [moved.calls, Function.update_of_ne different]
  have handlerKept : system.calls .handler ≠ none ∨ party = .handler ->
      next.handler = system.handler := by
    intro calling
    rcases moved.handler with same | ⟨⟨maxEventNum, rfl⟩, notInit, _⟩
    · exact same
    · have calls : system.calls .handler ≠ none := by
        rcases calling with calling | rfl
        · exact calling
        · rw [isPc]
          exact Option.some_ne_none _
      have isCallback := inv.callbackOnly calls
      rw [inv.runs notInit] at isCallback
      cases isCallback
  have tableKept : next.handler.holdsTable = system.handler.holdsTable := by
    rcases moved.handler with same | ⟨_, notInit, _, isTest⟩
    · rw [same]
    · rw [isTest, inv.runs notInit]
      rfl
  refine ⟨?_, ?_, ?_, ?_, ?_⟩
  · apply inv.initOwner.move moved.initMutex (holdsInit_iff isPc) (holdsInit_iff nextPc)
    intro other different
    rw [System.HoldsInit, otherPc other different]
    rfl
  · have handlerFree : party = .handler -> system.handler.holdsTable = false := by
      rintro rfl
      exact inv.handler_holdsTable (by rw [isPc]; simp)
    apply inv.tableOwner.move moved.tableMutex
    · rw [System.HoldsTable, isPc]
      constructor
      · rintro (holds | ⟨isHandler, holds⟩)
        · exact holds
        · rw [handlerFree isHandler] at holds
          cases holds
      · exact Or.inl
    · rw [System.HoldsTable, nextPc, tableKept]
      constructor
      · rintro (holds | ⟨isHandler, holds⟩)
        · exact holds
        · rw [handlerFree isHandler] at holds
          cases holds
      · exact Or.inl
    · intro other different
      rw [System.HoldsTable, otherPc other different, tableKept]
      rfl
  · intro calling
    by_cases isHandler : party = .handler
    · rw [handlerKept (Or.inr isHandler)]
      apply inv.callbackOnly
      rw [← isHandler, isPc]
      simp
    · rw [otherPc .handler (Ne.symm isHandler)] at calling
      rw [handlerKept (Or.inl calling)]
      exact inv.callbackOnly calling
  · intro other waits
    rcases moved.handler with same | ⟨⟨maxEventNum, rfl⟩, _⟩
    · rw [same]
      by_cases isParty : other = party
      · rw [isParty, nextPc] at waits
        rcases waits with isJoined | unlocks
        · exact (moved.joined isJoined).2
        · exact inv.joined party (Or.inl (isPc.trans (congrArg some (moved.unlocks unlocks))))
      · rw [otherPc other isParty] at waits
        exact inv.joined other waits
    · by_cases isParty : other = party
      · rw [isParty, nextPc] at waits
        rcases waits with isJoined | unlocks
        · cases (moved.joined isJoined).1
        · cases moved.unlocks unlocks
      · rw [otherPc other isParty] at waits
        have otherHolds : system.HoldsInit other := by
          rcases waits with isJoined | unlocks
          · exact (holdsInit_iff isJoined).mpr rfl
          · exact (holdsInit_iff unlocks).mpr rfl
        have partyHolds : system.HoldsInit party := (holdsInit_iff isPc).mpr rfl
        exact absurd (inv.initOwner.unique otherHolds partyHolds) isParty
  · intro notInit
    rcases moved.handler with same | ⟨_, _, isInit, _⟩
    · rw [same]
      rcases moved.isInit with kept | rfl | ⟨_, wasNot⟩
      · exact inv.runs (kept ▸ notInit)
      · exact inv.joined party (Or.inl isPc)
      · exact inv.runs wasNot
    · rw [notInit] at isInit
      cases isInit

theorem MutexInv.handled {system next : System} (inv : MutexInv system)
    (moved : HandlerMoved system next) : MutexInv next := by
  have noCall : system.calls .handler = none := by
    by_contra calling
    exact calling (moved.noCall (inv.callbackOnly calling))
  refine ⟨?_, ?_, ?_, ?_, ?_⟩
  · rw [moved.initMutex]
    apply inv.initOwner.congr
    intro other
    rw [System.HoldsInit, moved.calls]
    rfl
  · apply inv.tableOwner.move moved.tableMutex
    · rw [System.HoldsTable, noCall]
      simp
    · rw [System.HoldsTable, moved.calls, noCall]
      simp
    · intro other different
      rw [System.HoldsTable, System.HoldsTable, moved.calls]
      simp [different]
  · intro calling
    rw [moved.calls] at calling
    exact absurd noCall calling
  · intro other waits
    rw [moved.calls] at waits
    exact absurd (inv.joined other waits) moved.notOff
  · intro notInit
    rw [moved.timer] at notInit
    exact absurd (inv.runs notInit) moved.notOff

/-! ## Beginning a call -/

/-- The calls that callbacks do not make. -/
def Request.isLifecycle : Request -> Bool
  | .init _ | .deinit => true
  | _ => false

/-- A program counter at which no call has taken a mutex yet. -/
def CallPc.isFirst : CallPc -> Bool
  | .lockInit _ | .deinitLock | .initLock _ => true
  | _ => false

/-- What the beginning of a call leaves: the call before its first mutex, or
nothing but expirations that were taken away. -/
theorem beginCall_cases (system : System) (party : Party) (request : Request) :
    (Exists fun pc => beginCall system party request = system.setCall party (some pc) ∧
      pc.isFirst = true ∧ pc.isLifecycle = request.isLifecycle) ∨
    Exists fun expirations =>
      beginCall system party request = { system with expirations := expirations } := by
  cases request with
  | add cb =>
      cases cb with
      | none => exact Or.inr ⟨system.expirations, rfl⟩
      | some cb => exact Or.inl ⟨_, rfl, rfl, rfl⟩
  | delete timerFd =>
      simp only [beginCall]
      split
      · exact Or.inr ⟨system.expirations, rfl⟩
      · exact Or.inl ⟨_, rfl, rfl, rfl⟩
  | set timerFd startTime period =>
      simp only [beginCall, System.settime]
      split
      · exact Or.inr ⟨system.expirations, rfl⟩
      · split
        · exact Or.inr ⟨_, rfl⟩
        · exact Or.inr ⟨system.expirations, rfl⟩
  | init maxEventNum => exact Or.inl ⟨_, rfl, rfl, rfl⟩
  | deinit => exact Or.inl ⟨_, rfl, rfl, rfl⟩

/-- The callbacks call `AddTimerEvent`, `DeleteTimerEvent` and `SetTimerEvent`
only. -/
def CallbacksStay : SystemLabel -> Prop
  | .begin .handler request => request.isLifecycle = false
  | _ => True

instance : (label : SystemLabel) -> Decidable (CallbacksStay label)
  | .begin .handler request => inferInstanceAs (Decidable (request.isLifecycle = false))
  | .begin (.thread _) _ | .advance _ | .create _ _ | .initialise _ _ | .handler _ | .expire _ =>
      isTrue trivial

theorem MutexInv.expirations {system : System} (inv : MutexInv system) (expirations : Nat -> Nat) :
    MutexInv { system with expirations := expirations } :=
  ⟨inv.initOwner, inv.tableOwner, inv.callbackOnly, inv.joined, inv.runs⟩

theorem MutexInv.begun {system : System} {party : Party} {pc : CallPc} (inv : MutexInv system)
    (idle : system.calls party = none) (canCall : system.canCall party = true)
    (first : pc.isFirst = true) : MutexInv (system.setCall party (some pc)) := by
  have noMutex : pc.holdsInit = false ∧ pc.holdsTable = false ∧ pc ≠ .deinitLockTable ∧
      pc ≠ .deinitUnlock := by
    cases pc with
    | lockInit | deinitLock | initLock => exact ⟨rfl, rfl, by simp, by simp⟩
    | testInit | lockTable | unlockTable | returning | deinitTest | deinitJoin | deinitLockTable
    | deinitUnlock | initBody => cases first
  have callsIs : forall other, (system.setCall party (some pc)).calls other =
      if other = party then some pc else system.calls other := fun other => by
    simp only [System.setCall, Function.update_apply]
  refine ⟨inv.initOwner.congr ?_, inv.tableOwner.congr ?_, ?_, ?_, inv.runs⟩
  · intro other
    rw [System.HoldsInit, System.HoldsInit, callsIs other]
    split
    next same => rw [same, idle, Option.any_some, noMutex.1]; simp
    · rfl
  · intro other
    rw [System.HoldsTable, System.HoldsTable, callsIs other]
    split
    next same => rw [same, idle, Option.any_some, noMutex.2.1]; simp [System.setCall]
    · rfl
  · intro calling
    rw [callsIs] at calling
    split at calling
    next isHandler =>
      rw [← isHandler] at canCall
      simp only [System.canCall] at canCall
      split at canCall
      next isPc => exact congrArg HandlerPc.isCallback isPc
      next => cases canCall
    next => exact inv.callbackOnly calling
  · intro other waits
    rw [callsIs] at waits
    split at waits
    next =>
      rcases waits with isJoined | unlocks
      · exact absurd (Option.some.inj isJoined) noMutex.2.2.1
      · exact absurd (Option.some.inj unlocks) noMutex.2.2.2
    next => exact inv.joined other waits

/-- Every step keeps the invariant. -/
theorem MutexInv.step {system next : System} {label : SystemLabel} (inv : MutexInv system)
    (stepped : systemStep system label = some next) : MutexInv next := by
  cases label with
  | begin party request =>
      simp only [systemStep] at stepped
      split at stepped
      next enabled =>
        cases stepped
        have idle := Option.isNone_iff_eq_none.mp enabled.1
        rcases beginCall_cases system party request with ⟨pc, same, first, _⟩ | ⟨expirations, same⟩
        · rw [same]
          exact inv.begun idle enabled.2 first
        · rw [same]
          exact inv.expirations expirations
      next => cases stepped
  | advance party =>
      rcases Option.bind_eq_some_iff.mp stepped with ⟨pc, isPc, done⟩
      rcases advanceCall_moved done with ⟨pc', moved⟩
      exact inv.called isPc moved
  | create party timerfdCreate =>
      rcases Option.bind_eq_some_iff.mp stepped with ⟨pc, isPc, done⟩
      rcases createStep_moved done with ⟨pc', moved⟩
      exact inv.called isPc moved
  | initialise party outcome =>
      rcases Option.bind_eq_some_iff.mp stepped with ⟨pc, isPc, done⟩
      exact inv.called isPc (initialiseStep_moved done)
  | handler label => exact inv.handled (handlerStep_moved stepped)
  | expire timer =>
      simp only [systemStep, expireStep] at stepped
      split at stepped
      next =>
        cases stepped
        exact inv.expirations _
      next => cases stepped

/-! ## Callbacks that neither start nor stop the module -/

theorem CallMoved.callbackCalls {system next : System} {party : Party} {pc : CallPc}
    {pc' : Option CallPc} (moved : CallMoved system next party pc pc')
    (isPc : system.calls party = some pc)
    (callbackCalls : (system.calls .handler).any CallPc.isLifecycle = false) :
    (next.calls .handler).any CallPc.isLifecycle = false := by
  rw [moved.calls, Function.update_apply]
  split
  next isHandler =>
    rw [isHandler, isPc, Option.any_some] at callbackCalls
    exact Bool.eq_false_iff.mpr fun becomes => Bool.eq_false_iff.mp callbackCalls (moved.lifecycle becomes)
  next => exact callbackCalls

/-- Every step keeps the invariant if the callbacks stay. -/
theorem LockInv.step {system next : System} {label : SystemLabel} (inv : LockInv system)
    (callbacks : CallbacksStay label) (stepped : systemStep system label = some next) :
    LockInv next := by
  apply (inv.mutexes.step stepped).withCallbacks
  cases label with
  | begin party request =>
      simp only [systemStep] at stepped
      split at stepped
      next =>
        cases stepped
        rcases beginCall_cases system party request with ⟨pc, same, _, lifecycle⟩ | ⟨expirations, same⟩
        · simp only [same, System.setCall, Function.update_apply]
          split
          next isHandler =>
            rw [← isHandler] at callbacks
            exact lifecycle.trans callbacks
          next => exact inv.callbackCalls
        · rw [same]
          exact inv.callbackCalls
      next => cases stepped
  | advance party =>
      rcases Option.bind_eq_some_iff.mp stepped with ⟨pc, isPc, done⟩
      rcases advanceCall_moved done with ⟨pc', moved⟩
      exact moved.callbackCalls isPc inv.callbackCalls
  | create party timerfdCreate =>
      rcases Option.bind_eq_some_iff.mp stepped with ⟨pc, isPc, done⟩
      rcases createStep_moved done with ⟨pc', moved⟩
      exact moved.callbackCalls isPc inv.callbackCalls
  | initialise party outcome =>
      rcases Option.bind_eq_some_iff.mp stepped with ⟨pc, isPc, done⟩
      exact (initialiseStep_moved done).callbackCalls isPc inv.callbackCalls
  | handler label =>
      rw [(handlerStep_moved stepped).calls]
      exact inv.callbackCalls
  | expire timer =>
      simp only [systemStep, expireStep] at stepped
      split at stepped
      next =>
        cases stepped
        exact inv.callbackCalls
      next => cases stepped

end Timer
end V2x
