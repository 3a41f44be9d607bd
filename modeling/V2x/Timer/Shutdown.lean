import V2x.Timer.Locks

namespace V2x
namespace Timer

open Foundations

/-!
# Shutting down while callbacks run

`DeinitTimerEventManage` holds `g_initMutex` while it waits for the handler
thread in `pthread_join`, and `AddTimerEvent` and `DeleteTimerEvent` take this
mutex.  A callback that calls one of them at that time is never answered, so the
handler thread never ends.

The condition that decides whether this happens is about two kinds of steps: the
one in which `DeinitTimerEventManage` goes into `pthread_join`, and the one in
which a callback begins a call that takes the mutex.
-/

namespace System

/-- The handler thread waits for a mutex that this party holds. -/
def HandlerWaitsFor (system : System) (party : Party) : Prop :=
  (Exists fun call => system.calls .handler = some (.lockInit call)) ∧
      system.initMutex = some party ∨
  ((Exists fun call => system.calls .handler = some (.lockTable call)) ∨
      Exists fun events => system.handler = .lockTable events) ∧
    system.tableMutex = some party

/-- No `DeinitTimerEventManage` waits in `pthread_join` for a handler thread
that waits for the thread in `DeinitTimerEventManage`. -/
def NoDeadlock (system : System) : Prop :=
  forall party, system.calls party = some .deinitJoin -> ¬ system.HandlerWaitsFor party

/-- The owner of `g_initMutex` is in `pthread_join`. -/
def isJoining (system : System) : Bool :=
  match system.initMutex with
  | some party => decide (system.calls party = some .deinitJoin)
  | none => false

/-- A callback is about to take `g_initMutex`. -/
def handlerLocks (system : System) : Bool :=
  match system.calls .handler with
  | some (.lockInit _) => true
  | _ => false

end System

/-- The calls that take `g_initMutex`. -/
def Request.locksInit : Request -> Bool
  | .add cb => cb.isSome
  | .delete timerFd => decide (0 ≤ timerFd)
  | .set _ _ _ => false
  | .init _ | .deinit => true

/-- `DeinitTimerEventManage` goes into `pthread_join` while no callback is about
to take `g_initMutex`, and no callback begins to take it from then on. -/
def CallbacksClear (system : System) : SystemLabel -> Prop
  | .begin .handler request => request.locksInit = true -> system.isJoining = false
  | .advance party => system.calls party = some .deinitTest -> system.timer.isInit = true ->
      system.handlerLocks = false
  | _ => True

instance (system : System) : (label : SystemLabel) -> Decidable (CallbacksClear system label)
  | .begin .handler request =>
      inferInstanceAs (Decidable (request.locksInit = true -> system.isJoining = false))
  | .advance party =>
      inferInstanceAs (Decidable (system.calls party = some .deinitTest ->
        system.timer.isInit = true -> system.handlerLocks = false))
  | .begin (.thread _) _ | .create _ _ | .initialise _ _ | .handler _ | .expire _ => isTrue trivial

/-- The steps of threads that are inside a function of the module. -/
def SystemLabel.isInside : SystemLabel -> Bool
  | .begin _ _ | .expire _ => false
  | _ => true

/-- Some thread inside the module can take a step. -/
def CanMove (system : System) : Prop :=
  Exists fun label => label.isInside = true ∧
    Exists fun next => systemStep system label = some next

section Deadlock

variable {system next : System} {party : Party}

theorem isJoining_iff (inv : LockInv system) :
    system.isJoining = true <-> Exists fun party => system.calls party = some .deinitJoin := by
  constructor
  · intro isJoining
    unfold System.isJoining at isJoining
    split at isJoining
    next party _ => exact ⟨party, of_decide_eq_true isJoining⟩
    next => cases isJoining
  · rintro ⟨party, joins⟩
    have owner : system.initMutex = some party :=
      (inv.initOwner party).mpr ((holdsInit_iff joins).mpr rfl)
    simp only [System.isJoining, owner, joins, decide_true]

theorem handlerLocks_iff : system.handlerLocks = true <->
    Exists fun call => system.calls .handler = some (.lockInit call) := by
  unfold System.handlerLocks
  constructor
  · intro locks
    split at locks
    next call isPc => exact ⟨call, isPc⟩
    next => cases locks
  · rintro ⟨call, isPc⟩
    rw [isPc]

/-- A thread in `pthread_join` holds `g_initMutex` and no other mutex. -/
theorem noDeadlock_iff (inv : LockInv system) :
    system.NoDeadlock <-> ¬ (system.isJoining = true ∧ system.handlerLocks = true) := by
  constructor
  · rintro noDeadlock ⟨isJoining, locks⟩
    rcases (isJoining_iff inv).mp isJoining with ⟨party, joins⟩
    exact noDeadlock party joins (Or.inl ⟨handlerLocks_iff.mp locks,
      (inv.initOwner party).mpr ((holdsInit_iff joins).mpr rfl)⟩)
  · rintro notBoth party joins (⟨locks, _⟩ | ⟨_, owner⟩)
    · exact notBoth ⟨(isJoining_iff inv).mpr ⟨party, joins⟩, handlerLocks_iff.mpr locks⟩
    · rcases (inv.tableOwner party).mp owner with holds | ⟨rfl, _⟩
      · rw [joins] at holds
        cases holds
      · have calls := inv.callbackCalls
        rw [joins] at calls
        cases calls

/-- A step of a call makes no callback wait for `g_initMutex`, and only the step
into `pthread_join` makes a thread wait there. -/
theorem CallMoved.keepsClear {pc : CallPc} {pc' : Option CallPc} (inv : LockInv next)
    (moved : CallMoved system next party pc pc') (systemInv : LockInv system)
    (notJoin : ¬ (pc = .deinitTest ∧ system.timer.isInit = true))
    (clear : ¬ (system.isJoining = true ∧ system.handlerLocks = true)) :
    ¬ (next.isJoining = true ∧ next.handlerLocks = true) := by
  rintro ⟨isJoining, locks⟩
  apply clear
  constructor
  · rcases (isJoining_iff inv).mp isJoining with ⟨other, joins⟩
    rw [moved.calls, Function.update_apply] at joins
    split at joins
    next => exact absurd (moved.joins joins) notJoin
    next => exact (isJoining_iff systemInv).mpr ⟨other, joins⟩
  · rcases handlerLocks_iff.mp locks with ⟨call, isPc⟩
    rw [moved.calls, Function.update_apply] at isPc
    split at isPc
    next => exact absurd isPc (moved.waits call)
    next => exact handlerLocks_iff.mpr ⟨call, isPc⟩

/-- The beginning of a call outside the callbacks. -/
theorem begin_thread_keepsClear {pc : CallPc} (inv : LockInv (system.setCall party (some pc)))
    (systemInv : LockInv system) (notHandler : party ≠ .handler) (first : pc.isFirst = true)
    (clear : ¬ (system.isJoining = true ∧ system.handlerLocks = true)) :
    ¬ ((system.setCall party (some pc)).isJoining = true ∧
      (system.setCall party (some pc)).handlerLocks = true) := by
  rintro ⟨isJoining, locks⟩
  apply clear
  constructor
  · rcases (isJoining_iff inv).mp isJoining with ⟨other, joins⟩
    simp only [System.setCall, Function.update_apply] at joins
    split at joins
    next =>
      rw [Option.some.inj joins] at first
      cases first
    next => exact (isJoining_iff systemInv).mpr ⟨other, joins⟩
  · rcases handlerLocks_iff.mp locks with ⟨call, isPc⟩
    simp only [System.setCall, Function.update_apply, if_neg (Ne.symm notHandler)] at isPc
    exact handlerLocks_iff.mpr ⟨call, isPc⟩

/-- What a callback's request does to `g_initMutex`. -/
theorem beginCall_locksInit (system : System) (request : Request) :
    if request.locksInit = true ∧ request.isLifecycle = false then
      Exists fun call => beginCall system .handler request =
        system.setCall .handler (some (.lockInit call))
    else request.isLifecycle = false -> Exists fun expirations =>
      beginCall system .handler request = { system with expirations := expirations } := by
  cases request with
  | add cb =>
      cases cb with
      | none => exact fun _ => ⟨system.expirations, rfl⟩
      | some cb => exact ⟨_, rfl⟩
  | delete timerFd =>
      by_cases negative : timerFd < 0
      · have notLocks : Request.locksInit (.delete timerFd) = false :=
          decide_eq_false (Int32.not_le.mpr negative)
        rw [if_neg (fun both => Bool.false_ne_true (notLocks.symm.trans both.1))]
        exact fun _ => ⟨system.expirations, if_pos negative⟩
      · have locks : Request.locksInit (.delete timerFd) = true :=
          decide_eq_true (Int32.not_lt.mp negative)
        rw [if_pos ⟨locks, rfl⟩]
        exact ⟨.delete timerFd, if_neg negative⟩
  | set timerFd startTime period =>
      intro _
      simp only [beginCall, System.settime]
      split
      · exact ⟨system.expirations, rfl⟩
      · split
        · exact ⟨_, rfl⟩
        · exact ⟨system.expirations, rfl⟩
  | init maxEventNum => exact fun lifecycle => by cases lifecycle
  | deinit => exact fun lifecycle => by cases lifecycle

/-- The beginning of a call of a callback. -/
theorem begin_handler_clear_iff {request : Request} (inv : LockInv system)
    (nextInv : LockInv (beginCall system .handler request))
    (tableCall : request.isLifecycle = false) (idle : system.calls .handler = none)
    (clear : ¬ (system.isJoining = true ∧ system.handlerLocks = true)) :
    ¬ ((beginCall system .handler request).isJoining = true ∧
        (beginCall system .handler request).handlerLocks = true) <->
      (request.locksInit = true -> system.isJoining = false) := by
  have begins := beginCall_locksInit system request
  split at begins
  next locks =>
    rcases begins with ⟨call, same⟩
    rw [same] at nextInv ⊢
    have waits : (system.setCall .handler (some (.lockInit call))).handlerLocks = true :=
      handlerLocks_iff.mpr ⟨call, by simp only [System.setCall, Function.update_self]⟩
    have joinsAlike : (system.setCall .handler (some (.lockInit call))).isJoining = true <->
        system.isJoining = true := by
      rw [isJoining_iff nextInv, isJoining_iff inv]
      constructor
      · rintro ⟨other, joins⟩
        simp only [System.setCall, Function.update_apply] at joins
        split at joins
        next => cases joins
        next => exact ⟨other, joins⟩
      · rintro ⟨other, joins⟩
        refine ⟨other, ?_⟩
        have notHandler : other ≠ .handler := by
          rintro rfl
          rw [idle] at joins
          cases joins
        simp only [System.setCall, Function.update_of_ne notHandler, joins]
    rw [joinsAlike]
    simp only [waits, and_true, locks.1, true_implies, Bool.not_eq_true]
  next notLocks =>
    rcases begins tableCall with ⟨expirations, same⟩
    rw [same]
    constructor
    · exact fun _ locks => absurd ⟨locks, tableCall⟩ notLocks
    · exact fun _ => clear

/-- Every step keeps the deadlock away exactly if the condition holds of it. -/
theorem step_clear_iff {label : SystemLabel} (inv : LockInv system)
    (clear : ¬ (system.isJoining = true ∧ system.handlerLocks = true))
    (callbacks : CallbacksStay label) (stepped : systemStep system label = some next) :
    ¬ (next.isJoining = true ∧ next.handlerLocks = true) <-> CallbacksClear system label := by
  have nextInv := inv.step callbacks stepped
  cases label with
  | begin party request =>
      simp only [systemStep] at stepped
      split at stepped
      next enabled =>
        cases stepped
        have idle := Option.isNone_iff_eq_none.mp enabled.1
        cases party with
        | handler => exact begin_handler_clear_iff inv nextInv callbacks idle clear
        | thread index =>
            refine iff_of_true ?_ trivial
            rcases beginCall_cases system (.thread index) request with
              ⟨pc, same, first, _⟩ | ⟨expirations, same⟩
            · rw [same] at nextInv ⊢
              exact begin_thread_keepsClear nextInv inv (by simp) first clear
            · rw [same]
              exact clear
      next => cases stepped
  | advance party =>
      rcases Option.bind_eq_some_iff.mp stepped with ⟨pc, isPc, done⟩
      rcases advanceCall_moved done with ⟨pc', moved⟩
      by_cases joins : pc = .deinitTest ∧ system.timer.isInit = true
      · rcases joins with ⟨rfl, isInit⟩
        have notHandler : party ≠ .handler := by
          rintro rfl
          have calls := inv.callbackCalls
          rw [isPc] at calls
          cases calls
        have nextJoins : next.calls party = some .deinitJoin := by
          simp only [advanceCall, if_pos isInit, Option.some.injEq] at done
          rw [← done]
          simp only [System.setCall, Function.update_self]
        have isJoining := (isJoining_iff nextInv).mpr ⟨party, nextJoins⟩
        have locksAlike : next.handlerLocks = system.handlerLocks := by
          simp only [System.handlerLocks, moved.calls,
            Function.update_of_ne (Ne.symm notHandler)]
        rw [isJoining, locksAlike]
        simp only [CallbacksClear, isPc, isInit, true_and, true_implies, Bool.not_eq_true]
      · apply iff_of_true (moved.keepsClear nextInv inv joins clear)
        intro atTest isInit
        rw [isPc] at atTest
        exact absurd ⟨Option.some.inj atTest, isInit⟩ joins
  | create party timerfdCreate =>
      rcases Option.bind_eq_some_iff.mp stepped with ⟨pc, isPc, done⟩
      rcases createStep_moved done with ⟨pc', moved⟩
      refine iff_of_true (moved.keepsClear nextInv inv ?_ clear) trivial
      rintro ⟨rfl, _⟩
      cases done
  | initialise party outcome =>
      rcases Option.bind_eq_some_iff.mp stepped with ⟨pc, isPc, done⟩
      refine iff_of_true ((initialiseStep_moved done).keepsClear nextInv inv ?_ clear) trivial
      rintro ⟨rfl, _⟩
      cases done
  | handler label =>
      have moved := handlerStep_moved stepped
      refine iff_of_true ?_ trivial
      simpa only [System.isJoining, System.handlerLocks, moved.calls, moved.initMutex] using clear
  | expire timer =>
      simp only [systemStep, expireStep] at stepped
      split at stepped
      next =>
        cases stepped
        exact iff_of_true clear trivial
      next => cases stepped

end Deadlock
/-! ## Some thread can move -/

section Progress

variable {system : System} {party : Party}

theorem canMove_advance {pc : CallPc} (isPc : system.calls party = some pc)
    (enabled : (advanceCall system party pc).isSome) : CanMove system := by
  rcases Option.isSome_iff_exists.mp enabled with ⟨next, done⟩
  exact ⟨.advance party, rfl, next, by rw [systemStep, isPc]; exact done⟩

theorem canMove_handler (label : HandlerLabel) (enabled : (handlerStep system label).isSome) :
    CanMove system :=
  ⟨.handler label, rfl, Option.isSome_iff_exists.mp enabled⟩

/-- The owner of `g_eventInfoMutex` releases it. -/
theorem canMove_of_table_owner (inv : LockInv system) (owner : system.tableMutex = some party) :
    CanMove system := by
  rcases (inv.tableOwner party).mp owner with holds | ⟨_, holds⟩
  · cases isPc : system.calls party with
    | none =>
        rw [isPc] at holds
        cases holds
    | some pc =>
        rw [isPc] at holds
        cases pc with
        | unlockTable | deinitUnlock => exact canMove_advance isPc rfl
        | lockInit | testInit | lockTable | returning | deinitLock | deinitTest | deinitJoin
        | deinitLockTable | initLock | initBody => cases holds
  · apply canMove_handler .advance
    unfold handlerStep
    cases isPc : system.handler with
    | unlockTable batch => rfl
    | off | test | wait | lockTable | read | dispatch | callback =>
        rw [isPc] at holds
        cases holds

/-- A handler thread without a call moves when `g_eventInfoMutex` is free. -/
theorem canMove_of_handler (free : system.tableMutex = none) (noCall : system.calls .handler = none)
    (notOff : system.handler ≠ .off) : CanMove system := by
  cases isPc : system.handler with
  | off => exact absurd isPc notOff
  | wait =>
      apply canMove_handler (.wait .failed)
      simp only [handlerStep, isPc, Option.isSome_some]
  | test | unlockTable =>
      apply canMove_handler .advance
      simp only [handlerStep, isPc, Option.isSome_some]
  | lockTable events =>
      apply canMove_handler .advance
      simp only [handlerStep, isPc, free, Option.isNone_none, if_true, Option.isSome_some]
  | read batch =>
      apply canMove_handler .advance
      simp only [handlerStep, isPc]
      split <;> rfl
  | dispatch event batch =>
      apply canMove_handler .advance
      simp only [handlerStep, isPc]
      split <;> rfl
  | callback batch =>
      apply canMove_handler .advance
      simp only [handlerStep, isPc, noCall, Option.isNone_none, if_true, Option.isSome_some]

/-- A call that does not wait for `g_initMutex` or for the handler thread moves
when `g_eventInfoMutex` is free. -/
theorem canMove_of_call {pc : CallPc} (free : system.tableMutex = none)
    (isPc : system.calls party = some pc) (notLocking : pc.isFirst = false)
    (notJoining : pc ≠ .deinitJoin) : CanMove system := by
  cases pc with
  | lockInit | deinitLock | initLock => cases notLocking
  | deinitJoin => exact absurd rfl notJoining
  | testInit | unlockTable | returning | deinitUnlock => exact canMove_advance isPc rfl
  | deinitTest =>
      apply canMove_advance isPc
      simp only [advanceCall]
      split <;> rfl
  | deinitLockTable =>
      apply canMove_advance isPc
      simp only [advanceCall, takeTable, free, Option.isNone_none, if_true, Option.isSome_some]
  | lockTable call =>
      cases call with
      | delete timerFd =>
          apply canMove_advance isPc
          simp only [advanceCall, takeTable, free, Option.isNone_none, if_true, Option.isSome_some]
      | add cb =>
          refine ⟨.create party none, rfl, ?_⟩
          simp only [systemStep, isPc, Option.bind_some, createStep, Option.all_none, takeTable, free,
            Option.isNone_none, if_true, Option.some.injEq, exists_eq']
  | initBody maxEventNum =>
      refine ⟨.initialise party ⟨none, none, 0, 0⟩, rfl, ?_⟩
      simp only [systemStep, isPc, Option.bind_some, initialiseStep, TimerState.canInit,
        Option.all_none, if_true, Option.some.injEq, exists_eq']

/-- Without the deadlock some thread moves as long as any is inside the module. -/
theorem canMove_of_busy (inv : LockInv system) (noDeadlock : system.NoDeadlock)
    (busy : system.handler ≠ .off ∨ Exists fun party => system.calls party ≠ none) :
    CanMove system := by
  cases table : system.tableMutex with
  | some owner => exact canMove_of_table_owner inv table
  | none =>
      cases init : system.initMutex with
      | some owner =>
          have holds := (inv.initOwner owner).mp init
          cases isPc : system.calls owner with
          | none =>
              rw [System.HoldsInit, isPc] at holds
              cases holds
          | some pc =>
              have pcHolds : pc.holdsInit = true := (holdsInit_iff isPc).mp holds
              by_cases joins : pc = .deinitJoin
              · -- the thread in `pthread_join` waits for the handler thread only
                by_cases isOff : system.handler = .off
                · apply canMove_advance isPc
                  simp only [joins, advanceCall, isOff, Option.isSome_some]
                · cases call : system.calls .handler with
                  | none => exact canMove_of_handler table call isOff
                  | some callPc =>
                      have notLifecycle := inv.callbackCalls
                      rw [call, Option.any_some] at notLifecycle
                      apply canMove_of_call table call
                      · by_contra isFirst
                        cases callPc with
                        | lockInit locked =>
                            exact noDeadlock owner (joins ▸ isPc) (Or.inl ⟨⟨locked, call⟩, init⟩)
                        | deinitLock | initLock => cases notLifecycle
                        | testInit | lockTable | unlockTable | returning | deinitTest | deinitJoin
                        | deinitLockTable | deinitUnlock | initBody => exact isFirst rfl
                      · rintro rfl
                        cases notLifecycle
              · apply canMove_of_call table isPc _ joins
                cases pc with
                | lockInit | deinitLock | initLock => cases pcHolds
                | testInit | lockTable | unlockTable | returning | deinitTest | deinitJoin
                | deinitLockTable | deinitUnlock | initBody => rfl
      | none =>
          have notHolding : forall party pc, system.calls party = some pc ->
              pc.holdsInit = false := by
            intro party pc isPc
            by_contra holds
            have owner := (inv.initOwner party).mpr
              ((holdsInit_iff isPc).mpr (by simpa using holds))
            rw [init] at owner
            cases owner
          have moves : forall party pc, system.calls party = some pc -> CanMove system := by
            intro party pc isPc
            by_cases isFirst : pc.isFirst = true
            · apply canMove_advance isPc
              cases pc with
              | lockInit | deinitLock | initLock =>
                  simp only [advanceCall, takeInit, init, Option.isNone_none, if_true,
                    Option.isSome_some]
              | testInit | lockTable | unlockTable | returning | deinitTest | deinitJoin
              | deinitLockTable | deinitUnlock | initBody => cases isFirst
            · apply canMove_of_call table isPc (by simpa using isFirst)
              rintro rfl
              cases notHolding party _ isPc
          rcases busy with notOff | ⟨party, calling⟩
          · cases call : system.calls .handler with
            | none => exact canMove_of_handler table call notOff
            | some pc => exact moves .handler pc call
          · rcases Option.ne_none_iff_exists'.mp calling with ⟨pc, isPc⟩
            exact moves party pc isPc

end Progress

/-! ## Runs -/

theorem lockInv_started {timer : TimerState} (isInit : timer.isInit = true) :
    LockInv (System.started timer) where
  initOwner := by
    intro other
    simp [System.started, System.HoldsInit]
  tableOwner := by
    intro other
    simp [System.started, System.HoldsTable, HandlerPc.holdsTable]
  callbackOnly := fun calling => absurd rfl calling
  callbackCalls := rfl
  joined := by
    intro other waits
    simp [System.started] at waits
  runs := by
    intro notInit
    have same : timer.isInit = false := notInit
    rw [isInit] at same
    cases same

/-- In every run the handler thread and `DeinitTimerEventManage` do not wait for
each other in any state exactly if every step keeps the callbacks clear of
`g_initMutex`; then some thread can move wherever one is inside the module. -/
theorem shutdown_noDeadlock_iff {timer : TimerState} (isInit : timer.isInit = true)
    {labels : List SystemLabel} {final : System}
    (ran : systemMachine.run (System.started timer) labels = some final)
    (callbacks : systemMachine.AllSteps (fun _ label => CallbacksStay label)
      (System.started timer) labels) :
    (systemMachine.EveryState System.NoDeadlock (System.started timer) labels <->
      systemMachine.AllSteps CallbacksClear (System.started timer) labels) ∧
    (systemMachine.AllSteps CallbacksClear (System.started timer) labels ->
      systemMachine.EveryState
        (fun system => (system.handler ≠ .off ∨ Exists fun party => system.calls party ≠ none) ->
          CanMove system) (System.started timer) labels) := by
  have kept : forall (system : System) label next, LockInv system -> CallbacksStay label ->
      systemMachine.step system label = some next -> LockInv next :=
    fun _ _ _ inv isCallback stepped => inv.step isCallback stepped
  have start := lockInv_started isInit
  have clearStart : (System.started timer).NoDeadlock := by
    intro party joins
    cases joins
  have decided := systemMachine.everyState_iff_allSteps kept
    (fun system label next inv clear isCallback stepped => by
      rw [noDeadlock_iff (kept system label next inv isCallback stepped)]
      exact step_clear_iff inv ((noDeadlock_iff inv).mp clear) isCallback stepped)
    start clearStart callbacks ran
  refine ⟨decided, fun clear => ?_⟩
  have locks := systemMachine.everyState_of_allSteps kept start callbacks
  exact systemMachine.everyState_imp
    (fun (system : System) (both : LockInv system ∧ system.NoDeadlock) busy =>
      canMove_of_busy both.1 both.2 busy)
    (systemMachine.everyState_and locks (decided.mpr clear))

/-! ## Two runs -/

/-- `InitTimerEventManage(2)` with the descriptors 3 and 4. -/
def runningModule : TimerState :=
  (initTimerEventManage timerStatics 2 ⟨some 3, some 4, 0, 0⟩).2

/-- A thread adds a timer with descriptor 5, which expires, and the handler
thread starts its callback. -/
def untilCallback : List SystemLabel :=
  [.begin (.thread 0) (.add (some (.client 0))), .advance (.thread 0), .advance (.thread 0),
    .create (.thread 0) (some 5), .advance (.thread 0), .advance (.thread 0), .expire 2,
    .handler .advance, .handler (.wait (.ready [⟨5, 2⟩])), .handler .advance, .handler .advance,
    .handler .advance, .handler .advance]

/-- The callback deletes its own timer before another thread shuts down. -/
def cleanShutdown : List SystemLabel :=
  untilCallback ++
    [.begin .handler (.delete 5), .advance .handler, .begin (.thread 1) .deinit, .advance .handler,
      .advance .handler, .advance .handler, .advance .handler, .advance (.thread 1),
      .advance (.thread 1), .handler .advance, .handler .advance, .handler .advance,
      .advance (.thread 1), .advance (.thread 1), .advance (.thread 1)]

theorem shutdown_noDeadlock_iff_cleanShutdown :
    (systemMachine.EveryState System.NoDeadlock (System.started runningModule) cleanShutdown <->
      systemMachine.AllSteps CallbacksClear (System.started runningModule) cleanShutdown) ∧
    (systemMachine.AllSteps CallbacksClear (System.started runningModule) cleanShutdown ->
      systemMachine.EveryState
        (fun system => (system.handler ≠ .off ∨ Exists fun party => system.calls party ≠ none) ->
          CanMove system) (System.started runningModule) cleanShutdown) := by
  have ran : (systemMachine.run (System.started runningModule) cleanShutdown).isSome := by
    decide +kernel
  rcases Option.isSome_iff_exists.mp ran with ⟨final, same⟩
  exact shutdown_noDeadlock_iff (by decide +kernel) same (by decide +kernel)

/-- The callback adds a timer while `DeinitTimerEventManage` waits for it. -/
def blockedShutdown : List SystemLabel :=
  untilCallback ++
    [.begin (.thread 1) .deinit, .advance (.thread 1), .advance (.thread 1),
      .begin .handler (.add (some (.client 1)))]

theorem blockedShutdown_deadlocks : Exists fun final =>
    systemMachine.run (System.started runningModule) blockedShutdown = some final ∧
      systemMachine.AllSteps (fun _ label => CallbacksStay label) (System.started runningModule)
        blockedShutdown ∧
      ¬ final.NoDeadlock := by
  have ran : (systemMachine.run (System.started runningModule) blockedShutdown).any (fun final =>
      decide (final.calls (.thread 1) = some .deinitJoin) &&
        decide (final.calls .handler = some (.lockInit (.add (.client 1)))) &&
        decide (final.initMutex = some (.thread 1))) = true := by decide +kernel
  rcases (Option.any_eq_true _ _).mp ran with ⟨final, same, holds⟩
  simp only [Bool.and_eq_true, decide_eq_true_eq] at holds
  refine ⟨final, same, by decide +kernel, fun noDeadlock => ?_⟩
  exact noDeadlock (.thread 1) holds.1.1 (Or.inl ⟨⟨_, holds.1.2⟩, holds.2⟩)

end Timer
end V2x
