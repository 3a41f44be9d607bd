import V2x.Timer.Locks

namespace V2x
namespace Timer

open Foundations

/-!
# The counts that callbacks get

`TimerEventManageHandleEvent` reads every descriptor of a batch into one local
variable `count` and does not look at the result of `read`.  A `read` that fails
leaves in `count` what an earlier event of the batch has put there, and the
callback of the timer is called with it.
-/

/-- What a non-blocking `read` of a timer returns: the expirations, or an error. -/
inductive ReadResult where
  | value (count : Nat)
  | failed
deriving DecidableEq, Repr

/-- The value of `count` after a `read`. -/
def ReadResult.store (count : Nat) : ReadResult -> Nat
  | .value new => new
  | .failed => count

/-- A call `cb(fd, count)`. -/
structure CallbackCall where
  cb : TimerEventProcCb
  fd : Int32
  count : Nat
deriving DecidableEq, Repr

/-- The inner loop of `TimerEventManageHandleEvent`. -/
def findCallback (eventInfo : Nat -> TimerEventManageInfo) (maxEventNum : Nat) (fd : Int32) :
    Option TimerEventProcCb :=
  ((List.range maxEventNum).find? (fun j => decide ((eventInfo j).timerFd = fd))).bind
    (fun j => (eventInfo j).cb)

/-- The outer loop, from a value of `count` on.  Every event comes with the result
of its `read`. -/
def handleEvents (eventInfo : Nat -> TimerEventManageInfo) (maxEventNum : Nat) :
    Nat -> List (Int32 × ReadResult) -> List CallbackCall
  | _, [] => []
  | count, (fd, result) :: events =>
      let count := result.store count
      match findCallback eventInfo maxEventNum fd with
      | some cb => ⟨cb, fd, count⟩ :: handleEvents eventInfo maxEventNum count events
      | none => handleEvents eventInfo maxEventNum count events

/-- `TimerEventManageHandleEvent`: the callbacks that it calls, for a copy of the
table and a batch of events. -/
def timerEventManageHandleEvent (eventInfo : Nat -> TimerEventManageInfo) (maxEventNum : Nat)
    (events : List (Int32 × ReadResult)) : List CallbackCall :=
  handleEvents eventInfo maxEventNum 0 events

/-! ## What the calls should be -/

/-- The table has this callback for the descriptor. -/
def Registered (eventInfo : Nat -> TimerEventManageInfo) (maxEventNum : Nat) (fd : Int32)
    (cb : TimerEventProcCb) : Prop :=
  Exists fun j => j < maxEventNum ∧ (eventInfo j).timerFd = fd ∧ (eventInfo j).cb = some cb

/-- No descriptor is in two slots. -/
def DistinctTimers (eventInfo : Nat -> TimerEventManageInfo) (maxEventNum : Nat) : Prop :=
  forall i j, i < maxEventNum -> j < maxEventNum -> 0 ≤ (eventInfo i).timerFd ->
    (eventInfo i).timerFd = (eventInfo j).timerFd -> i = j

/-- One call for every event that was read and has a callback, in the order of the
events and with the count of its own descriptor, and no other call. -/
inductive OwnCalls (registered : Int32 -> TimerEventProcCb -> Prop) :
    List (Int32 × ReadResult) -> List CallbackCall -> Prop where
  | nil : OwnCalls registered [] []
  | calls {fd : Int32} {count : Nat} {cb : TimerEventProcCb} {events : List (Int32 × ReadResult)}
      {calls : List CallbackCall} (isCallback : registered fd cb)
      (rest : OwnCalls registered events calls) :
      OwnCalls registered ((fd, .value count) :: events) (⟨cb, fd, count⟩ :: calls)
  | fails {fd : Int32} {events : List (Int32 × ReadResult)} {calls : List CallbackCall}
      (rest : OwnCalls registered events calls) : OwnCalls registered ((fd, .failed) :: events) calls
  | unregistered {fd : Int32} {count : Nat} {events : List (Int32 × ReadResult)}
      {calls : List CallbackCall} (noCallback : forall cb, ¬ registered fd cb)
      (rest : OwnCalls registered events calls) :
      OwnCalls registered ((fd, .value count) :: events) calls

section Calls

variable {eventInfo : Nat -> TimerEventManageInfo} {maxEventNum : Nat}

theorem findCallback_eq_some_iff (distinct : DistinctTimers eventInfo maxEventNum) {fd : Int32}
    (valid : 0 ≤ fd) (cb : TimerEventProcCb) :
    findCallback eventInfo maxEventNum fd = some cb <-> Registered eventInfo maxEventNum fd cb := by
  rw [findCallback, Option.bind_eq_some_iff]
  simp only [List.find?_range_eq_some, List.mem_range, decide_eq_true_eq, Bool.not_eq_true',
    decide_eq_false_iff_not]
  constructor
  · rintro ⟨j, ⟨isFd, below, _⟩, isCallback⟩
    exact ⟨j, below, isFd, isCallback⟩
  · rintro ⟨j, below, isFd, isCallback⟩
    refine ⟨j, ⟨isFd, below, ?_⟩, isCallback⟩
    intro i earlier sameFd
    have isSlot := distinct i j (Nat.lt_trans earlier below) below (sameFd ▸ valid)
      (sameFd.trans isFd.symm)
    exact Nat.ne_of_lt earlier isSlot

theorem findCallback_eq_none_iff (distinct : DistinctTimers eventInfo maxEventNum) {fd : Int32}
    (valid : 0 ≤ fd) :
    findCallback eventInfo maxEventNum fd = none <->
      forall cb, ¬ Registered eventInfo maxEventNum fd cb := by
  rw [Option.eq_none_iff_forall_ne_some]
  exact forall_congr' (fun cb => not_congr (findCallback_eq_some_iff distinct valid cb))

/-- A callback that should be called is called. -/
theorem OwnCalls.length_le (distinct : DistinctTimers eventInfo maxEventNum)
    {events : List (Int32 × ReadResult)} {calls : List CallbackCall}
    (own : OwnCalls (Registered eventInfo maxEventNum) events calls)
    (valid : forall event, event ∈ events -> 0 ≤ event.1) (count : Nat) :
    calls.length ≤ (handleEvents eventInfo maxEventNum count events).length := by
  induction own generalizing count with
  | nil => exact Nat.zero_le _
  | calls isCallback rest inductionHypothesis =>
      rcases List.forall_mem_cons.mp valid with ⟨validFirst, validRest⟩
      simp only [handleEvents, (findCallback_eq_some_iff distinct validFirst _).mpr isCallback,
        List.length_cons]
      exact Nat.succ_le_succ (inductionHypothesis validRest _)
  | fails rest inductionHypothesis =>
      rcases List.forall_mem_cons.mp valid with ⟨_, validRest⟩
      simp only [handleEvents]
      split
      · exact Nat.le_succ_of_le (inductionHypothesis validRest _)
      · exact inductionHypothesis validRest _
  | unregistered noCallback rest inductionHypothesis =>
      rcases List.forall_mem_cons.mp valid with ⟨validFirst, validRest⟩
      simp only [handleEvents, (findCallback_eq_none_iff distinct validFirst).mpr noCallback]
      exact inductionHypothesis validRest _

/-- The calls are right from any value of `count` on if and only if no descriptor
whose `read` fails has a callback. -/
theorem ownCalls_handleEvents_iff (distinct : DistinctTimers eventInfo maxEventNum)
    {events : List (Int32 × ReadResult)} (valid : forall event, event ∈ events -> 0 ≤ event.1)
    (count : Nat) :
    OwnCalls (Registered eventInfo maxEventNum) events
        (handleEvents eventInfo maxEventNum count events) <->
      forall fd, (fd, ReadResult.failed) ∈ events ->
        forall cb, ¬ Registered eventInfo maxEventNum fd cb := by
  induction events generalizing count with
  | nil => exact iff_of_true .nil (fun fd member => absurd member List.not_mem_nil)
  | cons event events inductionHypothesis =>
      rcases event with ⟨fd, result⟩
      rcases List.forall_mem_cons.mp valid with ⟨validFirst, validRest⟩
      have later := inductionHypothesis validRest (result.store count)
      cases result with
      | value new =>
          have sameFails : (forall other, (other, ReadResult.failed) ∈ (fd, .value new) :: events ->
              forall cb, ¬ Registered eventInfo maxEventNum other cb) <->
              forall other, (other, ReadResult.failed) ∈ events ->
                forall cb, ¬ Registered eventInfo maxEventNum other cb := by
            simp only [List.mem_cons, Prod.mk.injEq, reduceCtorEq, and_false, false_or]
          rw [sameFails, ← later]
          cases found : findCallback eventInfo maxEventNum fd with
          | some cb =>
              have isCallback := (findCallback_eq_some_iff distinct validFirst cb).mp found
              simp only [handleEvents, found]
              constructor
              · intro own
                cases own with
                | calls _ rest => exact rest
                | unregistered noCallback _ => exact absurd isCallback (noCallback cb)
              · exact .calls isCallback
          | none =>
              have noCallback := (findCallback_eq_none_iff distinct validFirst).mp found
              simp only [handleEvents, found]
              constructor
              · intro own
                generalize isCalls : handleEvents eventInfo maxEventNum _ events = calls at own
                cases own with
                | calls isCallback _ => exact absurd isCallback (noCallback _)
                | unregistered _ rest => exact isCalls ▸ rest
              · exact .unregistered noCallback
      | failed =>
          cases found : findCallback eventInfo maxEventNum fd with
          | some cb =>
              have isCallback := (findCallback_eq_some_iff distinct validFirst cb).mp found
              simp only [handleEvents, found]
              apply iff_of_false
              · intro own
                cases own with
                | fails rest =>
                    have tooMany := rest.length_le distinct validRest (ReadResult.failed.store count)
                    exact absurd tooMany (Nat.not_succ_le_self _)
              · exact fun none_ => none_ fd List.mem_cons_self cb isCallback
          | none =>
              have noCallback := (findCallback_eq_none_iff distinct validFirst).mp found
              simp only [handleEvents, found]
              constructor
              · intro own other member
                rcases List.mem_cons.mp member with isFirst | isRest
                · exact (Prod.mk.inj isFirst).1 ▸ noCallback
                · cases own with
                  | fails rest => exact later.mp rest other isRest
              · intro none_
                exact .fails (later.mpr (fun other member =>
                  none_ other (List.mem_cons_of_mem _ member)))

/-- For any table without a descriptor twice and any batch of events,
`TimerEventManageHandleEvent` gives every callback the count of its own descriptor
if and only if no descriptor whose `read` fails has a callback. -/
theorem timerEventManageHandleEvent_ownCalls_iff (distinct : DistinctTimers eventInfo maxEventNum)
    {events : List (Int32 × ReadResult)} (valid : forall event, event ∈ events -> 0 ≤ event.1) :
    OwnCalls (Registered eventInfo maxEventNum) events
        (timerEventManageHandleEvent eventInfo maxEventNum events) <->
      forall fd, (fd, ReadResult.failed) ∈ events ->
        forall cb, ¬ Registered eventInfo maxEventNum fd cb :=
  ownCalls_handleEvents_iff distinct valid 0

end Calls

/-- Two timers of the program at the descriptors 5 and 6. -/
def twoTimers : Nat -> TimerEventManageInfo
  | 0 => ⟨5, some (.client 0)⟩
  | 1 => ⟨6, some (.client 1)⟩
  | _ => ⟨-1, none⟩

theorem distinct_twoTimers : DistinctTimers twoTimers 3 := by
  have slots : forall i, i < 3 -> forall j, j < 3 -> 0 ≤ (twoTimers i).timerFd ->
      (twoTimers i).timerFd = (twoTimers j).timerFd -> i = j := by decide
  exact fun i j below belowToo => slots i below j belowToo

theorem timerEventManageHandleEvent_ownCalls_iff_deleted :
    OwnCalls (Registered twoTimers 3) [(6, .value 2), (7, .failed), (5, .value 1)]
      [⟨.client 1, 6, 2⟩, ⟨.client 0, 5, 1⟩] := by
  apply (timerEventManageHandleEvent_ownCalls_iff distinct_twoTimers (by decide)).mpr
  intro fd isFailed cb
  simp only [List.mem_cons, Prod.mk.injEq, reduceCtorEq, and_false, and_true, List.not_mem_nil,
    false_or, or_false] at isFailed
  subst isFailed
  rintro ⟨j, below, isFd, _⟩
  have notFound : forall j, j < 3 -> (twoTimers j).timerFd ≠ 7 := by decide
  exact notFound j below isFd

/-- The second timer was set again after `epoll_wait`, so its `read` fails, and its
callback gets the three expirations of the first one. -/
theorem timerEventManageHandleEvent_staleCount :
    timerEventManageHandleEvent twoTimers 3 [(5, .value 3), (6, .failed)] =
      [⟨.client 0, 5, 3⟩, ⟨.client 1, 6, 3⟩] ∧
    ¬ OwnCalls (Registered twoTimers 3) [(5, .value 3), (6, .failed)]
      (timerEventManageHandleEvent twoTimers 3 [(5, .value 3), (6, .failed)]) := by
  refine ⟨by decide, ?_⟩
  intro own
  change OwnCalls _ _ [⟨.client 0, 5, 3⟩, ⟨.client 1, 6, 3⟩] at own
  cases own with
  | calls _ rest =>
      cases rest with
      | fails rest => cases rest
  | unregistered _ rest =>
      cases rest with
      | fails rest => cases rest

/-! ## The handler thread calls what the function calls -/

/-- The result of a `read` at this moment. -/
def System.readResult (system : System) (fd : Int32) : ReadResult :=
  match system.timer.fds.file fd with
  | none => .failed
  | some timer => if system.expirations timer = 0 then .failed else .value (system.expirations timer)

/-- The `read` of a step. -/
def System.readMade (system : System) : SystemLabel -> List (Int32 × ReadResult)
  | .handler .advance =>
      match system.handler with
      | .read batch => batch.events.head?.toList.map (fun event =>
          (event.fd, system.readResult event.fd))
      | _ => []
  | _ => []

/-- The callback that a step starts. -/
def HandlerPc.starts (maxEventNum : Nat) : HandlerPc -> List CallbackCall
  | .dispatch event batch => (findCallback batch.table maxEventNum event.fd).toList.map (fun cb =>
      ⟨cb, event.fd, batch.count⟩)
  | _ => []

def System.callMade (system : System) : SystemLabel -> List CallbackCall
  | .handler .advance => system.handler.starts system.timer.maxEventNum
  | _ => []

/-- The handler thread is at work on a batch with this copy of the table. -/
def System.InBatch (table : Nat -> TimerEventManageInfo) (maxEventNum : Nat) (system : System) :
    Prop :=
  system.timer.maxEventNum = maxEventNum ∧ Exists fun batch => batch.table = table ∧
    (system.handler = .read batch ∨ system.handler = .callback batch ∨
      Exists fun event => system.handler = .dispatch event batch)

/-- The callbacks of a handler thread that is going to read these events. -/
def HandlerPc.expected (maxEventNum : Nat) (events : List (Int32 × ReadResult)) :
    HandlerPc -> List CallbackCall
  | .read batch | .callback batch => handleEvents batch.table maxEventNum batch.count events
  | .dispatch event batch => (HandlerPc.dispatch event batch).starts maxEventNum ++
      handleEvents batch.table maxEventNum batch.count events
  | _ => []

theorem count_readTimer (system : System) (batch : Batch) (fd : Int32) :
    (readTimer system batch fd).1.count = (system.readResult fd).store batch.count ∧
      (readTimer system batch fd).1.table = batch.table := by
  simp only [readTimer, System.readResult]
  cases isFile : system.timer.fds.file fd with
  | none => exact ⟨rfl, rfl⟩
  | some timer =>
      by_cases expired : system.expirations timer = 0
      · simp only [if_pos expired, ReadResult.store, and_self]
      · simp only [if_neg expired, ReadResult.store, and_self]

/-- Only the handler thread moves the handler thread, apart from its creation. -/
theorem systemStep_handler {system next : System} {label : SystemLabel}
    (stepped : systemStep system label = some next) (notHandler : forall own, label ≠ .handler own) :
    next.handler = system.handler ∨ next.handler = .test := by
  cases label with
  | begin party request =>
      simp only [systemStep] at stepped
      split at stepped
      next =>
        cases stepped
        rcases beginCall_cases system party request with ⟨pc, same, _⟩ | ⟨expirations, same⟩
        · rw [same]
          exact Or.inl rfl
        · rw [same]
          exact Or.inl rfl
      next => cases stepped
  | advance party =>
      rcases Option.bind_eq_some_iff.mp stepped with ⟨pc, _, done⟩
      rcases advanceCall_moved done with ⟨pc', moved⟩
      exact moved.handler.imp_right (fun created => created.2.2.2)
  | create party timerfdCreate =>
      rcases Option.bind_eq_some_iff.mp stepped with ⟨pc, _, done⟩
      rcases createStep_moved done with ⟨pc', moved⟩
      exact moved.handler.imp_right (fun created => created.2.2.2)
  | initialise party outcome =>
      rcases Option.bind_eq_some_iff.mp stepped with ⟨pc, _, done⟩
      exact (initialiseStep_moved done).handler.imp_right (fun created => created.2.2.2)
  | handler own => exact absurd rfl (notHandler own)
  | expire timer =>
      simp only [systemStep, expireStep] at stepped
      split at stepped
      next =>
        cases stepped
        exact Or.inl rfl
      next => cases stepped

section Batches

variable {table : Nat -> TimerEventManageInfo} {maxEventNum : Nat}

/-- A step of the handler thread starts the callbacks that its `read` and the state
before it lead to. -/
theorem callMade_advance {system next : System} (inBatch : system.InBatch table maxEventNum)
    (stays : next.InBatch table maxEventNum) (stepped : handlerStep system .advance = some next)
    (events : List (Int32 × ReadResult)) :
    system.callMade (.handler .advance) ++ next.handler.expected maxEventNum events =
      system.handler.expected maxEventNum (system.readMade (.handler .advance) ++ events) := by
  rcases inBatch with ⟨bound, batch, _, isPc | isPc | ⟨event, isPc⟩⟩
  · simp only [handlerStep, isPc] at stepped
    cases isEvents : batch.events with
    | nil =>
        simp only [isEvents] at stepped
        cases stepped
        rcases stays with ⟨_, _, _, isRead | isCallback | ⟨_, isDispatch⟩⟩
        · cases isRead
        · cases isCallback
        · cases isDispatch
    | cons event rest =>
        simp only [isEvents] at stepped
        cases stepped
        rcases count_readTimer system batch event.fd with ⟨count, sameTable⟩
        simp only [System.callMade, System.readMade, isPc, isEvents, HandlerPc.starts,
          HandlerPc.expected, count, sameTable, List.head?_cons, Option.toList_some, List.map_cons,
          List.map_nil, List.nil_append, List.singleton_append, handleEvents]
        cases findCallback batch.table maxEventNum event.fd <;> rfl
  · simp only [handlerStep, isPc] at stepped
    split at stepped
    · cases stepped
      simp only [System.callMade, System.readMade, isPc, HandlerPc.starts, HandlerPc.expected,
        List.nil_append]
    · cases stepped
  · simp only [handlerStep, isPc] at stepped
    split at stepped
    · cases stepped
      simp only [System.callMade, System.readMade, isPc, bound, HandlerPc.expected, List.nil_append]
    · cases stepped
      simp only [System.callMade, System.readMade, isPc, bound, HandlerPc.expected, List.nil_append]

/-- The same for every step of the system that leaves the handler thread at its batch. -/
theorem callMade_step {system next : System} {label : SystemLabel}
    (inBatch : system.InBatch table maxEventNum) (stays : next.InBatch table maxEventNum)
    (stepped : systemStep system label = some next) (events : List (Int32 × ReadResult)) :
    system.callMade label ++ next.handler.expected maxEventNum events =
      system.handler.expected maxEventNum (system.readMade label ++ events) := by
  by_cases isAdvance : label = .handler .advance
  · subst isAdvance
    exact callMade_advance inBatch stays stepped events
  · have others : next.handler = system.handler := by
      have notTest : next.handler ≠ .test := by
        intro isTest
        rcases stays with ⟨_, _, _, isRead | isCallback | ⟨_, isDispatch⟩⟩
        · cases isTest.symm.trans isRead
        · cases isTest.symm.trans isCallback
        · cases isTest.symm.trans isDispatch
      cases label with
      | handler own =>
          cases own with
          | advance => exact absurd rfl isAdvance
          | wait result =>
              simp only [systemStep, handlerStep] at stepped
              split at stepped
              next isWait =>
                rcases inBatch with ⟨_, _, _, isRead | isCallback | ⟨_, isDispatch⟩⟩
                · cases isWait.symm.trans isRead
                · cases isWait.symm.trans isCallback
                · cases isWait.symm.trans isDispatch
              next => cases stepped
      | _ => exact (systemStep_handler stepped (by rintro _ ⟨⟩)).resolve_right notTest
    have noCall : system.callMade label = [] ∧ system.readMade label = [] := by
      cases label with
      | handler own =>
          cases own with
          | advance => exact absurd rfl isAdvance
          | wait result => exact ⟨rfl, rfl⟩
      | _ => exact ⟨rfl, rfl⟩
    rw [noCall.1, noCall.2, others]
    rfl

/-- In every run in which the handler thread stays at one batch, whatever the other
threads do, the callbacks it has started and those it still has to start for the
events it has read are the ones that the function calls. -/
theorem trace_callMade {labels : List SystemLabel} {system final : System}
    (every : systemMachine.EveryState (System.InBatch table maxEventNum) system labels)
    (ran : systemMachine.run system labels = some final) (events : List (Int32 × ReadResult)) :
    systemMachine.trace System.callMade system labels ++ final.handler.expected maxEventNum events =
      system.handler.expected maxEventNum
        (systemMachine.trace System.readMade system labels ++ events) := by
  induction labels generalizing system with
  | nil =>
      cases ran
      rfl
  | cons label labels inductionHypothesis =>
      rcases (systemMachine.run_cons_iff system final label labels).mp ran with
        ⟨next, stepped, rest⟩
      have later := every.2 next stepped
      simp only [Machine.trace, show systemMachine.step system label = some next from stepped,
        List.append_assoc]
      rw [inductionHypothesis later rest]
      exact callMade_step every.1 (systemMachine.everyState_start later) stepped _

/-- A batch from its copy of the table to its last `read`. -/
theorem trace_callMade_batch {labels : List SystemLabel} {system final : System} {batch done : Batch}
    (starts : system.handler = .read batch) (fresh : batch.count = 0)
    (ends : final.handler = .read done)
    (every : systemMachine.EveryState (System.InBatch batch.table maxEventNum) system labels)
    (ran : systemMachine.run system labels = some final) :
    systemMachine.trace System.callMade system labels =
      timerEventManageHandleEvent batch.table maxEventNum
        (systemMachine.trace System.readMade system labels) := by
  have whole := trace_callMade every ran []
  rw [starts, ends, List.append_nil] at whole
  simp only [HandlerPc.expected, handleEvents, List.append_nil, fresh] at whole
  exact whole

end Batches

end Timer
end V2x
