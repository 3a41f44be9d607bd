import V2x.ThreadPool.Statements

namespace V2x
namespace ThreadPool

open Foundations

/-!
# The sections as single steps

Every run of the statements is explained by a run of `pool`, in which a section
is one step.  What `pool` shows of a section is seen before or after the
statements that really do it, so the counters differ by what the owner of the
lock owes.  While nobody has the lock they are the same, and everything that is
proved of the states of `pool` holds of the statements.
-/

variable {F X : Type}

/-! ## The state in sections -/

/-- Where the worker stands among the sections.  `serial` is the position of its job. -/
def WorkerStatement.sectionPc (serial : Nat) : WorkerStatement -> WorkerPc
  | .loopTest | .unlockEmpty => .loopTest
  | .lockIdle | .testIdle | .raiseIdle => .idleSection
  | .unlockIdle | .semWait => .semWait
  | .lockDequeue | .lowerIdle | .deleteTail => .dequeueSection
  | .lowerJobs | .unlockTaken | .fetched => .fetched serial
  | .running cur => .running serial cur
  | .exited => .exited

def AddStatement.sectionPc : AddStatement F -> Option (AddPc F)
  | .lockInit _ | .unlockInit => none
  | .testInit jobInfo | .mallocTmp jobInfo => some (.locked jobInfo)
  | .createNode jobInfo tmp | .freeTmp jobInfo tmp => some (.allocated jobInfo tmp)
  | .lockList jobInfo tmp node | .insertHead jobInfo tmp node => some (.created jobInfo tmp node)
  | .raiseJobs | .unlockList | .post => some .inserted

/-- `idleThreadNum` has been lowered, and the section is not yet done. -/
def WorkerStatement.idleDue : WorkerStatement -> Int
  | .deleteTail => 1
  | _ => 0

/-- The section is done, and `curJobNum` has not been lowered. -/
def WorkerStatement.jobsDue : WorkerStatement -> Int
  | .lowerJobs => -1
  | _ => 0

/-- The section is done, and `curJobNum` has not been raised. -/
def AddStatement.jobsDue : AddStatement F -> Int
  | .raiseJobs => 1
  | _ => 0

namespace StatementState

def idleDueOf (state : StatementState F X) : Party -> Int
  | .worker thread => (state.workers thread).elim 0 WorkerStatement.idleDue
  | .caller _ => 0

def jobsDueOf (state : StatementState F X) : Party -> Int
  | .worker thread => (state.workers thread).elim 0 WorkerStatement.jobsDue
  | .caller caller => (state.callers caller).elim 0 AddStatement.jobsDue

def idleDue (state : StatementState F X) : Int := owed state.lock state.idleDueOf

def jobsDue (state : StatementState F X) : Int := owed state.lock state.jobsDueOf

/-- The holder of `g_initMutex` among the sections. -/
def adder (state : StatementState F X) : Option (Adder F) :=
  match state.initMutex with
  | some (.caller caller) =>
      ((state.callers caller).bind AddStatement.sectionPc).map (fun pc => ⟨caller, pc⟩)
  | _ => none

end StatementState

/-- The state of `pool` that explains a state of the statements. -/
structure Refines (state : StatementState F X) (image : SharedPool F X) : Prop where
  isInit : image.pool.isInit = state.isInit
  isRunning : image.pool.isRunning = state.isRunning
  maxThreadNum : image.pool.maxThreadNum = state.maxThreadNum
  sem : image.pool.sem = state.sem
  heap : image.pool.heap = state.heap
  idleThreadNum : image.pool.idleThreadNum = state.idleThreadNum + state.idleDue
  curJobNum : image.pool.curJobNum = state.curJobNum + state.jobsDue
  threads : Exists fun serials : Nat -> Nat => forall thread,
    image.pool.threads[thread]? =
      (state.workers thread).map (WorkerStatement.sectionPc (serials thread))
  initMutex : image.initMutex = state.adder

/-! ## What is owed after a statement -/

section Debts

variable {state next : StatementState F X} {thread caller : Nat}

theorem WorkerStatement.due_eq_zero {statement : WorkerStatement}
    (outside : statement.holdsLock = false) : statement.idleDue = 0 ∧ statement.jobsDue = 0 := by
  cases statement with
  | testIdle | raiseIdle | unlockIdle | lowerIdle | deleteTail | unlockEmpty | lowerJobs
  | unlockTaken => cases outside
  | loopTest | lockIdle | semWait | lockDequeue | fetched | running | exited => exact ⟨rfl, rfl⟩

theorem AddStatement.due_eq_zero {statement : AddStatement F}
    (outside : statement.holdsLock = false) : statement.jobsDue = 0 := by
  cases statement with
  | insertHead | raiseJobs | unlockList => cases outside
  | lockInit | testInit | mallocTmp | createNode | freeTmp | lockList | post | unlockInit => rfl

theorem Guarded.owner_worker_iff (guarded : Guarded state) {statement : WorkerStatement}
    (at_ : state.workers thread = some statement) :
    state.lock = some (.worker thread) <-> statement.holdsLock = true := by
  rw [guarded.lock]
  simp only [HoldsLock, at_, Option.any_some]

theorem Guarded.owner_caller_iff (guarded : Guarded state) {statement : AddStatement F}
    (at_ : state.callers caller = some statement) :
    state.lock = some (.caller caller) <-> statement.holdsLock = true := by
  rw [guarded.lock]
  simp only [HoldsLock, at_, Option.any_some]

theorem WorkerGoes.dues {old new : WorkerStatement} (goes : WorkerGoes state next thread old new)
    (guarded : Guarded state) (at_ : state.workers thread = some old) :
    next.idleDue - new.idleDue = state.idleDue - old.idleDue ∧
      next.jobsDue - new.jobsDue = state.jobsDue - old.jobsDue := by
  have isOwner := guarded.owner_worker_iff at_
  have elsewhere : forall other, Party.worker other ≠ Party.worker thread -> other ≠ thread :=
    fun other different same => different (same ▸ rfl)
  have idleOld : state.idleDueOf (.worker thread) = old.idleDue := by
    simp only [StatementState.idleDueOf, at_, Option.elim_some]
  have jobsOld : state.jobsDueOf (.worker thread) = old.jobsDue := by
    simp only [StatementState.jobsDueOf, at_, Option.elim_some]
  have idleNew : next.idleDueOf (.worker thread) = new.idleDue := by
    simp only [StatementState.idleDueOf, goes.workers, Function.update_self, Option.elim_some]
  have jobsNew : next.jobsDueOf (.worker thread) = new.jobsDue := by
    simp only [StatementState.jobsDueOf, goes.workers, Function.update_self, Option.elim_some]
  rw [← idleOld, ← jobsOld, ← idleNew, ← jobsNew]
  constructor
  · refine owed_move goes.lock isOwner ?_ ?_ ?_
    · exact fun outside => idleOld.trans (WorkerStatement.due_eq_zero outside).1
    · exact fun outside => idleNew.trans (WorkerStatement.due_eq_zero outside).1
    · rintro (other | other) different
      · simp only [StatementState.idleDueOf, goes.workers,
          Function.update_of_ne (elsewhere other different)]
      · rfl
  · refine owed_move goes.lock isOwner ?_ ?_ ?_
    · exact fun outside => jobsOld.trans (WorkerStatement.due_eq_zero outside).2
    · exact fun outside => jobsNew.trans (WorkerStatement.due_eq_zero outside).2
    · rintro (other | other) different
      · simp only [StatementState.jobsDueOf, goes.workers,
          Function.update_of_ne (elsewhere other different)]
      · simp only [StatementState.jobsDueOf, goes.callers]

theorem CallerGoes.dues {old : AddStatement F} {new : Option (AddStatement F)}
    (goes : CallerGoes state next caller old new) (guarded : Guarded state)
    (at_ : state.callers caller = some old) :
    next.idleDue = state.idleDue ∧
      next.jobsDue - new.elim 0 AddStatement.jobsDue = state.jobsDue - old.jobsDue := by
  have isOwner := guarded.owner_caller_iff at_
  have elsewhere : forall other, Party.caller other ≠ Party.caller caller -> other ≠ caller :=
    fun other different same => different (same ▸ rfl)
  have jobsOld : state.jobsDueOf (.caller caller) = old.jobsDue := by
    simp only [StatementState.jobsDueOf, at_, Option.elim_some]
  have jobsNew : next.jobsDueOf (.caller caller) = new.elim 0 AddStatement.jobsDue := by
    simp only [StatementState.jobsDueOf, goes.callers, Function.update_self]
  constructor
  · have others : forall other, other ≠ Party.caller caller ->
        next.idleDueOf other = state.idleDueOf other := by
      rintro (other | other) different
      · simp only [StatementState.idleDueOf, goes.workers]
      · rfl
    have moved := owed_move goes.lock isOwner (fun _ => rfl) (fun _ => rfl) others
    simp only [StatementState.idleDueOf, Int.sub_zero] at moved
    exact moved
  · rw [← jobsOld, ← jobsNew]
    refine owed_move goes.lock isOwner ?_ ?_ ?_
    · exact fun outside => jobsOld.trans (AddStatement.due_eq_zero outside)
    · intro outside
      rw [jobsNew]
      cases new with
      | none => rfl
      | some new => exact AddStatement.due_eq_zero outside
    · rintro (other | other) different
      · simp only [StatementState.jobsDueOf, goes.workers]
      · simp only [StatementState.jobsDueOf, goes.callers,
          Function.update_of_ne (elsewhere other different)]

end Debts

/-! ## A worker -/

section Worker

variable {state next : StatementState F X} {image : SharedPool F X} {thread : Nat}
  {old new : WorkerStatement}

/-- The statements of a worker do not change the holder of `g_initMutex`. -/
theorem WorkerGoes.adder (goes : WorkerGoes state next thread old new) : next.adder = state.adder := by
  simp only [StatementState.adder, goes.initMutex, goes.callers]

/-- The image of a worker's statement. -/
theorem Refines.works (refines : Refines state image) (guarded : Guarded state)
    (at_ : state.workers thread = some old) (goes : WorkerGoes state next thread old new)
    {after : PoolState F X} (flags : KeepsFlags image.pool after) (sem : after.sem = next.sem)
    (heap : after.heap = next.heap)
    (idle : after.idleThreadNum - (next.idleThreadNum + new.idleDue) =
      image.pool.idleThreadNum - (state.idleThreadNum + old.idleDue))
    (jobs : after.curJobNum - (next.curJobNum + new.jobsDue) =
      image.pool.curJobNum - (state.curJobNum + old.jobsDue))
    (serial : Nat) (threads : after.threads = image.pool.threads.set thread (new.sectionPc serial)) :
    Refines next { image with pool := after } := by
  have dues := goes.dues guarded at_
  have idleBefore := refines.idleThreadNum
  have jobsBefore := refines.curJobNum
  rcases refines.threads with ⟨serials, places⟩
  constructor
  · exact flags.isInit.trans (refines.isInit.trans goes.isInit.symm)
  · exact flags.isRunning.trans (refines.isRunning.trans goes.isRunning.symm)
  · exact flags.maxThreadNum.trans (refines.maxThreadNum.trans goes.maxThreadNum.symm)
  · exact sem
  · exact heap
  · simp only
    omega
  · simp only
    omega
  · refine ⟨Function.update serials thread serial, fun other => ?_⟩
    simp only [threads, goes.workers]
    by_cases same : other = thread
    · subst same
      have inside := places other
      rw [at_, Option.map_some] at inside
      rw [List.getElem?_set_self (List.getElem?_eq_some_iff.mp inside).1, Function.update_self,
        Function.update_self, Option.map_some]
    · rw [List.getElem?_set_ne (Ne.symm same), Function.update_of_ne same, Function.update_of_ne same]
      exact places other
  · exact refines.initMutex.trans goes.adder.symm

/-- A statement that is not the one that does the section. -/
theorem Refines.stutters (refines : Refines state image) (guarded : Guarded state)
    (at_ : state.workers thread = some old) (goes : WorkerGoes state next thread old new)
    (sem : next.sem = state.sem) (heap : next.heap = state.heap)
    (idle : next.idleThreadNum + new.idleDue = state.idleThreadNum + old.idleDue)
    (jobs : next.curJobNum + new.jobsDue = state.curJobNum + old.jobsDue)
    (same : forall serial, new.sectionPc serial = old.sectionPc serial) : Refines next image := by
  rcases refines.threads with ⟨serials, places⟩
  have place := places thread
  rw [at_, Option.map_some, ← same] at place
  rcases List.getElem?_eq_some_iff.mp place with ⟨inside, isPlace⟩
  refine refines.works guarded at_ goes (KeepsFlags.refl image.pool) (refines.sem.trans sem.symm)
    (refines.heap.trans heap.symm) ?_ ?_ (serials thread) ?_
  · rw [idle]
  · rw [jobs]
  · rw [← isPlace, List.set_getElem_self]

theorem WorkerGoes.eq_of_goto {middle : StatementState F X} {statement : WorkerStatement}
    (goes : WorkerGoes state (middle.goto thread statement) thread old new) : new = statement := by
  have atThread := congrFun goes.workers thread
  simp only [StatementState.goto, Function.update_self, Option.some.injEq] at atThread
  exact atThread.symm

/-- The image takes the step of the worker. -/
theorem matched_worker {after : PoolState F X} (worked : workerStep image.pool thread = some after)
    (refinesNext : Refines next { image with pool := after }) :
    Exists fun events => Exists fun after =>
      (pool F X).run image events = some after ∧ Refines next after := by
  have taken : (pool F X).step image (.background (.worker thread)) =
      some { image with pool := after } := by
    simp only [pool, poolStep, backgroundStep, worked, Option.map_some]
  exact Machine.matched_step taken refinesNext

theorem Refines.worker_matched (refines : Refines state image) (guarded : Guarded state)
    (at_ : state.workers thread = some old) (taken : workerStatement state thread old = some next) :
    Exists fun events => Exists fun after =>
      (pool F X).run image events = some after ∧ Refines next after := by
  rcases workerStatement_goes taken with ⟨new, goes⟩
  rcases refines.threads with ⟨serials, places⟩
  have place := places thread
  rw [at_, Option.map_some] at place
  cases old with
  | loopTest =>
      have sameFlag := refines.isRunning
      cases running : state.isRunning with
      | true =>
          simp only [workerStatement, running, if_true, Option.some.injEq] at taken
          subst taken
          rw [goes.eq_of_goto] at goes
          have worked : workerStep image.pool thread = some (image.pool.goto thread .idleSection) := by
            simp only [workerStep, place, WorkerStatement.sectionPc, sameFlag, running, if_true]
          exact matched_worker worked (refines.works guarded at_ goes
            ⟨rfl, rfl, rfl, rfl, List.length_set⟩ refines.sem refines.heap rfl rfl
            (serials thread) rfl)
      | false =>
          simp only [workerStatement, running, Bool.false_eq_true, if_false, Option.some.injEq] at taken
          subst taken
          rw [goes.eq_of_goto] at goes
          have worked : workerStep image.pool thread = some (image.pool.goto thread .exited) := by
            simp only [workerStep, place, WorkerStatement.sectionPc, sameFlag, running,
              Bool.false_eq_true, if_false]
          exact matched_worker worked (refines.works guarded at_ goes
            ⟨rfl, rfl, rfl, rfl, List.length_set⟩ refines.sem refines.heap rfl rfl
            (serials thread) rfl)
  | lockIdle =>
      rcases Option.map_eq_some_iff.mp taken with ⟨locked, isLocked, rfl⟩
      rcases takeLock_eq_some isLocked with ⟨_, rfl⟩
      rw [goes.eq_of_goto] at goes
      exact Machine.matched_stutter (refines.stutters guarded at_ goes rfl rfl rfl rfl fun _ => rfl)
  | testIdle =>
      cases taken
      rw [goes.eq_of_goto] at goes
      by_cases full : state.idleThreadNum = state.maxThreadNum
      · -- The counter is full, so the section is done without a change.
        rw [if_neg (not_not.mpr full)] at goes ⊢
        have sameIdle : image.pool.idleThreadNum = image.pool.maxThreadNum := by
          have due : state.idleDue = 0 := by
            simp only [StatementState.idleDue, owed, guarded.lock_worker at_ rfl, Option.elim_some,
              StatementState.idleDueOf, at_, WorkerStatement.idleDue]
          rw [refines.idleThreadNum, due, refines.maxThreadNum, full, Int.add_zero]
        have worked : workerStep image.pool thread = some (image.pool.goto thread .semWait) := by
          simp only [workerStep, place, WorkerStatement.sectionPc]
          rw [if_neg (not_not.mpr sameIdle)]
        exact matched_worker worked (refines.works guarded at_ goes
          ⟨rfl, rfl, rfl, rfl, List.length_set⟩ refines.sem refines.heap rfl rfl
          (serials thread) rfl)
      · rw [if_pos full] at goes ⊢
        exact Machine.matched_stutter (refines.stutters guarded at_ goes rfl rfl rfl rfl fun _ => rfl)
  | raiseIdle =>
      cases taken
      rw [goes.eq_of_goto] at goes
      have due : state.idleDue = 0 := by
        simp only [StatementState.idleDue, owed, guarded.lock_worker at_ rfl, Option.elim_some,
          StatementState.idleDueOf, at_, WorkerStatement.idleDue]
      have sameIdle := refines.idleThreadNum
      rw [due, Int.add_zero] at sameIdle
      have worked : workerStep image.pool thread = some ({ image.pool with
          idleThreadNum := image.pool.idleThreadNum + 1 }.goto thread .semWait) := by
        simp only [workerStep, place, WorkerStatement.sectionPc]
        rw [if_pos]
        rw [sameIdle, refines.maxThreadNum]
        exact guarded.notFull thread at_
      refine matched_worker worked (refines.works guarded at_ goes ⟨rfl, rfl, rfl, rfl, List.length_set⟩
        refines.sem refines.heap ?_ rfl (serials thread) rfl)
      simp only [PoolState.goto, StatementState.goto, WorkerStatement.idleDue]
      omega
  | unlockIdle =>
      cases taken
      rw [goes.eq_of_goto] at goes
      exact Machine.matched_stutter (refines.stutters guarded at_ goes rfl rfl rfl rfl fun _ => rfl)
  | semWait =>
      simp only [workerStatement] at taken
      split at taken
      · cases taken
      next available =>
        cases taken
        rw [goes.eq_of_goto] at goes
        have worked : workerStep image.pool thread = some ({ image.pool with
            sem := image.pool.sem - 1 }.goto thread .dequeueSection) := by
          simp only [workerStep, place, WorkerStatement.sectionPc]
          rw [if_neg (refines.sem ▸ available)]
        exact matched_worker worked (refines.works guarded at_ goes
          ⟨rfl, rfl, rfl, rfl, List.length_set⟩ (congrArg (· - 1) refines.sem) refines.heap rfl rfl
          (serials thread) rfl)
  | lockDequeue =>
      rcases Option.map_eq_some_iff.mp taken with ⟨locked, isLocked, rfl⟩
      rcases takeLock_eq_some isLocked with ⟨_, rfl⟩
      rw [goes.eq_of_goto] at goes
      exact Machine.matched_stutter (refines.stutters guarded at_ goes rfl rfl rfl rfl fun _ => rfl)
  | lowerIdle =>
      cases taken
      rw [goes.eq_of_goto] at goes
      refine Machine.matched_stutter (refines.stutters guarded at_ goes rfl rfl ?_ rfl fun _ => rfl)
      simp only [StatementState.goto, WorkerStatement.idleDue]
      omega
  | deleteTail =>
      rcases Option.map_eq_some_iff.mp taken with ⟨⟨ret, heap⟩, done, rfl⟩
      rw [goes.eq_of_goto] at goes
      rw [← refines.heap] at done
      by_cases failed : ret ≠ 0
      · simp only [if_pos failed] at goes ⊢
        have worked : workerStep image.pool thread = some ({ image.pool with
            idleThreadNum := image.pool.idleThreadNum - 1
            heap := heap }.goto thread .loopTest) := by
          simp only [workerStep, place, WorkerStatement.sectionPc, done, Option.bind_eq_bind,
            Option.bind_some, if_pos failed, Option.pure_def]
        refine matched_worker worked (refines.works guarded at_ goes
          ⟨rfl, rfl, rfl, rfl, List.length_set⟩ refines.sem rfl ?_ rfl (serials thread) rfl)
        simp only [PoolState.goto, StatementState.goto, WorkerStatement.idleDue]
        omega
      · simp only [if_neg failed] at goes ⊢
        have worked : workerStep image.pool thread = some ({ image.pool with
            idleThreadNum := image.pool.idleThreadNum - 1
            heap := heap
            curJobNum := image.pool.curJobNum - 1
            dequeued := image.pool.dequeued ++
              ((heap.nodeData (.curHead thread)).bind (jobInfoAt heap)).toList }.goto thread
                (.fetched image.pool.dequeued.length)) := by
          simp only [workerStep, place, WorkerStatement.sectionPc, done, Option.bind_eq_bind,
            Option.bind_some, if_neg failed, Option.pure_def, PoolState.fetchedJob]
        refine matched_worker worked (refines.works guarded at_ goes
          ⟨rfl, rfl, rfl, rfl, List.length_set⟩ refines.sem rfl ?_ ?_
          image.pool.dequeued.length rfl)
        · simp only [PoolState.goto, StatementState.goto, WorkerStatement.idleDue]
          omega
        · simp only [PoolState.goto, StatementState.goto, WorkerStatement.jobsDue]
          omega
  | unlockEmpty =>
      cases taken
      rw [goes.eq_of_goto] at goes
      exact Machine.matched_stutter (refines.stutters guarded at_ goes rfl rfl rfl rfl fun _ => rfl)
  | lowerJobs =>
      cases taken
      rw [goes.eq_of_goto] at goes
      refine Machine.matched_stutter (refines.stutters guarded at_ goes rfl rfl rfl ?_ fun _ => rfl)
      simp only [StatementState.goto, WorkerStatement.jobsDue]
      omega
  | unlockTaken =>
      cases taken
      rw [goes.eq_of_goto] at goes
      exact Machine.matched_stutter (refines.stutters guarded at_ goes rfl rfl rfl rfl fun _ => rfl)
  | fetched =>
      simp only [workerStatement, ← refines.heap] at taken
      split at taken
      next noData =>
        cases taken
        rw [goes.eq_of_goto] at goes
        have worked : workerStep image.pool thread = some (image.pool.goto thread .loopTest) := by
          simp only [workerStep, place, WorkerStatement.sectionPc, noData]
        exact matched_worker worked (refines.works guarded at_ goes
          ⟨rfl, rfl, rfl, rfl, List.length_set⟩ refines.sem refines.heap rfl rfl
          (serials thread) rfl)
      next cur points =>
        rcases Option.map_eq_some_iff.mp taken with ⟨jobInfo, info, rfl⟩
        rw [goes.eq_of_goto] at goes
        have worked : workerStep image.pool thread =
            some (image.pool.goto thread (.running (serials thread) cur)) := by
          simp only [workerStep, place, WorkerStatement.sectionPc, points, info, Option.map_some]
        exact matched_worker worked (refines.works guarded at_ goes
          ⟨rfl, rfl, rfl, rfl, List.length_set⟩ refines.sem refines.heap rfl rfl
          (serials thread) rfl)
  | running cur =>
      simp only [workerStatement, ← refines.heap] at taken
      split at taken
      next noData =>
        cases taken
        rw [goes.eq_of_goto] at goes
        have worked : workerStep image.pool thread = some (image.pool.goto thread .loopTest) := by
          simp only [workerStep, place, WorkerStatement.sectionPc, noData]
        exact matched_worker worked (refines.works guarded at_ goes
          ⟨rfl, rfl, rfl, rfl, List.length_set⟩ refines.sem refines.heap rfl rfl
          (serials thread) rfl)
      next data points =>
        rcases Option.map_eq_some_iff.mp taken with ⟨heap, freed, rfl⟩
        rw [goes.eq_of_goto] at goes
        have worked : workerStep image.pool thread =
            some ({ image.pool with heap := heap }.goto thread .loopTest) := by
          simp only [workerStep, place, WorkerStatement.sectionPc, points, freed, Option.map_some]
        exact matched_worker worked (refines.works guarded at_ goes
          ⟨rfl, rfl, rfl, rfl, List.length_set⟩ refines.sem rfl rfl rfl (serials thread) rfl)
  | exited => cases taken

end Worker

/-! ## A caller -/

section Caller

variable {state next : StatementState F X} {image after : SharedPool F X} {caller : Nat}
  {block : Option Nat} {old statement : AddStatement F} {new : Option (AddStatement F)}

/-- The caller that has `g_initMutex` is the one that `pool` knows of. -/
theorem Guarded.adder (guarded : Guarded state) (at_ : state.callers caller = some old)
    (inside : old.holdsInit = true) :
    state.adder = old.sectionPc.map (fun pc => ⟨caller, pc⟩) := by
  simp only [StatementState.adder, guarded.init_caller at_ inside, at_, Option.bind_some]

/-- The image of a caller's statement. -/
theorem Refines.adds (refines : Refines state image) (guarded : Guarded state)
    (at_ : state.callers caller = some old) (goes : CallerGoes state next caller old new)
    (flags : KeepsFlags image.pool after.pool) (threads : after.pool.threads = image.pool.threads)
    (sem : after.pool.sem = next.sem) (heap : after.pool.heap = next.heap)
    (idle : after.pool.idleThreadNum = image.pool.idleThreadNum)
    (jobs : after.pool.curJobNum - (next.curJobNum + new.elim 0 AddStatement.jobsDue) =
      image.pool.curJobNum - (state.curJobNum + old.jobsDue))
    (adder : after.initMutex = next.adder) : Refines next after := by
  have dues := goes.dues guarded at_
  have idleBefore := refines.idleThreadNum
  have jobsBefore := refines.curJobNum
  constructor
  · exact flags.isInit.trans (refines.isInit.trans goes.isInit.symm)
  · exact flags.isRunning.trans (refines.isRunning.trans goes.isRunning.symm)
  · exact flags.maxThreadNum.trans (refines.maxThreadNum.trans goes.maxThreadNum.symm)
  · exact sem
  · exact heap
  · rw [idle, goes.idleThreadNum, dues.1]
    exact idleBefore
  · omega
  · rw [threads, goes.workers]
    exact refines.threads
  · exact adder

/-- A statement that `pool` does not see. -/
theorem Refines.rests (refines : Refines state image) (guarded : Guarded state)
    (at_ : state.callers caller = some old) (goes : CallerGoes state next caller old (some statement))
    (inside : old.holdsInit = true) (stillInside : statement.holdsInit = true)
    (same : statement.sectionPc = old.sectionPc) (sem : next.sem = state.sem)
    (heap : next.heap = state.heap)
    (jobs : next.curJobNum + statement.jobsDue = state.curJobNum + old.jobsDue) :
    Refines next image := by
  have atNext : next.callers caller = some statement := by
    rw [goes.callers, Function.update_self]
  refine refines.adds guarded at_ goes (KeepsFlags.refl image.pool) rfl (refines.sem.trans sem.symm)
    (refines.heap.trans heap.symm) rfl ?_ ?_
  · simp only [Option.elim_some, jobs]
  · rw [refines.initMutex, guarded.adder at_ inside, (guarded.adds at_ goes).adder atNext stillInside,
      same]

theorem CallerGoes.eq_of_gotoAdd {middle : StatementState F X}
    (goes : CallerGoes state (middle.gotoAdd caller statement) caller old new) :
    new = some statement := by
  have atCaller := congrFun goes.callers caller
  simp only [StatementState.gotoAdd, Function.update_self] at atCaller
  exact atCaller.symm

theorem CallerGoes.eq_of_returns {middle : StatementState F X}
    (goes : CallerGoes state (middle.returns caller) caller old new) : new = none := by
  have atCaller := congrFun goes.callers caller
  simp only [StatementState.returns, Function.update_self] at atCaller
  exact atCaller.symm

/-- The holder of `g_initMutex` takes a step of `pool`. -/
theorem pool_step_holder {adder : Adder F} {label : PoolLabel F X} (isHolder : image.initMutex = some adder)
    (added : addStep image adder label = some after) : (pool F X).step image label = some after := by
  cases label with
  | enter | background => cases added
  | allocate | create | insert | post | leave =>
      simp only [pool, poolStep, isHolder, Option.bind_some]
      exact added

theorem Refines.caller_matched (refines : Refines state image) (guarded : Guarded state)
    (at_ : state.callers caller = some old) (taken : addStatement state caller block old = some next) :
    Exists fun events => Exists fun after =>
      (pool F X).run image events = some after ∧ Refines next after := by
  rcases addStatement_goes taken with ⟨new, goes⟩
  have holder : old.holdsInit = true -> image.initMutex = old.sectionPc.map (fun pc => ⟨caller, pc⟩) :=
    fun inside => refines.initMutex.trans (guarded.adder at_ inside)
  cases old with
  | lockInit jobInfo =>
      rcases Option.map_eq_some_iff.mp taken with ⟨locked, isLocked, rfl⟩
      rcases takeInit_eq_some isLocked with ⟨free, rfl⟩
      have isNew := goes.eq_of_gotoAdd
      subst isNew
      have unlocked : image.initMutex = none := by
        rw [refines.initMutex, StatementState.adder, free]
      have entered : (pool F X).step image (.enter caller (some jobInfo.jobFunc) (some jobInfo.arg)) =
          some { image with initMutex := some ⟨caller, .locked jobInfo⟩ } := by
        simp only [pool, poolStep, enterStep, unlocked]
      refine Machine.matched_step entered (refines.adds guarded at_ goes (KeepsFlags.refl image.pool) rfl
        refines.sem refines.heap rfl rfl ?_)
      exact ((guarded.adds at_ goes).adder (Function.update_self _ _ _) rfl).symm
  | testInit jobInfo =>
      cases isInit : state.isInit with
      | true =>
          simp only [addStatement, isInit, if_true, Option.some.injEq] at taken
          subst taken
          have isNew := goes.eq_of_gotoAdd
          subst isNew
          exact Machine.matched_stutter (refines.rests guarded at_ goes rfl rfl rfl rfl rfl rfl)
      | false =>
          simp only [addStatement, isInit, Bool.false_eq_true, if_false, Option.some.injEq] at taken
          subst taken
          have isNew := goes.eq_of_gotoAdd
          subst isNew
          have refused : addStep image ⟨caller, .locked jobInfo⟩ (.allocate caller none) =
              some { image with initMutex := none } := by
            simp only [addStep, if_true, allocateStep, refines.isInit, isInit, Bool.false_eq_true,
              not_false_eq_true]
          refine Machine.matched_step (pool_step_holder (holder rfl) refused) (refines.adds guarded at_ goes
            (KeepsFlags.refl image.pool) rfl refines.sem refines.heap rfl rfl ?_)
          exact ((guarded.adds at_ goes).adder (Function.update_self _ _ _) rfl).symm
  | mallocTmp jobInfo =>
      have isInit := refines.isInit.trans (guarded.tested caller jobInfo at_)
      cases block with
      | none =>
          cases taken
          have isNew := goes.eq_of_gotoAdd
          subst isNew
          have refused : addStep image ⟨caller, .locked jobInfo⟩ (.allocate caller none) =
              some { image with initMutex := none } := by
            simp only [addStep, if_true, allocateStep, isInit, not_true_eq_false, if_false]
          refine Machine.matched_step (pool_step_holder (holder rfl) refused) (refines.adds guarded at_ goes
            (KeepsFlags.refl image.pool) rfl refines.sem refines.heap rfl rfl ?_)
          exact ((guarded.adds at_ goes).adder (Function.update_self _ _ _) rfl).symm
      | some index =>
          rcases Option.map_eq_some_iff.mp taken with ⟨heap, done, rfl⟩
          have isNew := goes.eq_of_gotoAdd
          subst isNew
          rw [← refines.heap] at done
          have allocated : addStep image ⟨caller, .locked jobInfo⟩ (.allocate caller (some index)) =
              some { pool := { image.pool with heap := heap }
                     initMutex := some ⟨caller, .allocated jobInfo (.block index)⟩ } := by
            simp only [addStep, if_true, allocateStep, isInit, not_true_eq_false, if_false, done,
              Option.map_some]
          refine Machine.matched_step (pool_step_holder (holder rfl) allocated) (refines.adds guarded at_ goes
            ⟨rfl, rfl, rfl, rfl, rfl⟩ rfl refines.sem rfl rfl rfl ?_)
          exact ((guarded.adds at_ goes).adder (Function.update_self _ _ _) rfl).symm
  | createNode jobInfo tmp =>
      rcases Option.map_eq_some_iff.mp taken with ⟨⟨node, heap⟩, done, rfl⟩
      cases block with
      | none =>
          cases done
          have isNew := goes.eq_of_gotoAdd
          subst isNew
          exact Machine.matched_stutter (refines.rests guarded at_ goes rfl rfl rfl rfl rfl rfl)
      | some index =>
          have isNode : node = some (.block index) := by
            rcases Option.bind_eq_some_iff.mp done with ⟨first, _, rest⟩
            rcases Option.bind_eq_some_iff.mp rest with ⟨second, _, isResult⟩
            cases isResult
            rfl
          subst isNode
          have isNew := goes.eq_of_gotoAdd
          subst isNew
          rw [← refines.heap] at done
          have created : addStep image ⟨caller, .allocated jobInfo tmp⟩ (.create caller (some index)) =
              some { pool := { image.pool with heap := heap }
                     initMutex := some ⟨caller, .created jobInfo tmp (.block index)⟩ } := by
            simp only [addStep, if_true, createStep, done, Option.bind_eq_bind, Option.bind_some,
              Option.pure_def]
          refine Machine.matched_step (pool_step_holder (holder rfl) created) (refines.adds guarded at_ goes
            ⟨rfl, rfl, rfl, rfl, rfl⟩ rfl refines.sem rfl rfl rfl ?_)
          exact ((guarded.adds at_ goes).adder (Function.update_self _ _ _) rfl).symm
  | freeTmp jobInfo tmp =>
      rcases Option.map_eq_some_iff.mp taken with ⟨heap, freed, rfl⟩
      have isNew := goes.eq_of_gotoAdd
      subst isNew
      rw [← refines.heap] at freed
      have gaveUp : addStep image ⟨caller, .allocated jobInfo tmp⟩ (.create caller none) =
          some { pool := { image.pool with heap := heap }, initMutex := none } := by
        simp only [addStep, if_true, createStep, createDoublyLinkedListNode, Option.map_none,
          Option.bind_eq_bind, Option.bind_some, freed, Option.pure_def]
      refine Machine.matched_step (pool_step_holder (holder rfl) gaveUp) (refines.adds guarded at_ goes
        ⟨rfl, rfl, rfl, rfl, rfl⟩ rfl refines.sem rfl rfl rfl ?_)
      exact ((guarded.adds at_ goes).adder (Function.update_self _ _ _) rfl).symm
  | lockList jobInfo tmp node =>
      rcases Option.map_eq_some_iff.mp taken with ⟨locked, isLocked, rfl⟩
      rcases takeLock_eq_some isLocked with ⟨_, rfl⟩
      have isNew := goes.eq_of_gotoAdd
      subst isNew
      exact Machine.matched_stutter (refines.rests guarded at_ goes rfl rfl rfl rfl rfl rfl)
  | insertHead jobInfo tmp node =>
      rcases Option.map_eq_some_iff.mp taken with ⟨⟨ret, heap⟩, done, rfl⟩
      have isNew := goes.eq_of_gotoAdd
      subst isNew
      rw [← refines.heap] at done
      have inserted : addStep image ⟨caller, .created jobInfo tmp node⟩ (.insert caller) =
          some { pool := { image.pool with
                   heap := heap
                   curJobNum := image.pool.curJobNum + 1
                   accepted := image.pool.accepted ++ [jobInfo] }
                 initMutex := some ⟨caller, .inserted⟩ } := by
        simp only [addStep, if_true, insertStep, done, Option.map_some]
      refine Machine.matched_step (pool_step_holder (holder rfl) inserted) (refines.adds guarded at_ goes
        ⟨rfl, rfl, rfl, rfl, rfl⟩ rfl refines.sem rfl rfl ?_ ?_)
      · simp only [StatementState.gotoAdd, Option.elim_some, AddStatement.jobsDue]
        omega
      · exact ((guarded.adds at_ goes).adder (Function.update_self _ _ _) rfl).symm
  | raiseJobs =>
      cases taken
      have isNew := goes.eq_of_gotoAdd
      subst isNew
      refine Machine.matched_stutter (refines.rests guarded at_ goes rfl rfl rfl rfl rfl ?_)
      simp only [StatementState.gotoAdd, AddStatement.jobsDue]
      omega
  | unlockList =>
      cases taken
      have isNew := goes.eq_of_gotoAdd
      subst isNew
      exact Machine.matched_stutter (refines.rests guarded at_ goes rfl rfl rfl rfl rfl rfl)
  | post =>
      cases taken
      have isNew := goes.eq_of_gotoAdd
      subst isNew
      -- In `pool` the caller leaves at once.  Nobody comes in before the real unlock.
      have posted : (pool F X).step image (.post caller) =
          some { pool := { image.pool with sem := image.pool.sem + 1 }
                 initMutex := some ⟨caller, .posted⟩ } := by
        refine pool_step_holder (holder rfl) ?_
        simp only [addStep, if_true]
      have left : (pool F X).step { pool := { image.pool with sem := image.pool.sem + 1 }
                                    initMutex := some ⟨caller, .posted⟩ } (.leave caller) =
          some { pool := { image.pool with sem := image.pool.sem + 1 }, initMutex := none } := by
        refine pool_step_holder rfl ?_
        simp only [addStep, if_true]
      refine ⟨[.post caller, .leave caller], { pool := { image.pool with sem := image.pool.sem + 1 }
                                               initMutex := none }, ?_, ?_⟩
      · exact ((pool F X).run_cons_iff _ _ _ _).mpr ⟨_, posted,
          ((pool F X).run_cons_iff _ _ _ _).mpr ⟨_, left, rfl⟩⟩
      · refine refines.adds guarded at_ goes ⟨rfl, rfl, rfl, rfl, rfl⟩ rfl
          (congrArg (· + 1) refines.sem) refines.heap rfl rfl ?_
        exact ((guarded.adds at_ goes).adder (Function.update_self _ _ _) rfl).symm
  | unlockInit =>
      cases taken
      have isNew := goes.eq_of_returns
      subst isNew
      refine Machine.matched_stutter (refines.adds guarded at_ goes (KeepsFlags.refl image.pool) rfl
        refines.sem refines.heap rfl rfl ?_)
      exact holder rfl

end Caller

/-! ## Every run of the statements -/

section Runs

variable {state next : StatementState F X} {image : SharedPool F X} {label : StatementLabel F X}

/-- A caller that comes changes nothing that `pool` shows. -/
theorem Refines.calls (refines : Refines state image) (guarded : Guarded state) {caller : Nat}
    (outside : state.callers caller = none) (jobInfo : ThreadPoolJobInfo F) :
    Refines (state.gotoAdd caller (.lockInit jobInfo)) image := by
  have others : forall other, other ≠ caller ->
      (state.gotoAdd caller (.lockInit jobInfo)).callers other = state.callers other :=
    fun other different => Function.update_of_ne different _ _
  refine ⟨refines.isInit, refines.isRunning, refines.maxThreadNum, refines.sem, refines.heap,
    refines.idleThreadNum, ?_, refines.threads, ?_⟩
  · rw [refines.curJobNum, StatementState.jobsDue, StatementState.jobsDue]
    congr 1
    simp only [StatementState.gotoAdd, owed]
    cases owner : state.lock with
    | none => rfl
    | some party =>
        cases party with
        | worker thread => rfl
        | caller other =>
            have inside := (guarded.lock _).mp owner
            have different : other ≠ caller := by
              rintro rfl
              simp only [HoldsLock, outside, Option.any_none, Bool.false_eq_true] at inside
            simp only [Option.elim_some, StatementState.jobsDueOf, Function.update_of_ne different]
  · rw [refines.initMutex, StatementState.adder, StatementState.adder]
    simp only [StatementState.gotoAdd]
    cases owner : state.initMutex with
    | none => rfl
    | some party =>
        cases party with
        | worker thread => rfl
        | caller other =>
            have inside := (guarded.initMutex _).mp owner
            have different : other ≠ caller := by
              rintro rfl
              simp only [HoldsInit, outside, Option.any_none, Bool.false_eq_true] at inside
            simp only [Function.update_of_ne different]

theorem Refines.mallocs (refines : Refines state image) {index : Nat} {object : X} {heap : PoolHeap F X}
    (done : state.heap.malloc (.block index) (.data (.user object)) = some heap) :
    Exists fun events => Exists fun after =>
      (pool F X).run image events = some after ∧ Refines { state with heap := heap } after := by
  rw [← refines.heap] at done
  have taken : (pool F X).step image (.background (.userMalloc index object)) =
      some { image with pool := { image.pool with heap := heap } } := by
    simp only [pool, poolStep, backgroundStep, done, Option.map_some]
  exact Machine.matched_step taken ⟨refines.isInit, refines.isRunning, refines.maxThreadNum, refines.sem,
    rfl, refines.idleThreadNum, refines.curJobNum, refines.threads, refines.initMutex⟩

theorem Refines.frees (refines : Refines state image) {address : Addr} {object : X} {heap : PoolHeap F X}
    (held : state.heap.content address = some (.user object))
    (freed : state.heap.free address = some heap) :
    Exists fun events => Exists fun after =>
      (pool F X).run image events = some after ∧ Refines { state with heap := heap } after := by
  rw [← refines.heap] at held freed
  have taken : (pool F X).step image (.background (.userFree address)) =
      some { image with pool := { image.pool with heap := heap } } := by
    simp only [pool, poolStep, backgroundStep, held, freed, Option.map_some]
  exact Machine.matched_step taken ⟨refines.isInit, refines.isRunning, refines.maxThreadNum, refines.sem,
    rfl, refines.idleThreadNum, refines.curJobNum, refines.threads, refines.initMutex⟩

/-- A state of the statements and the state of `pool` that explains it. -/
structure Explained (state : StatementState F X) (image : SharedPool F X) : Prop where
  guarded : Guarded state
  refines : Refines state image

theorem statements_simulates : Machine.Simulates (statements F X) (pool F X) Explained := by
  intro state next label image explained taken
  have guardedNext := guarded_step explained.guarded taken
  have matched : Exists fun events => Exists fun after =>
      (pool F X).run image events = some after ∧ Refines next after := by
    cases statementStep_cases taken with
    | works old at_ worked => exact explained.refines.worker_matched explained.guarded at_ worked
    | adds old at_ added => exact explained.refines.caller_matched explained.guarded at_ added
    | rejects => exact Machine.matched_stutter explained.refines
    | calls caller jobFunc arg outside =>
        exact Machine.matched_stutter (explained.refines.calls explained.guarded outside _)
    | mallocs index object heap done => exact explained.refines.mallocs done
    | frees address object heap held freed => exact explained.refines.frees held freed
  rcases matched with ⟨events, after, ran, refinesNext⟩
  exact ⟨events, after, ran, guardedNext, refinesNext⟩

theorem Idle.explained {start : PoolState F X} (idle : Idle start) :
    Explained start.statements ⟨start, none⟩ where
  guarded := by
    apply guarded_start
    intro pc member
    rcases List.mem_iff_getElem?.mp member with ⟨thread, at_⟩
    exact (idle.threads thread pc at_).imp_right And.left
  refines := by
    refine ⟨rfl, rfl, rfl, rfl, rfl, ?_, ?_, ⟨fun _ => 0, fun thread => ?_⟩, rfl⟩
    · exact (Int.add_zero _).symm
    · exact (Int.add_zero _).symm
    · simp only [PoolState.statements, Option.map_map]
      cases at_ : start.threads[thread]? with
      | none => rfl
      | some pc =>
          rcases idle.threads thread pc at_ with rfl | ⟨rfl, _⟩
          · rfl
          · rfl

theorem Explained.of_run {start : PoolState F X} {labels : List (StatementLabel F X)} (idle : Idle start)
    (ran : (statements F X).run start.statements labels = some state) :
    Exists fun events => Exists fun image =>
      (pool F X).run ⟨start, none⟩ events = some image ∧ Explained state image :=
  statements_simulates.run idle.explained ran

/-- Every state that the statements reach after a successful initialisation, with no older threads
left, is explained by a run of `pool`.  The mutexes belong to the threads inside, and while nobody has
the lock the counters are those of `pool`. -/
theorem statements_refine_sections {pre start : PoolState F X} {threadNum : Int} {outcome : InitOutcome}
    (uninitialised : pre.isInit = false) (noWorkers : forall pc, pc ∈ pre.threads -> pc = .exited)
    (initialised : threadPoolInit pre threadNum outcome = some (.returned 0 start))
    {labels : List (StatementLabel F X)} {final : StatementState F X}
    (ran : (statements F X).run start.statements labels = some final) :
    Exists fun events => Exists fun image =>
      (pool F X).run ⟨start, none⟩ events = some image ∧ Guarded final ∧ Refines final image ∧
        (final.lock = none -> image.pool.curJobNum = final.curJobNum ∧
          image.pool.idleThreadNum = final.idleThreadNum) := by
  rcases Explained.of_run (idle_of_threadPoolInit uninitialised noWorkers initialised) ran with
    ⟨events, image, ranImage, explained⟩
  refine ⟨events, image, ranImage, explained.guarded, explained.refines, fun free => ⟨?_, ?_⟩⟩
  · rw [explained.refines.curJobNum, StatementState.jobsDue, free]
    exact Int.add_zero _
  · rw [explained.refines.idleThreadNum, StatementState.idleDue, free]
    exact Int.add_zero _

end Runs

/-- A caller gives the pool a job, statement by statement. -/
def callingOnce (caller tmp node : Nat) : List (StatementLabel Unit Unit) :=
  [.call caller (some ()) (some (.block 0)), .thread (.caller caller) none,
    .thread (.caller caller) none, .thread (.caller caller) (some tmp),
    .thread (.caller caller) (some node)] ++ List.replicate 6 (.thread (.caller caller) none)

/-- The only worker has taken the job and not yet lowered `curJobNum`. -/
theorem statements_refine_sections_taken :
    let cell : DoublyLinkedListNode Addr := ⟨none, .jobListHead, .jobListHead⟩
    let labels := callingOnce 0 1 2 ++ List.replicate 8 (.thread (.worker 0) none)
    Exists fun start => Exists fun final =>
      threadPoolInit (poolStatics Unit Unit cell) 1 (.success cell) = some (.returned 0 start) ∧
      (statements Unit Unit).run start.statements labels = some final ∧
      final.workers 0 = some .lowerJobs ∧ final.curJobNum = 1 ∧
      Exists fun events => Exists fun image =>
        (pool Unit Unit).run ⟨start, none⟩ events = some image ∧ Refines final image := by
  intro cell labels
  have reached : ((threadPoolInit (poolStatics Unit Unit cell) 1 (.success cell)).bind
      InitResult.started).bind (fun start => ((statements Unit Unit).run start.statements labels).map
        (fun final => (final.workers 0, final.curJobNum))) = some (some .lowerJobs, 1) := by
    decide +kernel
  rcases InitResult.exists_run reached with ⟨start, final, done, ran, observed⟩
  have ⟨taken, counted⟩ := Prod.mk.injEq .. ▸ observed
  rcases statements_refine_sections rfl (fun pc member => absurd member List.not_mem_nil) done ran with
    ⟨events, image, ranImage, _, refines, _⟩
  exact ⟨start, final, done, ran, taken, counted, events, image, ranImage, refines⟩

end ThreadPool
end V2x
