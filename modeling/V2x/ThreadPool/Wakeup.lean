import V2x.Foundations.TransitionSystem
import V2x.ThreadPool.Adding
import V2x.ThreadPool.Shutdown

namespace V2x
namespace ThreadPool

open Foundations

/-!
# Waking the workers at the shutdown

`ThreadPoolExitHandle` posts the semaphore once for every worker.  A worker that
has passed its test of `isRunning` waits at most once more, and it takes at most
one token and one job.  So the posted tokens are enough, however many jobs are
left in the list and wherever the workers stand when the flag drops.

Nothing here depends on the ids that the handler joins: `pthread_join` may return
at any time, or never.
-/

variable {F X : Type}

/-! ## The machine -/

/-- A step of the handler whose `pthread_join` may return at any time. -/
def exitStepAnyJoin (state : PoolState F X) (handle : ExitHandle) :
    Option (PoolState F X × ExitHandle) :=
  match handle.pc with
  | .join idx => some (state, { handle with
      pc := .loopTest (idx + 1)
      joined := handle.joined ++ [state.threadId handle.num] })
  | _ => exitStep state handle

theorem exitStepAnyJoin_of_exitStep {state next : PoolState F X} {handle after : ExitHandle}
    (stepped : exitStep state handle = some (next, after)) :
    exitStepAnyJoin state handle = some (next, after) := by
  rcases handle with ⟨num, pc, joined, destroys⟩
  cases pc with
  | join idx =>
      simp only [exitStep] at stepped
      split at stepped
      · exact stepped
      · cases stepped
  | _ => exact stepped

/-- The pool and the handler that shuts it down. -/
structure ClosingPool (F X : Type) where
  pool : PoolState F X
  handle : ExitHandle

inductive ClosingLabel (X : Type) where
  | background (step : Background X)
  | handler

def closingStep (state : ClosingPool F X) : ClosingLabel X -> Option (ClosingPool F X)
  | .background step => (backgroundStep state.pool step).map (fun pool =>
      { state with pool := pool })
  | .handler => (exitStepAnyJoin state.pool state.handle).map (fun done => ⟨done.1, done.2⟩)

/-- The workers, the rest of the program and the handler.  `g_initMutex` is taken,
so no job is added. -/
def closing : Machine (ClosingPool F X) (ClosingLabel X) where
  step := closingStep

/-! ## Counting workers -/

/-- The worker is blocked in `sem_wait` or may still reach it once `isRunning` is
false. -/
def WorkerPc.mayWait : WorkerPc -> Bool
  | .idleSection | .semWait => true
  | _ => false

/-- The worker may still begin to execute a job once `isRunning` is false. -/
def WorkerPc.mayExecute : WorkerPc -> Bool
  | .idleSection | .semWait | .dequeueSection | .fetched _ => true
  | _ => false

namespace PoolState

/-- The workers that are blocked in `sem_wait` or may still reach it. -/
def waiting (state : PoolState F X) : Nat :=
  state.threads.countP WorkerPc.mayWait

/-- The workers that have not ended. -/
def live (state : PoolState F X) : Nat :=
  state.threads.countP (fun pc => decide (pc ≠ .exited))

end PoolState

/-- The tokens the handler has posted. -/
def ExitPc.posted (num : Nat) : ExitPc -> Nat
  | .stop => 0
  | .loopTest idx => idx
  | .post idx => idx
  | .join idx => idx + 1
  | _ => num

/-- The way of a worker through its loop after `isRunning` has been cleared. -/
inductive Drains : WorkerPc -> WorkerPc -> Prop where
  | exits : Drains .loopTest .exited
  | idles : Drains .idleSection .semWait
  | waits : Drains .semWait .dequeueSection
  | findsNone : Drains .dequeueSection .loopTest
  | takes (serial : Nat) : Drains .dequeueSection (.fetched serial)
  | calls (serial : Nat) (cur : Addr) : Drains (.fetched serial) (.running serial cur)
  | skips (serial : Nat) : Drains (.fetched serial) .loopTest
  | finishes (serial : Nat) (cur : Addr) : Drains (.running serial cur) .loopTest

/-- One step of one worker. -/
structure WorkerDrains (state next : PoolState F X) (thread : Nat) (old new : WorkerPc) : Prop where
  at_ : state.threads[thread]? = some old
  threads : next.threads = state.threads.set thread new
  isRunning : next.isRunning = state.isRunning
  sem : next.sem + (if old = .semWait then 1 else 0) = state.sem
  drains : Drains old new

theorem workerStep_drains {state next : PoolState F X} {thread : Nat}
    (stopped : state.isRunning = false) (stepped : workerStep state thread = some next) :
    Exists fun old => Exists fun new => WorkerDrains state next thread old new := by
  cases workerStep_cases stepped with
  | loops at_ running => cases stopped.symm.trans running
  | exits at_ => exact ⟨_, _, at_, rfl, rfl, rfl, .exits⟩
  | idles at_ => exact ⟨_, _, at_, rfl, rfl, rfl, .idles⟩
  | waits at_ available =>
      exact ⟨_, _, at_, rfl, rfl, Nat.succ_pred_eq_of_ne_zero available, .waits⟩
  | findsNone at_ => exact ⟨_, _, at_, rfl, rfl, rfl, .findsNone⟩
  | takes at_ => exact ⟨_, _, at_, rfl, rfl, rfl, .takes _⟩
  | calls serial cur jobInfo at_ => exact ⟨_, _, at_, rfl, rfl, rfl, .calls serial cur⟩
  | finishes serial cur data heap at_ => exact ⟨_, _, at_, rfl, rfl, rfl, .finishes serial cur⟩
  | skips serial old at_ isSerial =>
      cases old with
      | fetched other => exact ⟨_, _, at_, rfl, rfl, rfl, .skips other⟩
      | running other cur => exact ⟨_, _, at_, rfl, rfl, rfl, .finishes other cur⟩
      | _ => cases isSerial

/-- The threads after a step of one of them, counted. -/
theorem countP_set_add (kind : WorkerPc -> Bool) {threads : List WorkerPc} {thread : Nat}
    {old : WorkerPc} (new : WorkerPc) (at_ : threads[thread]? = some old) :
    (threads.set thread new).countP kind + (if kind old then 1 else 0) =
      threads.countP kind + (if kind new then 1 else 0) := by
  rcases List.getElem?_eq_some_iff.mp at_ with ⟨inside, rfl⟩
  have present : (if kind threads[thread] then 1 else 0) ≤ threads.countP kind := by
    split
    next isKind => exact List.countP_pos_iff.mpr ⟨_, List.getElem_mem inside, isKind⟩
    next => exact Nat.zero_le _
  rw [List.countP_set inside]
  omega

/-! ## The tokens are enough -/

/-- The flag is down, and the tokens that are there with those that are still to be
posted are at least as many as the workers that may need one. -/
structure Wakes (state : ClosingPool F X) : Prop where
  stopped : state.pool.isRunning = false
  notStop : state.handle.pc ≠ .stop
  within : state.handle.pc.Within state.handle.num
  enough : state.pool.waiting + state.handle.pc.posted state.handle.num ≤
    state.pool.sem + state.handle.num

theorem Wakes.worker {state : ClosingPool F X} (wakes : Wakes state) {next : PoolState F X}
    {thread : Nat} {old new : WorkerPc} (step : WorkerDrains state.pool next thread old new) :
    Wakes { state with pool := next } where
  stopped := step.isRunning.trans wakes.stopped
  notStop := wakes.notStop
  within := wakes.within
  enough := by
    have enough := wakes.enough
    have counted := countP_set_add WorkerPc.mayWait new step.at_
    have sem := step.sem
    rw [← step.threads] at counted
    change next.waiting + _ = state.pool.waiting + _ at counted
    change next.waiting + state.handle.pc.posted state.handle.num ≤ next.sem + state.handle.num
    cases step.drains <;>
      simp only [WorkerPc.mayWait, reduceCtorEq, Bool.false_eq_true, if_true, if_false] at counted sem <;>
      omega

theorem Wakes.handler {state : ClosingPool F X} (wakes : Wakes state) {next : PoolState F X}
    {after : ExitHandle} (stepped : exitStepAnyJoin state.pool state.handle = some (next, after)) :
    Wakes ⟨next, after⟩ := by
  rcases state with ⟨pool, num, pc, joined, destroys⟩
  rcases wakes with ⟨stopped, notStop, within, enough⟩
  cases pc with
  | stop => exact absurd rfl notStop
  | loopTest idx =>
      cases stepped
      by_cases more : idx < num
      · simp only [ExitHandle.goto, if_pos more]
        exact ⟨stopped, by rintro ⟨⟩, more, enough⟩
      · have last : idx = num := Nat.le_antisymm within (Nat.not_lt.mp more)
        simp only [ExitHandle.goto, if_neg more]
        exact ⟨stopped, by rintro ⟨⟩, trivial, last ▸ enough⟩
  | post idx =>
      cases stepped
      refine ⟨stopped, by rintro ⟨⟩, within, ?_⟩
      change pool.waiting + (idx + 1) ≤ pool.sem + 1 + num
      change pool.waiting + idx ≤ pool.sem + num at enough
      omega
  | join idx =>
      cases stepped
      exact ⟨stopped, by rintro ⟨⟩, within, enough⟩
  | destroyLock =>
      cases stepped
      exact ⟨stopped, by rintro ⟨⟩, trivial, enough⟩
  | destroySem =>
      cases stepped
      exact ⟨stopped, by rintro ⟨⟩, trivial, enough⟩
  | finished => cases stepped

/-- A step of the pool besides the handler moves a worker or an object of the program. -/
theorem backgroundStep_drains {state next : PoolState F X} {step : Background X}
    (stopped : state.isRunning = false) (stepped : backgroundStep state step = some next) :
    (Exists fun thread => Exists fun old => Exists fun new =>
      step = .worker thread ∧ WorkerDrains state next thread old new) ∨
    (forall thread, step ≠ .worker thread) ∧ Exists fun heap => next = { state with heap := heap } := by
  cases step with
  | worker thread =>
      rcases workerStep_drains stopped stepped with ⟨old, new, drains⟩
      exact Or.inl ⟨thread, old, new, rfl, drains⟩
  | userMalloc index object =>
      rcases Option.map_eq_some_iff.mp stepped with ⟨heap, _, rfl⟩
      exact Or.inr ⟨by rintro _ ⟨⟩, heap, rfl⟩
  | userFree address =>
      simp only [backgroundStep] at stepped
      split at stepped
      · rcases Option.map_eq_some_iff.mp stepped with ⟨heap, _, rfl⟩
        exact Or.inr ⟨by rintro _ ⟨⟩, heap, rfl⟩
      · cases stepped

theorem Wakes.step {state next : ClosingPool F X} {label : ClosingLabel X} (wakes : Wakes state)
    (stepped : closingStep state label = some next) : Wakes next := by
  cases label with
  | background step =>
      rcases Option.map_eq_some_iff.mp stepped with ⟨pool, moved, rfl⟩
      rcases backgroundStep_drains wakes.stopped moved with
        ⟨thread, old, new, _, drains⟩ | ⟨_, heap, rfl⟩
      · exact wakes.worker drains
      · exact ⟨wakes.stopped, wakes.notStop, wakes.within, wakes.enough⟩
  | handler =>
      rcases Option.map_eq_some_iff.mp stepped with ⟨⟨pool, after⟩, moved, rfl⟩
      exact wakes.handler moved

/-! ## What one worker still does -/

/-- The worker that passes `sem_wait` in a step. -/
def passesWait (state : ClosingPool F X) : ClosingLabel X -> List Nat
  | .background (.worker thread) =>
      match state.pool.threads[thread]? with
      | some .semWait => [thread]
      | _ => []
  | _ => []

/-- The worker that begins to execute a job in a step. -/
def beginsJob (state : ClosingPool F X) : ClosingLabel X -> List Nat
  | .background (.worker thread) =>
      match state.pool.threads[thread]? with
      | some (.fetched _) => if (state.pool.fetchedJob thread).isSome then [thread] else []
      | _ => []
  | _ => []

/-- One if the worker is at a place of this kind. -/
def PoolState.owes (state : PoolState F X) (kind : WorkerPc -> Bool) (thread : Nat) : Nat :=
  if state.threads[thread]?.any kind then 1 else 0

theorem PoolState.owes_le_one (state : PoolState F X) (kind : WorkerPc -> Bool) (thread : Nat) :
    state.owes kind thread ≤ 1 := by
  unfold PoolState.owes
  split
  · exact Nat.le_refl 1
  · exact Nat.zero_le 1

theorem owes_set {state next : PoolState F X} {thread : Nat} {old new : WorkerPc}
    (step : WorkerDrains state next thread old new) (kind : WorkerPc -> Bool) (other : Nat) :
    next.owes kind other =
      if other = thread then (if kind new then 1 else 0) else state.owes kind other := by
  have inside := (List.getElem?_eq_some_iff.mp step.at_).1
  unfold PoolState.owes
  rw [step.threads]
  by_cases same : other = thread
  · rw [if_pos same, same, List.getElem?_set_self inside, Option.any_some]
  · rw [if_neg same, List.getElem?_set_ne (Ne.symm same)]

theorem exitStepAnyJoin_threads {state next : PoolState F X} {handle after : ExitHandle}
    (stepped : exitStepAnyJoin state handle = some (next, after)) : next.threads = state.threads := by
  rcases handle with ⟨num, pc, joined, destroys⟩
  cases pc with
  | join idx =>
      cases stepped
      rfl
  | _ =>
      simp only [exitStepAnyJoin] at stepped
      exact (exitStep_change stepped).threads

/-- A worker pays for each event of one kind with its place in the loop. -/
theorem pays_of_drains {report : ClosingPool F X -> ClosingLabel X -> List Nat}
    {kind : WorkerPc -> Bool}
    (quiet : forall state label, (forall thread, label ≠ .background (.worker thread)) ->
      report state label = [])
    (reports : forall state thread old new,
      state.pool.threads[thread]? = some old -> Drains old new ->
        (report state (.background (.worker thread)) = [] ∧ (kind new = true -> kind old = true)) ∨
        (report state (.background (.worker thread)) = [thread] ∧
          kind old = true ∧ kind new = false))
    (worker : Nat) {state next : ClosingPool F X} {label : ClosingLabel X} (wakes : Wakes state)
    (stepped : closingStep state label = some next) :
    Wakes next ∧ (report state label).count worker + next.pool.owes kind worker ≤
      state.pool.owes kind worker := by
  refine ⟨wakes.step stepped, ?_⟩
  cases label with
  | background step =>
      rcases Option.map_eq_some_iff.mp stepped with ⟨pool, moved, rfl⟩
      rcases backgroundStep_drains wakes.stopped moved with
        ⟨thread, old, new, rfl, drains⟩ | ⟨notWorker, heap, rfl⟩
      · have change := owes_set drains kind worker
        have before : state.pool.owes kind thread = if kind old then 1 else 0 := by
          unfold PoolState.owes
          rw [drains.at_, Option.any_some]
        by_cases same : worker = thread
        · subst same
          rw [if_pos rfl] at change
          rw [change, before]
          rcases reports state worker old new drains.at_ drains.drains with
            ⟨nothing, fromOld⟩ | ⟨once, isOld, notNew⟩
          · rw [nothing, List.count_nil, Nat.zero_add]
            split
            next isNew => rw [if_pos (fromOld isNew)]
            next => exact Nat.zero_le _
          · rw [once, List.count_singleton_self, isOld, notNew]
            exact Nat.le_refl 1
        · rw [if_neg same] at change
          rw [change, List.count_eq_zero_of_not_mem, Nat.zero_add]
          intro member
          rcases reports state thread old new drains.at_ drains.drains with
            ⟨nothing, _⟩ | ⟨once, _⟩
          · rw [nothing] at member
            exact List.not_mem_nil member
          · rw [once] at member
            exact same (List.mem_singleton.mp member)
      · rw [quiet state _ (fun thread same => notWorker thread (by injection same)), List.count_nil,
          Nat.zero_add]
        exact Nat.le_refl _
  | handler =>
      rcases Option.map_eq_some_iff.mp stepped with ⟨⟨pool, after⟩, moved, rfl⟩
      rw [quiet state .handler nofun, List.count_nil, Nat.zero_add]
      unfold PoolState.owes
      rw [exitStepAnyJoin_threads moved]

theorem passesWait_quiet (state : ClosingPool F X) (label : ClosingLabel X)
    (notWorker : forall thread, label ≠ .background (.worker thread)) : passesWait state label = [] := by
  unfold passesWait
  split
  next thread => exact absurd rfl (notWorker thread)
  next => rfl

theorem beginsJob_quiet (state : ClosingPool F X) (label : ClosingLabel X)
    (notWorker : forall thread, label ≠ .background (.worker thread)) : beginsJob state label = [] := by
  unfold beginsJob
  split
  next thread => exact absurd rfl (notWorker thread)
  next => rfl

theorem passesWait_reports (state : ClosingPool F X) (thread : Nat) (old new : WorkerPc)
    (at_ : state.pool.threads[thread]? = some old) (drains : Drains old new) :
    (passesWait state (.background (.worker thread)) = [] ∧
      (new.mayWait = true -> old.mayWait = true)) ∨
    (passesWait state (.background (.worker thread)) = [thread] ∧
      old.mayWait = true ∧ new.mayWait = false) := by
  simp only [passesWait, at_]
  cases drains with
  | waits => exact Or.inr ⟨rfl, rfl, rfl⟩
  | idles => exact Or.inl ⟨rfl, fun _ => rfl⟩
  | _ => exact Or.inl ⟨rfl, nofun⟩

theorem beginsJob_reports (state : ClosingPool F X) (thread : Nat) (old new : WorkerPc)
    (at_ : state.pool.threads[thread]? = some old) (drains : Drains old new) :
    (beginsJob state (.background (.worker thread)) = [] ∧
      (new.mayExecute = true -> old.mayExecute = true)) ∨
    (beginsJob state (.background (.worker thread)) = [thread] ∧
      old.mayExecute = true ∧ new.mayExecute = false) := by
  simp only [beginsJob, at_]
  cases drains with
  | calls | skips =>
      by_cases points : (state.pool.fetchedJob thread).isSome
      · exact Or.inr ⟨if_pos points, rfl, rfl⟩
      · exact Or.inl ⟨if_neg points, nofun⟩
  | idles | waits | takes => exact Or.inl ⟨rfl, fun _ => rfl⟩
  | exits | findsNone | finishes => exact Or.inl ⟨rfl, nofun⟩

theorem passesWait_pays (worker : Nat) (state : ClosingPool F X) (label : ClosingLabel X)
    (next : ClosingPool F X) (wakes : Wakes state) (stepped : closing.step state label = some next) :
    Wakes next ∧ (passesWait state label).count worker + next.pool.owes WorkerPc.mayWait worker ≤
      state.pool.owes WorkerPc.mayWait worker :=
  pays_of_drains passesWait_quiet passesWait_reports worker wakes stepped

theorem beginsJob_pays (worker : Nat) (state : ClosingPool F X) (label : ClosingLabel X)
    (next : ClosingPool F X) (wakes : Wakes state) (stepped : closing.step state label = some next) :
    Wakes next ∧ (beginsJob state label).count worker + next.pool.owes WorkerPc.mayExecute worker ≤
      state.pool.owes WorkerPc.mayExecute worker :=
  pays_of_drains beginsJob_quiet beginsJob_reports worker wakes stepped

/-! ## The shutdown -/

theorem Wakes.start {state stopped : PoolState F X} {num : Nat} {handle : ExitHandle}
    (stops : exitStep state (.start num) = some (stopped, handle)) (workers : state.live ≤ num) :
    Wakes ⟨stopped, handle⟩ := by
  cases stops
  refine ⟨rfl, nofun, Nat.zero_le num, ?_⟩
  have waiting : state.waiting ≤ state.live := by
    apply List.countP_mono_left
    intro pc _ mayWait
    cases pc with
    | exited => cases mayWait
    | _ => rfl
  exact Nat.le_trans (Nat.le_trans waiting workers) (Nat.le_add_left num state.sem)

/-- Once all tokens are posted, a worker that is blocked can take one. -/
theorem Wakes.unblocked {state : ClosingPool F X} (wakes : Wakes state)
    (allPosted : state.handle.pc.posted state.handle.num = state.handle.num) :
    state.pool.waiting ≤ state.pool.sem ∧
    forall thread, state.pool.threads[thread]? = some .semWait ->
      Exists fun next => workerStep state.pool thread = some next := by
  have enough : state.pool.waiting ≤ state.pool.sem := by
    have enough := wakes.enough
    rw [allPosted] at enough
    exact Nat.le_of_add_le_add_right enough
  refine ⟨enough, fun thread at_ => ?_⟩
  have counted : 0 < state.pool.waiting :=
    List.countP_pos_iff.mpr ⟨.semWait, List.mem_of_getElem? at_, rfl⟩
  have token : state.pool.sem ≠ 0 := Nat.ne_of_gt (Nat.lt_of_lt_of_le counted enough)
  refine ⟨{ state.pool with sem := state.pool.sem - 1 }.goto thread .dequeueSection, ?_⟩
  simp only [workerStep, at_, if_neg token]

/-- `ThreadPoolExitHandle` wakes every worker, wherever the workers stand when it
clears `isRunning` and however many jobs and tokens are left. -/
theorem threadPoolExitHandle_wakesAll {state stopped : PoolState F X} {num : Nat}
    {handle : ExitHandle} (stops : exitStep state (.start num) = some (stopped, handle))
    (workers : state.live ≤ num) {labels : List (ClosingLabel X)} {final : ClosingPool F X}
    (ran : closing.run ⟨stopped, handle⟩ labels = some final) :
    (final.handle.pc.posted final.handle.num = final.handle.num ->
      final.pool.waiting ≤ final.pool.sem ∧
      forall thread, final.pool.threads[thread]? = some .semWait ->
        Exists fun next => workerStep final.pool thread = some next) ∧
    (forall worker, (closing.trace passesWait ⟨stopped, handle⟩ labels).count worker ≤ 1) ∧
    (forall worker, (closing.trace beginsJob ⟨stopped, handle⟩ labels).count worker ≤ 1) ∧
    forall worker more, final.pool.threads[worker]?.any WorkerPc.mayWait = false ->
      (closing.trace passesWait final more).count worker = 0 := by
  have start := Wakes.start stops workers
  have reached : Wakes final :=
    closing.run_invariant (fun _ _ _ wakes stepped => wakes.step stepped) start ran
  have passes : forall worker {state : ClosingPool F X}, Wakes state -> forall labels,
      (closing.trace passesWait state labels).count worker ≤
        state.pool.owes WorkerPc.mayWait worker :=
    fun worker _ wakes labels => closing.count_trace_le (passesWait_pays worker) wakes labels
  refine ⟨reached.unblocked, fun worker => ?_, fun worker => ?_, fun worker more cannot => ?_⟩
  · exact Nat.le_trans (passes worker start labels) (PoolState.owes_le_one _ _ worker)
  · refine Nat.le_trans (closing.count_trace_le (beginsJob_pays worker) start labels) ?_
    exact PoolState.owes_le_one _ _ worker
  · apply Nat.eq_zero_of_le_zero
    have paid := passes worker reached more
    rw [PoolState.owes, cannot] at paid
    exact paid

/-- Two workers and one queued job: one worker has taken the job and the other one is
about to wait when the flag drops.  The joins return at once. -/
theorem threadPoolExitHandle_wakesAll_oneJob :
    let cell : DoublyLinkedListNode Addr := ⟨none, .jobListHead, .jobListHead⟩
    let shutdown : List (ClosingLabel Unit) :=
      [.handler, .handler, .background (.worker 1), .handler, .handler, .handler]
    Exists fun start => Exists fun busy => Exists fun stopped => Exists fun handle =>
      Exists fun final =>
      threadPoolInit (poolStatics Unit Unit cell) 2 (.success cell) = some (.returned 0 start) ∧
      (pool Unit Unit).run ⟨start, none⟩
        [.enter 0 (some ()) (some (.block 0)), .allocate 0 (some 1), .create 0 (some 2), .insert 0,
          .post 0, .leave 0, .background (.worker 0), .background (.worker 0),
          .background (.worker 0), .background (.worker 0), .background (.worker 1)] = some busy ∧
      exitStep busy.pool (.start 2) = some (stopped, handle) ∧
      closing.run ⟨stopped, handle⟩ shutdown = some final ∧
      final.handle.pc.posted final.handle.num = final.handle.num ∧
      final.pool.waiting = 1 ∧ final.pool.waiting ≤ final.pool.sem ∧
      (closing.trace passesWait ⟨stopped, handle⟩ shutdown).count 1 ≤ 1 := by
  intro cell shutdown
  let jobs : List (PoolLabel Unit Unit) :=
    [.enter 0 (some ()) (some (.block 0)), .allocate 0 (some 1), .create 0 (some 2), .insert 0,
      .post 0, .leave 0, .background (.worker 0), .background (.worker 0),
      .background (.worker 0), .background (.worker 0), .background (.worker 1)]
  have reached : (((threadPoolInit (poolStatics Unit Unit cell) 2 (.success cell)).bind
      InitResult.started).bind (fun start => (pool Unit Unit).run ⟨start, none⟩ jobs)).bind
        (fun busy => (exitStep busy.pool (.start 2)).bind (fun done =>
          (closing.run ⟨done.1, done.2⟩ shutdown).map (fun final =>
            (busy.pool.live, final.handle.pc.posted final.handle.num, final.handle.num,
              final.pool.waiting)))) = some (2, 2, 2, 1) := by
    decide
  rcases Option.bind_eq_some_iff.mp reached with ⟨busy, filled, closes⟩
  rcases Option.bind_eq_some_iff.mp filled with ⟨start, started, ran⟩
  rcases Option.bind_eq_some_iff.mp started with ⟨result, done, isStart⟩
  rw [InitResult.eq_of_started isStart] at done
  rcases Option.bind_eq_some_iff.mp closes with ⟨⟨stopped, handle⟩, stops, shut⟩
  rcases Option.map_eq_some_iff.mp shut with ⟨final, shutRun, observed⟩
  simp only [Prod.mk.injEq] at observed
  rcases observed with ⟨live, posted, num, waiting⟩
  have allPosted := posted.trans num.symm
  have wakes := threadPoolExitHandle_wakesAll stops (Nat.le_of_eq live) shutRun
  exact ⟨start, busy, stopped, handle, final, done, ran, stops, shutRun, allPosted, waiting,
    (wakes.1 allPosted).1, wakes.2.1 1⟩

end ThreadPool
end V2x
