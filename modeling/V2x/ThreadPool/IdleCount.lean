import Mathlib.Order.Interval.Finset.Nat
import V2x.ThreadPool.Accounting

namespace V2x
namespace ThreadPool

open Foundations

/-!
# The counter of idle workers

`idleThreadNum` starts at the number of the workers, so that a worker counts as
idle before it runs for the first time.  The section at the top of its loop
leaves a full counter as it is.  When another worker is awake by then, the
counter is not full, and the worker is counted once more.

The runs of the pool are taken with a note of the workers that are awake.  The
sections under the lock are steps, so the lock is free in every state.
-/

variable {F X : Type}

/-! ## Workers that are awake -/

/-- The workers that have taken a wake-up and have not come back to the top of their loop. -/
def awakeAfter (state : SharedPool F X) (label : PoolLabel F X) (awake : Finset Nat) : Finset Nat :=
  match label with
  | .background (.worker thread) =>
      match state.pool.threads[thread]? with
      | some .dequeueSection => insert thread awake
      | some .idleSection => awake.erase thread
      | _ => awake
  | _ => awake

/-- The pool with the note of the workers that are awake. -/
def waking (F X : Type) : Machine (SharedPool F X × Finset Nat) (PoolLabel F X) :=
  (pool F X).noting awakeAfter

/-- The counter is the number of the workers that are not awake. -/
structure IdleTruthful (threadNum : Int) (state : SharedPool F X × Finset Nat) : Prop where
  counted : state.1.pool.idleThreadNum = threadNum - state.2.card
  range : 0 ≤ state.1.pool.idleThreadNum ∧ state.1.pool.idleThreadNum ≤ threadNum

/-- A worker comes to the top of its loop for the first time only while nobody is awake. -/
def startsAlone (state : SharedPool F X × Finset Nat) : PoolLabel F X -> Prop
  | .background (.worker thread) =>
      state.1.pool.threads[thread]? = some .idleSection -> thread ∉ state.2 -> state.2 = ∅
  | _ => True

instance (state : SharedPool F X × Finset Nat) :
    (label : PoolLabel F X) -> Decidable (startsAlone state label)
  | .background (.worker _) => inferInstanceAs (Decidable (_ -> _ -> _ = ∅))
  | .background (.userMalloc _ _) | .background (.userFree _) | .enter _ _ _ | .allocate _ _
  | .create _ _ | .insert _ | .post _ | .leave _ => inferInstanceAs (Decidable True)

/-! ## Everything that a step can do to the counter -/

/-- The places between a wake-up and the next section at the top of the loop. -/
def WorkerPc.afterWakeUp : WorkerPc -> Bool
  | .loopTest | .idleSection | .fetched _ | .running _ _ => true
  | .semWait | .dequeueSection | .exited => false

/-- The workers, the counter and what it is compared with are as before. -/
structure SameWorkers (state next : PoolState F X) : Prop where
  threads : next.threads = state.threads
  isRunning : next.isRunning = state.isRunning
  maxThreadNum : next.maxThreadNum = state.maxThreadNum
  idleThreadNum : next.idleThreadNum = state.idleThreadNum

/-- One worker moves, and the counter may change. -/
structure WorkerMoves (state next : PoolState F X) (thread : Nat) (old new : WorkerPc)
    (idleThreadNum : Int) : Prop where
  at_ : state.threads[thread]? = some old
  notExited : old ≠ .exited
  threads : next.threads = state.threads.set thread new
  isRunning : next.isRunning = state.isRunning
  maxThreadNum : next.maxThreadNum = state.maxThreadNum
  idleThreadNum : next.idleThreadNum = idleThreadNum

inductive IdleMove (state next : PoolState F X) : PoolLabel F X -> Prop where
  | aside {label : PoolLabel F X} (noWorker : forall thread, label ≠ .background (.worker thread))
      (same : SameWorkers state next) : IdleMove state next label
  | goes {thread : Nat} {old new : WorkerPc} (noSection : old ≠ .dequeueSection ∧ old ≠ .idleSection)
      (moves : WorkerMoves state next thread old new state.idleThreadNum)
      (stays : old.afterWakeUp = true -> state.isRunning = true -> new.afterWakeUp = true) :
      IdleMove state next (.background (.worker thread))
  | wakes {thread : Nat} {new : WorkerPc} (isAwake : new.afterWakeUp = true)
      (moves : WorkerMoves state next thread .dequeueSection new (state.idleThreadNum - 1)) :
      IdleMove state next (.background (.worker thread))
  | idles {thread : Nat} (moves : WorkerMoves state next thread .idleSection .semWait
        (if state.idleThreadNum ≠ state.maxThreadNum then state.idleThreadNum + 1
          else state.idleThreadNum)) :
      IdleMove state next (.background (.worker thread))

theorem idleMove_worker {state next : PoolState F X} {thread : Nat}
    (stepped : workerStep state thread = some next) :
    IdleMove state next (.background (.worker thread)) := by
  cases workerStep_cases stepped with
  | loops at_ running => exact .goes (by simp) ⟨at_, nofun, rfl, rfl, rfl, rfl⟩ fun _ _ => rfl
  | exits at_ stopped =>
      refine .goes (by simp) ⟨at_, nofun, rfl, rfl, rfl, rfl⟩ fun _ running => ?_
      cases stopped.symm.trans running
  | idles at_ => exact .idles ⟨at_, nofun, rfl, rfl, rfl, rfl⟩
  | waits at_ available =>
      refine .goes (by simp) ⟨at_, nofun, rfl, rfl, rfl, rfl⟩ ?_
      rintro ⟨⟩
  | findsNone at_ => exact .wakes rfl ⟨at_, nofun, rfl, rfl, rfl, rfl⟩
  | takes at_ => exact .wakes rfl ⟨at_, nofun, rfl, rfl, rfl, rfl⟩
  | calls serial cur jobInfo at_ => exact .goes (by simp) ⟨at_, nofun, rfl, rfl, rfl, rfl⟩ fun _ _ => rfl
  | finishes serial cur data heap at_ =>
      exact .goes (by simp) ⟨at_, nofun, rfl, rfl, rfl, rfl⟩ fun _ _ => rfl
  | skips serial old at_ isSerial =>
      refine .goes ⟨?_, ?_⟩ ⟨at_, ?_, rfl, rfl, rfl, rfl⟩ fun _ _ => rfl
      · rintro rfl
        cases isSerial
      · rintro rfl
        cases isSerial
      · rintro rfl
        cases isSerial

theorem sameWorkers_add {state next : SharedPool F X} {adder : Adder F} {label : PoolLabel F X}
    (added : addStep state adder label = some next) : SameWorkers state.pool next.pool := by
  rcases adder with ⟨caller, pc⟩
  cases addStep_cases added with
  | refused | noMemory | allocates | givesUp | creates | inserts | posts | leaves =>
      exact ⟨rfl, rfl, rfl, rfl⟩

theorem poolStep_idleMove {state next : SharedPool F X} {label : PoolLabel F X}
    (stepped : poolStep state label = some next) : IdleMove state.pool next.pool label := by
  cases poolStep_cases stepped with
  | rejects => exact .aside (by simp) ⟨rfl, rfl, rfl, rfl⟩
  | enters => exact .aside (by simp) ⟨rfl, rfl, rfl, rfl⟩
  | adds adder isHolder added =>
      refine .aside ?_ (sameWorkers_add added)
      rintro thread rfl
      cases added
  | moves label pool moved =>
      cases label with
      | worker thread => exact idleMove_worker moved
      | userMalloc index object =>
          rcases Option.map_eq_some_iff.mp moved with ⟨heap, _, rfl⟩
          exact .aside (by simp) ⟨rfl, rfl, rfl, rfl⟩
      | userFree address =>
          simp only [backgroundStep] at moved
          split at moved
          · rcases Option.map_eq_some_iff.mp moved with ⟨heap, _, rfl⟩
            exact .aside (by simp) ⟨rfl, rfl, rfl, rfl⟩
          · cases moved

/-! ## Who is awake after a step -/

section Awake

variable {state : SharedPool F X} {awake : Finset Nat} {thread : Nat} {pc : WorkerPc}

theorem awakeAfter_aside {label : PoolLabel F X}
    (noWorker : forall thread, label ≠ .background (.worker thread)) :
    awakeAfter state label awake = awake := by
  unfold awakeAfter
  split
  next thread => exact absurd rfl (noWorker thread)
  next => rfl

theorem awakeAfter_goes (at_ : state.pool.threads[thread]? = some pc)
    (noSection : pc ≠ .dequeueSection ∧ pc ≠ .idleSection) :
    awakeAfter state (.background (.worker thread)) awake = awake := by
  simp only [awakeAfter, at_]
  split
  next isPc => exact absurd (Option.some.inj isPc) noSection.1
  next isPc => exact absurd (Option.some.inj isPc) noSection.2
  next => rfl

theorem awakeAfter_wakes (at_ : state.pool.threads[thread]? = some .dequeueSection) :
    awakeAfter state (.background (.worker thread)) awake = insert thread awake := by
  simp only [awakeAfter, at_]

theorem awakeAfter_idles (at_ : state.pool.threads[thread]? = some .idleSection) :
    awakeAfter state (.background (.worker thread)) awake = awake.erase thread := by
  simp only [awakeAfter, at_]

theorem startsAlone_aside {label : PoolLabel F X}
    (noWorker : forall thread, label ≠ .background (.worker thread)) :
    startsAlone (state, awake) label := by
  unfold startsAlone
  split
  next thread => exact absurd rfl (noWorker thread)
  next => exact trivial

theorem startsAlone_goes (at_ : state.pool.threads[thread]? = some pc) (noSection : pc ≠ .idleSection) :
    startsAlone (state, awake) (.background (.worker thread)) := by
  intro atTop
  cases at_.symm.trans atTop
  exact absurd rfl noSection

end Awake

/-! ## The invariant -/

/-- What holds in every state of a run.  The threads from `base` on are the workers, and the counter
is never less than it should be. -/
structure IdleInv (base : Nat) (threadNum : Int) (state : SharedPool F X × Finset Nat) : Prop where
  isRunning : state.1.pool.isRunning = true
  maxThreadNum : state.1.pool.maxThreadNum = threadNum
  length : state.1.pool.threads.length = base + threadNum.toNat
  past : forall thread, thread < base -> state.1.pool.threads[thread]? = some .exited
  awake : forall thread, thread ∈ state.2 -> Exists fun pc =>
    state.1.pool.threads[thread]? = some pc ∧ pc.afterWakeUp = true
  low : threadNum - state.2.card ≤ state.1.pool.idleThreadNum
  high : state.1.pool.idleThreadNum ≤ threadNum

section Steps

variable {base : Nat} {threadNum : Int} {state next : SharedPool F X × Finset Nat}
  {label : PoolLabel F X} {thread : Nat} {old new : WorkerPc} {idleThreadNum : Int}

/-- Who is awake is one of the workers. -/
theorem IdleInv.card_le (inv : IdleInv base threadNum state) : state.2.card ≤ threadNum.toNat := by
  have inside : state.2 ⊆ Finset.Ico base (base + threadNum.toNat) := by
    intro thread member
    rcases inv.awake thread member with ⟨pc, at_, isAwake⟩
    rw [Finset.mem_Ico, ← inv.length]
    refine ⟨Nat.not_lt.mp fun isPast => ?_, (List.getElem?_eq_some_iff.mp at_).1⟩
    cases (inv.past thread isPast).symm.trans at_
    cases isAwake
  have small := Finset.card_le_card inside
  rw [Nat.card_Ico, Nat.add_sub_cancel_left] at small
  exact small

theorem IdleInv.not_awake (inv : IdleInv base threadNum state)
    (at_ : state.1.pool.threads[thread]? = some old) (asleep : old.afterWakeUp = false) :
    thread ∉ state.2 := by
  intro member
  rcases inv.awake thread member with ⟨pc, otherAt, isAwake⟩
  cases at_.symm.trans otherAt
  exact absurd (asleep.symm.trans isAwake) Bool.false_ne_true

/-- A worker moves on, and the workers that are awake afterwards stand where they should. -/
theorem IdleInv.moves (inv : IdleInv base threadNum state)
    (moves : WorkerMoves state.1.pool next.1.pool thread old new idleThreadNum)
    (own : thread ∈ next.2 -> new.afterWakeUp = true)
    (others : forall other, other ≠ thread -> other ∈ next.2 -> other ∈ state.2)
    (low : threadNum - next.2.card ≤ idleThreadNum) (high : idleThreadNum ≤ threadNum) :
    IdleInv base threadNum next where
  isRunning := moves.isRunning.trans inv.isRunning
  maxThreadNum := moves.maxThreadNum.trans inv.maxThreadNum
  length := by
    rw [moves.threads, List.length_set]
    exact inv.length
  past := by
    intro other isPast
    rw [moves.threads]
    exact at_set_of_ne moves.at_ (inv.past other isPast) (Ne.symm moves.notExited)
  awake := by
    intro other member
    rw [moves.threads]
    by_cases same : other = thread
    · subst same
      exact ⟨new, List.getElem?_set_self (List.getElem?_eq_some_iff.mp moves.at_).1, own member⟩
    · rw [List.getElem?_set_ne (Ne.symm same)]
      exact inv.awake other (others other same member)
  low := moves.idleThreadNum ▸ low
  high := moves.idleThreadNum ▸ high

theorem idleInv_step (inv : IdleInv base threadNum state)
    (stepped : (waking F X).step state label = some next) : IdleInv base threadNum next := by
  rcases ((pool F X).noting_step_iff awakeAfter).mp stepped with ⟨taken, noted⟩
  have low := inv.low
  have high := inv.high
  cases poolStep_idleMove taken with
  | aside noWorker same =>
      rw [awakeAfter_aside noWorker] at noted
      exact ⟨same.isRunning.trans inv.isRunning, same.maxThreadNum.trans inv.maxThreadNum,
        same.threads ▸ inv.length, same.threads ▸ inv.past, noted ▸ same.threads ▸ inv.awake,
        noted ▸ same.idleThreadNum ▸ inv.low, same.idleThreadNum ▸ inv.high⟩
  | goes noSection moves stays =>
      rw [awakeAfter_goes moves.at_ noSection] at noted
      refine inv.moves moves (fun member => ?_) (fun _ _ member => noted ▸ member) (noted ▸ low) high
      rcases inv.awake _ (noted ▸ member) with ⟨pc, at_, isAwake⟩
      cases moves.at_.symm.trans at_
      exact stays isAwake inv.isRunning
  | wakes isAwake moves =>
      rw [awakeAfter_wakes moves.at_] at noted
      have card := Finset.card_insert_of_notMem (inv.not_awake moves.at_ rfl)
      rw [← noted] at card
      refine inv.moves moves (fun _ => isAwake) (fun other different member => ?_) (by omega) (by omega)
      exact Finset.mem_of_mem_insert_of_ne (noted ▸ member) different
  | @idles thread moves =>
      rw [awakeAfter_idles moves.at_] at noted
      refine inv.moves moves (fun member => ?_) (fun _ _ member => ?_) ?_ ?_
      · exact absurd (noted ▸ member) (Finset.notMem_erase thread state.2)
      · exact Finset.mem_of_mem_erase (noted ▸ member)
      · -- The number of awake workers is one less, and a full counter is not raised.
        have card := Finset.pred_card_le_card_erase (s := state.2) (a := thread)
        rw [← noted] at card
        rw [inv.maxThreadNum]
        split <;> omega
      · rw [inv.maxThreadNum]
        split <;> omega

theorem IdleInv.range (inv : IdleInv base threadNum state) (positive : 0 < threadNum) :
    0 ≤ state.1.pool.idleThreadNum ∧ state.1.pool.idleThreadNum ≤ threadNum := by
  have card := inv.card_le
  have low := inv.low
  exact ⟨by omega, inv.high⟩

/-- A step from a state in which the counter is right. -/
theorem idleTruthful_step_iff (positive : 0 < threadNum) (inv : IdleInv base threadNum state)
    (truthful : IdleTruthful threadNum state)
    (stepped : (waking F X).step state label = some next) :
    IdleTruthful threadNum next <-> startsAlone state label := by
  have range := (idleInv_step inv stepped).range positive
  have counted := truthful.counted
  rcases ((pool F X).noting_step_iff awakeAfter).mp stepped with ⟨taken, noted⟩
  cases poolStep_idleMove taken with
  | aside noWorker same =>
      rw [awakeAfter_aside noWorker] at noted
      refine iff_of_true ⟨?_, range⟩ (startsAlone_aside noWorker)
      rw [same.idleThreadNum, noted]
      exact counted
  | goes noSection moves =>
      rw [awakeAfter_goes moves.at_ noSection] at noted
      refine iff_of_true ⟨?_, range⟩ (startsAlone_goes moves.at_ noSection.2)
      rw [moves.idleThreadNum, noted]
      exact counted
  | wakes isAwake moves =>
      rw [awakeAfter_wakes moves.at_] at noted
      refine iff_of_true ⟨?_, range⟩ (startsAlone_goes moves.at_ nofun)
      rw [moves.idleThreadNum, noted, Finset.card_insert_of_notMem (inv.not_awake moves.at_ rfl)]
      omega
  | @idles thread moves =>
      rw [awakeAfter_idles moves.at_] at noted
      have isIdle := moves.idleThreadNum
      rw [inv.maxThreadNum, counted] at isIdle
      by_cases isAwake : thread ∈ state.2
      · -- The worker comes back, and it is what the counter misses.
        refine iff_of_true ⟨?_, range⟩ fun _ notAwake => absurd isAwake notAwake
        have some_ := Finset.card_pos.mpr ⟨thread, isAwake⟩
        rw [if_pos (by omega)] at isIdle
        rw [isIdle, noted, Finset.card_erase_of_mem isAwake]
        omega
      · rw [Finset.erase_eq_of_notMem isAwake] at noted
        have alone : startsAlone state (.background (.worker thread)) <-> state.2.card = 0 := by
          rw [Finset.card_eq_zero]
          exact ⟨fun holds => holds moves.at_ isAwake, fun isEmpty _ _ => isEmpty⟩
        rw [alone]
        constructor
        · intro after
          have countedAfter := after.counted
          rw [isIdle, noted] at countedAfter
          split at countedAfter <;> omega
        · intro isEmpty
          refine ⟨?_, range⟩
          rw [isIdle, noted, if_neg (by omega)]

end Steps

/-! ## Runs -/

/-- After an initialisation nobody is awake, and the counter is full. -/
theorem idleInv_of_threadPoolInit {pre start : PoolState F X} {threadNum : Int} {outcome : InitOutcome}
    (uninitialised : pre.isInit = false) (noWorkers : forall pc, pc ∈ pre.threads -> pc = .exited)
    (initialised : threadPoolInit pre threadNum outcome = some (.returned 0 start)) :
    0 < threadNum ∧ start.idleThreadNum = threadNum ∧
      IdleInv pre.threads.length threadNum ((⟨start, none⟩ : SharedPool F X), ∅) := by
  rcases created_of_threadPoolInit uninitialised initialised with ⟨positive, heap, _, created⟩
  rcases createWorkers_spawned created with ⟨spawned, isIdle⟩
  have threads : start.threads = pre.threads ++ List.replicate threadNum.toNat .loopTest :=
    spawned.threads
  have idleThreadNum : start.idleThreadNum = threadNum := isIdle
  refine ⟨positive, idleThreadNum, spawned.isRunning, spawned.maxThreadNum, ?_, ?_, ?_, ?_, ?_⟩
  · simp only [threads, List.length_append, List.length_replicate]
  · intro thread isPast
    simp only [threads]
    rw [List.getElem?_append_left isPast, List.getElem?_eq_getElem isPast,
      noWorkers _ (List.getElem_mem isPast)]
  · exact fun thread member => absurd member (Finset.notMem_empty thread)
  · simp only [idleThreadNum, Finset.card_empty]
    omega
  · exact Int.le_of_eq idleThreadNum

section Runs

variable {pre start : PoolState F X} {threadNum : Int} {outcome : InitOutcome}
  {labels : List (PoolLabel F X)} {final : SharedPool F X}

/-- In every state the counter is at least the number of the workers that are not awake, and at most
the number of all workers. -/
theorem idleThreadNum_bounds (uninitialised : pre.isInit = false)
    (noWorkers : forall pc, pc ∈ pre.threads -> pc = .exited)
    (initialised : threadPoolInit pre threadNum outcome = some (.returned 0 start)) :
    (waking F X).EveryState (fun state =>
      0 ≤ threadNum - state.2.card ∧ threadNum - state.2.card ≤ state.1.pool.idleThreadNum ∧
        state.1.pool.idleThreadNum ≤ threadNum) (⟨start, none⟩, ∅) labels := by
  rcases idleInv_of_threadPoolInit uninitialised noWorkers initialised with ⟨positive, _, inv⟩
  have every := (waking F X).everyState_invariant
    (fun state label next inv stepped => idleInv_step inv stepped) inv labels
  refine (waking F X).everyState_imp (fun state inv => ?_) every
  have card := inv.card_le
  exact ⟨by omega, inv.low, inv.high⟩

/-- After a successful initialisation, and up to `ThreadPoolDeinit`: the counter is right in every
state of a run exactly if each worker comes to the top of its loop for the first time while nobody
is awake.  The threads of earlier initialisations have ended by then. -/
theorem idleThreadNum_truthful_iff (uninitialised : pre.isInit = false)
    (noWorkers : forall pc, pc ∈ pre.threads -> pc = .exited)
    (initialised : threadPoolInit pre threadNum outcome = some (.returned 0 start))
    (ran : (pool F X).run ⟨start, none⟩ labels = some final) :
    (waking F X).EveryState (IdleTruthful threadNum) (⟨start, none⟩, ∅) labels <->
      (waking F X).AllSteps startsAlone (⟨start, none⟩, ∅) labels := by
  rcases idleInv_of_threadPoolInit uninitialised noWorkers initialised with ⟨positive, isFull, inv⟩
  rcases (pool F X).exists_run_noting awakeAfter ran ∅ with ⟨awake, noted⟩
  have truthful : IdleTruthful threadNum ((⟨start, none⟩ : SharedPool F X), ∅) := by
    refine ⟨?_, inv.range positive⟩
    rw [isFull, Finset.card_empty]
    omega
  exact (waking F X).everyState_iff_allSteps
    (fun state label next inv _ stepped => idleInv_step inv stepped)
    (fun state label next inv holds _ stepped => idleTruthful_step_iff positive inv holds stepped)
    inv truthful ((waking F X).allSteps_of_forall (fun _ _ => trivial) _ _) noted

end Runs

/-- A caller gives the pool a job. -/
def addingOne : List (PoolLabel Unit Unit) :=
  [.enter 0 (some ()) (some (.block 0)), .allocate 0 (some 1), .create 0 (some 2), .insert 0, .post 0,
    .leave 0]

/-- The first of two workers takes a job when both of them wait. -/
theorem idleThreadNum_truthful_iff_bothWait :
    let cell : DoublyLinkedListNode Addr := ⟨none, .jobListHead, .jobListHead⟩
    let labels := [PoolLabel.background (.worker 0), .background (.worker 1), .background (.worker 0),
      .background (.worker 1)] ++ addingOne ++
        [.background (.worker 0), .background (.worker 0), .background (.worker 0),
          .background (.worker 0), .background (.worker 0), .background (.worker 0)]
    Exists fun start => Exists fun final =>
      threadPoolInit (poolStatics Unit Unit cell) 2 (.success cell) = some (.returned 0 start) ∧
      (pool Unit Unit).run ⟨start, none⟩ labels = some final ∧
      final.pool.dequeued.length = 1 ∧
      (waking Unit Unit).EveryState (IdleTruthful 2) (⟨start, none⟩, ∅) labels := by
  intro cell labels
  have reached : ((threadPoolInit (poolStatics Unit Unit cell) 2 (.success cell)).bind
      InitResult.started).bind (fun start => ((pool Unit Unit).run ⟨start, none⟩ labels).map
        (fun final => (final.pool.dequeued.length,
          decide ((waking Unit Unit).AllSteps startsAlone (⟨start, none⟩, ∅) labels)))) =
      some (1, true) := by
    decide +kernel
  rcases InitResult.exists_run reached with ⟨start, final, done, ran, observed⟩
  have ⟨taken, alone⟩ := Prod.mk.injEq .. ▸ observed
  refine ⟨start, final, done, ran, taken, ?_⟩
  exact (idleThreadNum_truthful_iff rfl (fun pc member => absurd member List.not_mem_nil) done ran).mpr
    (of_decide_eq_true alone)

/-- The second worker starts when the first one runs its job.  Both of them are counted as idle. -/
theorem idleThreadNum_countsBusy :
    let cell : DoublyLinkedListNode Addr := ⟨none, .jobListHead, .jobListHead⟩
    let labels := [PoolLabel.background (.worker 0), .background (.worker 0)] ++ addingOne ++
      [.background (.worker 0), .background (.worker 0), .background (.worker 0),
        .background (.worker 1), .background (.worker 1)]
    Exists fun start => Exists fun final =>
      threadPoolInit (poolStatics Unit Unit cell) 2 (.success cell) = some (.returned 0 start) ∧
      (waking Unit Unit).run (⟨start, none⟩, ∅) labels = some final ∧
      final.1.pool.idleThreadNum = 2 ∧ final.2 = {0} ∧ ¬ IdleTruthful 2 final ∧
      ¬ (waking Unit Unit).EveryState (IdleTruthful 2) (⟨start, none⟩, ∅) labels := by
  intro cell labels
  have reached : ((threadPoolInit (poolStatics Unit Unit cell) 2 (.success cell)).bind
      InitResult.started).bind (fun start => ((waking Unit Unit).run (⟨start, none⟩, ∅) labels).map
        (fun final => (final.1.pool.idleThreadNum, final.2))) = some (2, {0}) := by
    decide +kernel
  rcases InitResult.exists_run reached with ⟨start, final, done, ran, observed⟩
  have ⟨counted, awake⟩ := Prod.mk.injEq .. ▸ observed
  have wrong : ¬ IdleTruthful 2 final := by
    intro truthful
    have holds := truthful.counted
    rw [counted, awake] at holds
    exact absurd holds (by decide)
  exact ⟨start, final, done, ran, counted, awake, wrong, fun every =>
    wrong ((waking Unit Unit).everyState_final every ran)⟩

end ThreadPool
end V2x
