import V2x.Foundations.TransitionSystem
import V2x.Logger.Files

namespace V2x
namespace Logger

open Foundations

/-!
# The archiver and the end of the logger

`MyLogCycleThread` is detached, and nobody waits for it.  `MyLogDeinit` resets
`g_isRunning`, sleeps, and clears `g_logCfg`, and `MyLogInit` clears it again
and fills it assignment by assignment.  All this can happen while a thread is
anywhere in its loop, and a thread that does not notice in time lives on in the
next session, where it is one of several.

A round of the archiver lasts from a token of the semaphore to the write of
the index file.  In a round the thread uses its index and `maxFileNum`.
-/

/-! ## What `MyLogInit` writes -/

/-- What `MyLogInit` finds; `item` belongs to the process in the configuration file. -/
inductive InitSource where
  | noProcessName
  | defaults
  | file (item : CJson)

/-- The values that `MyLogParseJsonCfg` gives to `maxFileNum`, one after the other. -/
def maxFileNumWrites (item : CJson) : List UInt32 :=
  match item.getObjectItem "MaxFileNum" with
  | none => [logFileNumMin]
  | some subItem =>
      let maxFileNum := subItem.valueint.toUInt32
      if maxFileNum < logFileNumMin ∨ maxFileNum > logFileNumMax then
        [logFileNumMin, maxFileNum, logFileNumMin]
      else [logFileNumMin, maxFileNum]

def InitSource.writes : InitSource -> List UInt32
  | .noProcessName => []
  | .defaults => [logFileNumMin]
  | .file item => maxFileNumWrites item

def InitSource.loads : InitSource -> Bool
  | .noProcessName => false
  | _ => true

/-- The last value is the one that is loaded. -/
theorem maxFileNumWrites_getLastD (cfg : LogCfgInfo) (item : CJson) (old : UInt32) :
    (maxFileNumWrites item).getLastD old = (myLogParseJsonCfg cfg item).maxFileNum := by
  unfold maxFileNumWrites myLogParseJsonCfg
  cases item.getObjectItem "MaxFileNum" with
  | none => rfl
  | some subItem =>
      simp only
      split <;> rfl

theorem myLogParseJsonCfg_maxFileNum (cfg : LogCfgInfo) (item : CJson) :
    logFileNumMin ≤ (myLogParseJsonCfg cfg item).maxFileNum := by
  unfold myLogParseJsonCfg
  cases item.getObjectItem "MaxFileNum" with
  | none => exact UInt32.le_refl _
  | some subItem =>
      simp only
      split
      · exact UInt32.le_refl _
      next within => exact UInt32.not_lt.mp (not_or.mp within).1

theorem InitSource.writes_getLastD {source : InitSource} (loads : source.loads = true)
    (old : UInt32) : logFileNumMin ≤ source.writes.getLastD old := by
  cases source with
  | noProcessName => cases loads
  | defaults => exact UInt32.le_refl _
  | file item =>
      rw [writes, maxFileNumWrites_getLastD .cleared]
      exact myLogParseJsonCfg_maxFileNum _ _

/-! ## The threads -/

inductive CyclePc where
  -- before `MyLogReadIdxFile`
  | starting
  -- before `g_isRunning = true`
  | started
  -- at the condition of the loop
  | testing
  | waiting
  -- before `WriteLogToCache(NULL, 0)`
  | ticking
  -- before `MyLogTarLogFile(index)`
  | woken
  -- before the next index
  | packed
  -- before `MyLogWriteIdxFile(index)`
  | computed
  | ended
deriving DecidableEq, Repr

/-- A thread is `fresh` if it has read its index since `g_logCfg` was last loaded completely. -/
structure CycleThread where
  pc : CyclePc
  index : Nat
  fresh : Bool
deriving DecidableEq, Repr

def CycleThread.inRound (thread : CycleThread) : Bool :=
  match thread.pc with
  | .woken | .packed | .computed => true
  | _ => false

/-- Where the thread stands that calls `MyLogDeinit` and `MyLogInit`.  While the configuration
is loaded, some values of `maxFileNum` are still to be written. -/
inductive ControlPc where
  | idle
  -- `MyLogDeinit` sleeps
  | stopping
  -- `MyLogDeinit` has cleared the configuration
  | cleared
  | loading (writes : List UInt32) (loads : Bool)

/-- The value that `maxFileNum` is given next. -/
def ControlPc.nextWrite : ControlPc -> Option UInt32
  | .loading (maxFileNum :: _) _ => some maxFileNum
  | _ => none

structure CycleState where
  cfg : LogCfgInfo
  isInit : Bool
  isRunning : Bool
  -- `none` before `sem_init` and after `sem_destroy`
  sem : Option Nat
  control : ControlPc
  threads : List CycleThread
  -- `g_logCfg` was loaded completely and not cleared since
  configured : Bool

inductive CycleLabel where
  | deinitBegin
  | deinitClear
  | deinitEnd
  | initBegin (source : InitSource)
  | initWrite
  | initFail
  | initEnd (rest : LogCfgInfo) (created : Bool)
  -- a rotation
  | post
  | readIdx (i : Nat) (answers : Answers)
  | setRunning (i : Nat)
  | test (i : Nat)
  | timeout (i : Nat)
  | tick (i : Nat)
  | wake (i : Nat)
  | tar (i : Nat)
  | next (i : Nat)
  | store (i : Nat)

/-- Calls that have no effect but their answers. -/
def answering (answers : Answers) : Kernel LogOp LogOp.Answer Unit where
  answer _ op := some (answers op, ())

namespace CycleState

/-- The thread with this number, if it stands here. -/
def thread (state : CycleState) (i : Nat) (pc : CyclePc) : Option CycleThread :=
  state.threads[i]?.filter (fun thread => decide (thread.pc = pc))

def setThread (state : CycleState) (i : Nat) (thread : CycleThread) : CycleState :=
  { state with threads := state.threads.set i thread }

/-- `memset` of `g_logCfg`. -/
def clear (state : CycleState) : CycleState :=
  { state with
    cfg := .cleared
    threads := state.threads.map (fun thread => { thread with fresh := false })
    configured := false }

/-- `MyLogDeinit` holds `g_logMutex`. -/
def logMutexFree (state : CycleState) : Bool :=
  match state.control with
  | .stopping | .cleared => false
  | _ => true

end CycleState

def cycleStep (state : CycleState) : CycleLabel -> Option CycleState
  | .deinitBegin =>
      match state.control with
      | .idle => some { state with isRunning := false, isInit := false, control := .stopping }
      | _ => none
  | .deinitClear =>
      match state.control with
      | .stopping => some { state.clear with control := .cleared }
      | _ => none
  | .deinitEnd =>
      match state.control with
      | .cleared => some { state with sem := none, control := .idle }
      | _ => none
  | .initBegin source =>
      match state.control, state.isInit with
      | .idle, false => some { state.clear with
          sem := some 0
          control := .loading source.writes source.loads }
      | _, _ => none
  | .initWrite =>
      match state.control with
      | .loading (maxFileNum :: writes) loads => some { state with
          cfg := { state.cfg with maxFileNum := maxFileNum }
          control := .loading writes loads }
      | _ => none
  -- there is no process name, or the path of the log file is not valid
  | .initFail =>
      match state.control with
      | .loading [] loads => some { state with control := .idle, configured := loads }
      | _ => none
  -- the other values of the configuration, and whether `pthread_create` succeeds
  | .initEnd rest created =>
      match state.control with
      | .loading [] true => some { state with
          cfg := { rest with maxFileNum := state.cfg.maxFileNum }
          isInit := true
          control := .idle
          threads := state.threads ++
            if rest.output = outputFileType ∧ created then [⟨.starting, 0, false⟩] else []
          configured := true }
      | _ => none
  | .post => some { state with sem := state.sem.map Nat.succ }
  | .readIdx i answers => do
      let _ <- state.thread i .starting
      let done <- (myLogReadIdxFile state.cfg).exec (answering answers) ()
      return state.setThread i ⟨.started, done.1, state.configured⟩
  | .setRunning i => do
      let thread <- state.thread i .started
      return { state.setThread i { thread with pc := .testing } with isRunning := true }
  | .test i => do
      let thread <- state.thread i .testing
      return state.setThread i { thread with pc := if state.isRunning then .waiting else .ended }
  | .timeout i => do
      let thread <- state.thread i .waiting
      return state.setThread i { thread with pc := .ticking }
  | .tick i => do
      let thread <- state.thread i .ticking
      if state.logMutexFree then return state.setThread i { thread with pc := .testing } else none
  | .wake i => do
      let thread <- state.thread i .waiting
      match state.sem with
      | some (sem + 1) => return { state.setThread i { thread with pc := .woken } with sem := some sem }
      | _ => none
  | .tar i => do
      let thread <- state.thread i .woken
      return state.setThread i { thread with pc := .packed }
  | .next i => do
      let thread <- state.thread i .packed
      let index <- nextIndex state.cfg thread.index
      return state.setThread i { thread with pc := .computed, index := index }
  | .store i => do
      let thread <- state.thread i .computed
      return state.setThread i { thread with pc := .testing }

def cycling : Machine CycleState CycleLabel where
  step := cycleStep

/-- The variables before the first call. -/
def CycleState.statics : CycleState where
  cfg := .cleared
  isInit := false
  isRunning := false
  sem := none
  control := .idle
  threads := []
  configured := false

/-! ## What is asked -/

/-- The index is one of the numbers of the archives, and there are at least two. -/
def Fits (maxFileNum : UInt32) (index : Nat) : Prop :=
  logFileNumMin ≤ maxFileNum ∧ index < maxFileNum.toNat

instance (maxFileNum : UInt32) (index : Nat) : Decidable (Fits maxFileNum index) :=
  inferInstanceAs (Decidable (_ ∧ _))

/-- Wherever a thread uses its index, it fits the configuration of that moment; this includes
the division by `maxFileNum`. -/
def usesFit (state : CycleState) : CycleLabel -> Prop
  | .tar i => forall thread, state.thread i .woken = some thread ->
      Fits state.cfg.maxFileNum thread.index
  | .next i => forall thread, state.thread i .packed = some thread ->
      Fits state.cfg.maxFileNum thread.index
  | .store i => forall thread, state.thread i .computed = some thread ->
      Fits state.cfg.maxFileNum thread.index
  | _ => True

def RoundsFit (maxFileNum : UInt32) (threads : List CycleThread) : Prop :=
  forall thread, thread ∈ threads -> thread.inRound = true -> Fits maxFileNum thread.index

instance (maxFileNum : UInt32) (threads : List CycleThread) :
    Decidable (RoundsFit maxFileNum threads) :=
  inferInstanceAs (Decidable (forall thread, thread ∈ threads -> _ = true -> Fits _ _))

/-- `g_logCfg` is cleared while no thread is in a round, and `maxFileNum` is written while the
threads in rounds fit the new value.  A thread that takes a token is fresh, or it fits. -/
def keepsRounds (state : CycleState) : CycleLabel -> Prop
  | .deinitClear | .initBegin _ => forall thread, thread ∈ state.threads -> thread.inRound = false
  | .initWrite => forall maxFileNum, maxFileNum ∈ state.control.nextWrite ->
      RoundsFit maxFileNum state.threads
  | .wake i => forall thread, thread ∈ state.thread i .waiting ->
      thread.fresh = true ∨ Fits state.cfg.maxFileNum thread.index
  | _ => True

instance (state : CycleState) : (label : CycleLabel) -> Decidable (keepsRounds state label)
  | .deinitClear | .initBegin _ =>
      inferInstanceAs (Decidable (forall thread, thread ∈ state.threads -> _ = false))
  | .initWrite => Option.decidableForallMem _
  | .wake _ => Option.decidableForallMem _
  | .deinitBegin | .deinitEnd | .initFail | .initEnd _ _ | .post | .readIdx _ _ | .setRunning _
  | .test _ | .timeout _ | .tick _ | .tar _ | .next _ | .store _ => inferInstanceAs (Decidable True)

/-! ## What holds in every state -/

/-- A fresh thread fits, and the configuration that is being loaded will be a good one. -/
structure CycleInv (state : CycleState) : Prop where
  fresh : forall thread, thread ∈ state.threads -> thread.fresh = true ->
    state.configured = true ∧ thread.index < state.cfg.maxFileNum.toNat
  configured : state.configured = true -> logFileNumMin ≤ state.cfg.maxFileNum
  loading : forall writes loads, state.control = .loading writes loads ->
    state.configured = false ∧
      (loads = true -> logFileNumMin ≤ writes.getLastD state.cfg.maxFileNum)

theorem cycleInv_statics : CycleInv .statics where
  fresh := nofun
  configured := nofun
  loading := nofun

section Lemmas

variable {state next : CycleState} {i : Nat} {pc : CyclePc} {thread after : CycleThread}

theorem thread_mem (isThread : state.thread i pc = some thread) :
    thread ∈ state.threads ∧ thread.pc = pc ∧ i < state.threads.length := by
  rcases Option.filter_eq_some_iff.mp isThread with ⟨atIndex, isPc⟩
  rcases List.getElem?_eq_some_iff.mp atIndex with ⟨below, same⟩
  exact ⟨same ▸ List.getElem_mem below, of_decide_eq_true isPc, below⟩

theorem CycleInv.setThread (inv : CycleInv state)
    (fresh : after.fresh = true ->
      state.configured = true ∧ after.index < state.cfg.maxFileNum.toNat) :
    CycleInv (state.setThread i after) where
  fresh := by
    intro other member isFresh
    rcases List.mem_or_eq_of_mem_set member with old | rfl
    · exact inv.fresh other old isFresh
    · exact fresh isFresh
  configured := inv.configured
  loading := inv.loading

/-- The thread only moves on. -/
theorem CycleInv.setPc (inv : CycleInv state) (isThread : state.thread i pc = some thread)
    (later : CyclePc) : CycleInv (state.setThread i { thread with pc := later }) :=
  inv.setThread (fun isFresh => inv.fresh thread (thread_mem isThread).1 isFresh)

theorem CycleInv.of_fields (inv : CycleInv state) (threads : next.threads = state.threads)
    (configured : next.configured = state.configured) (cfg : next.cfg = state.cfg)
    (control : forall writes loads, next.control = .loading writes loads ->
      state.control = .loading writes loads) : CycleInv next where
  fresh := by
    rw [threads, configured, cfg]
    exact inv.fresh
  configured := by
    rw [configured, cfg]
    exact inv.configured
  loading := by
    intro writes loads isLoading
    rw [configured, cfg]
    exact inv.loading writes loads (control writes loads isLoading)

/-- A cleared configuration has no fresh threads. -/
theorem CycleInv.clear (control : forall writes loads, next.control = .loading writes loads ->
      loads = true -> logFileNumMin ≤ writes.getLastD 0)
    (threads : next.threads = state.clear.threads) (configured : next.configured = false)
    (cfg : next.cfg = .cleared) : CycleInv next where
  fresh := by
    intro thread member isFresh
    rw [threads] at member
    rcases List.mem_map.mp member with ⟨_, _, rfl⟩
    cases isFresh
  configured := by
    intro isConfigured
    rw [configured] at isConfigured
    cases isConfigured
  loading := by
    intro writes loads isLoading
    rw [cfg]
    exact ⟨configured, control writes loads isLoading⟩

/-- What the reader returns passes its test, or is 0. -/
theorem myLogReadIdxFile_range (cfg : LogCfgInfo) (answers : Answers) :
    Program.Meets (answering answers) (fun _ => True) (myLogReadIdxFile cfg)
      (fun index _ => index = 0 ∨ index < cfg.maxFileNum.toNat) := by
  have zero : Program.Meets (answering answers) (fun _ => True) (pure 0 : LogProgram Nat)
      (fun index _ => index = 0 ∨ index < cfg.maxFileNum.toNat) :=
    Program.meets_pure fun _ _ => Or.inl rfl
  have call : forall op, Program.Meets (answering answers) (fun _ => True) (.perform op)
      (fun _ _ => True) := fun op => Program.meets_perform fun _ _ _ _ => trivial
  refine Program.meets_bind (call _) fun (opened : Option Nat) => ?_
  cases opened with
  | none => exact zero
  | some fd =>
      refine Program.meets_bind (call _) fun (idxstr : Option (List UInt8)) => ?_
      have closes : Program.Meets (answering answers) (fun _ => True)
          (Sys.close fd >>= fun _ => (pure 0 : LogProgram Nat))
          (fun index _ => index = 0 ∨ index < cfg.maxFileNum.toNat) :=
        Program.meets_bind (call _) fun _ => zero
      split
      next first second =>
        refine Program.meets_ite (fun _ => closes) fun inside => ?_
        exact Program.meets_pure fun _ _ => Or.inr (by omega)
      next => exact closes

theorem nextIndex_lt {cfg : LogCfgInfo} {index next : Nat} (isNext : nextIndex cfg index = some next) :
    next < cfg.maxFileNum.toNat := by
  unfold nextIndex at isNext
  split at isNext
  · cases isNext
  next nonzero =>
    have positive : 0 < cfg.maxFileNum.toNat := by
      apply Nat.pos_of_ne_zero
      exact fun isZero => nonzero (UInt32.toNat_inj.mp isZero)
    exact Option.some.inj isNext ▸ Nat.mod_lt _ positive

end Lemmas

/-! ## One step -/

section Steps

variable {state next : CycleState} {label : CycleLabel}

/-- Everything that a step can do. -/
inductive CycleMoved (state next : CycleState) : CycleLabel -> Prop where
  -- only the flags and the semaphore change
  | aside {label : CycleLabel} (always : keepsRounds state label)
      (threads : next.threads = state.threads) (configured : next.configured = state.configured)
      (cfg : next.cfg = state.cfg)
      (control : forall writes loads, next.control = .loading writes loads ->
        state.control = .loading writes loads) : CycleMoved state next label
  | clears {label : CycleLabel}
      (asks : keepsRounds state label <-> forall thread, thread ∈ state.threads -> thread.inRound = false)
      (threads : next.threads = state.clear.threads) (configured : next.configured = false)
      (cfg : next.cfg = .cleared)
      (control : forall writes loads, next.control = .loading writes loads ->
        loads = true -> logFileNumMin ≤ writes.getLastD 0) : CycleMoved state next label
  | writes {maxFileNum : UInt32} {writes : List UInt32} {loads : Bool}
      (isLoading : state.control = .loading (maxFileNum :: writes) loads)
      (same : next = { state with
        cfg := { state.cfg with maxFileNum := maxFileNum }
        control := .loading writes loads }) : CycleMoved state next .initWrite
  | fails {loads : Bool} (isLoading : state.control = .loading [] loads)
      (same : next = { state with control := .idle, configured := loads }) :
      CycleMoved state next .initFail
  | starts {rest : LogCfgInfo} {created : Bool} (isLoading : state.control = .loading [] true)
      (control : next.control = .idle) (cfg : next.cfg.maxFileNum = state.cfg.maxFileNum)
      (threads : forall thread, thread ∈ next.threads ->
        thread ∈ state.threads ∨ thread = ⟨.starting, 0, false⟩) :
      CycleMoved state next (.initEnd rest created)
  | reads {i index : Nat} {answers : Answers}
      (range : index = 0 ∨ index < state.cfg.maxFileNum.toNat)
      (same : next = state.setThread i ⟨.started, index, state.configured⟩) :
      CycleMoved state next (.readIdx i answers)
  -- a thread goes on with its index, but not into a round
  | goes {label : CycleLabel} {i : Nat} {pc : CyclePc} {thread : CycleThread} (later : CyclePc)
      (always : keepsRounds state label) (isThread : state.thread i pc = some thread)
      (stays : CycleThread.inRound { thread with pc := later } = true -> thread.inRound = true)
      (isRunning : Bool)
      (same : next = { state.setThread i { thread with pc := later } with isRunning := isRunning }) :
      CycleMoved state next label
  | wakes {i sem : Nat} {thread : CycleThread} (isThread : state.thread i .waiting = some thread)
      (same : next = { state.setThread i { thread with pc := .woken } with sem := some sem }) :
      CycleMoved state next (.wake i)
  | divides {i index : Nat} {thread : CycleThread} (isThread : state.thread i .packed = some thread)
      (range : index < state.cfg.maxFileNum.toNat)
      (same : next = state.setThread i { thread with pc := .computed, index := index }) :
      CycleMoved state next (.next i)

theorem cycleStep_moved (stepped : cycleStep state label = some next) : CycleMoved state next label := by
  cases label with
  | deinitBegin =>
      simp only [cycleStep] at stepped
      split at stepped
      · cases stepped
        exact .aside trivial rfl rfl rfl nofun
      · cases stepped
  | deinitClear =>
      simp only [cycleStep] at stepped
      split at stepped
      · cases stepped
        exact .clears Iff.rfl rfl rfl rfl nofun
      · cases stepped
  | deinitEnd =>
      simp only [cycleStep] at stepped
      split at stepped
      · cases stepped
        exact .aside trivial rfl rfl rfl nofun
      · cases stepped
  | initBegin source =>
      simp only [cycleStep] at stepped
      split at stepped
      · cases stepped
        refine .clears Iff.rfl rfl rfl rfl ?_
        intro writes loads isLoading isLoaded
        cases isLoading
        exact source.writes_getLastD isLoaded 0
      · cases stepped
  | initWrite =>
      simp only [cycleStep] at stepped
      split at stepped
      next isLoading => exact .writes isLoading (Option.some.inj stepped).symm
      next => cases stepped
  | initFail =>
      simp only [cycleStep] at stepped
      split at stepped
      next isLoading => exact .fails isLoading (Option.some.inj stepped).symm
      next => cases stepped
  | initEnd rest created =>
      simp only [cycleStep] at stepped
      split at stepped
      next isLoading =>
        cases stepped
        refine .starts isLoading rfl rfl ?_
        intro thread member
        rcases List.mem_append.mp member with old | new
        · exact Or.inl old
        · split at new
          · exact Or.inr (List.mem_singleton.mp new)
          · cases new
      next => cases stepped
  | post =>
      cases stepped
      exact .aside trivial rfl rfl rfl fun _ _ same => same
  | readIdx i answers =>
      rcases Option.bind_eq_some_iff.mp stepped with ⟨thread, isThread, reading⟩
      rcases Option.bind_eq_some_iff.mp reading with ⟨done, ran, isNext⟩
      exact .reads (myLogReadIdxFile_range state.cfg answers () done.1 done.2 trivial ran)
        (Option.some.inj isNext).symm
  | setRunning i =>
      rcases Option.bind_eq_some_iff.mp stepped with ⟨thread, isThread, isNext⟩
      exact .goes .testing trivial isThread nofun _ (Option.some.inj isNext).symm
  | test i =>
      rcases Option.bind_eq_some_iff.mp stepped with ⟨thread, isThread, isNext⟩
      refine .goes _ trivial isThread ?_ state.isRunning (Option.some.inj isNext).symm
      intro inRound
      cases isRunning : state.isRunning <;> rw [isRunning] at inRound <;> cases inRound
  | timeout i =>
      rcases Option.bind_eq_some_iff.mp stepped with ⟨thread, isThread, isNext⟩
      exact .goes .ticking trivial isThread nofun state.isRunning (Option.some.inj isNext).symm
  | tick i =>
      rcases Option.bind_eq_some_iff.mp stepped with ⟨thread, isThread, isNext⟩
      split at isNext
      · exact .goes .testing trivial isThread nofun state.isRunning (Option.some.inj isNext).symm
      · cases isNext
  | wake i =>
      rcases Option.bind_eq_some_iff.mp stepped with ⟨thread, isThread, isNext⟩
      simp only at isNext
      split at isNext
      · exact .wakes isThread (Option.some.inj isNext).symm
      · cases isNext
  | tar i =>
      rcases Option.bind_eq_some_iff.mp stepped with ⟨thread, isThread, isNext⟩
      refine .goes .packed trivial isThread ?_ state.isRunning (Option.some.inj isNext).symm
      intro _
      rw [CycleThread.inRound, (thread_mem isThread).2.1]
  | next i =>
      rcases Option.bind_eq_some_iff.mp stepped with ⟨thread, isThread, dividing⟩
      rcases Option.bind_eq_some_iff.mp dividing with ⟨index, isIndex, isNext⟩
      exact .divides isThread (nextIndex_lt isIndex) (Option.some.inj isNext).symm
  | store i =>
      rcases Option.bind_eq_some_iff.mp stepped with ⟨thread, isThread, isNext⟩
      exact .goes .testing trivial isThread nofun state.isRunning (Option.some.inj isNext).symm

theorem cycleStep_inv (inv : CycleInv state) (stepped : cycleStep state label = some next) :
    CycleInv next := by
  cases cycleStep_moved stepped with
  | aside _ threads configured cfg control => exact inv.of_fields threads configured cfg control
  | clears _ threads configured cfg control => exact .clear control threads configured cfg
  | writes isLoading same =>
      subst same
      have ⟨notConfigured, last⟩ := inv.loading _ _ isLoading
      refine ⟨fun thread member isFresh => ?_, fun isConfigured => ?_, ?_⟩
      · exact absurd ((inv.fresh thread member isFresh).1.symm.trans notConfigured) nofun
      · exact absurd (isConfigured.symm.trans notConfigured) nofun
      · intro rest others isRest
        cases isRest
        rw [List.getLastD_cons] at last
        exact ⟨notConfigured, last⟩
  | fails isLoading same =>
      subst same
      have ⟨notConfigured, last⟩ := inv.loading _ _ isLoading
      refine ⟨fun thread member isFresh => ?_, last, nofun⟩
      exact absurd ((inv.fresh thread member isFresh).1.symm.trans notConfigured) nofun
  | starts isLoading control cfg threads =>
      have ⟨notConfigured, last⟩ := inv.loading _ _ isLoading
      refine ⟨fun thread member isFresh => ?_, fun _ => cfg ▸ last rfl, ?_⟩
      · rcases threads thread member with old | rfl
        · exact absurd ((inv.fresh thread old isFresh).1.symm.trans notConfigured) nofun
        · cases isFresh
      · intro writes loads isNext
        cases control.symm.trans isNext
  | reads range same =>
      subst same
      refine inv.setThread fun isConfigured => ⟨isConfigured, ?_⟩
      have positive : 0 < state.cfg.maxFileNum.toNat :=
        Nat.lt_of_lt_of_le (by decide) (UInt32.le_iff_toNat_le.mp (inv.configured isConfigured))
      rcases range with zero | below
      · exact zero ▸ positive
      · exact below
  | goes later _ isThread _ isRunning same =>
      subst same
      exact (inv.setPc isThread later).of_fields rfl rfl rfl fun _ _ same => same
  | wakes isThread same =>
      subst same
      exact (inv.setPc isThread .woken).of_fields rfl rfl rfl fun _ _ same => same
  | divides isThread range same =>
      subst same
      refine inv.setThread fun isFresh => ?_
      exact ⟨(inv.fresh _ (thread_mem isThread).1 isFresh).1, range⟩

theorem RoundsFit.setThread {maxFileNum : UInt32} {i : Nat} {after : CycleThread}
    (fit : RoundsFit maxFileNum state.threads)
    (fits : after.inRound = true -> Fits maxFileNum after.index) :
    RoundsFit maxFileNum (state.setThread i after).threads := by
  intro other member inRound
  rcases List.mem_or_eq_of_mem_set member with old | rfl
  · exact fit other old inRound
  · exact fits inRound

/-- Nothing fits a cleared configuration. -/
theorem roundsFit_clear_iff : RoundsFit state.clear.cfg.maxFileNum state.clear.threads <->
    forall thread, thread ∈ state.threads -> thread.inRound = false := by
  constructor
  · intro fit thread member
    cases inRound : thread.inRound with
    | false => rfl
    | true =>
        have isMember : { thread with fresh := false } ∈ state.clear.threads :=
          List.mem_map.mpr ⟨thread, member, rfl⟩
        exact absurd (fit _ isMember inRound).2 (Nat.not_lt_zero _)
  · intro noRound thread member inRound
    rcases List.mem_map.mp member with ⟨before, wasMember, rfl⟩
    exact absurd ((noRound before wasMember).symm.trans inRound) nofun

theorem cycleStep_roundsFit_iff (inv : CycleInv state)
    (fit : RoundsFit state.cfg.maxFileNum state.threads)
    (stepped : cycleStep state label = some next) :
    RoundsFit next.cfg.maxFileNum next.threads <-> keepsRounds state label := by
  cases cycleStep_moved stepped with
  | aside always threads _ cfg _ =>
      rw [threads, cfg]
      exact iff_of_true fit always
  | clears asks threads _ cfg _ =>
      rw [threads, cfg, asks]
      exact roundsFit_clear_iff
  | writes isLoading same =>
      subst same
      simp only [keepsRounds, isLoading, ControlPc.nextWrite, Option.mem_some_iff, forall_eq']
  | fails isLoading same =>
      subst same
      exact iff_of_true fit trivial
  | starts _ _ cfg threads =>
      rw [cfg]
      refine iff_of_true (fun thread member inRound => ?_) trivial
      rcases threads thread member with old | rfl
      · exact fit thread old inRound
      · cases inRound
  | reads _ same =>
      subst same
      exact iff_of_true (fit.setThread nofun) trivial
  | goes later always isThread stays _ same =>
      subst same
      refine iff_of_true (fit.setThread fun inRound => ?_) always
      have fits := fit _ (thread_mem isThread).1 (stays inRound)
      exact fits
  | @wakes i sem thread isThread same =>
      subst same
      have ⟨member, _, below⟩ := thread_mem isThread
      constructor
      · intro fitNext other isOther
        cases isThread.symm.trans isOther
        exact Or.inr (fitNext { thread with pc := .woken } (List.mem_set below _) rfl)
      · intro keeps
        refine fit.setThread fun _ => ?_
        rcases keeps thread isThread with isFresh | fits
        · have ⟨isConfigured, small⟩ := inv.fresh thread member isFresh
          exact ⟨inv.configured isConfigured, small⟩
        · exact fits
  | divides isThread range same =>
      subst same
      have ⟨member, isPc, _⟩ := thread_mem isThread
      have fits := fit _ member (by rw [CycleThread.inRound, isPc])
      exact iff_of_true (fit.setThread fun _ => ⟨fits.1, range⟩) trivial

/-- The threads in rounds are those that will use their indices. -/
theorem roundsFit_iff_usesFit :
    RoundsFit state.cfg.maxFileNum state.threads <-> forall label, usesFit state label := by
  constructor
  · intro fit label
    have uses : forall {i pc thread}, state.thread i pc = some thread ->
        (pc = .woken ∨ pc = .packed ∨ pc = .computed) ->
        Fits state.cfg.maxFileNum thread.index := by
      intro i pc thread isThread inRound
      have ⟨member, isPc, _⟩ := thread_mem isThread
      apply fit thread member
      rw [CycleThread.inRound, isPc]
      rcases inRound with rfl | rfl | rfl <;> rfl
    cases label with
    | tar i => exact fun thread isThread => uses isThread (Or.inl rfl)
    | next i => exact fun thread isThread => uses isThread (Or.inr (Or.inl rfl))
    | store i => exact fun thread isThread => uses isThread (Or.inr (Or.inr rfl))
    | _ => trivial
  · intro uses thread member inRound
    rcases List.mem_iff_getElem?.mp member with ⟨i, atIndex⟩
    have isThread : state.thread i thread.pc = some thread :=
      Option.filter_eq_some_iff.mpr ⟨atIndex, decide_eq_true rfl⟩
    cases isPc : thread.pc with
    | woken => exact uses (.tar i) thread (isPc ▸ isThread)
    | packed => exact uses (.next i) thread (isPc ▸ isThread)
    | computed => exact uses (.store i) thread (isPc ▸ isThread)
    | _ =>
        rw [CycleThread.inRound, isPc] at inRound
        cases inRound

end Steps

/-! ## Runs -/

/-- In every state of a run, whichever thread goes on next, the divisor is at least
`LOG_FILE_NUM_MIN` and the index is in range, exactly if no thread in a round is surprised by
a write of `maxFileNum`, and no thread takes a token that has read its index in an earlier
session and does not fit. -/
theorem archiver_index_fits_iff {labels : List CycleLabel} {final : CycleState}
    (ran : cycling.run .statics labels = some final) :
    cycling.EveryState (fun state => forall label, usesFit state label) .statics labels <->
      cycling.AllSteps keepsRounds .statics labels := by
  have decides : forall state label next, CycleInv state -> (forall label, usesFit state label) ->
      True -> cycling.step state label = some next ->
      ((forall label, usesFit next label) <-> keepsRounds state label) := by
    intro state label next inv uses _ stepped
    rw [← roundsFit_iff_usesFit] at uses ⊢
    exact cycleStep_roundsFit_iff inv uses stepped
  exact cycling.everyState_iff_allSteps (fun _ _ _ inv _ stepped => cycleStep_inv inv stepped) decides
    cycleInv_statics (roundsFit_iff_usesFit.mp nofun)
    (cycling.allSteps_of_forall (fun _ _ => trivial) _ _) ran

/-- `MyLogInit` with three archives and file output, and a thread that comes to wait. -/
def sampleSession : List CycleLabel :=
  [.initBegin (.file (.object [(ascii "MaxFileNum", .number 3), (ascii "Output", .number 0)])),
    .initWrite, .initWrite, .initEnd .cleared true,
    .readIdx 0 (fun
      | .openFile _ _ => some (3 : Nat)
      | .fstat _ => some (0 : Nat)
      | .read _ _ => some (ascii "")
      | .opendir _ => true
      | .access _ | .close _ | .write _ _ | .rename _ _ | .remove _ | .semPost | .tar _ _ | .closedir
      | .mkdir _ => (0 : Int)), .setRunning 0, .test 0]

/-- A round, and then the end of the session, which the thread notices in time. -/
theorem archiver_index_fits_iff_oneRound :
    let labels := sampleSession ++ [.post, .wake 0, .tar 0, .next 0, .store 0, .deinitBegin, .test 0,
      .deinitClear, .deinitEnd]
    (cycling.run .statics labels).isSome ∧
      cycling.EveryState (fun state => forall label, usesFit state label) .statics labels := by
  intro labels
  have reached : (cycling.run .statics labels).isSome := by decide +kernel
  rcases Option.isSome_iff_exists.mp reached with ⟨final, ran⟩
  exact ⟨reached, (archiver_index_fits_iff ran).mpr (by decide +kernel)⟩

/-- `tar` takes longer than the sleep of `MyLogDeinit`.  The thread then divides by zero. -/
theorem archiver_index_divides_byZero :
    Exists fun final =>
      cycling.run .statics (sampleSession ++ [.post, .wake 0, .deinitBegin, .deinitClear, .tar 0]) =
        some final ∧
      final.threads = [⟨.packed, 0, false⟩] ∧ final.cfg.maxFileNum = 0 ∧
      nextIndex final.cfg 0 = none := by
  have reached : (cycling.run .statics
      (sampleSession ++ [.post, .wake 0, .deinitBegin, .deinitClear, .tar 0])).map (fun final =>
        (final.threads, final.cfg.maxFileNum, nextIndex final.cfg 0)) =
      some ([⟨.packed, 0, false⟩], 0, none) := by
    decide +kernel
  rcases Option.map_eq_some_iff.mp reached with ⟨final, ran, observed⟩
  simp only [Prod.mk.injEq] at observed
  exact ⟨final, ran, observed⟩

end Logger
end V2x
