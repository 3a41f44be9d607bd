import V2x.Foundations.TransitionSystem
import V2x.Logger.Cache

namespace V2x
namespace Logger

open Foundations

/-!
# When the cache is flushed

A call of `WriteLogToCache` leaves an empty cache, or one with room for a whole
line whose age is at most `LOG_TIME_OUT`.  The next call relies on the room, and
on the correction of `lastTime`, without which the age would wrap around when
the clock went back.

Nothing of this depends on the files.  Here the system calls return what they
like, and between two calls the rest of the logger may change all that is not
static in `WriteLogToCache`.
-/

variable {System : Type}

/-- The logger between two calls, in any system. -/
structure FlushState (System : Type) where
  cfg : LogCfgInfo
  logFd : Option Nat
  cache : LogCache
  system : System

/-- A buffer and a length that `WriteLogToCache` is given for a record. -/
structure CacheRecord where
  buf : List UInt8
  writeLen : Nat
  positive : 0 < writeLen
  short : writeLen ≤ logLineMax

/-- Calls at readings of the clock, and what happens between them. -/
inductive FlushLabel (System : Type) where
  | record (record : CacheRecord) (cur : UInt64)
  | tick (cur : UInt64)
  | between (cfg : LogCfgInfo) (logFd : Option Nat) (logCache : Vector UInt8 logCacheSize)
      (system : System)

namespace FlushState

/-- The static variables of `WriteLogToCache` before its first call. -/
def startUp (cfg : LogCfgInfo) (system : System) : FlushState System where
  cfg := cfg
  logFd := none
  cache := .initial
  system := system

variable (kernel : Kernel LogOp LogOp.Answer System)

def writeToCache (state : FlushState System) (buf : Option (List UInt8)) (writeLen : Nat) (cur : UInt64) :
    Option (FlushState System) := do
  let program <- writeLogToCache state.cfg state.logFd state.cache buf writeLen cur
  let done <- program.exec kernel state.system
  return { state with logFd := done.1.1, cache := done.1.2, system := done.2 }

end FlushState

section Machine

variable (kernel : Kernel LogOp LogOp.Answer System)

def flushStep (state : FlushState System) : FlushLabel System -> Option (FlushState System)
  | .record record cur => state.writeToCache kernel (some record.buf) record.writeLen cur
  | .tick cur => state.writeToCache kernel none 0 cur
  | .between cfg logFd logCache system =>
      some ⟨cfg, logFd, { state.cache with bytes := logCache.toList }, system⟩

def flushing : Machine (FlushState System) (FlushLabel System) where
  step := flushStep kernel

/-- The subtraction for a call that must not wrap around. -/
def checkedSub (first second : UInt64) : Option UInt64 :=
  if second ≤ first then some (first - second) else none

/-- Before the copy there is room for a line, so that the copy ends in `g_logCache`.  The call
comes to the same end when its subtraction must not wrap.  Afterwards the cache is empty, or it is
neither too full nor too old. -/
structure FlushPolicy (state : FlushState System) (buf : Option (List UInt8)) (writeLen : Nat)
    (cur : UInt64) : Prop where
  low : state.cache.offset ≤ logFlushSizeMax
  room : state.cache.offset + writeLen ≤ logCacheSize
  noWrap : Exists fun program =>
    writeLogToCacheWith checkedSub state.cfg state.logFd state.cache buf writeLen cur = some program ∧
      writeLogToCache state.cfg state.logFd state.cache buf writeLen cur = some program
  after : forall next, state.writeToCache kernel buf writeLen cur = some next ->
    next.cache.offset = 0 ∨
      (next.cache.lastTime ≤ cur ∧ cur - next.cache.lastTime ≤ logTimeOut ∧
        next.cache.offset ≤ logFlushSizeMax)

def keepsPolicy (state : FlushState System) : FlushLabel System -> Prop
  | .record record cur => FlushPolicy kernel state (some record.buf) record.writeLen cur
  | .tick cur => FlushPolicy kernel state none 0 cur
  | .between _ _ _ _ => True

end Machine

/-! ## One call -/

namespace LogCache

/-- There is room for a line. -/
structure Roomy (cache : LogCache) : Prop where
  size : cache.bytes.length = logCacheSize
  low : cache.offset ≤ logFlushSizeMax

/-- The cache that `WriteLogToCache` tests after its copy. -/
structure Held (cache : LogCache) (buf : Option (List UInt8)) (writeLen : Nat) (cur : UInt64)
    (held : LogCache) : Prop where
  copied : (cache.clamp cur).fill buf writeLen = some held
  size : held.bytes.length = logCacheSize
  noWrap : held.lastTime ≤ cur

variable {cache : LogCache} {buf : Option (List UInt8)} {writeLen : Nat}

theorem roomy_initial : Roomy .initial where
  size := List.length_replicate
  low := Nat.zero_le _

/-- The correction for a clock that goes back. -/
theorem clamp_lastTime_le (cache : LogCache) (cur : UInt64) : (cache.clamp cur).lastTime ≤ cur := by
  unfold clamp
  split
  · exact UInt64.le_refl cur
  next notAhead => exact UInt64.not_lt.mp notAhead

theorem copied_length_le (buf : Option (List UInt8)) (writeLen : Nat) :
    (copied buf writeLen).length ≤ writeLen := by
  cases buf with
  | none => exact Nat.zero_le writeLen
  | some buf => exact Nat.le_of_eq (strncpy_length buf writeLen)

theorem Roomy.room (roomy : cache.Roomy) (short : writeLen ≤ logLineMax) :
    cache.offset + writeLen ≤ logCacheSize := by
  calc
    cache.offset + writeLen ≤ logFlushSizeMax + logLineMax := Nat.add_le_add roomy.low short
    _ = logCacheSize := by decide

theorem Roomy.exists_held (roomy : cache.Roomy) (short : writeLen ≤ logLineMax)
    (buf : Option (List UInt8)) (cur : UInt64) :
    Exists fun held => cache.Held buf writeLen cur held := by
  have size := (congrArg List.length (cache.clamp_bytes cur)).trans roomy.size
  have room : (cache.clamp cur).offset + (Logger.copied buf writeLen).length ≤ logCacheSize := by
    rw [cache.clamp_offset]
    exact roomy.room (Nat.le_trans (copied_length_le buf writeLen) short)
  rcases fill_filled size buf room with ⟨held, isHeld, filled⟩
  refine ⟨held, isHeld, filled.size, ?_⟩
  rw [filled.lastTime]
  exact cache.clamp_lastTime_le cur

/-- Where `lastTime` is not ahead of the clock, the test does not depend on the subtraction. -/
theorem flushTest_checked {cur : UInt64} (notAhead : cache.lastTime ≤ cur) (held : Nat) :
    cache.flushTest checkedSub held cur = cache.flushTest wrappingSub held cur := by
  rw [flushTest, flushTest, checkedSub, if_pos notAhead]
  rfl

theorem le_of_not_flushDue {cur : UInt64} (quiet : cache.flushDue cache.offset cur = false) :
    cur - cache.lastTime ≤ logTimeOut ∧ cache.offset ≤ logFlushSizeMax := by
  rw [flushDue, Bool.or_eq_false_iff] at quiet
  exact ⟨UInt64.not_lt.mp (of_decide_eq_false quiet.2), Nat.not_lt.mp (of_decide_eq_false quiet.1)⟩

end LogCache

section Call

variable {kernel : Kernel LogOp LogOp.Answer System} {state next : FlushState System}
  {buf : Option (List UInt8)} {writeLen : Nat} {cur : UInt64}

/-- The two ways in which a call ends, whatever the system calls return. -/
theorem writeToCache_cases {held : LogCache} (isHeld : state.cache.Held buf writeLen cur held)
    (called : state.writeToCache kernel buf writeLen cur = some next) :
    next.cache = { held with offset := 0, lastTime := cur } ∨
      (held.flushDue held.offset cur = false ∧ next.cache = held) := by
  simp only [FlushState.writeToCache, writeLogToCache_eq, isHeld.copied, Option.bind_eq_bind, Option.bind_some,
    Option.pure_def] at called
  rcases Option.bind_eq_some_iff.mp called with ⟨⟨⟨logFd, cache⟩, system⟩, ran, isNext⟩
  cases isNext
  cases due : held.flushDue held.offset cur with
  | true =>
      rw [due, if_pos rfl] at ran
      rcases (Program.exec_bind_iff kernel).mp ran with ⟨newFd, middle, _, rest⟩
      cases rest
      exact Or.inl rfl
  | false =>
      rw [due, if_neg Bool.false_ne_true] at ran
      cases ran
      exact Or.inr ⟨rfl, rfl⟩

/-- The call with the subtraction that must not wrap. -/
theorem writeLogToCacheWith_checked {held : LogCache}
    (isHeld : state.cache.Held buf writeLen cur held) :
    Exists fun program =>
      writeLogToCacheWith checkedSub state.cfg state.logFd state.cache buf writeLen cur = some program ∧
        writeLogToCache state.cfg state.logFd state.cache buf writeLen cur = some program := by
  simp only [writeLogToCache, writeLogToCacheWith, isHeld.copied, Option.bind_eq_bind,
    Option.bind_some, LogCache.flushTest_checked isHeld.noWrap, LogCache.flushTest_wrapping]
  exact ⟨_, rfl, rfl⟩

variable (kernel buf cur) in
theorem flushPolicy_of_roomy (roomy : state.cache.Roomy) (short : writeLen ≤ logLineMax) :
    FlushPolicy kernel state buf writeLen cur := by
  rcases roomy.exists_held short buf cur with ⟨held, isHeld⟩
  refine ⟨roomy.low, roomy.room short, writeLogToCacheWith_checked isHeld, ?_⟩
  intro next called
  rcases writeToCache_cases isHeld called with isNext | ⟨quiet, isNext⟩
  · rw [isNext]
    exact Or.inl rfl
  · rw [isNext]
    exact Or.inr ⟨isHeld.noWrap, LogCache.le_of_not_flushDue quiet⟩

theorem roomy_writeToCache (roomy : state.cache.Roomy) (short : writeLen ≤ logLineMax)
    (called : state.writeToCache kernel buf writeLen cur = some next) : next.cache.Roomy := by
  rcases roomy.exists_held short buf cur with ⟨held, isHeld⟩
  rcases writeToCache_cases isHeld called with isNext | ⟨quiet, isNext⟩
  · rw [isNext]
    exact ⟨isHeld.size, Nat.zero_le _⟩
  · rw [isNext]
    exact ⟨isHeld.size, (LogCache.le_of_not_flushDue quiet).2⟩

/-- Where every system call returns, the call does. -/
theorem exists_writeToCache (total : forall system op, (kernel.answer system op).isSome)
    (roomy : state.cache.Roomy) (short : writeLen ≤ logLineMax) (buf : Option (List UInt8))
    (cur : UInt64) : Exists fun next => state.writeToCache kernel buf writeLen cur = some next := by
  rcases roomy.exists_held short buf cur with ⟨held, isHeld⟩
  simp only [FlushState.writeToCache, writeLogToCache_eq, isHeld.copied, Option.bind_eq_bind, Option.bind_some,
    Option.pure_def]
  rcases Program.exists_exec_of_total total (if held.flushDue held.offset cur then do
      let logFd <- writeLogToFile state.cfg state.logFd held.text
      return (logFd, { held with offset := 0, lastTime := cur })
    else return (state.logFd, held)) state.system with ⟨done, ran⟩
  exact ⟨_, Option.bind_eq_some_iff.mpr ⟨done, ran, rfl⟩⟩

end Call

/-! ## Runs -/

section Runs

variable (kernel : Kernel LogOp LogOp.Answer System) {state next : FlushState System}
  {label : FlushLabel System}

theorem roomy_step (roomy : state.cache.Roomy) (stepped : (flushing kernel).step state label = some next) :
    next.cache.Roomy := by
  cases label with
  | record record cur => exact roomy_writeToCache roomy record.short stepped
  | tick cur => exact roomy_writeToCache roomy (Nat.zero_le _) stepped
  | between cfg logFd logCache system =>
      cases stepped
      exact ⟨logCache.length_toList, roomy.low⟩

theorem keepsPolicy_of_roomy (roomy : state.cache.Roomy) (label : FlushLabel System) :
    keepsPolicy kernel state label := by
  cases label with
  | record record cur => exact flushPolicy_of_roomy kernel _ cur roomy record.short
  | tick cur => exact flushPolicy_of_roomy kernel _ cur roomy (Nat.zero_le _)
  | between cfg logFd logCache system => exact trivial

/-- From the initial values of the statics every call keeps to the policy, whatever records there
are, however the clock goes, and whatever changes besides between the calls. -/
theorem writeLogToCache_flushPolicy (cfg : LogCfgInfo) (system : System)
    (labels : List (FlushLabel System)) :
    (flushing kernel).AllSteps (keepsPolicy kernel) (.startUp cfg system) labels :=
  (flushing kernel).allSteps_of_invariant
    (fun _ _ _ roomy _ stepped => roomy_step kernel roomy stepped)
    (fun _ label roomy _ => keepsPolicy_of_roomy kernel roomy label)
    LogCache.roomy_initial ((flushing kernel).allSteps_of_forall (fun _ _ => trivial) _ labels)

/-- Where every system call returns, every sequence of calls is possible. -/
theorem exists_flushing_run (total : forall system op, (kernel.answer system op).isSome) (cfg : LogCfgInfo)
    (system : System) (labels : List (FlushLabel System)) :
    Exists fun final => (flushing kernel).run (.startUp cfg system) labels = some final := by
  have possible : forall {state : FlushState System} label, state.cache.Roomy ->
      Exists fun next => flushStep kernel state label = some next := by
    intro state label roomy
    cases label with
    | record record cur => exact exists_writeToCache total roomy record.short _ cur
    | tick cur => exact exists_writeToCache total roomy (Nat.zero_le _) none cur
    | between cfg logFd logCache system => exact ⟨_, rfl⟩
  have enabled : forall state label, LogCache.Roomy (FlushState.cache state) -> True ->
      Exists fun next => (flushing kernel).step state label = some next ∧ next.cache.Roomy := by
    intro state label roomy _
    rcases possible label roomy with ⟨next, stepped⟩
    exact ⟨next, stepped, roomy_step kernel roomy stepped⟩
  exact (flushing kernel).exists_run_of_allSteps enabled LogCache.roomy_initial
    ((flushing kernel).allSteps_of_forall (fun _ _ => trivial) _ labels)

end Runs

/-! ## The files of the logger -/

/-- The variables that `WriteLogToCache` uses, with the files. -/
def LogState.flushState (state : LogState) : FlushState LogFiles where
  cfg := state.cfg
  logFd := state.logFd
  cache := state.cache
  system := state.files

/-- The calls on files that keep what is written are calls in this sense. -/
theorem writeToCache_flushState (archive : List UInt8 -> Option (List UInt8) -> List UInt8)
    (state : LogState) (buf : Option (List UInt8)) (writeLen : Nat) (cur : UInt64) :
    (state.writeToCache archive buf writeLen cur).map LogState.flushState =
      state.flushState.writeToCache (files archive) buf writeLen cur := by
  simp only [LogState.writeToCache, FlushState.writeToCache, LogState.flushState, Option.bind_eq_bind]
  cases writeLogToCache state.cfg state.logFd state.cache buf writeLen cur with
  | none => rfl
  | some program =>
      simp only [Option.bind_some]
      cases program.exec (files archive) state.files with
      | none => rfl
      | some done => rfl

end Logger
end V2x
