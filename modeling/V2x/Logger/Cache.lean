import V2x.Foundations.TransitionSystem
import V2x.Logger.Files

namespace V2x
namespace Logger

open Foundations

/-!
# The cache of the logger

`WriteLogToCache` collects records in `g_logCache` and hands them to
`WriteLogToFile` when the cache is nearly full or old.  It empties the cache
afterwards, whatever `WriteLogToFile` has done.  So the bytes that were passed
to `write`, followed by the bytes in the cache, are the records that were
accepted exactly as long as no flush found the log file removed.
-/

/-! ## Copying into the cache -/

/-- `strncpy` stops at a NUL byte and fills the rest with zero bytes. -/
def strncpy (src : List UInt8) (n : Nat) : List UInt8 :=
  let copied := (src.take n).takeWhile (fun byte => byte != 0)
  copied ++ List.replicate (n - copied.length) 0

/-- `g_logCache` with the static variables of `WriteLogToCache`. -/
structure LogCache where
  bytes : List UInt8
  offset : Nat
  lastTime : UInt64
deriving DecidableEq, Repr

namespace LogCache

def initial : LogCache where
  bytes := List.replicate logCacheSize 0
  offset := 0
  lastTime := 0

/-- The bytes that wait in the cache. -/
def text (cache : LogCache) : List UInt8 :=
  cache.bytes.take cache.offset

/-- Copy a record to the end of the cache.  A copy past the end of `g_logCache` is
undefined behaviour. -/
def append (cache : LogCache) (buf : List UInt8) (writeLen : Nat) : Option LogCache :=
  if cache.offset + writeLen ≤ logCacheSize then
    some { cache with
      bytes := cache.bytes.take cache.offset ++ strncpy buf writeLen ++
        cache.bytes.drop (cache.offset + writeLen)
      offset := cache.offset + writeLen }
  else none

/-- `buf` may be a null pointer. -/
def fill (cache : LogCache) (buf : Option (List UInt8)) (writeLen : Nat) : Option LogCache :=
  match buf with
  | some buf => if writeLen ≠ 0 then cache.append buf writeLen else some cache
  | none => some cache

/-- The first statement of `WriteLogToCache`. -/
def clamp (cache : LogCache) (cur : UInt64) : LogCache :=
  if cur < cache.lastTime then { cache with lastTime := cur } else cache

/-- The cache is flushed when it holds so many bytes, or when it is too old. -/
def flushDue (cache : LogCache) (held : Nat) (cur : UInt64) : Bool :=
  decide (logFlushSizeMax < held) || decide (logTimeOut < cur - cache.lastTime)

end LogCache

/-- The subtraction of the machine, modulo 2^64. -/
def wrappingSub (first second : UInt64) : Option UInt64 :=
  some (first - second)

/-- The test of `WriteLogToCache`.  The seconds are subtracted only where the cache is not
nearly full. -/
def LogCache.flushTest (sub : UInt64 -> UInt64 -> Option UInt64) (cache : LogCache) (held : Nat)
    (cur : UInt64) : Option Bool :=
  if logFlushSizeMax < held then some true
  else (sub cur cache.lastTime).map (fun age => decide (logTimeOut < age))

/-- `WriteLogToCache` at a clock reading, with the new `g_logFd`.  The subtraction is an
argument, so that it can be asked whether the call goes wrong with one that must not wrap. -/
def writeLogToCacheWith (sub : UInt64 -> UInt64 -> Option UInt64) (cfg : LogCfgInfo)
    (logFd : Option Nat) (cache : LogCache) (buf : Option (List UInt8)) (writeLen : Nat)
    (cur : UInt64) : Option (LogProgram (Option Nat × LogCache)) := do
  let cache <- (cache.clamp cur).fill buf writeLen
  let due <- cache.flushTest sub cache.offset cur
  return if due then do
      let logFd <- writeLogToFile cfg logFd cache.text
      return (logFd, { cache with offset := 0, lastTime := cur })
    else return (logFd, cache)

/-- `WriteLogToCache`. -/
def writeLogToCache (cfg : LogCfgInfo) (logFd : Option Nat) (cache : LogCache)
    (buf : Option (List UInt8)) (writeLen : Nat) (cur : UInt64) :
    Option (LogProgram (Option Nat × LogCache)) :=
  writeLogToCacheWith wrappingSub cfg logFd cache buf writeLen cur

theorem LogCache.flushTest_wrapping (cache : LogCache) (held : Nat) (cur : UInt64) :
    cache.flushTest wrappingSub held cur = some (cache.flushDue held cur) := by
  unfold flushTest flushDue
  split
  next full => rw [decide_eq_true full, Bool.true_or]
  next roomy =>
    rw [decide_eq_false roomy, Bool.false_or]
    rfl

theorem writeLogToCache_eq (cfg : LogCfgInfo) (logFd : Option Nat) (cache : LogCache)
    (buf : Option (List UInt8)) (writeLen : Nat) (cur : UInt64) :
    writeLogToCache cfg logFd cache buf writeLen cur = do
      let cache <- (cache.clamp cur).fill buf writeLen
      return if cache.flushDue cache.offset cur then do
          let logFd <- writeLogToFile cfg logFd cache.text
          return (logFd, { cache with offset := 0, lastTime := cur })
        else return (logFd, cache) := by
  simp only [writeLogToCache, writeLogToCacheWith, LogCache.flushTest_wrapping, Option.bind_eq_bind,
    Option.bind_some]

/-! ## What `strncpy` copies -/

theorem strncpy_length (src : List UInt8) (n : Nat) : (strncpy src n).length = n := by
  have within : ((src.take n).takeWhile (fun byte => byte != 0)).length ≤ n :=
    Nat.le_trans (List.takeWhile_prefix _).length_le (List.length_take_le n src)
  rw [strncpy, List.length_append, List.length_replicate, Nat.add_sub_cancel' within]

/-- Only zero bytes follow a zero byte. -/
def Storable (record : List UInt8) : Prop :=
  forall byte, byte ∈ record.dropWhile (fun byte => byte != 0) -> byte = 0

instance (record : List UInt8) : Decidable (Storable record) :=
  inferInstanceAs (Decidable (forall byte, byte ∈ _ -> byte = 0))

theorem strncpy_eq_iff (record : List UInt8) :
    strncpy record record.length = record <-> Storable record := by
  let stops : UInt8 -> Bool := fun byte => byte != 0
  have parts : record.takeWhile stops ++ record.dropWhile stops = record :=
    List.takeWhile_append_dropWhile
  have rest : record.length - (record.takeWhile stops).length =
      (record.dropWhile stops).length := by
    have lengths := congrArg List.length parts
    rw [List.length_append] at lengths
    omega
  have copied : strncpy record record.length =
      record.takeWhile stops ++ List.replicate (record.dropWhile stops).length 0 := by
    rw [strncpy, List.take_length, ← rest]
  rw [copied]
  constructor
  · intro same
    have zeros := List.append_cancel_left (same.trans parts.symm)
    intro byte member
    change byte ∈ record.dropWhile stops at member
    rw [← zeros] at member
    exact List.eq_of_mem_replicate member
  · intro storable
    have zeros : record.dropWhile stops = List.replicate (record.dropWhile stops).length 0 :=
      List.eq_replicate_of_mem storable
    rw [← zeros]
    exact parts

theorem strncpy_take_eq_iff {buf : List UInt8} {len : Nat} (within : len ≤ buf.length) :
    strncpy buf len = buf.take len <-> Storable (buf.take len) := by
  have length : (buf.take len).length = len := List.length_take_of_le within
  have same : strncpy buf len = strncpy (buf.take len) (buf.take len).length := by
    rw [length, strncpy, strncpy, List.take_take, Nat.min_self]
  rw [same]
  exact strncpy_eq_iff _

/-! ## What `WriteLogToFile` does -/

section LogFile

variable (archive : List UInt8 -> Option (List UInt8) -> List UInt8) (buf : List UInt8)
  {cfg : LogCfgInfo} {state : LogFiles}

/-- `g_logFd` is a descriptor of the log file. -/
def LogOpen (cfg : LogCfgInfo) (store : FileStore (List UInt8)) (logFd : Option Nat) : Prop :=
  forall fd, logFd = some fd -> Exists fun file =>
    store.openFile fd = some file ∧ file.path = cfg.logName

/-- The bytes were written to the log file.  A log file that is still open has its name. -/
structure Writes (cfg : LogCfgInfo) (buf : List UInt8) (state after : LogFiles)
    (logFd : Option Nat) : Prop where
  written : after.written = state.written ++ [(cfg.logName, buf)]
  logOpen : LogOpen cfg after.store logFd
  present : logFd ≠ none -> (after.store.entry cfg.logName).isSome

theorem writeOpenLogFile_writes {fd : Nat} {file : OpenFile (List UInt8)}
    (isFile : state.store.openFile fd = some file) (isLog : file.path = cfg.logName)
    (present : (state.store.entry cfg.logName).isSome) :
    Exists fun logFd => Exists fun after =>
      (writeOpenLogFile cfg fd buf).exec (files archive) state = some (logFd, after) ∧
      Writes cfg buf state after logFd := by
  rcases FileStore.openFile_write isFile buf with ⟨moved, isMoved, samePath, _⟩
  simp only [writeOpenLogFile, Program.exec_bind, exec_write isFile, Option.bind_some, exec_fstat,
    Program.exec_ite, exec_close, exec_rename, exec_semPost, Program.exec_pure, isLog]
  split
  · exact ⟨none, _, rfl, rfl, nofun, fun isOpen => absurd rfl isOpen⟩
  · refine ⟨some fd, _, rfl, rfl, ?_, fun _ => ?_⟩
    · intro other same
      cases same
      exact ⟨moved, isMoved, samePath.trans isLog⟩
    · simp only [FileStore.entry_write]
      exact present

/-- A log file that is not open is opened, and one that is there is written. -/
theorem writeLogToFile_writes {logFd : Option Nat} (named : logFd = none -> cfg.logName ≠ [])
    (logOpen : LogOpen cfg state.store logFd)
    (available : logFd ≠ none -> (state.store.entry cfg.logName).isSome) :
    Exists fun logFd' => Exists fun after =>
      (writeLogToFile cfg logFd buf).exec (files archive) state = some (logFd', after) ∧
      Writes cfg buf state after logFd' := by
  cases logFd with
  | some fd =>
      rcases logOpen fd rfl with ⟨file, isFile, isLog⟩
      have present := available nofun
      simp only [writeLogToFile, Program.exec_bind, exec_access, present, Option.bind_some]
      exact writeOpenLogFile_writes archive buf isFile isLog present
  | none =>
      rcases state.store.openPath_creates cfg.logName
        (rfl : (⟨true, false, true⟩ : OpenFlags).create = true) with ⟨file, opened, isFile, isLog, present, _⟩
      let started : LogFiles :=
        { state with store := (state.store.openPath cfg.logName ⟨true, false, true⟩).2 }
      have isStarted : started.store.openFile state.store.opened = some file := isFile
      rcases writeOpenLogFile_writes archive buf isStarted isLog present with ⟨logFd, after, ran, writes⟩
      simp only [writeLogToFile, Program.exec_bind, exec_openFile (named rfl), Option.bind_some, opened]
      exact ⟨logFd, after, ran, writes.written, writes.logOpen, writes.present⟩

/-- Where the log file is open and its name is gone, nothing is written. -/
theorem writeLogToFile_loses {fd : Nat} (removed : state.store.entry cfg.logName = none) :
    (writeLogToFile cfg (some fd) buf).exec (files archive) state =
      some (none, { state with store := state.store.close fd }) := by
  simp only [writeLogToFile, Program.exec_bind, exec_access, removed, Option.bind_some]
  rfl

/-- Without a name, as after `MyLogDeinit`, no file can be opened. -/
theorem writeLogToFile_unnamed (unnamed : cfg.logName = []) :
    (writeLogToFile cfg none buf).exec (files archive) state = some (none, state) := by
  simp only [writeLogToFile, unnamed, Program.exec_bind, exec_openFile_nil, Option.bind_some]
  rfl

end LogFile

/-! ## What `WriteLogToCache` does -/

/-- The bytes that a call copies into the cache. -/
def copied : Option (List UInt8) -> Nat -> List UInt8
  | some buf, writeLen => strncpy buf writeLen
  | none, _ => []

namespace LogCache

variable {cache next : LogCache}

/-- The cache after some bytes were added. -/
structure Filled (cache next : LogCache) (added : List UInt8) : Prop where
  text : next.text = cache.text ++ added
  offset : next.offset = cache.offset + added.length
  lastTime : next.lastTime = cache.lastTime
  size : next.bytes.length = logCacheSize

theorem append_filled (size : cache.bytes.length = logCacheSize) (buf : List UInt8) {writeLen : Nat}
    (room : cache.offset + writeLen ≤ logCacheSize) :
    Exists fun next => cache.append buf writeLen = some next ∧
      Filled cache next (strncpy buf writeLen) := by
  refine ⟨_, if_pos room, ?_, ?_, rfl, ?_⟩
  · have front : (cache.bytes.take cache.offset ++ strncpy buf writeLen).length =
        cache.offset + writeLen := by
      rw [List.length_append, strncpy_length, List.length_take, size]
      omega
    simp only [text]
    exact List.take_left' front
  · exact congrArg (cache.offset + ·) (strncpy_length buf writeLen).symm
  · simp only [List.length_append, strncpy_length, List.length_take, List.length_drop, size]
    omega

theorem fill_filled (size : cache.bytes.length = logCacheSize) (buf : Option (List UInt8))
    {writeLen : Nat} (room : cache.offset + (copied buf writeLen).length ≤ logCacheSize) :
    Exists fun next => cache.fill buf writeLen = some next ∧
      Filled cache next (copied buf writeLen) := by
  have nothing : Filled cache cache [] := ⟨(List.append_nil _).symm, rfl, rfl, size⟩
  cases buf with
  | none => exact ⟨cache, rfl, nothing⟩
  | some buf =>
      by_cases isZero : writeLen = 0
      · subst isZero
        exact ⟨cache, rfl, nothing⟩
      · simp only [fill, if_pos isZero, copied]
        rw [copied, strncpy_length] at room
        exact append_filled size buf room

theorem fill_none {buf : Option (List UInt8)} {writeLen : Nat}
    (noRoom : logCacheSize < cache.offset + (copied buf writeLen).length)
    (low : cache.offset ≤ logCacheSize) : cache.fill buf writeLen = none := by
  cases buf with
  | none => exact absurd noRoom (Nat.not_lt.mpr low)
  | some buf =>
      rw [copied, strncpy_length] at noRoom
      have nonzero : writeLen ≠ 0 := by omega
      simp only [fill, if_pos nonzero, append, if_neg (Nat.not_le.mpr noRoom)]

theorem clamp_bytes (cur : UInt64) : (cache.clamp cur).bytes = cache.bytes := by
  unfold clamp
  split <;> rfl

theorem clamp_offset (cur : UInt64) : (cache.clamp cur).offset = cache.offset := by
  unfold clamp
  split <;> rfl

theorem clamp_text (cur : UInt64) : (cache.clamp cur).text = cache.text := by
  unfold text
  rw [clamp_bytes, clamp_offset]

end LogCache

/-- The static variables of the logger, with the files. -/
structure LogState where
  cfg : LogCfgInfo
  isInit : Bool
  logFd : Option Nat
  cache : LogCache
  files : LogFiles

namespace LogState

variable (archive : List UInt8 -> Option (List UInt8) -> List UInt8)

/-- A call of `WriteLogToCache`. -/
def writeToCache (state : LogState) (buf : Option (List UInt8)) (writeLen : Nat) (cur : UInt64) :
    Option LogState := do
  let program <- writeLogToCache state.cfg state.logFd state.cache buf writeLen cur
  let done <- program.exec (Logger.files archive) state.files
  return { state with logFd := done.1.1, cache := done.1.2, files := done.2 }

/-- A call at this clock reading that adds so many bytes flushes the cache. -/
def flushes (state : LogState) (added : Nat) (cur : UInt64) : Bool :=
  (state.cache.clamp cur).flushDue (state.cache.offset + added) cur

/-- A flush reaches the log file. -/
def writable (state : LogState) : Bool :=
  match state.logFd with
  | some _ => (state.files.store.entry state.cfg.logName).isSome
  | none => decide (state.cfg.logName ≠ [])

/-- What holds between two calls of `WriteLogToCache`. -/
structure Sound (state : LogState) : Prop where
  size : state.cache.bytes.length = logCacheSize
  low : state.cache.offset ≤ logFlushSizeMax
  logOpen : LogOpen state.cfg state.files.store state.logFd

/-- The ways through `WriteLogToCache`. -/
inductive Cached (state : LogState) (added : List UInt8) (cur : UInt64) (next : LogState) : Prop where
  | kept (quiet : state.flushes added.length cur = false)
      (text : next.cache.text = state.cache.text ++ added)
      (offset : next.cache.offset = state.cache.offset + added.length)
      (files : next.files = state.files) (logFd : next.logFd = state.logFd)
  | wrote (due : state.flushes added.length cur = true) (reached : state.writable = true)
      (offset : next.cache.offset = 0)
      (writes : Writes state.cfg (state.cache.text ++ added) state.files next.files next.logFd)
  | lost (due : state.flushes added.length cur = true) (missed : state.writable = false)
      (offset : next.cache.offset = 0) (written : next.files.written = state.files.written)
      (entries : next.files.store.entry = state.files.store.entry) (closed : next.logFd = none)

variable {state : LogState}

theorem writeToCache_cached (sound : Sound state) (buf : Option (List UInt8)) {writeLen : Nat}
    (cur : UInt64) (room : state.cache.offset + (copied buf writeLen).length ≤ logCacheSize) :
    Exists fun next => state.writeToCache archive buf writeLen cur = some next ∧
      Cached state (copied buf writeLen) cur next ∧ Sound next ∧ next.cfg = state.cfg ∧
      next.isInit = state.isInit := by
  rcases state with ⟨cfg, isInit, logFd, cache, files⟩
  rcases sound with ⟨size, low, logOpen⟩
  have clampSize := (congrArg List.length (cache.clamp_bytes cur)).trans size
  have clampRoom := (cache.clamp_offset cur).symm ▸ room
  rcases LogCache.fill_filled clampSize buf clampRoom with ⟨held, isHeld, filled⟩
  have text : held.text = cache.text ++ copied buf writeLen :=
    filled.text.trans (congrArg (· ++ _) (cache.clamp_text cur))
  have offset : held.offset = cache.offset + (copied buf writeLen).length :=
    filled.offset.trans (congrArg (· + _) (cache.clamp_offset cur))
  have same : held.flushDue held.offset cur =
      (cache.clamp cur).flushDue (cache.offset + (copied buf writeLen).length) cur := by
    rw [LogCache.flushDue, LogCache.flushDue, filled.lastTime, offset]
  simp only [writeToCache, writeLogToCache_eq, isHeld, Option.bind_eq_bind, Option.bind_some,
    Option.pure_def, Program.exec_ite, Program.exec_bind, Program.exec_pure, same]
  cases due : (cache.clamp cur).flushDue (cache.offset + (copied buf writeLen).length) cur with
  | false =>
      refine ⟨_, rfl, .kept due text offset rfl rfl, ⟨filled.size, ?_, logOpen⟩, rfl, rfl⟩
      rw [LogCache.flushDue, Bool.or_eq_false_iff] at due
      exact offset ▸ Nat.not_lt.mp (of_decide_eq_false due.1)
  | true =>
      rw [text]
      have start : Nat.le 0 logFlushSizeMax := Nat.zero_le _
      cases reached : (⟨cfg, isInit, logFd, cache, files⟩ : LogState).writable with
      | true =>
          have named : logFd = none -> cfg.logName ≠ [] := by
            rintro rfl
            exact of_decide_eq_true reached
          have available : logFd ≠ none -> (files.store.entry cfg.logName).isSome := by
            cases logFd with
            | some fd => exact fun _ => reached
            | none => exact fun isOpen => absurd rfl isOpen
          rcases writeLogToFile_writes archive (cache.text ++ copied buf writeLen) named logOpen
            available with ⟨logFd', after, ran, writes⟩
          simp only [ran]
          exact ⟨_, rfl, .wrote due reached rfl writes, ⟨filled.size, start, writes.logOpen⟩, rfl, rfl⟩
      | false =>
          cases logFd with
          | some fd =>
              have removed : files.store.entry cfg.logName = none :=
                Option.not_isSome_iff_eq_none.mp (Bool.eq_false_iff.mp reached)
              simp only [writeLogToFile_loses archive _ removed]
              exact ⟨_, rfl, .lost due reached rfl rfl rfl rfl, ⟨filled.size, start, nofun⟩, rfl, rfl⟩
          | none =>
              have unnamed : cfg.logName = [] := not_not.mp (of_decide_eq_false reached)
              simp only [writeLogToFile_unnamed archive _ unnamed]
              exact ⟨_, rfl, .lost due reached rfl rfl rfl rfl, ⟨filled.size, start, nofun⟩, rfl, rfl⟩

/-- A record that does not fit into the cache. -/
theorem writeToCache_none (sound : Sound state) (buf : Option (List UInt8)) {writeLen : Nat}
    (cur : UInt64) (noRoom : logCacheSize < state.cache.offset + (copied buf writeLen).length) :
    state.writeToCache archive buf writeLen cur = none := by
  have isLow : (state.cache.clamp cur).offset ≤ logCacheSize :=
    (state.cache.clamp_offset cur).symm ▸ Nat.le_trans sound.low (by decide)
  have stuck := LogCache.fill_none ((state.cache.clamp_offset cur).symm ▸ noRoom) isLow
  simp only [writeToCache, writeLogToCache_eq, stuck, Option.bind_eq_bind, Option.bind_none]

end LogState

end Logger
end V2x
