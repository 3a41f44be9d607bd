import V2x.Foundations.TransitionSystem
import V2x.Logger.Messages
import V2x.Logger.Stream

namespace V2x
namespace Logger

open Foundations

/-!
# Sessions of the logger

A session lasts from `MyLogInit` to `MyLogDeinit`.  `MyLogDeinit` clears
`g_logCache` and closes the log file, but it neither flushes the cache nor resets
`offset`, which is static in `WriteLogToCache`.  What waits in the cache at that
moment is lost, and as many zero bytes come first in the next session.
-/

/-! ## `MyLogInit` and `MyLogDeinit` -/

/-- What `MyLogInit` finds: the result of `MyLogGetProcessName`, the bytes of the local
buffer in `MyLogLoadFileCfg` before it is filled, and whether `pthread_create` succeeds. -/
structure InitInput where
  processName : Option (List UInt8)
  buf : List UInt8
  created : Bool

/-- What `MyLogInit` returns, what it sets `g_isInit` and `g_logCfg` to, and whether it has
started `MyLogCycleThread`. -/
structure InitEnd where
  ret : Int32
  isInit : Bool
  cfg : LogCfgInfo
  archiver : Bool
deriving DecidableEq, Repr

section Init

variable (parse : List UInt8 -> Option CJson)

/-- `none` is undefined behaviour while the file is parsed. -/
def myLogLoadFileCfg (buf : List UInt8) (cfg : LogCfgInfo) (processName : List UInt8) :
    LogProgram (Option (Int32 × LogCfgInfo)) := do
  let loaded <- myLogReadFileCfgBuf 1024
  if loaded.1 ≠ 0 then return some (-1, cfg)
  else
    return (myLogParseJsonFile cfg (parse (loaded.2 ++ buf.drop loaded.2.length)) processName).map
      (fun parsed => (if parsed.1 ≠ 0 then -1 else 0, parsed.2))

def myLogCfgLoad (buf : List UInt8) (cfg : LogCfgInfo) (processName : List UInt8) :
    LogProgram (Option (Int32 × LogCfgInfo)) := do
  let loaded <- myLogLoadFileCfg parse buf cfg processName
  match loaded with
  | none => return none
  | some (ret, cfg) => do
      let cfg := if ret ≠ 0 then myLogLoadDefaultCfg cfg else cfg
      let valid <- myLogCheckLogPathIsValid cfg
      return some (if valid ≠ 0 then -1 else 0, cfg)

/-- The loop of `MyLogInit`.  Where `MyLogCfgLoad` fails, `ret` is still the 0 of
`MyLogGetProcessName`. -/
def myLogConfigure (input : InitInput) : LogProgram (Option InitEnd) :=
  match input.processName with
  | none => return some ⟨-1, false, .cleared, false⟩
  | some processName => do
      let loaded <- myLogCfgLoad parse input.buf .cleared processName
      match loaded with
      | none => return none
      | some (ret, cfg) =>
          if ret ≠ 0 then return some ⟨0, false, cfg, false⟩
          else
            return (myLogInitEnd cfg processName input.created).map (fun ended =>
              ⟨0, true, ended.1, ended.2⟩)

end Init

namespace LogState

variable (archive : List UInt8 -> Option (List UInt8) -> List UInt8)
  (parse : List UInt8 -> Option CJson)

/-- `MyLogInit` before it writes its own two lines.  The static variables of
`WriteLogToCache` are out of its reach. -/
def myLogInit (state : LogState) (input : InitInput) : Option (Int32 × LogState) :=
  if state.isInit then some (0, state)
  else do
    let done <- (myLogConfigure parse input).exec (Logger.files archive)
      { state.files with sem := 0 }
    let ended <- done.1
    return (ended.ret, { state with
      cfg := ended.cfg
      isInit := ended.isInit
      cache := { state.cache with bytes := List.replicate logCacheSize 0 }
      files := done.2 })

def myLogDeinit (state : LogState) : LogState :=
  { state with
    isInit := false
    logFd := none
    cfg := .cleared
    cache := { state.cache with bytes := List.replicate logCacheSize 0 }
    files :=
      match state.logFd with
      | none => state.files
      | some fd => { state.files with store := state.files.store.close fd } }

/-- The static variables before the first call. -/
def statics (store : FileStore (List UInt8)) : LogState where
  cfg := .cleared
  isInit := false
  logFd := none
  cache := .initial
  files := ⟨store, 0, []⟩

end LogState

/-- The messages of `MyLogInitSuccessLog`. -/
def myLogInitSuccessLog (cfg : LogCfgInfo) (processName : List UInt8) : List (List UInt8) :=
  [processName ++ ascii " log start\n",
    ascii "logName: " ++ cfg.logName ++ ascii ", level: " ++ decimal 1 cfg.level.toNat ++
      ascii ", size: " ++ decimal 1 cfg.size.toNat ++ ascii ", maxFileNum: " ++
      decimal 1 cfg.maxFileNum.toNat ++ ascii ", output: " ++
      signedDecimal 1 cfg.output.toInt32.toInt ++ ascii "\n"]

/-! ## The machine -/

/-- A session that is over: the bytes of the accepted records, and the bytes passed to
`write` on the log file. -/
structure SessionResult where
  accepted : List UInt8
  written : List UInt8
deriving DecidableEq, Repr

/-- The logger, the messages that `MyLogInit` has still to write, and the history. -/
structure SessionState where
  log : LogState
  pending : List (List UInt8)
  accepted : List UInt8
  completed : List SessionResult
  undefined : Bool

inductive SessionLabel where
  | init (input : InitInput)
  | successLog (call : PrintCall) (cur : UInt64)
  | print (call : PrintCall) (cur : UInt64)
  | tick (cur : UInt64)
  | deinit

section Machine

variable (archive : List UInt8 -> Option (List UInt8) -> List UInt8)
  (parse : List UInt8 -> Option CJson)

namespace SessionState

def start (store : FileStore (List UInt8)) : SessionState where
  log := .statics store
  pending := []
  accepted := []
  completed := []
  undefined := false

/-- A call of `MyPrintLog`. -/
def print (state : SessionState) (call : PrintCall) (cur : UInt64) : SessionState :=
  match myPrintLog state.log.cfg state.log.isInit call with
  | .dropped => state
  | .printed => state
  | .undefined => { state with undefined := true }
  | .cached buf len =>
      match state.log.writeToCache archive (some buf) len cur with
      | none => { state with undefined := true }
      | some log => { state with log := log, accepted := state.accepted ++ buf.take len }

/-- `MyLogInit` returns at once in a running session.  A new session must be one with file
output.  The history of `write` calls starts anew. -/
def init (state : SessionState) (input : InitInput) : Option SessionState :=
  (state.log.myLogInit archive parse input).bind (fun done =>
    if state.log.isInit then some state
    else if done.1 = 0 ∧ done.2.cfg.output = outputFileType then
      some { state with
        log := { done.2 with files := { done.2.files with written := [] } }
        pending := myLogInitSuccessLog done.2.cfg (input.processName.getD [])
        accepted := [] }
    else none)

def deinit (state : SessionState) : SessionState :=
  { state with
    log := state.log.myLogDeinit
    completed :=
      if state.log.isInit then
        state.completed ++ [⟨state.accepted, state.log.files.writtenTo state.log.cfg.logName⟩]
      else state.completed }

end SessionState

/-- The sessions follow each other, while the archiver ticks at any time.  After undefined
behaviour nothing is said any more. -/
def sessionStep (state : SessionState) (label : SessionLabel) : Option SessionState :=
  if state.undefined then some state
  else
    match label, state.pending with
    | .tick cur, _ =>
        (state.log.writeToCache archive none 0 cur).map (fun log => { state with log := log })
    | .successLog call cur, message :: pending =>
        if call.level = .infoLevel ∧ call.fileName.isSome ∧ call.message = .text message then
          some ({ state with pending := pending }.print archive call cur)
        else none
    | .init input, [] => state.init archive parse input
    | .print call cur, [] => some (state.print archive call cur)
    | .deinit, [] => some state.deinit
    | _, _ => none

def sessions : Machine SessionState SessionLabel where
  step := sessionStep archive parse

end Machine

/-! ## The condition -/

/-- The record fits into the cache, and it can be copied. -/
def printOk (state : SessionState) (call : PrintCall) : Prop :=
  match myPrintLog state.log.cfg state.log.isInit call with
  | .dropped => True
  | .printed => True
  | .undefined => False
  | .cached buf len =>
      state.log.cache.offset + len ≤ logCacheSize ∧ Storable (buf.take len)

instance (state : SessionState) (call : PrintCall) : Decidable (printOk state call) := by
  unfold printOk
  split <;> infer_instance

/-- Every record can be copied, and nothing waits in the cache when a session ends. -/
def sessionOk (state : SessionState) : SessionLabel -> Prop
  | .print call _ => printOk state call
  | .successLog call _ => printOk state call
  | .deinit => state.log.isInit = true -> state.log.cache.offset = 0
  | .init _ => True
  | .tick _ => True

instance (state : SessionState) : (label : SessionLabel) -> Decidable (sessionOk state label)
  | .print call _ => inferInstanceAs (Decidable (printOk state call))
  | .successLog call _ => inferInstanceAs (Decidable (printOk state call))
  | .deinit => inferInstanceAs (Decidable (_ -> _))
  | .init _ => inferInstanceAs (Decidable True)
  | .tick _ => inferInstanceAs (Decidable True)

/-! ## The state of a session -/

namespace LogState

/-- The bytes that were passed to `write` on the log file, and then the cached bytes. -/
def sessionStream (state : LogState) : List UInt8 :=
  state.files.writtenTo state.cfg.logName ++ state.cache.text

/-- A log file that is open has its name. -/
structure Live (state : LogState) : Prop where
  named : state.cfg.logName ≠ []
  present : state.logFd ≠ none -> (state.files.store.entry state.cfg.logName).isSome

theorem Live.writable {state : LogState} (live : state.Live) : state.writable = true := by
  rcases state with ⟨cfg, isInit, logFd, cache, files⟩
  cases logFd with
  | none => exact decide_eq_true live.named
  | some fd => exact live.present nofun

theorem writtenTo_append (files : LogFiles) (path buf : List UInt8) {after : LogFiles}
    (written : after.written = files.written ++ [(path, buf)]) :
    after.writtenTo path = files.writtenTo path ++ buf := by
  rw [LogFiles.writtenTo, LogFiles.writtenTo, written, List.filter_append, List.flatMap_append]
  simp only [decide_true, List.filter_cons_of_pos, List.filter_nil, List.flatMap_singleton]

/-- In a session a call appends what it copies. -/
theorem Cached.session {state next : LogState} {added : List UInt8} {cur : UInt64}
    (cached : Cached state added cur next) (live : state.Live) (sameCfg : next.cfg = state.cfg) :
    next.Live ∧ next.sessionStream = state.sessionStream ++ added := by
  unfold sessionStream
  cases cached with
  | kept quiet text offset files logFd =>
      refine ⟨⟨sameCfg ▸ live.named, fun isOpen => ?_⟩, ?_⟩
      · rw [files, sameCfg]
        exact live.present (logFd ▸ isOpen)
      · rw [files, text, sameCfg, List.append_assoc]
  | wrote due reached offset writes =>
      refine ⟨⟨sameCfg ▸ live.named, fun isOpen => ?_⟩, ?_⟩
      · rw [sameCfg]
        exact writes.present isOpen
      · rw [sameCfg, writtenTo_append _ _ _ writes.written, text_of_offset_zero offset,
          List.append_nil, List.append_assoc]
  | lost due missed => cases live.writable.symm.trans missed

end LogState

/-- What holds in every state. -/
structure Steady (log : LogState) : Prop where
  sound : log.Sound
  live : log.isInit = true -> log.Live
  closed : log.isInit = false -> log.logFd = none ∧ log.cfg = .cleared

/-- So far no session has lost or mixed anything. -/
structure Good (state : SessionState) : Prop where
  defined : state.undefined = false
  past : forall session, session ∈ state.completed -> session.written = session.accepted
  session : state.log.isInit = true -> state.log.sessionStream = state.accepted
  between : state.log.isInit = false -> state.log.cache.offset = 0

/-- A session that is over was bad, or the running one will be. -/
def Doomed (state : SessionState) : Prop :=
  state.undefined = true ∨
  (Exists fun session => session ∈ state.completed ∧ session.written ≠ session.accepted) ∨
  (state.log.isInit = true ∧ state.log.sessionStream.length = state.accepted.length ∧
    state.log.sessionStream ≠ state.accepted)

theorem Good.not_doomed {state : SessionState} (good : Good state) : ¬ Doomed state := by
  rintro (undefined | ⟨session, member, differs⟩ | ⟨isInit, _, differs⟩)
  · cases good.defined.symm.trans undefined
  · exact differs (good.past session member)
  · exact differs (good.session isInit)

/-- The two ways a step can end, and how the condition tells them apart. -/
inductive Verdict (state next : SessionState) (ok : Prop) : Prop where
  | keeps (good : Good state -> Good next ∧ ok) (doomed : Doomed state -> Doomed next)
  | breaks (good : Good state -> Doomed next ∧ ¬ ok) (doomed : Doomed state -> Doomed next)

/-! ## The steps -/

theorem verdict_refl {state : SessionState} {ok : Prop} (holds : ok) : Verdict state state ok :=
  .keeps (fun good => ⟨good, holds⟩) id

theorem verdict_undefined {state next : SessionState} {ok : Prop} (undefined : next.undefined = true)
    (fails : ¬ ok) : Verdict state next ok :=
  .breaks (fun _ => ⟨Or.inl undefined, fails⟩) (fun _ => Or.inl undefined)

/-- In a session, as many bytes are accepted as are added to the stream. -/
theorem verdict_append {state next : SessionState} {added record : List UInt8} {ok : Prop}
    (isInit : state.log.isInit = true) (stillInit : next.log.isInit = true)
    (undefined : next.undefined = state.undefined) (completed : next.completed = state.completed)
    (stream : next.log.sessionStream = state.log.sessionStream ++ added)
    (accepted : next.accepted = state.accepted ++ record) (sameLength : added.length = record.length)
    (decides : added = record <-> ok) : Verdict state next ok := by
  have doomed : Doomed state -> Doomed next := by
    rintro (isUndefined | ⟨session, member, differs⟩ | ⟨_, lengths, differs⟩)
    · exact Or.inl (undefined.trans isUndefined)
    · exact Or.inr (Or.inl ⟨session, completed.symm ▸ member, differs⟩)
    · refine Or.inr (Or.inr ⟨stillInit, ?_, fun same => differs ?_⟩)
      · rw [stream, accepted, List.length_append, List.length_append, lengths, sameLength]
      · rw [stream, accepted] at same
        exact List.append_inj_left' same sameLength
  by_cases same : added = record
  · refine .keeps (fun good => ⟨⟨undefined.trans good.defined, ?_, fun _ => ?_, fun notInit => ?_⟩,
      decides.mp same⟩) doomed
    · exact completed ▸ good.past
    · rw [stream, accepted, good.session isInit, same]
    · cases stillInit.symm.trans notInit
  · refine .breaks (fun good => ⟨Or.inr (Or.inr ⟨stillInit, ?_, ?_⟩), mt decides.mpr same⟩) doomed
    · rw [stream, accepted, good.session isInit, List.length_append, List.length_append, sameLength]
    · rw [stream, accepted, good.session isInit, Ne, List.append_right_inj]
      exact same

variable {archive : List UInt8 -> Option (List UInt8) -> List UInt8}
  {parse : List UInt8 -> Option CJson} {state next : SessionState}

/-- A call of `WriteLogToCache` in a session. -/
theorem steady_cached {log after : LogState} {added : List UInt8} {cur : UInt64} (steady : Steady log)
    (isInit : log.isInit = true) (cached : log.Cached added cur after) (sound : after.Sound)
    (sameCfg : after.cfg = log.cfg) (sameInit : after.isInit = log.isInit) :
    Steady after ∧ after.sessionStream = log.sessionStream ++ added := by
  have ⟨live, stream⟩ := cached.session (steady.live isInit) sameCfg
  refine ⟨⟨sound, fun _ => live, fun notInit => ?_⟩, stream⟩
  cases (sameInit.trans isInit).symm.trans notInit

variable (archive) (state) in
theorem print_verdict (steady : Steady state.log) (call : PrintCall) (cur : UInt64) :
    Steady (state.print archive call cur).log ∧
      Verdict state (state.print archive call cur) (printOk state call) := by
  unfold SessionState.print printOk
  cases result : myPrintLog state.log.cfg state.log.isInit call with
  | dropped => exact ⟨steady, verdict_refl trivial⟩
  | printed => exact ⟨steady, verdict_refl trivial⟩
  | undefined => exact ⟨steady, verdict_undefined rfl id⟩
  | cached buf len =>
      have ⟨_, _, reaches, _⟩ := myPrintLog_cached result
      have isInit := reaches.initialised
      have within := cached_length result
      have length : (copied (some buf) len).length = len := strncpy_length buf len
      by_cases room : state.log.cache.offset + len ≤ logCacheSize
      · rcases LogState.writeToCache_cached archive steady.sound (some buf) cur
          (length.symm ▸ room) with ⟨log, stepped, cached, sound, sameCfg, sameInit⟩
        simp only [stepped]
        have ⟨after, stream⟩ := steady_cached steady isInit cached sound sameCfg sameInit
        refine ⟨after, verdict_append isInit (sameInit.trans isInit) rfl rfl stream rfl ?_ ?_⟩
        · rw [length, List.length_take_of_le within]
        · exact (strncpy_take_eq_iff within).trans (and_iff_right room).symm
      · have stuck := LogState.writeToCache_none archive steady.sound (some buf) cur
          (length.symm ▸ Nat.not_le.mp room)
        simp only [stuck]
        exact ⟨steady, verdict_undefined rfl (fun holds => room holds.1)⟩

/-- Between two sessions only the cached bytes matter. -/
theorem verdict_idle {ok : Prop} (holds : ok) (notInit : state.log.isInit = false)
    (stillNot : next.log.isInit = false) (undefined : next.undefined = state.undefined)
    (completed : next.completed = state.completed)
    (offset : state.log.cache.offset = 0 -> next.log.cache.offset = 0) : Verdict state next ok := by
  refine .keeps (fun good => ⟨⟨undefined.trans good.defined, completed ▸ good.past, ?_, ?_⟩, holds⟩) ?_
  · intro isInit
    cases stillNot.symm.trans isInit
  · exact fun _ => offset (good.between notInit)
  · rintro (isUndefined | ⟨session, member, differs⟩ | ⟨isInit, _⟩)
    · exact Or.inl (undefined.trans isUndefined)
    · exact Or.inr (Or.inl ⟨session, completed.symm ▸ member, differs⟩)
    · cases notInit.symm.trans isInit

theorem tick_verdict (steady : Steady state.log) {cur : UInt64} {log : LogState}
    (stepped : state.log.writeToCache archive none 0 cur = some log) :
    Steady log ∧ Verdict state { state with log := log } True := by
  have room : state.log.cache.offset + (copied none 0).length ≤ logCacheSize :=
    Nat.le_trans steady.sound.low (by decide)
  rcases LogState.writeToCache_cached archive steady.sound none cur room with
    ⟨after, taken, cached, sound, sameCfg, sameInit⟩
  cases stepped.symm.trans taken
  cases isInit : state.log.isInit with
  | true =>
      have ⟨after, stream⟩ := steady_cached steady isInit cached sound sameCfg sameInit
      exact ⟨after, verdict_append isInit (sameInit.trans isInit) rfl rfl stream
        (List.append_nil _).symm rfl (iff_of_true rfl trivial)⟩
  | false =>
      have notInit := sameInit.trans isInit
      have ⟨noFd, isCleared⟩ := steady.closed isInit
      have closed : log.logFd = none ∧ (state.log.cache.offset = 0 -> log.cache.offset = 0) := by
        cases cached with
        | kept quiet text offset files logFd => exact ⟨logFd.trans noFd, offset.trans⟩
        | wrote due reached =>
            rw [LogState.writable, noFd, isCleared] at reached
            cases reached
        | lost due missed offset written entries closed => exact ⟨closed, fun _ => offset⟩
      refine ⟨⟨sound, fun isInit => ?_, fun _ => ⟨closed.1, sameCfg.trans isCleared⟩⟩,
        verdict_idle trivial isInit notInit rfl rfl closed.2⟩
      cases notInit.symm.trans isInit

theorem myLogDeinit_steady (log : LogState) (sound : log.Sound) : Steady log.myLogDeinit where
  sound := ⟨List.length_replicate, sound.low, nofun⟩
  live := nofun
  closed := fun _ => ⟨rfl, rfl⟩

theorem deinit_verdict (steady : Steady state.log) :
    Verdict state state.deinit (state.log.isInit = true -> state.log.cache.offset = 0) := by
  cases isInit : state.log.isInit with
  | false =>
      have completed : state.deinit.completed = state.completed := by
        simp only [SessionState.deinit, isInit, Bool.false_eq_true, if_false]
      exact verdict_idle nofun isInit rfl rfl completed id
  | true =>
      let session : SessionResult :=
        ⟨state.accepted, state.log.files.writtenTo state.log.cfg.logName⟩
      have completed : state.deinit.completed = state.completed ++ [session] := by
        simp only [SessionState.deinit, isInit, if_true]
        rfl
      have isLast : session ∈ state.deinit.completed :=
        completed ▸ List.mem_append_right _ (List.mem_singleton.mpr rfl)
      have length := steady.sound.text_length
      have doomed : Doomed state -> Doomed state.deinit := by
        rintro (isUndefined | ⟨old, member, differs⟩ | ⟨_, lengths, differs⟩)
        · exact Or.inl isUndefined
        · exact Or.inr (Or.inl ⟨old, completed ▸ List.mem_append_left _ member, differs⟩)
        · refine Or.inr (Or.inl ⟨session, isLast, fun same => differs ?_⟩)
          change state.log.files.writtenTo _ = state.accepted at same
          unfold LogState.sessionStream at lengths ⊢
          rw [same, List.length_append] at lengths
          have empty : state.log.cache.text = [] := List.length_eq_zero_iff.mp (by omega)
          rw [same, empty, List.append_nil]
      by_cases isZero : state.log.cache.offset = 0
      · refine .keeps (fun good => ⟨⟨good.defined, ?_, nofun, fun _ => isZero⟩, fun _ => isZero⟩) doomed
        intro old member
        rw [completed] at member
        rcases List.mem_append.mp member with before | isNew
        · exact good.past old before
        · rw [List.mem_singleton.mp isNew]
          have stream := good.session isInit
          rw [LogState.sessionStream, LogState.text_of_offset_zero isZero, List.append_nil] at stream
          exact stream
      · refine .breaks (fun good => ⟨?_, fun holds => isZero (holds rfl)⟩) doomed
        refine Or.inr (Or.inl ⟨session, isLast, fun same => isZero ?_⟩)
        change state.log.files.writtenTo _ = state.accepted at same
        have lengths := congrArg List.length (good.session isInit)
        rw [LogState.sessionStream, same, List.length_append, length] at lengths
        omega

/-- The messages that `MyLogInit` has still to write play no part. -/
theorem Verdict.of_pending {pending : List (List UInt8)} {ok : Prop}
    (verdict : Verdict { state with pending := pending } next ok) : Verdict state next ok := by
  have same : Good state -> Good { state with pending := pending } :=
    fun good => ⟨good.defined, good.past, good.session, good.between⟩
  cases verdict with
  | keeps good doomed => exact .keeps (fun isGood => good (same isGood)) doomed
  | breaks good doomed => exact .breaks (fun isGood => good (same isGood)) doomed

/-! ## Starting a session -/

/-- The directory of the logs is there. -/
theorem exec_myLogCfgLoad {buf : List UInt8} {cfg : LogCfgInfo} {processName : List UInt8}
    {files after : LogFiles} {loaded : Int32 × LogCfgInfo}
    (ran : (myLogCfgLoad parse buf cfg processName).exec (Logger.files archive) files =
      some (some loaded, after)) : loaded.1 = 0 := by
  rcases (Program.exec_bind_iff _).mp ran with ⟨parsed, middle, _, rest⟩
  cases parsed with
  | none => cases rest
  | some result =>
      rcases (Program.exec_bind_iff _).mp rest with ⟨valid, last, checked, isLoaded⟩
      cases checked
      cases isLoaded
      rfl

/-- Where `MyLogInit` returns 0, the paths are set. -/
theorem myLogConfigure_named {input : InitInput} {ended : InitEnd} {files after : LogFiles}
    (ran : (myLogConfigure parse input).exec (Logger.files archive) files = some (some ended, after))
    (isZero : ended.ret = 0) : ended.isInit = true ∧ ended.cfg.logName ≠ [] := by
  unfold myLogConfigure at ran
  split at ran
  · cases ran
    exact absurd isZero (by decide)
  next processName =>
    rcases (Program.exec_bind_iff _).mp ran with ⟨loaded, middle, loads, rest⟩
    split at rest
    · cases rest
    next ret loadedCfg =>
      rw [if_neg (not_not.mpr (exec_myLogCfgLoad loads))] at rest
      simp only [Program.exec_pure, Option.some.injEq, Prod.mk.injEq, Option.map_eq_some_iff] at rest
      rcases rest with ⟨⟨last, finished, rfl⟩, _⟩
      rcases Option.map_eq_some_iff.mp finished with ⟨named, created, rfl⟩
      exact ⟨rfl, (myLogPathCreate_paths created).logName_ne_nil⟩

/-- A successful `MyLogInit` has names for its files and an empty `g_logCache`, with
`offset` as it was. -/
structure Started (log after : LogState) : Prop where
  isInit : after.isInit = true
  named : after.cfg.logName ≠ []
  logFd : after.logFd = log.logFd
  size : after.cache.bytes.length = logCacheSize
  offset : after.cache.offset = log.cache.offset

theorem myLogInit_started {log after : LogState} {input : InitInput} (notInit : log.isInit = false)
    (inited : log.myLogInit archive parse input = some (0, after)) : Started log after := by
  rw [LogState.myLogInit, notInit, if_neg Bool.false_ne_true] at inited
  rcases Option.bind_eq_some_iff.mp inited with ⟨⟨result, files⟩, ran, rest⟩
  rcases Option.bind_eq_some_iff.mp rest with ⟨ended, isResult, isAfter⟩
  cases isResult
  rcases Prod.mk.inj (Option.some.inj isAfter) with ⟨isZero, rfl⟩
  rcases myLogConfigure_named ran isZero with ⟨isInit, named⟩
  exact ⟨isInit, named, rfl, List.length_replicate, rfl⟩

theorem Started.steady {log after : LogState} (started : Started log after) (steady : Steady log)
    (notInit : log.isInit = false) : Steady after := by
  have noFd : after.logFd = none := started.logFd.trans (steady.closed notInit).1
  refine ⟨⟨started.size, started.offset ▸ steady.sound.low, ?_⟩, fun _ => ?_, fun isOver => ?_⟩
  · intro fd isOpen
    cases noFd.symm.trans isOpen
  · exact ⟨started.named, fun isOpen => absurd noFd isOpen⟩
  · cases started.isInit.symm.trans isOver

theorem init_verdict (steady : Steady state.log) {input : InitInput}
    (stepped : state.init archive parse input = some next) :
    Steady next.log ∧ Verdict state next True := by
  rcases Option.bind_eq_some_iff.mp stepped with ⟨done, inited, rest⟩
  cases isInit : state.log.isInit with
  | true =>
      rw [isInit, if_pos rfl] at rest
      cases rest
      exact ⟨steady, verdict_refl trivial⟩
  | false =>
      rw [isInit, if_neg Bool.false_ne_true] at rest
      split at rest
      next succeeded =>
        rcases done with ⟨ret, log⟩
        have isZero : ret = 0 := succeeded.1
        subst isZero
        have started := myLogInit_started isInit inited
        cases rest
        constructor
        · have after := started.steady steady isInit
          exact ⟨⟨after.sound.size, after.sound.low, after.sound.logOpen⟩,
            fun isInit => ⟨(after.live isInit).named, (after.live isInit).present⟩, after.closed⟩
        · refine .keeps (fun good => ⟨⟨good.defined, good.past, fun _ => ?_, ?_⟩, trivial⟩) ?_
          · exact LogState.text_of_offset_zero (started.offset.trans (good.between isInit))
          · exact fun notInit => nomatch started.isInit.symm.trans notInit
          · rintro (isUndefined | bad | ⟨running, _⟩)
            · exact Or.inl isUndefined
            · exact Or.inr (Or.inl bad)
            · cases isInit.symm.trans running
      · cases rest

/-! ## Runs -/

theorem sessionStep_verdict (steady : Steady state.log) {label : SessionLabel}
    (stepped : sessionStep archive parse state label = some next) :
    Steady next.log ∧ (state.undefined = false -> Verdict state next (sessionOk state label)) ∧
      (Doomed state -> Doomed next) := by
  unfold sessionStep at stepped
  split at stepped
  next undefined =>
    cases stepped
    refine ⟨steady, fun defined => ?_, id⟩
    cases defined.symm.trans undefined
  · have verdict : Steady next.log ∧ Verdict state next (sessionOk state label) := by
      split at stepped
      next cur pending =>
        rcases Option.map_eq_some_iff.mp stepped with ⟨log, taken, rfl⟩
        exact tick_verdict steady taken
      next call cur message pending isPending =>
        split at stepped
        · cases stepped
          have ⟨after, verdict⟩ := print_verdict archive { state with pending := pending } steady call cur
          exact ⟨after, verdict.of_pending⟩
        · cases stepped
      next input isPending => exact init_verdict steady stepped
      next call cur isPending =>
        cases stepped
        exact print_verdict archive state steady call cur
      next isPending =>
        cases stepped
        exact ⟨myLogDeinit_steady _ steady.sound, deinit_verdict steady⟩
      next => cases stepped
    refine ⟨verdict.1, fun _ => verdict.2, ?_⟩
    cases verdict.2 with
    | keeps _ doomed => exact doomed
    | breaks _ doomed => exact doomed

theorem Verdict.splits {ok : Prop} (verdict : Verdict state next ok) (good : Good state) :
    (ok ∧ Good next) ∨ (¬ ok ∧ Doomed next) := by
  cases verdict with
  | keeps isGood _ => exact Or.inl ⟨(isGood good).2, (isGood good).1⟩
  | breaks isGood _ => exact Or.inr ⟨(isGood good).2, (isGood good).1⟩

theorem tracked_start (store : FileStore (List UInt8)) :
    Steady (SessionState.start store).log ∧ Good (SessionState.start store) := by
  refine ⟨⟨⟨List.length_replicate, Nat.zero_le _, nofun⟩, nofun, fun _ => ⟨rfl, rfl⟩⟩, ?_⟩
  exact ⟨rfl, fun session member => absurd member List.not_mem_nil, nofun, fun _ => rfl⟩

/-- Where no session is running any more, the history alone says whether all went well. -/
theorem not_doomed_iff (ended : state.undefined = true ∨ state.log.isInit = false) :
    ¬ Doomed state <-> state.undefined = false ∧
      forall session, session ∈ state.completed -> session.written = session.accepted := by
  constructor
  · intro fine
    refine ⟨Bool.eq_false_iff.mpr (fun undefined => fine (Or.inl undefined)), ?_⟩
    intro session member
    by_contra differs
    exact fine (Or.inr (Or.inl ⟨session, member, differs⟩))
  · rintro ⟨defined, past⟩ (undefined | ⟨session, member, differs⟩ | ⟨running, _⟩)
    · cases defined.symm.trans undefined
    · exact differs (past session member)
    · rcases ended with undefined | notInit
      · cases defined.symm.trans undefined
      · cases notInit.symm.trans running

/-- Every session has written exactly the records it accepted if and only if every record
could be copied and each `MyLogDeinit` found the cache empty. -/
theorem sessions_complete_iff (store : FileStore (List UInt8)) {labels : List SessionLabel}
    {final : SessionState}
    (ran : (sessions archive parse).run (.start store) labels = some final)
    (ended : final.undefined = true ∨ final.log.isInit = false) :
    (final.undefined = false ∧
      forall session, session ∈ final.completed -> session.written = session.accepted) <->
    (sessions archive parse).AllSteps sessionOk (.start store) labels := by
  have settled := (sessions archive parse).not_doomed_iff_allSteps
    (fun state (good : Steady state.log ∧ Good state) (doomed : Steady state.log ∧ Doomed state) =>
      good.2.not_doomed doomed.2)
    (fun state label next good stepped => by
      have ⟨steady, verdict, _⟩ := sessionStep_verdict good.1 stepped
      exact ((verdict good.2.defined).splits good.2).imp
        (fun keeps => ⟨keeps.1, steady, keeps.2⟩) (fun breaks => ⟨breaks.1, steady, breaks.2⟩))
    (fun state label next doomed stepped => by
      have ⟨steady, _, stays⟩ := sessionStep_verdict doomed.1 stepped
      exact ⟨steady, stays doomed.2⟩)
    (tracked_start store) ran
  rw [← settled, not_and, not_doomed_iff ended]
  have steady : Steady final.log := (sessions archive parse).run_invariant
    (fun state label next steady stepped => (sessionStep_verdict steady stepped).1)
    (tracked_start store).1 ran
  exact ⟨fun complete _ => complete, fun complete => complete steady⟩

/-! ## Two sessions -/

/-- A configuration with file output for the process `app`. -/
def sampleCfgText : List UInt8 :=
  ascii "\x7b\"FilePath\":\"/l\",\"Process\":[\x7b\"ProcessName\":\"app\",\"Output\":0\x7d]\x7d"

def sampleParse (text : List UInt8) : Option CJson :=
  if text.takeWhile (fun byte => byte != 0) = sampleCfgText then
    some (.object [(ascii "FilePath", .string (ascii "/l")),
      (ascii "Process", .array [.object [(ascii "ProcessName", .string (ascii "app")),
        (ascii "Output", .number 0)]])])
  else none

def sampleStore : FileStore (List UInt8) :=
  FileStore.empty.create logCfgFileName sampleCfgText

def sampleInput : InitInput where
  processName := some (ascii "app")
  buf := List.replicate 1024 0
  created := true

def sampleCall (message : List UInt8) : PrintCall where
  fileName := some (ascii "my_log.c")
  line := 464
  level := .infoLevel
  message := .text message
  tm := ⟨2022, 3, 12, 15, 6, 12⟩
  millisecond := 0
  beyond := fun _ => 0

/-- `MyLogInit` with its two lines, at these clock readings. -/
def sampleStart (first second : UInt64) : List SessionLabel :=
  [.init sampleInput, .successLog (sampleCall (ascii "app log start\n")) first,
    .successLog (sampleCall
      (ascii "logName: /l/app.log, level: 15, size: 61440, maxFileNum: 2, output: 0\n")) second]

/-- Both lines of the session are flushed before its `MyLogDeinit`. -/
theorem sessions_complete_iff_oneSession :
    Exists fun final =>
      (sessions (fun _ _ => []) sampleParse).run (.start sampleStore)
        (sampleStart 10 20 ++ [.deinit]) = some final ∧
      final.completed.length = 1 ∧
      (final.undefined = false ∧
        forall session, session ∈ final.completed -> session.written = session.accepted) := by
  have reached : ((sessions (fun _ _ => []) sampleParse).run (.start sampleStore)
      (sampleStart 10 20 ++ [.deinit])).map (fun final =>
        (final.log.isInit, final.completed.length)) = some (false, 1) := by
    decide +kernel
  rcases Option.map_eq_some_iff.mp reached with ⟨final, ran, observed⟩
  have ⟨notInit, count⟩ := Prod.mk.inj observed
  exact ⟨final, ran, count,
    (sessions_complete_iff sampleStore ran (Or.inr notInit)).mpr (by decide +kernel)⟩

/-- The second line of the first session waits in the cache at its `MyLogDeinit`.  It is
lost, and the second session begins with zero bytes. -/
theorem sessions_lose_secondLine :
    Exists fun final =>
      (sessions (fun _ _ => []) sampleParse).run (.start sampleStore)
        (sampleStart 10 10 ++ [.deinit] ++ sampleStart 20 30 ++ [.deinit]) = some final ∧
      final.undefined = false ∧ final.log.isInit = false ∧
      final.completed.map (fun session =>
        (decide (session.written = session.accepted), session.written.head?)) =
          [(false, some 50), (false, some 0)] := by
  have reached : ((sessions (fun _ _ => []) sampleParse).run (.start sampleStore)
      (sampleStart 10 10 ++ [.deinit] ++ sampleStart 20 30 ++ [.deinit])).map (fun final =>
        (final.undefined, final.log.isInit, final.completed.map (fun session =>
          (decide (session.written = session.accepted), session.written.head?)))) =
      some (false, false, [(false, some 50), (false, some 0)]) := by
    decide +kernel
  rcases Option.map_eq_some_iff.mp reached with ⟨final, ran, observed⟩
  simp only [Prod.mk.injEq] at observed
  exact ⟨final, ran, observed⟩

end Logger
end V2x
