import V2x.Foundations.TransitionSystem
import V2x.Logger.Cache

namespace V2x
namespace Logger

open Foundations

/-!
# The stream of log bytes

The stream of the logger consists of the bytes passed to `write` and of the
bytes that wait in the cache.  A call of `WriteLogToCache` appends its record
to the stream, with one exception: a flush that finds the log file removed
while `g_logFd` is open closes the descriptor and returns.  The cache is
emptied all the same, so the bytes in it are lost.
-/

variable {archive : List UInt8 -> Option (List UInt8) -> List UInt8}

/-! ## One call -/

namespace LogState

variable {state next : LogState} {added : List UInt8} {cur : UInt64}

/-- The bytes of all `write` calls, and then the cached bytes. -/
def stream (state : LogState) : List UInt8 :=
  state.files.written.flatMap Prod.snd ++ state.cache.text

/-- The call flushes the cache and the flush does not reach a file. -/
def loses (state : LogState) (added : Nat) (cur : UInt64) : Bool :=
  state.flushes added cur && !state.writable

theorem text_of_offset_zero (isZero : state.cache.offset = 0) : state.cache.text = [] := by
  rw [LogCache.text, isZero, List.take_zero]

theorem Sound.text_length (sound : Sound state) : state.cache.text.length = state.cache.offset := by
  rw [LogCache.text, List.length_take, sound.size]
  exact Nat.min_eq_left (Nat.le_trans sound.low (by decide))

theorem Cached.appends (cached : Cached state added cur next)
    (keeps : state.loses added.length cur = false) : next.stream = state.stream ++ added := by
  cases cached with
  | kept quiet text offset files logFd =>
      rw [stream, stream, text, files, List.append_assoc]
  | wrote due reached offset writes =>
      rw [stream, stream, writes.written, text_of_offset_zero offset, List.flatMap_append,
        List.flatMap_singleton, List.append_nil, List.append_assoc]
  | lost due missed =>
      rw [loses, due, missed] at keeps
      cases keeps

theorem Cached.drops (cached : Cached state added cur next)
    (loses : state.loses added.length cur = true) : next.stream ++ state.cache.text = state.stream := by
  have ⟨due, missed⟩ := Bool.and_eq_true_iff.mp loses
  cases cached with
  | kept quiet => cases quiet.symm.trans due
  | wrote _ reached =>
      rw [reached] at missed
      cases missed
  | lost _ _ offset written =>
      rw [stream, stream, written, text_of_offset_zero offset, List.append_nil]

end LogState

/-! ## Calls, ticks and removals -/

/-- A record of at most `LOG_LINE_MAX - 1` bytes. -/
structure LogRecord where
  bytes : List UInt8
  positive : 0 < bytes.length
  short : bytes.length < logLineMax

/-- The logger, with the records it has accepted. -/
structure StreamState where
  log : LogState
  accepted : List UInt8

inductive StreamLabel where
  | record (record : LogRecord) (cur : UInt64)
  | tick (cur : UInt64)
  | remove

/-- Another process removes the log file. -/
def LogState.removeLog (state : LogState) : LogState :=
  { state with files := { state.files with
    store := (state.files.store.remove state.cfg.logName).2 } }

variable (archive) in
def streamStep (state : StreamState) : StreamLabel -> Option StreamState
  | .record record cur =>
      (state.log.writeToCache archive (some record.bytes) record.bytes.length cur).map
        (fun log => ⟨log, state.accepted ++ record.bytes⟩)
  | .tick cur =>
      (state.log.writeToCache archive none 0 cur).map (fun log => { state with log := log })
  | .remove => some { state with log := state.log.removeLog }

variable (archive) in
def streaming : Machine StreamState StreamLabel where
  step := streamStep archive

/-- The logger after its start-up, with whatever files there are. -/
def LogState.startUp (cfg : LogCfgInfo) (store : FileStore (List UInt8)) : LogState where
  cfg := cfg
  isInit := true
  logFd := none
  cache := .initial
  files := ⟨store, 0, []⟩

def StreamState.startUp (cfg : LogCfgInfo) (store : FileStore (List UInt8)) : StreamState where
  log := .startUp cfg store
  accepted := []

/-- The log file is open and its name is gone. -/
def LogState.logRemoved (state : LogState) : Bool :=
  state.logFd.isSome && (state.files.store.entry state.cfg.logName).isNone

/-- The record can be copied, and no flush of a non-empty cache finds the log file
removed. -/
def keepsStream (state : StreamState) : StreamLabel -> Prop
  | .record record cur =>
      Storable record.bytes ∧
      ¬ (state.log.flushes record.bytes.length cur = true ∧ state.log.logRemoved = true)
  | .tick cur =>
      ¬ (state.log.flushes 0 cur = true ∧ state.log.logRemoved = true ∧ 0 < state.log.cache.offset)
  | .remove => True

instance (state : StreamState) : (label : StreamLabel) -> Decidable (keepsStream state label)
  | .record record _ => inferInstanceAs (Decidable (Storable record.bytes ∧ ¬ (_ ∧ _)))
  | .tick _ => inferInstanceAs (Decidable (¬ (_ ∧ _ ∧ _)))
  | .remove => inferInstanceAs (Decidable True)

/-! ## What a step does to the stream -/

/-- A call appends as many bytes to the stream as it was given, or it loses bytes. -/
inductive StreamEffect (state next : LogState) (record : List UInt8) (keeps : Prop) : Prop where
  | appends (added : List UInt8) (sameLength : added.length = record.length)
      (stream : next.stream = state.stream ++ added) (decides : added = record <-> keeps)
  | loses (shorter : next.stream.length < state.stream.length + record.length) (fails : ¬ keeps)

theorem writable_eq_not_logRemoved {state : LogState} (named : state.cfg.logName ≠ []) :
    state.writable = !state.logRemoved := by
  rcases state with ⟨cfg, isInit, logFd, cache, files⟩
  cases logFd with
  | none => exact decide_eq_true named
  | some fd =>
      simp only [LogState.writable, LogState.logRemoved, Option.isSome_some, Bool.true_and]
      cases files.store.entry cfg.logName <;> rfl

theorem cached_effect {state next : LogState} {added record : List UInt8} {cur : UInt64}
    (sound : state.Sound) (named : state.cfg.logName ≠ []) (sameLength : added.length = record.length)
    (cached : state.Cached added cur next) :
    StreamEffect state next record (added = record ∧
      ¬ (state.flushes record.length cur = true ∧ state.logRemoved = true ∧
        0 < state.cache.offset + record.length)) := by
  have loses : state.loses added.length cur =
      (state.flushes record.length cur && state.logRemoved) := by
    rw [LogState.loses, writable_eq_not_logRemoved named, Bool.not_not, sameLength]
  cases isLost : state.flushes record.length cur && state.logRemoved with
  | false =>
      refine .appends added sameLength (cached.appends (loses.trans isLost)) ?_
      refine ⟨fun same => ⟨same, fun lost => ?_⟩, And.left⟩
      rw [lost.1, lost.2.1] at isLost
      cases isLost
  | true =>
      have dropped := cached.drops (loses.trans isLost)
      by_cases nothing : state.cache.offset + record.length = 0
      · have empty : state.cache.text = [] :=
          LogState.text_of_offset_zero (Nat.eq_zero_of_add_eq_zero_right nothing)
        have noRecord : record = [] := List.length_eq_zero_iff.mp (Nat.eq_zero_of_add_eq_zero_left nothing)
        have noBytes : added = [] := List.length_eq_zero_iff.mp (sameLength.trans (noRecord ▸ rfl))
        rw [empty, List.append_nil] at dropped
        refine .appends added sameLength (by rw [dropped, noBytes, List.append_nil]) ?_
        exact iff_of_true (noBytes.trans noRecord.symm)
          ⟨noBytes.trans noRecord.symm, fun lost => absurd nothing (Nat.ne_of_gt lost.2.2)⟩
      · have lengths := congrArg List.length dropped
        rw [List.length_append, sound.text_length] at lengths
        have ⟨due, removed⟩ := Bool.and_eq_true_iff.mp isLost
        refine .loses (by omega) (fun keeps => keeps.2 ⟨due, removed, Nat.pos_of_ne_zero nothing⟩)

theorem room_of_low {cache : LogCache} {added : Nat} (low : cache.offset ≤ logFlushSizeMax)
    (short : added ≤ logLineMax) : cache.offset + added ≤ logCacheSize := by
  have whole : logFlushSizeMax + logLineMax = logCacheSize := rfl
  exact whole ▸ Nat.add_le_add low short

/-- What holds in every state of a run, whatever was lost. -/
structure Streams (cfg : LogCfgInfo) (state : StreamState) : Prop where
  sound : state.log.Sound
  sameCfg : state.log.cfg = cfg
  bounded : state.log.stream.length ≤ state.accepted.length

theorem removeLog_sound {state : LogState} (sound : state.Sound) : state.removeLog.Sound where
  size := sound.size
  low := sound.low
  logOpen := by
    intro fd isOpen
    rcases sound.logOpen fd isOpen with ⟨file, isFile, isLog⟩
    refine ⟨file, ?_, isLog⟩
    simp only [LogState.removeLog, FileStore.remove]
    split <;> exact isFile

variable {cfg : LogCfgInfo} {state : StreamState}

variable (archive) in
/-- Every step is possible, and it has one of the two effects. -/
theorem streamStep_effect (named : cfg.logName ≠ []) (streams : Streams cfg state)
    (label : StreamLabel) :
    Exists fun next => Exists fun record => streamStep archive state label = some next ∧
      Streams cfg next ∧ next.accepted = state.accepted ++ record ∧
      StreamEffect state.log next.log record (keepsStream state label) := by
  have bounded := streams.bounded
  have isNamed : state.log.cfg.logName ≠ [] := streams.sameCfg ▸ named
  have after : forall {log : LogState} {record : List UInt8} {keeps : Prop}, log.Sound ->
      log.cfg = state.log.cfg -> StreamEffect state.log log record keeps ->
      Streams cfg ⟨log, state.accepted ++ record⟩ := by
    intro log record keeps sound sameCfg effect
    refine ⟨sound, sameCfg.trans streams.sameCfg, ?_⟩
    rw [List.length_append]
    cases effect with
    | appends added sameLength stream =>
        rw [stream, List.length_append, sameLength]
        exact Nat.add_le_add_right bounded _
    | loses shorter => exact Nat.le_trans (Nat.le_of_lt shorter) (Nat.add_le_add_right bounded _)
  cases label with
  | record record cur =>
      have length := strncpy_length record.bytes record.bytes.length
      have room : state.log.cache.offset +
          (copied (some record.bytes) record.bytes.length).length ≤ logCacheSize := by
        rw [copied, length]
        exact room_of_low streams.sound.low (Nat.le_of_lt record.short)
      rcases LogState.writeToCache_cached archive streams.sound (some record.bytes) cur room with
        ⟨log, stepped, cached, sound, sameCfg, _⟩
      have effect := cached_effect streams.sound isNamed length cached
      have positive : 0 < state.log.cache.offset + record.bytes.length :=
        Nat.add_pos_right _ record.positive
      simp only [positive, and_true] at effect
      rw [strncpy_eq_iff] at effect
      refine ⟨⟨log, state.accepted ++ record.bytes⟩, record.bytes, ?_, after sound sameCfg effect, rfl,
        effect⟩
      simp only [streamStep, stepped, Option.map_some]
  | tick cur =>
      have room : state.log.cache.offset + (copied none 0).length ≤ logCacheSize :=
        Nat.le_trans streams.sound.low (by decide)
      rcases LogState.writeToCache_cached archive streams.sound none cur room with
        ⟨log, stepped, cached, sound, sameCfg, _⟩
      have effect : StreamEffect state.log log [] (([] : List UInt8) = [] ∧ _) :=
        cached_effect streams.sound isNamed rfl cached
      simp only [List.length_nil, Nat.add_zero, true_and] at effect
      refine ⟨⟨log, state.accepted⟩, [], ?_, ?_, (List.append_nil _).symm, effect⟩
      · simp only [streamStep, stepped, Option.map_some]
      · have streamed := after sound sameCfg effect
        rw [List.append_nil] at streamed
        exact streamed
  | remove =>
      refine ⟨{ state with log := state.log.removeLog }, [], rfl, ?_, (List.append_nil _).symm, ?_⟩
      · exact ⟨removeLog_sound streams.sound, streams.sameCfg, bounded⟩
      · exact .appends [] rfl (List.append_nil _).symm (iff_of_true rfl trivial)

/-! ## Runs -/

/-- Nothing was lost or duplicated. -/
def StreamState.Lossless (state : StreamState) : Prop :=
  state.log.stream = state.accepted

theorem lossless_step {next : StreamState} {label : StreamLabel} (named : cfg.logName ≠ [])
    (streams : Streams cfg state) (lossless : state.Lossless)
    (stepped : streamStep archive state label = some next) :
    (keepsStream state label ∧ Streams cfg next ∧ next.Lossless) ∨
      (¬ keepsStream state label ∧ Streams cfg next ∧ ¬ next.Lossless) := by
  rcases streamStep_effect archive named streams label with
    ⟨after, record, taken, streamsNext, accepted, effect⟩
  rw [stepped] at taken
  cases taken
  have decides : next.Lossless <-> keepsStream state label := by
    unfold StreamState.Lossless at *
    rw [accepted]
    cases effect with
    | appends added sameLength stream decides =>
        rw [stream, lossless, List.append_right_inj]
        exact decides
    | loses shorter fails =>
        refine iff_of_false (fun same => ?_) fails
        rw [same, lossless, List.length_append] at shorter
        exact Nat.lt_irrefl _ shorter
  by_cases keeps : keepsStream state label
  · exact Or.inl ⟨keeps, streamsNext, decides.mpr keeps⟩
  · exact Or.inr ⟨keeps, streamsNext, mt decides.mp keeps⟩

/-- Lost bytes do not come back. -/
theorem lossy_step {next : StreamState} {label : StreamLabel} (named : cfg.logName ≠ [])
    (streams : Streams cfg state) (lossy : ¬ state.Lossless)
    (stepped : streamStep archive state label = some next) : ¬ next.Lossless := by
  rcases streamStep_effect archive named streams label with ⟨after, record, taken, _, accepted, effect⟩
  rw [stepped] at taken
  cases taken
  intro lossless
  unfold StreamState.Lossless at lossy lossless
  rw [accepted] at lossless
  cases effect with
  | appends added sameLength stream =>
      rw [stream] at lossless
      exact lossy (List.append_inj_left' lossless sameLength)
  | loses shorter =>
      rw [lossless, List.length_append] at shorter
      exact Nat.not_lt.mpr streams.bounded (Nat.lt_of_add_lt_add_right shorter)

theorem streams_startUp (cfg : LogCfgInfo) (store : FileStore (List UInt8)) :
    Streams cfg (.startUp cfg store) where
  sound := ⟨List.length_replicate, Nat.zero_le _, nofun⟩
  sameCfg := rfl
  bounded := Nat.le_refl 0

/-- The bytes written and the bytes in the cache are the accepted records exactly if
no flush of a non-empty cache found the log file removed, and every record could be
copied. -/
theorem stream_lossless_iff {base cfg : LogCfgInfo} {processName : List UInt8}
    (created : myLogPathCreate base processName = some cfg) (store : FileStore (List UInt8))
    (labels : List StreamLabel) :
    Exists fun final => (streaming archive).run (.startUp cfg store) labels = some final ∧
      (final.log.files.written.flatMap Prod.snd ++
          final.log.cache.bytes.take final.log.cache.offset = final.accepted <->
        (streaming archive).AllSteps keepsStream (.startUp cfg store) labels) := by
  have named := (myLogPathCreate_paths created).logName_ne_nil
  have start := streams_startUp cfg store
  have kept : forall state label next, Streams cfg state ->
      (streaming archive).step state label = some next -> Streams cfg next := by
    intro state label next streams stepped
    rcases streamStep_effect archive named streams label with ⟨after, _, taken, kept, _⟩
    exact Option.some.inj (taken.symm.trans stepped) ▸ kept
  rcases (streaming archive).exists_run_of_allSteps (fun state label streams _ => by
      rcases streamStep_effect archive named streams label with ⟨next, _, taken, kept, _⟩
      exact ⟨next, taken, kept⟩) start
    ((streaming archive).allSteps_of_forall (fun _ _ => trivial) _ labels) with ⟨final, ran⟩
  refine ⟨final, ran, ?_⟩
  have settled := (streaming archive).not_doomed_iff_allSteps
    (fun _ (good : Streams cfg _ ∧ StreamState.Lossless _) doomed => doomed.2 good.2)
    (fun state label next good stepped => lossless_step named good.1 good.2 stepped)
    (fun state label next doomed stepped =>
      ⟨kept state label next doomed.1 stepped, lossy_step named doomed.1 doomed.2 stepped⟩)
    ⟨start, rfl⟩ ran
  rw [← settled, not_and, not_not]
  have reached := (streaming archive).run_invariant kept start ran
  exact ⟨fun lossless _ => lossless, fun lossless => lossless reached⟩

/-- The records `a`, `b` and `c` are logged.  The log file is removed before the last
flush opens it again. -/
theorem stream_lossless_iff_threeRecords :
    let base : LogCfgInfo := { LogCfgInfo.cleared with logPath := ascii "/log", size := 0 }
    let labels : List StreamLabel :=
      [.record ⟨ascii "a", by decide, by decide⟩ 10, .remove,
        .record ⟨ascii "b", by decide, by decide⟩ 11, .record ⟨ascii "c", by decide, by decide⟩ 20]
    Exists fun cfg => myLogPathCreate base (ascii "app") = some cfg ∧
      Exists fun final =>
        (streaming fun _ _ => []).run (.startUp cfg .empty) labels = some final ∧
        final.log.files.written.flatMap Prod.snd ++
          final.log.cache.bytes.take final.log.cache.offset = final.accepted := by
  intro base labels
  refine ⟨_, rfl, ?_⟩
  have created : myLogPathCreate base (ascii "app") = some _ := rfl
  rcases stream_lossless_iff created .empty labels with ⟨final, ran, decides⟩
  exact ⟨final, ran, decides.mpr (by decide +kernel)⟩

/-- The file is removed while it is open.  The next flush takes the record `b` from the
cache and writes nothing. -/
theorem stream_loses_removedLog :
    let base : LogCfgInfo := { LogCfgInfo.cleared with logPath := ascii "/log", size := 1024 }
    Exists fun cfg => myLogPathCreate base (ascii "app") = some cfg ∧
      Exists fun final =>
        (streaming fun _ _ => []).run (.startUp cfg .empty)
          [.record ⟨ascii "a", by decide, by decide⟩ 10, .remove,
            .record ⟨ascii "b", by decide, by decide⟩ 20] = some final ∧
        final.accepted = ascii "ab" ∧
        final.log.files.written.flatMap Prod.snd ++
          final.log.cache.bytes.take final.log.cache.offset = ascii "a" := by
  intro base
  have reached : (myLogPathCreate base (ascii "app")).bind (fun cfg =>
      ((streaming fun _ _ => []).run (.startUp cfg .empty)
        [.record ⟨ascii "a", by decide, by decide⟩ 10, .remove,
          .record ⟨ascii "b", by decide, by decide⟩ 20]).map (fun final => (final.accepted,
            final.log.files.written.flatMap Prod.snd ++
              final.log.cache.bytes.take final.log.cache.offset))) =
      some (ascii "ab", ascii "a") := by
    decide
  rcases Option.bind_eq_some_iff.mp reached with ⟨cfg, created, rest⟩
  rcases Option.map_eq_some_iff.mp rest with ⟨final, ran, observed⟩
  have ⟨accepted, stream⟩ := Prod.mk.inj observed
  exact ⟨cfg, created, final, ran, accepted, stream⟩

end Logger
end V2x
