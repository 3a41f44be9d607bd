import V2x.Foundations.Simulation
import V2x.Logger.Pipeline

namespace V2x
namespace Logger

open Foundations

/-!
# The log as a journal

The records that were accepted are a journal whose pieces are records: those in
the cache wait, the log file is the current segment, and a rotation closes it.
Threads that log, flushes and rounds of the archiver come in any order, and the
files always hold the segments of this journal.
-/

variable {archive : List UInt8 -> Option (List UInt8) -> List UInt8} {text : List UInt8}
  {base cfg : LogCfgInfo}

/-! ## What a step does -/

/-- The bytes that a call of `WriteLogToCache` adds. -/
def PipelineLabel.added : PipelineLabel -> List (List UInt8)
  | .record logged _ => [strncpy logged.bytes logged.bytes.length]
  | _ => []

/-- The return from `WriteLogToCache`. -/
inductive Leaves (archive : List UInt8 -> Option (List UInt8) -> List UInt8) (cfg : LogCfgInfo)
    (rotation later : RotationState) : Prop where
  | stays (same : later = rotation)
  | ticked (stepped : rotationStep archive cfg rotation .ticked = some later)

/-- The steps that touch neither the cache nor a file. -/
inductive QuietMove : PipelineLabel -> RotationLabel -> Prop where
  | timeout : QuietMove .timeout .timeout
  | wake (tm : LocalTime) : QuietMove (.wake tm) (.wake tm)
  | archiverReturn : QuietMove .archiverReturn .archiverReturn

/-- The cache has its size, and the bytes are in it. -/
structure LogCache.Holds (cache : LogCache) (bytes : List UInt8) : Prop where
  text : cache.text = bytes
  size : cache.bytes.length = logCacheSize
  offset : cache.offset ≤ logCacheSize

/-- What a step does to the cache and to the threads. -/
inductive PipelineEffect (archive : List UInt8 -> Option (List UInt8) -> List UInt8) (cfg : LogCfgInfo)
    (state : PipelineState) : PipelineLabel -> PipelineState -> Prop where
  | keeps {label} (cache : LogCache) (rotation : RotationState) (idle : state.rotation.writer = none)
      (holds : cache.Holds (state.cache.text ++ label.added.flatten))
      (leaves : Leaves archive cfg state.rotation rotation) :
      PipelineEffect archive cfg state label { state with
        cache := cache, rotation := rotation, accepted := state.accepted ++ label.added }
  | begins {label} (cache : LogCache) (call : FlushCall) (rotation : RotationState)
      (idle : state.rotation.writer = none)
      (holds : cache.Holds (state.cache.text ++ label.added.flatten))
      (stepped : rotationStep archive cfg state.rotation (.flush cache.text) = some rotation) :
      PipelineEffect archive cfg state label { state with
        cache := cache, call := some call, rotation := rotation
        accepted := state.accepted ++ label.added }
  | writes (rotation : RotationState)
      (stepped : rotationStep archive cfg state.rotation .writerCall = some rotation) :
      PipelineEffect archive cfg state .writerCall { state with rotation := rotation }
  | returns (cache : LogCache) (returned rotation : RotationState) (holds : cache.Holds [])
      (stepped : rotationStep archive cfg state.rotation .writerReturn = some returned)
      (leaves : Leaves archive cfg returned rotation) :
      PipelineEffect archive cfg state .writerReturn { state with
        cache := cache, call := none, rotation := rotation }
  | moves {label move} (quiet : QuietMove label move) (rotation : RotationState)
      (stepped : rotationStep archive cfg state.rotation move = some rotation) :
      PipelineEffect archive cfg state label { state with rotation := rotation }
  | packs (rotation : RotationState)
      (stepped : rotationStep archive cfg state.rotation .archiverCall = some rotation) :
      PipelineEffect archive cfg state .archiverCall { state with
        rotation := rotation, packed := state.packed ++ state.rotation.packs }

section Effects

variable {state next : PipelineState} {bytes : List UInt8}

theorem LogCache.Holds.length_le {cache : LogCache} (holds : cache.Holds bytes) :
    bytes.length ≤ logCacheSize := by
  rw [← holds.text, LogCache.text, List.length_take]
  exact Nat.le_trans (Nat.min_le_left _ _) holds.offset

theorem LogCache.Holds.filled {cache filled : LogCache} (holds : cache.Holds bytes) {cur : UInt64}
    {buf : Option (List UInt8)} {writeLen : Nat}
    (isFilled : (cache.clamp cur).fill buf writeLen = some filled) :
    filled.Holds (bytes ++ copied buf writeLen) := by
  have size : (cache.clamp cur).bytes.length = logCacheSize :=
    (congrArg List.length (cache.clamp_bytes cur)).trans holds.size
  by_cases room : (cache.clamp cur).offset + (copied buf writeLen).length ≤ logCacheSize
  · rcases LogCache.fill_filled size buf room with ⟨other, isOther, after⟩
    rw [isFilled] at isOther
    cases isOther
    refine ⟨?_, after.size, after.offset ▸ room⟩
    rw [after.text, LogCache.clamp_text, holds.text]
  · have low : (cache.clamp cur).offset ≤ logCacheSize := (cache.clamp_offset cur).symm ▸ holds.offset
    rw [LogCache.fill_none (Nat.lt_of_not_le room) low] at isFilled
    cases isFilled

theorem move_eq {label : RotationLabel} (moved : state.move archive cfg label = some next) :
    Exists fun rotation => rotationStep archive cfg state.rotation label = some rotation ∧
      next = { state with rotation := rotation } := by
  rcases Option.map_eq_some_iff.mp moved with ⟨rotation, stepped, rfl⟩
  exact ⟨rotation, stepped, rfl⟩

theorem leave_eq {call : FlushCall} (left : state.leave archive cfg call = some next) :
    Exists fun rotation => Leaves archive cfg state.rotation rotation ∧
      next = { state with rotation := rotation } := by
  unfold PipelineState.leave at left
  split at left
  · rcases move_eq left with ⟨rotation, stepped, rfl⟩
    exact ⟨rotation, .ticked stepped, rfl⟩
  · cases left
    exact ⟨state.rotation, .stays rfl, rfl⟩

/-- Both calls of `WriteLogToCache`. -/
theorem enter_effect (holds : state.cache.Holds state.cache.text) {buf : Option (List UInt8)} {writeLen : Nat}
    {call : FlushCall} {label : PipelineLabel} (adds : copied buf writeLen = label.added.flatten)
    (entered : state.enter archive cfg buf writeLen call = some next) :
    next.accepted = state.accepted ∧
      PipelineEffect archive cfg state label { next with accepted := state.accepted ++ label.added } := by
  unfold PipelineState.enter at entered
  split at entered
  · cases entered
  next idle =>
    rcases Option.bind_eq_some_iff.mp entered with ⟨cache, isFilled, rest⟩
    have filled := holds.filled isFilled
    rw [adds] at filled
    split at rest
    · rcases move_eq rest with ⟨rotation, stepped, rfl⟩
      exact ⟨rfl, .begins cache call rotation idle filled stepped⟩
    · rcases leave_eq rest with ⟨rotation, leaves, rfl⟩
      exact ⟨rfl, .keeps cache rotation idle filled leaves⟩

theorem pipelineStep_effect (holds : state.cache.Holds state.cache.text) {label : PipelineLabel}
    (taken : pipelineStep archive cfg state label = some next) :
    PipelineEffect archive cfg state label next := by
  cases label with
  | record logged cur =>
      rcases Option.map_eq_some_iff.mp taken with ⟨after, entered, rfl⟩
      exact (enter_effect holds (List.append_nil _).symm entered).2
  | tick cur =>
      simp only [pipelineStep] at taken
      split at taken
      · have adds : copied none 0 = (PipelineLabel.tick cur).added.flatten := rfl
        rcases enter_effect holds adds taken with ⟨accepted, effect⟩
        have nothing : state.accepted ++ (PipelineLabel.tick cur).added = next.accepted :=
          (List.append_nil _).trans accepted.symm
        rw [nothing] at effect
        exact effect
      · cases taken
  | timeout =>
      rcases move_eq taken with ⟨rotation, stepped, rfl⟩
      exact .moves .timeout rotation stepped
  | wake tm =>
      rcases move_eq taken with ⟨rotation, stepped, rfl⟩
      exact .moves (.wake tm) rotation stepped
  | archiverReturn =>
      rcases move_eq taken with ⟨rotation, stepped, rfl⟩
      exact .moves .archiverReturn rotation stepped
  | writerCall =>
      rcases move_eq taken with ⟨rotation, stepped, rfl⟩
      exact .writes rotation stepped
  | archiverCall =>
      rcases Option.map_eq_some_iff.mp taken with ⟨after, moved, rfl⟩
      rcases move_eq moved with ⟨rotation, stepped, rfl⟩
      exact .packs rotation stepped
  | writerReturn =>
      rcases Option.bind_eq_some_iff.mp taken with ⟨call, _, rest⟩
      rcases Option.bind_eq_some_iff.mp rest with ⟨after, moved, left⟩
      rcases move_eq moved with ⟨returned, stepped, rfl⟩
      rcases leave_eq left with ⟨rotation, leaves, rfl⟩
      exact .returns _ returned rotation ⟨rfl, holds.size, Nat.zero_le _⟩ stepped leaves

end Effects

/-! ## The threads and the files -/

/-- The flushing thread and the archiver are in phases of their protocols. -/
structure Flushing (cfg : LogCfgInfo) (bound : Nat) (rotation : RotationState) (buf : List UInt8)
    (flush : FlushPhase) (stores : StorePhase) : Prop where
  flushAt : match rotation.writer with
    | none => flush = .looking rotation.logFd
    | some rest => rest.Follows (flushProtocol cfg buf) (flushEnds cfg) flush
  storeAt : match rotation.archiver with
    | .archiving rest => rest.Follows (storeProtocol cfg) (fun _ _ => True) stores
    | _ => stores = .free
  depot : Depot cfg bound buf.length rotation.files.store rotation.history.rotated flush stores

/-- The steps of the threads that touch no file. -/
inductive Silent : RotationLabel -> Prop where
  | timeout : Silent .timeout
  | ticked : Silent .ticked
  | wake (tm : LocalTime) : Silent (.wake tm)
  | archiverReturn : Silent .archiverReturn

structure SameFiles (rotation next : RotationState) : Prop where
  store : next.files.store = rotation.files.store
  history : next.history = rotation.history
  writer : next.writer = rotation.writer
  logFd : next.logFd = rotation.logFd

/-- The rotated generations keep their bytes, and others come behind them.  One of them is under
the backup name, or the file that was there before. -/
structure Extends (cfg : LogCfgInfo) (rotation next : RotationState) : Prop where
  rotated : rotation.history.rotated <+: next.history.rotated
  contents : forall generation, generation ∈ rotation.history.rotated ->
    next.files.store.content generation = rotation.files.store.content generation
  bak : forall generation, next.files.store.entry cfg.logBakName = some generation ->
    rotation.files.store.entry cfg.logBakName = some generation ∨ generation ∈ next.history.rotated

section Flushing

variable {bound : Nat} {rotation next : RotationState} {buf : List UInt8} {flush : FlushPhase}
  {stores : StorePhase} {move : RotationLabel}

theorem Extends.refl (rotation : RotationState) : Extends cfg rotation rotation :=
  ⟨List.prefix_refl _, fun _ _ => rfl, fun _ isBak => Or.inl isBak⟩

theorem Extends.trans {last : RotationState} (first : Extends cfg rotation next)
    (second : Extends cfg next last) : Extends cfg rotation last where
  rotated := first.rotated.trans second.rotated
  contents := fun generation member =>
    (second.contents generation (first.rotated.subset member)).trans (first.contents generation member)
  bak := by
    intro generation isBak
    rcases second.bak generation isBak with before | member
    · exact (first.bak generation before).imp_right (second.rotated.subset ·)
    · exact Or.inr member

theorem SameFiles.grows (same : SameFiles rotation next) : Extends cfg rotation next where
  rotated := same.history.symm ▸ List.prefix_refl _
  contents := fun _ _ => congrFun (congrArg FileStore.content same.store) _
  bak := fun _ isBak => Or.inl (same.store ▸ isBak)

theorem QuietMove.silent {label : PipelineLabel} (quiet : QuietMove label move) : Silent move := by
  cases quiet with
  | timeout => exact .timeout
  | wake tm => exact .wake tm
  | archiverReturn => exact .archiverReturn

theorem Flushing.sameFiles (flushing : Flushing cfg bound rotation buf flush stores)
    (same : SameFiles rotation next)
    (storeAt : match next.archiver with
      | .archiving rest => rest.Follows (storeProtocol cfg) (fun _ _ => True) .free
      | _ => StorePhase.free = .free) : Flushing cfg bound next buf flush .free := by
  have depot := flushing.depot
  refine ⟨?_, storeAt, ?_⟩
  · rw [same.writer, same.logFd]
    exact flushing.flushAt
  · rw [same.store, same.history]
    exact ⟨depot.linked, depot.shelved, depot.flush, trivial⟩

theorem Flushing.silent (flushing : Flushing cfg bound rotation buf flush stores) (small : rotation.index < 20)
    (silent : Silent move) (stepped : rotationStep archive cfg rotation move = some next) :
    SameFiles rotation next ∧ Exists fun later => Flushing cfg bound next buf flush later := by
  cases silent with
  | timeout | ticked | archiverReturn =>
      simp only [rotationStep] at stepped
      split at stepped
      next =>
        cases stepped
        exact ⟨⟨rfl, rfl, rfl, rfl⟩, .free, flushing.sameFiles ⟨rfl, rfl, rfl, rfl⟩ rfl⟩
      next => cases stepped
  | wake tm =>
      simp only [rotationStep] at stepped
      split at stepped
      next =>
        cases stepped
        exact ⟨⟨rfl, rfl, rfl, rfl⟩, .free, flushing.sameFiles ⟨rfl, rfl, rfl, rfl⟩
          (myLogArchiveRound_stores cfg tm small)⟩
      next => cases stepped

theorem Flushing.leaves (flushing : Flushing cfg bound rotation buf flush stores) (small : rotation.index < 20)
    (leaves : Leaves archive cfg rotation next) :
    SameFiles rotation next ∧ Exists fun later => Flushing cfg bound next buf flush later := by
  cases leaves with
  | stays same =>
      subst same
      exact ⟨⟨rfl, rfl, rfl, rfl⟩, stores, flushing⟩
  | ticked stepped => exact flushing.silent small .ticked stepped

/-- Between two flushes it does not matter what is in the cache. -/
theorem Flushing.refill (flushing : Flushing cfg bound rotation buf flush stores)
    (idle : rotation.writer = none) (other : List UInt8) :
    flush = .looking rotation.logFd ∧ Flushing cfg bound rotation other flush stores := by
  have flushAt := flushing.flushAt
  have depot := flushing.depot
  rw [idle] at flushAt
  have isLooking : flush = .looking rotation.logFd := flushAt
  subst isLooking
  refine ⟨rfl, ?_, flushing.storeAt, depot.linked, depot.shelved, ?_, depot.stores⟩
  · rw [idle]
  · have holds := depot.flush
    cases isFd : rotation.logFd with
    | none =>
        rw [isFd] at holds
        exact holds
    | some fd =>
        rw [isFd] at holds
        exact holds

theorem Flushing.begins (flushing : Flushing cfg bound rotation buf flush stores)
    (stepped : rotationStep archive cfg rotation (.flush buf) = some next) :
    next = { rotation with writer := some (writeLogToFile cfg rotation.logFd buf) } ∧
      Flushing cfg bound next buf flush stores := by
  simp only [rotationStep] at stepped
  split at stepped
  next idle =>
    cases stepped
    rcases flushing.refill idle buf with ⟨isLooking, _⟩
    refine ⟨rfl, ?_, flushing.storeAt, flushing.depot⟩
    rw [isLooking]
    exact writeLogToFile_flushes cfg rotation.logFd buf
  next => cases stepped

theorem Flushing.returns (flushing : Flushing cfg bound rotation buf flush stores)
    (sizes : cfg.size.toNat ≤ bound)
    (stepped : rotationStep archive cfg rotation .writerReturn = some next) :
    flush.flushed = true ∧ next.writer = none ∧ next.files = rotation.files ∧ next.history = rotation.history ∧
      Flushing cfg bound next buf (.looking next.logFd) stores := by
  have flushAt := flushing.flushAt
  have depot := flushing.depot
  simp only [rotationStep] at stepped
  split at stepped
  next logFd isDone =>
    cases stepped
    rw [isDone] at flushAt
    have ends : flushEnds cfg logFd flush := flushAt
    have holds := depot.flush
    cases flush with
    | measured fd size =>
        rcases ends with ⟨rfl, small⟩
        rcases holds with ⟨opens, _, isSize⟩
        refine ⟨rfl, rfl, rfl, rfl, rfl, flushing.storeAt, depot.linked, depot.shelved, ⟨opens, ?_⟩, depot.stores⟩
        exact isSize ▸ Nat.le_trans small sizes
    | posted =>
        have closed : logFd = none := ends
        subst closed
        refine ⟨rfl, rfl, rfl, rfl, rfl, flushing.storeAt, depot.linked, depot.shelved, ?_, depot.stores⟩
        change (cfg.logData rotation.files.store).length ≤ bound
        rw [logData_none holds]
        exact Nat.zero_le _
    | failed => exact holds.elim
    | _ => cases ends
  next => cases stepped

/-- What the next call in `WriteLogToFile` is for the journal. -/
def RotationState.writes (rotation : RotationState) : List (JournalEvent (List UInt8)) :=
  match rotation.writer with
  | some (.call op _) => op.events
  | _ => []

theorem Flushing.writes (paths : PathsCreated text base cfg)
    (flushing : Flushing cfg bound rotation buf flush stores)
    (stepped : rotationStep archive cfg rotation .writerCall = some next) :
    Exists fun later => Flushing cfg bound next buf later stores ∧
      FlushEffect cfg bound buf rotation.files.store next.files.store rotation.history.rotated
        next.history.rotated rotation.writes flush.flushed later.flushed ∧
      Extends cfg rotation next := by
  have flushAt := flushing.flushAt
  simp only [rotationStep] at stepped
  split at stepped
  next op rest isCall =>
    rw [isCall] at flushAt
    rcases flushAt with ⟨allowed, follows⟩
    simp only [RotationState.call, Option.map_map, Option.map_eq_some_iff] at stepped
    rcases stepped with ⟨⟨answer, after⟩, isAnswer, rfl⟩
    rcases flushing.depot.writerOp paths allowed isAnswer with ⟨kept, effect⟩
    refine ⟨_, ⟨follows answer, flushing.storeAt, kept.depot⟩, ?_, effect.grows, kept.contents, kept.bak⟩
    rw [RotationState.writes, isCall]
    exact effect
  next => cases stepped

theorem Flushing.packs (paths : PathsCreated text base cfg)
    (flushing : Flushing cfg bound rotation buf flush stores)
    (stepped : rotationStep archive cfg rotation .archiverCall = some next) :
    next.writer = rotation.writer ∧ next.history.rotated = rotation.history.rotated ∧
      cfg.logData next.files.store = cfg.logData rotation.files.store ∧ Extends cfg rotation next ∧
      Exists fun later => Flushing cfg bound next buf flush later := by
  have storeAt := flushing.storeAt
  simp only [rotationStep] at stepped
  split at stepped
  next op rest isCall =>
    rw [isCall] at storeAt
    rcases storeAt with ⟨allowed, follows⟩
    simp only [RotationState.call, Option.map_map, Option.map_eq_some_iff] at stepped
    rcases stepped with ⟨⟨answer, after⟩, isAnswer, rfl⟩
    rcases flushing.depot.archiverOp paths allowed isAnswer with ⟨kept, log, rotated⟩
    refine ⟨rfl, rotated, log, ⟨?_, kept.contents, fun generation isBak => ?_⟩, _, flushing.flushAt,
      follows answer, ?_⟩
    · exact rotated.symm ▸ List.prefix_refl _
    · exact (kept.bak generation isBak).imp_right fun member => rotated.symm ▸ member
    · exact rotated.symm ▸ kept.depot
  next => cases stepped

end Flushing

/-! ## The journal -/

/-- What a step is for the journal. -/
def journalEvents (state : PipelineState) : PipelineLabel -> List (JournalEvent (List UInt8))
  | .record logged _ => [.append (strncpy logged.bytes logged.bytes.length)]
  | .writerCall => state.rotation.writes
  | _ => []

/-- The bytes in the cache were passed to `write`, and the flush goes on. -/
def RotationState.flushed (rotation : RotationState) : Bool :=
  match rotation.writer with
  | none | some (.call (.access _) _) | some (.call (.openFile _ _) _) | some (.call (.write _ _) _) => false
  | some _ => true

/-- A rotated generation is a segment, and its size is bounded. -/
structure Segment (cfg : LogCfgInfo) (bound : Nat) (store : FileStore (List UInt8)) (generation : Nat)
    (pieces : List (List UInt8)) : Prop where
  content : store.content generation = pieces.flatten
  large : cfg.size.toNat < pieces.flatten.length
  small : pieces.flatten.length ≤ bound + logCacheSize

/-- The rotated generations, the log file and the cache hold the journal.  The text in the cache is
flushed if it was already passed to `write`. -/
structure Recorded (cfg : LogCfgInfo) (bound : Nat) (rotation : RotationState) (text : List UInt8)
    (journal : Journal (List UInt8)) (flushed : Bool) : Prop where
  closed : List.Forall₂ (Segment cfg bound rotation.files.store) rotation.history.rotated journal.closed
  current : cfg.logData rotation.files.store = journal.current.flatten
  waiting : flushed = false -> text = journal.waiting.flatten
  empty : flushed = true -> journal.waiting = []

structure Journaled (cfg : LogCfgInfo) (bound : Nat) (initial : List UInt8) (state : PipelineState)
    (journal : Journal (List UInt8)) (flush : FlushPhase) : Prop where
  flushing : Exists fun stores => Flushing cfg bound state.rotation state.cache.text flush stores
  cache : state.cache.Holds state.cache.text
  threads : AnyThreads cfg state.rotation
  recorded : Recorded cfg bound state.rotation state.cache.text journal flush.flushed
  pieces : journal.pieces = initial :: state.accepted

section Journaled

variable {bound : Nat} {initial : List UInt8} {state next : PipelineState} {label : PipelineLabel}
  {journal : Journal (List UInt8)} {flush : FlushPhase} {rotation later : RotationState} {bytes : List UInt8}

theorem segments_frame {store after : FileStore (List UInt8)} {rotated : List Nat}
    {segments : List (List (List UInt8))} (closed : List.Forall₂ (Segment cfg bound store) rotated segments)
    (contents : forall generation, generation ∈ rotated -> after.content generation = store.content generation) :
    List.Forall₂ (Segment cfg bound after) rotated segments := by
  induction closed with
  | nil => exact .nil
  | @cons generation pieces rotated segments segment closed inductionHypothesis =>
      have same := contents generation List.mem_cons_self
      refine .cons ⟨same.trans segment.content, segment.large, segment.small⟩ (inductionHypothesis ?_)
      exact fun other member => contents other (List.mem_cons_of_mem _ member)

/-- The files are the same, and so are the cache and the journal. -/
theorem Recorded.sameFiles {flushed : Bool} (recorded : Recorded cfg bound rotation bytes journal flushed)
    (same : SameFiles rotation later) : Recorded cfg bound later bytes journal flushed := by
  refine ⟨?_, ?_, recorded.waiting, recorded.empty⟩
  · rw [same.store, same.history]
    exact recorded.closed
  · rw [same.store]
    exact recorded.current

theorem Recorded.adds (recorded : Recorded cfg bound rotation bytes journal false) (pieces : List (List UInt8)) :
    Recorded cfg bound rotation (bytes ++ pieces.flatten)
      { journal with waiting := journal.waiting ++ pieces } false where
  closed := recorded.closed
  current := recorded.current
  waiting := by
    intro _
    rw [List.flatten_append, ← recorded.waiting rfl]
  empty := nofun

theorem Recorded.writes {flushed flushedNext : Bool} {events : List (JournalEvent (List UInt8))}
    (recorded : Recorded cfg bound rotation bytes journal flushed) (small : bytes.length ≤ logCacheSize)
    (effect : FlushEffect cfg bound bytes rotation.files.store later.files.store rotation.history.rotated
      later.history.rotated events flushed flushedNext)
    (grows : Extends cfg rotation later) :
    Exists fun after => (journaling (List UInt8)).run journal events = some after ∧
      Recorded cfg bound later bytes after flushedNext ∧ after.pieces = journal.pieces := by
  have closed := segments_frame recorded.closed grows.contents
  cases effect with
  | quiet same log =>
      exact ⟨journal, rfl, ⟨same.symm ▸ closed, log.trans recorded.current, recorded.waiting, recorded.empty⟩, rfl⟩
  | appends same log =>
      refine ⟨journal.flush, rfl, ⟨same.symm ▸ closed, ?_, nofun, fun _ => rfl⟩, Journal.pieces_flush⟩
      rw [Journal.flush, List.flatten_append, ← recorded.current, ← recorded.waiting rfl]
      exact log
  | rotates generation added content log large limit _ =>
      have isSegment : Segment cfg bound later.files.store generation journal.current := by
        rw [recorded.current] at content large limit
        exact ⟨content, large, Nat.le_trans limit (Nat.add_le_add_left small bound)⟩
      refine ⟨journal.close, rfl, ⟨?_, log, nofun, recorded.empty⟩, Journal.pieces_close⟩
      rw [added]
      exact List.rel_append closed (.cons isSegment .nil)

section Step

variable (paths : PathsCreated text base cfg) (positive : 0 < cfg.maxFileNum.toNat)
  (most : cfg.maxFileNum.toNat ≤ 20)

include most in
theorem AnyThreads.index_lt (threads : AnyThreads cfg rotation) : rotation.index < 20 := by
  rcases threads with ⟨_, _, threads⟩
  exact Nat.lt_of_lt_of_le threads.range most

theorem journalEvents_idle (idle : state.rotation.writer = none) :
    journalEvents state label = label.added.map .append := by
  cases label with
  | writerCall =>
      rw [journalEvents, RotationState.writes, idle]
      rfl
  | _ => rfl

/-- A record comes into the cache, or nothing. -/
theorem Journaled.adds (journaled : Journaled cfg bound initial state journal flush)
    (idle : state.rotation.writer = none) {cache : LogCache}
    (holds : cache.Holds (state.cache.text ++ label.added.flatten)) (call : Option FlushCall) :
    (journaling (List UInt8)).run journal (journalEvents state label) =
        some { journal with waiting := journal.waiting ++ label.added } ∧
      Journaled cfg bound initial
        { state with cache := cache, call := call, accepted := state.accepted ++ label.added }
        { journal with waiting := journal.waiting ++ label.added } flush := by
  rcases journaled with ⟨⟨stores, flushing⟩, _, threads, recorded, pieces⟩
  have ran := Journal.run_appends journal label.added
  rw [← journalEvents_idle idle] at ran
  rcases flushing.refill idle cache.text with ⟨isLooking, flushing⟩
  refine ⟨ran, ⟨stores, flushing⟩, ⟨rfl, holds.size, holds.offset⟩, threads, ?_, ?_⟩
  · rw [isLooking] at recorded ⊢
    have added := recorded.adds label.added
    rw [← holds.text] at added
    exact added
  · rw [← List.cons_append, ← pieces]
    exact (List.append_assoc _ _ _).symm

include paths positive most

/-- Both ways to return from `WriteLogToCache`. -/
theorem Journaled.leaves (journaled : Journaled cfg bound initial state journal flush)
    (leaves : Leaves archive cfg state.rotation rotation) :
    Journaled cfg bound initial { state with rotation := rotation } journal flush ∧
      Extends cfg state.rotation rotation := by
  rcases journaled with ⟨⟨stores, flushing⟩, cache, threads, recorded, pieces⟩
  rcases flushing.leaves (threads.index_lt most) leaves with ⟨same, flushing⟩
  refine ⟨⟨flushing, cache, ?_, recorded.sameFiles same, pieces⟩, same.grows⟩
  cases leaves with
  | stays same => exact same ▸ threads
  | ticked stepped => exact anyThreads_step paths positive most threads stepped

theorem Journaled.step (sizes : cfg.size.toNat ≤ bound)
    (journaled : Journaled cfg bound initial state journal flush)
    (taken : pipelineStep archive cfg state label = some next) :
    Exists fun after => (journaling (List UInt8)).run journal (journalEvents state label) = some after ∧
      (Exists fun later => Journaled cfg bound initial next after later) ∧
      Extends cfg state.rotation next.rotation := by
  have threads := journaled.threads
  rcases journaled.flushing with ⟨stores, flushing⟩
  cases pipelineStep_effect journaled.cache taken with
  | keeps held rotation idle holds leaves =>
      rcases journaled.adds idle holds state.call with ⟨ran, adds⟩
      rcases adds.leaves paths positive most leaves with ⟨left, grows⟩
      exact ⟨_, ran, ⟨flush, left⟩, grows⟩
  | begins held call rotation idle holds stepped =>
      rcases journaled.adds idle holds (some call) with ⟨ran, adds⟩
      rcases adds.flushing with ⟨stores, flushing⟩
      rcases flushing.begins stepped with ⟨begun, flushing⟩
      have threads := anyThreads_step paths positive most threads stepped
      subst begun
      refine ⟨_, ran, ⟨flush, ⟨stores, flushing⟩, adds.cache, threads, ?_, adds.pieces⟩,
        List.prefix_refl _, fun _ _ => rfl, fun _ isBak => Or.inl isBak⟩
      exact ⟨adds.recorded.closed, adds.recorded.current, adds.recorded.waiting, adds.recorded.empty⟩
  | writes rotation stepped =>
      rcases flushing.writes paths stepped with ⟨later, flushing, effect, grows⟩
      rcases journaled.recorded.writes journaled.cache.length_le effect grows with ⟨after, ran, recorded, same⟩
      have threads := anyThreads_step paths positive most threads stepped
      exact ⟨after, ran, ⟨later, ⟨stores, flushing⟩, journaled.cache, threads, recorded,
        same.trans journaled.pieces⟩, grows⟩
  | returns held returned rotation holds stepped leaves =>
      rcases flushing.returns sizes stepped with ⟨flushed, idle, files, history, flushing⟩
      rcases flushing.refill idle held.text with ⟨_, flushing⟩
      have threads := anyThreads_step paths positive most threads stepped
      have recorded := journaled.recorded
      have same : Recorded cfg bound returned held.text journal false := by
        refine ⟨?_, ?_, fun _ => ?_, nofun⟩
        · rw [files, history]
          exact recorded.closed
        · rw [files]
          exact recorded.current
        · rw [holds.text, recorded.empty flushed]
          rfl
      have back : Journaled cfg bound initial { state with cache := held, call := none, rotation := returned }
          journal (.looking returned.logFd) := by
        refine ⟨⟨stores, flushing⟩, ⟨rfl, holds.size, holds.offset⟩, threads, same, journaled.pieces⟩
      rcases back.leaves paths positive most leaves with ⟨left, grows⟩
      have first : Extends cfg state.rotation returned := by
        refine ⟨history.symm ▸ List.prefix_refl _, fun _ _ => ?_, fun _ isBak => Or.inl (files ▸ isBak)⟩
        rw [files]
      exact ⟨journal, rfl, ⟨_, left⟩, first.trans grows⟩
  | moves quiet rotation stepped =>
      rcases flushing.silent (threads.index_lt most) quiet.silent stepped with ⟨same, flushing⟩
      have events : journalEvents state label = [] := by
        cases quiet <;> rfl
      have threads := anyThreads_step paths positive most threads stepped
      rw [events]
      exact ⟨journal, rfl, ⟨flush, flushing, journaled.cache, threads, journaled.recorded.sameFiles same,
        journaled.pieces⟩, same.grows⟩
  | packs rotation stepped =>
      rcases flushing.packs paths stepped with ⟨_, rotated, log, grows, flushing⟩
      have threads := anyThreads_step paths positive most threads stepped
      have recorded := journaled.recorded
      have same : Recorded cfg bound rotation state.cache.text journal flush.flushed := by
        refine ⟨?_, log.trans recorded.current, recorded.waiting, recorded.empty⟩
        rw [rotated]
        exact segments_frame recorded.closed grows.contents
      exact ⟨journal, rfl, ⟨flush, flushing, journaled.cache, threads, same, journaled.pieces⟩, grows⟩

end Step

/-- How long the log file can get without a rotation. -/
def sizeBound (cfg : LogCfgInfo) (store : FileStore (List UInt8)) : Nat :=
  max cfg.size.toNat (cfg.logData store).length

end Journaled

/-! ## Runs -/

/-- The state holds some journal. -/
def HoldsJournal (cfg : LogCfgInfo) (store : FileStore (List UInt8)) (state : PipelineState) : Prop :=
  Exists fun journal => Exists fun flush =>
    Journaled cfg (sizeBound cfg store) (cfg.logData store) state journal flush

section Runs

variable {processName : List UInt8} (created : myLogPathCreate base processName = some cfg)
  (most : base.maxFileNum ≤ logFileNumMax) {store : FileStore (List UInt8)} (linked : store.Linked)
  {index : Nat} (range : index < base.maxFileNum.toNat)

include created most range

include linked

end Runs

end Logger
end V2x
