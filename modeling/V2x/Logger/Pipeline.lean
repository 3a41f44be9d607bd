import V2x.Foundations.Journal
import V2x.Logger.Generations
import V2x.Logger.Stream

namespace V2x
namespace Logger

open Foundations

/-!
# From the cache to the archives

The whole logger at work: threads log records, the archiver flushes the cache
after a timeout and packs the generations, and every call of a function of the
system is a step of its own.  What one thread does under `g_logMutex` up to
`WriteLogToFile` is one step, since no other thread can look at the cache then.

The run records the records that were copied into the cache, and what `tar` was
given.
-/

/-- A call of `WriteLogToCache` that flushes the cache. -/
structure FlushCall where
  cur : UInt64
  byArchiver : Bool

/-- The state of the files and threads, the cache, and the call that holds `g_logMutex`. -/
structure PipelineState where
  rotation : RotationState
  cache : LogCache
  call : Option FlushCall
  accepted : List (List UInt8)
  packed : List (List UInt8)

inductive PipelineLabel where
  -- a logging thread calls `WriteLogToCache`
  | record (record : LogRecord) (cur : UInt64)
  | timeout
  -- the archiver calls `WriteLogToCache(NULL, 0)`
  | tick (cur : UInt64)
  | writerCall
  | writerReturn
  | wake (tm : LocalTime)
  | archiverCall
  | archiverReturn

/-- The generation that `tar` reads in the next call of the archiver. -/
def RotationState.packing (rotation : RotationState) : List Nat :=
  match rotation.archiver with
  | .archiving (.call (.tar _ timeLogFile) _) => (rotation.files.store.entry timeLogFile).toList
  | _ => []

/-- The bytes of this generation. -/
def RotationState.packs (rotation : RotationState) : List (List UInt8) :=
  rotation.packing.map rotation.files.store.content

section Machine

variable (archive : List UInt8 -> Option (List UInt8) -> List UInt8) (cfg : LogCfgInfo)

/-- A step of the threads and files. -/
def PipelineState.move (state : PipelineState) (label : RotationLabel) : Option PipelineState :=
  (rotationStep archive cfg state.rotation label).map (fun rotation =>
    { state with rotation := rotation })

/-- The return from `WriteLogToCache`.  The archiver goes back to `sem_timedwait`. -/
def PipelineState.leave (state : PipelineState) (call : FlushCall) : Option PipelineState :=
  if call.byArchiver then state.move archive cfg .ticked else some state

/-- `WriteLogToCache` up to the call of `WriteLogToFile`. -/
def PipelineState.enter (state : PipelineState) (buf : Option (List UInt8)) (writeLen : Nat)
    (call : FlushCall) : Option PipelineState :=
  match state.rotation.writer with
  | some _ => none
  | none => do
      let cache <- (state.cache.clamp call.cur).fill buf writeLen
      let filled := { state with cache := cache }
      if cache.flushDue cache.offset call.cur then
        ({ filled with call := some call }).move archive cfg (.flush cache.text)
      else filled.leave archive cfg call

/-- The rest of `WriteLogToCache`. -/
def PipelineState.flushed (state : PipelineState) : Option PipelineState := do
  let call <- state.call
  let returned <- state.move archive cfg .writerReturn
  { returned with
    cache := { state.cache with offset := 0, lastTime := call.cur }
    call := none }.leave archive cfg call

def pipelineStep (state : PipelineState) : PipelineLabel -> Option PipelineState
  | .record record cur =>
      (state.enter archive cfg (some record.bytes) record.bytes.length ⟨cur, false⟩).map (fun next =>
        { next with accepted := state.accepted ++ [strncpy record.bytes record.bytes.length] })
  | .timeout => state.move archive cfg .timeout
  | .tick cur =>
      match state.rotation.archiver with
      | .ticking => state.enter archive cfg none 0 ⟨cur, true⟩
      | _ => none
  | .writerCall => state.move archive cfg .writerCall
  | .writerReturn => state.flushed archive cfg
  | .wake tm => state.move archive cfg (.wake tm)
  | .archiverCall =>
      (state.move archive cfg .archiverCall).map (fun next =>
        { next with packed := state.packed ++ state.rotation.packs })
  | .archiverReturn => state.move archive cfg .archiverReturn

/-- The logger after its start-up, with whatever files there are. -/
def PipelineState.start (store : FileStore (List UInt8)) (index : Nat) : PipelineState where
  rotation := .start store index
  cache := .initial
  call := none
  accepted := []
  packed := []

end Machine

/-! ## The calls of a flush -/

/-- Where a thread stands in `WriteLogToFile`, with its descriptor of the log file. -/
inductive FlushPhase where
  | looking (logFd : Option Nat)
  | missing (fd : Nat)
  | ready (fd : Nat)
  | written (fd : Nat)
  | measured (fd size : Nat)
  | closed
  | renamed
  | posted
  | failed

namespace FlushPhase

/-- The bytes were passed to `write`. -/
def flushed : FlushPhase -> Bool
  | .written _ | .measured _ _ | .closed | .renamed | .posted => true
  | .looking _ | .missing _ | .ready _ | .failed => false

def accessed (fd : Nat) (found : Int) : FlushPhase :=
  if found = 0 then .ready fd else .missing fd

def opened : Option Nat -> FlushPhase
  | some fd => .ready fd
  | none => .failed

end FlushPhase

def flushProtocol (cfg : LogCfgInfo) (buf : List UInt8) : Protocol LogOp LogOp.Answer FlushPhase where
  allowed
    | .looking (some _), .access path => path = cfg.logName
    | .looking none, .openFile path flags => path = cfg.logName ∧ flags = ⟨true, false, true⟩
    | .missing fd, .close closed => closed = fd
    | .ready fd, .write target bytes => target = fd ∧ bytes = buf
    | .written fd, .fstat target => target = fd
    | .measured fd size, .close closed => closed = fd ∧ cfg.size.toNat < size
    | .closed, .rename source target => source = cfg.logName ∧ target = cfg.logBakName
    | .renamed, .semPost => True
    | _, _ => False
  next
    | .looking (some fd), .access _, found => .accessed fd found
    | .looking none, .openFile _ _, logFd => .opened logFd
    | .ready fd, _, _ => .written fd
    | .written fd, .fstat _, fileInfo => .measured fd (fileInfo.getD 0)
    | .measured _ _, _, _ => .closed
    | .closed, _, _ => .renamed
    | .renamed, _, _ => .posted
    | _, _, _ => .failed

/-- The log file stays open if it is not too large. -/
def flushEnds (cfg : LogCfgInfo) (logFd : Option Nat) : FlushPhase -> Prop
  | .measured fd size => logFd = some fd ∧ size ≤ cfg.size.toNat
  | .posted | .failed => logFd = none
  | _ => False

/-- The archiver writes to a file that it has opened for the index. -/
inductive StorePhase where
  | free
  | storing (fd : Nat)

def StorePhase.opened : Option Nat -> StorePhase
  | some fd => .storing fd
  | none => .free

def storeProtocol (cfg : LogCfgInfo) : Protocol LogOp LogOp.Answer StorePhase where
  allowed
    | .free, .rename source target => source = cfg.logBakName ∧ Exists fun tm => target = timeLogFile cfg tm
    | .free, .remove path => path = cfg.logBakName ∨ Exists fun tm => path = timeLogFile cfg tm
    | .free, .tar target _ => Exists fun index => index < 20 ∧ target = compressFile cfg index
    | .free, .openFile path flags => path = cfg.logIdxFile ∧ flags = ⟨false, false, false⟩
    | .storing fd, .write target _ => target = fd
    | _, _ => False
  next
    | .free, .openFile _ _, fd => .opened fd
    | phase, _, _ => phase

section Follows

open Program

variable (cfg : LogCfgInfo)

theorem writeOpenLogFile_flushes (fd : Nat) (buf : List UInt8) :
    Follows (flushProtocol cfg buf) (flushEnds cfg) (.ready fd) (writeOpenLogFile cfg fd buf) := by
  refine follows_call ⟨rfl, rfl⟩ fun written => follows_call rfl fun (fileInfo : Option Nat) => ?_
  refine follows_ite ?_ ?_
  · intro full
    refine follows_call ⟨rfl, full⟩ fun closed => follows_call ⟨rfl, rfl⟩ fun renamed => ?_
    exact follows_call trivial fun posted => follows_pure rfl
  · intro fits
    exact follows_pure ⟨rfl, Nat.le_of_not_lt fits⟩

theorem writeLogToFile_flushes (logFd : Option Nat) (buf : List UInt8) :
    Follows (flushProtocol cfg buf) (flushEnds cfg) (.looking logFd) (writeLogToFile cfg logFd buf) := by
  cases logFd with
  | some fd =>
      refine follows_call rfl fun (found : Int) => follows_ite ?_ ?_
      · intro missing
        simp only [flushProtocol, FlushPhase.accessed, if_neg missing]
        exact follows_call rfl fun closed => follows_pure rfl
      · intro there
        simp only [flushProtocol, FlushPhase.accessed, if_pos (not_not.mp there)]
        exact writeOpenLogFile_flushes cfg fd buf
  | none =>
      refine follows_call ⟨rfl, rfl⟩ fun (opened : Option Nat) => ?_
      cases opened with
      | none => exact follows_pure rfl
      | some fd => exact writeOpenLogFile_flushes cfg fd buf

theorem myLogArchiveRound_stores (tm : LocalTime) {index : Nat} (small : index < 20) :
    Follows (storeProtocol cfg) (fun _ _ => True) .free (myLogArchiveRound cfg tm index) := by
  have tars : Follows (storeProtocol cfg) (fun _ phase => phase = .free) .free
      (myLogTarLogFile cfg tm index) := by
    refine follows_call ⟨rfl, tm, rfl⟩ fun (renamed : Int) => follows_ite ?_ ?_
    · exact fun _ => follows_call (Or.inl rfl) fun removed => follows_pure rfl
    · intro _
      refine follows_call ⟨index, small, rfl⟩ fun packed => ?_
      exact follows_call (Or.inr ⟨tm, rfl⟩) fun removed => follows_pure rfl
  refine follows_bind tars ?_
  rintro _ _ rfl
  cases nextIndex cfg index with
  | none => exact follows_pure trivial
  | some next =>
      have stores : Follows (storeProtocol cfg) (fun _ _ => True) .free (myLogWriteIdxFile cfg next) := by
        refine follows_call ⟨rfl, rfl⟩ fun (opened : Option Nat) => ?_
        cases opened with
        | none => exact follows_pure trivial
        | some fd => exact follows_call rfl fun written => follows_pure trivial
      exact follows_bind stores fun _ _ _ => follows_pure trivial

end Follows

/-! ## The files -/

/-- The bytes of the log file.  There are none if there is no log file. -/
def LogCfgInfo.logData (cfg : LogCfgInfo) (store : FileStore (List UInt8)) : List UInt8 :=
  (store.dataAt cfg.logName).getD []

/-- The names under which files are written: the log file, the index and the archives. -/
def InUse (cfg : LogCfgInfo) (path : List UInt8) : Prop :=
  path = cfg.logName ∨ path = cfg.logIdxFile ∨ Exists fun index => index < 20 ∧ path = compressFile cfg index

/-- Nobody writes to the generations that were rotated. -/
structure Shelved (cfg : LogCfgInfo) (store : FileStore (List UInt8)) (rotated : List Nat) : Prop where
  below : forall generation, generation ∈ rotated -> generation < store.created
  notInUse : forall generation, generation ∈ rotated -> forall path, InUse cfg path ->
    store.entry path ≠ some generation

/-- What a thread in this phase can rely on, if the log file had at most `bound` bytes before its
flush and `length` bytes are flushed. -/
def FlushPhase.Holds (cfg : LogCfgInfo) (store : FileStore (List UInt8)) (bound length : Nat) :
    FlushPhase -> Prop
  | .looking (some fd) | .ready fd =>
      store.OpenOn fd cfg.logName true ∧ (cfg.logData store).length ≤ bound
  | .looking none => (cfg.logData store).length ≤ bound
  | .written fd => store.OpenOn fd cfg.logName true ∧ (cfg.logData store).length ≤ bound + length
  | .measured fd size => store.OpenOn fd cfg.logName true ∧
      (cfg.logData store).length ≤ bound + length ∧ size = (cfg.logData store).length
  | .closed => (store.entry cfg.logName).isSome ∧ (cfg.logData store).length ≤ bound + length ∧
      cfg.size.toNat < (cfg.logData store).length
  | .renamed | .posted => store.entry cfg.logName = none
  | .missing _ | .failed => False

def StorePhase.Holds (cfg : LogCfgInfo) (store : FileStore (List UInt8)) : StorePhase -> Prop
  | .free => True
  | .storing fd => store.OpenOn fd cfg.logIdxFile false

/-- The files while a flush and a round of the archiver are in these phases. -/
structure Depot (cfg : LogCfgInfo) (bound length : Nat) (store : FileStore (List UInt8))
    (rotated : List Nat) (flush : FlushPhase) (stores : StorePhase) : Prop where
  linked : store.Linked
  shelved : Shelved cfg store rotated
  flush : flush.Holds cfg store bound length
  stores : stores.Holds cfg store

/-- What a call in `WriteLogToFile` is for the journal of the records. -/
def LogOp.events : LogOp -> List (JournalEvent (List UInt8))
  | .write _ _ => [.flush]
  | .rename _ _ => [.close]
  | _ => []

/-- What a call of the flushing thread does to the log file and to the rotated generations. -/
inductive FlushEffect (cfg : LogCfgInfo) (bound : Nat) (buf : List UInt8)
    (store after : FileStore (List UInt8)) (rotated later : List Nat) :
    List (JournalEvent (List UInt8)) -> Bool -> Bool -> Prop where
  | quiet {flushed} (same : later = rotated) (log : cfg.logData after = cfg.logData store) :
      FlushEffect cfg bound buf store after rotated later [] flushed flushed
  | appends (same : later = rotated) (log : cfg.logData after = cfg.logData store ++ buf) :
      FlushEffect cfg bound buf store after rotated later [.flush] false true
  | rotates (generation : Nat) (added : later = rotated ++ [generation])
      (content : after.content generation = cfg.logData store) (log : cfg.logData after = [])
      (large : cfg.size.toNat < (cfg.logData store).length)
      (small : (cfg.logData store).length ≤ bound + buf.length) (same : after.content = store.content) :
      FlushEffect cfg bound buf store after rotated later [.close] true true

section Depot

variable {archive : List UInt8 -> Option (List UInt8) -> List UInt8} {text : List UInt8}
  {base cfg : LogCfgInfo} {store after : FileStore (List UInt8)} {rotated : List Nat}
  {bound length : Nat}

theorem FlushEffect.grows {buf : List UInt8} {later : List Nat} {events : List (JournalEvent (List UInt8))}
    {flushed flushedNext : Bool}
    (effect : FlushEffect cfg bound buf store after rotated later events flushed flushedNext) :
    rotated <+: later := by
  cases effect with
  | quiet same | appends same => exact same.symm ▸ List.prefix_refl _
  | rotates generation added => exact added.symm ▸ List.prefix_append _ _

theorem inUse_ne_logBakName (paths : PathsCreated text base cfg) {path : List UInt8}
    (inUse : InUse cfg path) : path ≠ cfg.logBakName := by
  rcases inUse with rfl | rfl | ⟨index, small, rfl⟩
  · exact paths.logBakName_ne_logName.symm
  · exact paths.logBakName_ne_logIdxFile.symm
  · exact paths.compressFile_ne_logBakName small

theorem inUse_ne_timeLogFile (paths : PathsCreated text base cfg) {path : List UInt8}
    (inUse : InUse cfg path) (tm : LocalTime) : path ≠ timeLogFile cfg tm := by
  rcases inUse with rfl | rfl | ⟨index, small, rfl⟩
  · exact (PathsCreated.timeLogFile_ne_logName tm).symm
  · exact (paths.timeLogFile_ne_logIdxFile tm).symm
  · exact PathsCreated.compressFile_ne_timeLogFile tm small

/-- A name in use may go, or it may get a new file. -/
theorem Shelved.step (shelved : Shelved cfg store rotated) (created : store.created ≤ after.created)
    (entries : forall path, InUse cfg path -> after.entry path = store.entry path ∨
      after.entry path = none ∨ after.entry path = some store.created) : Shelved cfg after rotated where
  below := fun generation member => Nat.lt_of_lt_of_le (shelved.below generation member) created
  notInUse := by
    intro generation member path inUse isEntry
    rcases entries path inUse with same | gone | new
    · exact shelved.notInUse generation member path inUse (same ▸ isEntry)
    · rw [gone] at isEntry
      cases isEntry
    · rw [new] at isEntry
      exact Nat.ne_of_gt (shelved.below generation member) (Option.some.inj isEntry)

theorem logData_none (absent : store.entry cfg.logName = none) : cfg.logData store = [] := by
  rw [LogCfgInfo.logData, FileStore.dataAt, absent]
  rfl

theorem logData_some {generation : Nat} (isLog : store.entry cfg.logName = some generation) :
    cfg.logData store = store.content generation := by
  rw [LogCfgInfo.logData, FileStore.dataAt, isLog]
  rfl

/-- A step of the archiver that leaves the log file alone. -/
theorem FlushPhase.Holds.frame {phase : FlushPhase} (holds : phase.Holds cfg store bound length)
    (opens : forall fd, store.OpenOn fd cfg.logName true -> after.OpenOn fd cfg.logName true)
    (entry : after.entry cfg.logName = store.entry cfg.logName)
    (log : cfg.logData after = cfg.logData store) : phase.Holds cfg after bound length := by
  cases phase with
  | looking logFd =>
      cases logFd with
      | none =>
          rw [Holds, log]
          exact holds
      | some fd =>
          rw [Holds, log]
          exact ⟨opens fd holds.1, holds.2⟩
  | ready fd | written fd | measured fd size =>
      rw [Holds, log]
      exact ⟨opens fd holds.1, holds.2⟩
  | closed =>
      rw [Holds, log, entry]
      exact holds
  | renamed | posted => exact entry.trans holds
  | missing | failed => exact holds

theorem StorePhase.Holds.frame {phase : StorePhase} (holds : phase.Holds cfg store)
    (opens : forall fd, store.OpenOn fd cfg.logIdxFile false -> after.OpenOn fd cfg.logIdxFile false) :
    phase.Holds cfg after := by
  cases phase with
  | free => trivial
  | storing fd => exact opens fd holds

/-- The files after a call that writes to no rotated generation. -/
structure Depot.Kept (cfg : LogCfgInfo) (bound length : Nat) (store after : FileStore (List UInt8))
    (rotated later : List Nat) (flush : FlushPhase) (stores : StorePhase) : Prop where
  depot : Depot cfg bound length after later flush stores
  contents : forall generation, generation ∈ rotated -> after.content generation = store.content generation
  bak : forall generation, after.entry cfg.logBakName = some generation ->
    store.entry cfg.logBakName = some generation ∨ generation ∈ later

/-! ### Calls of the flushing thread -/

section Writer

variable {stores : StorePhase} {fd size : Nat}

theorem Depot.opens (paths : PathsCreated text base cfg)
    (depot : Depot cfg bound length store rotated (.looking none) stores) :
    let opened := store.openPath cfg.logName ⟨true, false, true⟩
    opened.1 = some store.opened ∧ cfg.logData opened.2 = cfg.logData store ∧
      Depot.Kept cfg bound length store opened.2 rotated rotated (.ready store.opened) stores := by
  intro opened
  rcases store.openOn_openPath cfg.logName ⟨true, false, true⟩ (Or.inl rfl) with ⟨isFd, opens⟩
  have log : cfg.logData opened.2 = cfg.logData store := FileStore.dataAt_openPath_self rfl
  have bak : opened.2.entry cfg.logBakName = store.entry cfg.logBakName :=
    store.entry_openPath _ paths.logBakName_ne_logName
  refine ⟨isFd, log, ⟨depot.linked.openPath _ _, ?_, ⟨opens, log.symm ▸ depot.flush⟩, ?_⟩, ?_,
    fun generation isBak => Or.inl (bak ▸ isBak)⟩
  · refine depot.shelved.step (FileStore.created_openPath _) fun path _ => ?_
    by_cases same : path = cfg.logName
    · subst same
      have ways : opened.2.entry cfg.logName = store.entry cfg.logName ∨ store.entry cfg.logName = none ∧
          opened.2.entry cfg.logName = some store.created ∧ store.created < opened.2.created :=
        FileStore.entry_openPath_self rfl
      rcases ways with kept | ⟨_, new, _⟩
      · exact Or.inl kept
      · exact Or.inr (Or.inr new)
    · exact Or.inl (store.entry_openPath _ same)
  · exact depot.stores.frame fun index isOpen => isOpen.openPath _ paths.logName_ne_logIdxFile.symm
  · exact fun generation member => FileStore.content_openPath rfl (depot.shelved.below generation member)

theorem Depot.writes (depot : Depot cfg bound length store rotated (.ready fd) stores)
    (bytes : List UInt8) (isLength : bytes.length = length) :
    cfg.logData (store.write fd bytes) = cfg.logData store ++ bytes ∧
      Depot.Kept cfg bound length store (store.write fd bytes) rotated rotated (.written fd) stores := by
  rcases depot.flush with ⟨opens, small⟩
  have log : cfg.logData (store.write fd bytes) = cfg.logData store ++ bytes := by
    rw [LogCfgInfo.logData, opens.dataAt_write, Option.getD_some]
    rfl
  have entries : (store.write fd bytes).entry = store.entry := FileStore.entry_write bytes
  refine ⟨log, ⟨depot.linked.write fd bytes, ?_, ⟨opens.write fd bytes, ?_⟩, ?_⟩, ?_,
    fun generation isBak => Or.inl (entries ▸ isBak)⟩
  · refine depot.shelved.step (Nat.le_of_eq (FileStore.created_write bytes).symm) fun path _ => Or.inl ?_
    exact congrFun entries path
  · rw [log, List.length_append, isLength]
    exact Nat.add_le_add_right small length
  · exact depot.stores.frame fun index isOpen => isOpen.write fd bytes
  · exact fun generation member =>
      opens.content_write bytes (depot.shelved.notInUse generation member _ (Or.inl rfl))

theorem Depot.closes (paths : PathsCreated text base cfg)
    (depot : Depot cfg bound length store rotated (.measured fd size) stores)
    (large : cfg.size.toNat < size) :
    Depot.Kept cfg bound length store (store.close fd) rotated rotated .closed stores := by
  rcases depot.flush with ⟨opens, small, isSize⟩
  rcases opens.isFile with ⟨file, _, _, isEntry⟩
  refine ⟨⟨depot.linked.of_entries rfl rfl, ?_, ⟨?_, small, isSize ▸ large⟩, ?_⟩, fun _ _ => rfl,
    fun _ isBak => Or.inl isBak⟩
  · exact depot.shelved.step (Nat.le_refl _) fun path _ => Or.inl rfl
  · exact Option.isSome_iff_exists.mpr ⟨file.inode, isEntry⟩
  · refine depot.stores.frame fun index isOpen => isOpen.close ?_
    exact isOpen.ne opens depot.linked paths.logName_ne_logIdxFile.symm

/-- The log file becomes a generation. -/
theorem Depot.rotates (paths : PathsCreated text base cfg)
    (depot : Depot cfg bound length store rotated .closed stores) :
    let renamed := (store.rename cfg.logName cfg.logBakName).2
    Exists fun generation => store.entry cfg.logName = some generation ∧
      renamed.content generation = cfg.logData store ∧ cfg.logData renamed = [] ∧
      Depot.Kept cfg bound length store renamed rotated (rotated ++ [generation]) .renamed stores := by
  intro renamed
  rcases depot.flush with ⟨present, _, _⟩
  rcases Option.isSome_iff_exists.mp present with ⟨generation, isLog⟩
  have entries : forall path, path ≠ cfg.logBakName -> renamed.entry path =
      if path = cfg.logName then none else store.entry path :=
    fun path different => (FileStore.entry_rename isLog).trans (if_neg different)
  have gone : renamed.entry cfg.logName = none :=
    (entries _ paths.logBakName_ne_logName.symm).trans (if_pos rfl)
  have shelved : Shelved cfg renamed rotated := by
    refine depot.shelved.step (Nat.le_of_eq FileStore.created_rename.symm) fun path inUse => ?_
    rw [entries path (inUse_ne_logBakName paths inUse)]
    split
    · exact Or.inr (Or.inl rfl)
    · exact Or.inl rfl
  refine ⟨generation, isLog, ?_, logData_none gone, ⟨depot.linked.rename _ _, ⟨?_, ?_⟩, gone, ?_⟩, ?_, ?_⟩
  · rw [FileStore.content_rename, logData_some isLog]
  · intro other member
    rcases List.mem_append.mp member with old | new
    · exact shelved.below other old
    · rw [List.mem_singleton.mp new, FileStore.created_rename]
      exact depot.linked.below _ _ isLog
  · intro other member path inUse isEntry
    rcases List.mem_append.mp member with old | new
    · exact shelved.notInUse other old path inUse isEntry
    · rw [entries path (inUse_ne_logBakName paths inUse), List.mem_singleton.mp new] at isEntry
      split at isEntry
      next => cases isEntry
      next different => exact different (depot.linked.injective _ _ _ isEntry isLog)
  · refine depot.stores.frame fun index isOpen => isOpen.rename ?_ paths.logBakName_ne_logIdxFile.symm
    exact paths.logName_ne_logIdxFile.symm
  · exact fun other _ => congrFun FileStore.content_rename other
  · intro other isBak
    have isNew : some generation = some other := by
      rw [← isBak]
      exact ((FileStore.entry_rename isLog).trans (if_pos rfl)).symm
    exact Or.inr (List.mem_append.mpr (Or.inr (List.mem_singleton.mpr (Option.some.inj isNew).symm)))

/-- Every call of a flush. -/
theorem Depot.writerOp (paths : PathsCreated text base cfg) {files after : LogFiles} {history : RotationHistory}
    {phase : FlushPhase} {buf : List UInt8} {op : LogOp} {answer : op.Answer}
    (depot : Depot cfg bound buf.length files.store history.rotated phase stores)
    (allowed : (flushProtocol cfg buf).allowed phase op)
    (isAnswer : (Logger.files archive).answer files op = some (answer, after)) :
    let later := (history.observe cfg files.store op).rotated
    let next := (flushProtocol cfg buf).next phase op answer
    Depot.Kept cfg bound buf.length files.store after.store history.rotated later next stores ∧
      FlushEffect cfg bound buf files.store after.store history.rotated later op.events phase.flushed
        next.flushed := by
  intro later next
  cases phase with
  | looking logFd =>
      cases logFd with
      | some fd =>
          cases op with
          | access path =>
              have isLog : path = cfg.logName := allowed
              subst isLog
              rcases Prod.mk.inj (Option.some.inj isAnswer) with ⟨isFound, rfl⟩
              rcases depot.flush.1.isFile with ⟨file, _, _, isEntry⟩
              rw [isEntry] at isFound
              subst isFound
              exact ⟨⟨⟨depot.linked, depot.shelved, depot.flush, depot.stores⟩, fun _ _ => rfl,
                fun _ isBak => Or.inl isBak⟩, .quiet rfl rfl⟩
          | _ => cases allowed
      | none =>
          cases op with
          | openFile path flags =>
              rcases allowed with ⟨rfl, rfl⟩
              simp only [Logger.files, if_neg paths.logName_ne_nil] at isAnswer
              rcases Prod.mk.inj (Option.some.inj isAnswer) with ⟨isFd, rfl⟩
              rcases depot.opens paths with ⟨opened, log, kept⟩
              rw [opened] at isFd
              subst isFd
              exact ⟨kept, .quiet rfl log⟩
          | _ => cases allowed
  | missing fd => exact depot.flush.elim
  | ready fd =>
      cases op with
      | write target bytes =>
          rcases allowed with ⟨rfl, rfl⟩
          rcases depot.flush.1.isFile with ⟨file, isFile, _, _⟩
          simp only [Logger.files, isFile] at isAnswer
          rcases Prod.mk.inj (Option.some.inj isAnswer) with ⟨_, rfl⟩
          rcases depot.writes bytes rfl with ⟨log, kept⟩
          exact ⟨kept, .appends rfl log⟩
      | _ => cases allowed
  | written fd =>
      cases op with
      | fstat target =>
          have isFd : target = fd := allowed
          subst isFd
          rcases Prod.mk.inj (Option.some.inj isAnswer) with ⟨isSize, rfl⟩
          subst isSize
          rcases depot.flush with ⟨opens, small⟩
          exact ⟨⟨⟨depot.linked, depot.shelved, ⟨opens, small, opens.size⟩, depot.stores⟩, fun _ _ => rfl,
            fun _ isBak => Or.inl isBak⟩, .quiet rfl rfl⟩
      | _ => cases allowed
  | measured fd size =>
      cases op with
      | close target =>
          rcases allowed with ⟨rfl, large⟩
          rcases Prod.mk.inj (Option.some.inj isAnswer) with ⟨_, rfl⟩
          exact ⟨depot.closes paths large, .quiet rfl rfl⟩
      | _ => cases allowed
  | closed =>
      cases op with
      | rename source target =>
          rcases allowed with ⟨rfl, rfl⟩
          rcases Prod.mk.inj (Option.some.inj isAnswer) with ⟨_, rfl⟩
          rcases depot.rotates paths with ⟨generation, isLog, content, log, kept⟩
          have isLater : later = history.rotated ++ [generation] := by
            simp only [later, RotationHistory.observe, if_neg paths.logBakName_ne_logName.symm, isLog,
              Option.toList_some]
          rw [isLater]
          exact ⟨kept, .rotates generation rfl content log depot.flush.2.2 depot.flush.2.1
            FileStore.content_rename⟩
      | _ => cases allowed
  | renamed =>
      cases op with
      | semPost =>
          rcases Prod.mk.inj (Option.some.inj isAnswer) with ⟨_, rfl⟩
          exact ⟨⟨⟨depot.linked, depot.shelved, depot.flush, depot.stores⟩, fun _ _ => rfl,
            fun _ isBak => Or.inl isBak⟩, .quiet rfl rfl⟩
      | _ => cases allowed
  | posted | failed => cases op <;> cases allowed

end Writer

/-! ### Calls of the archiver -/

section Archiver

variable {flush : FlushPhase} {stores later : StorePhase}

/-- The log file and the rotated generations are left alone. -/
structure Aside (cfg : LogCfgInfo) (store after : FileStore (List UInt8)) : Prop where
  linked : after.Linked
  created : store.created ≤ after.created
  entries : forall path, InUse cfg path -> after.entry path = store.entry path ∨
    after.entry path = some store.created
  opens : forall fd, store.OpenOn fd cfg.logName true -> after.OpenOn fd cfg.logName true
  entry : after.entry cfg.logName = store.entry cfg.logName
  log : cfg.logData after = cfg.logData store
  bak : forall generation, after.entry cfg.logBakName = some generation ->
    store.entry cfg.logBakName = some generation
  contents : forall generation, generation < store.created ->
    (forall path, InUse cfg path -> store.entry path ≠ some generation) ->
    after.content generation = store.content generation

theorem Depot.aside (depot : Depot cfg bound length store rotated flush stores) (aside : Aside cfg store after)
    (holds : later.Holds cfg after) : Depot.Kept cfg bound length store after rotated rotated flush later := by
  refine ⟨⟨aside.linked, ?_, depot.flush.frame aside.opens aside.entry aside.log, holds⟩, ?_,
    fun generation isBak => Or.inl (aside.bak generation isBak)⟩
  · exact depot.shelved.step aside.created fun path inUse => (aside.entries path inUse).imp_right Or.inr
  · exact fun generation member =>
      aside.contents generation (depot.shelved.below generation member) (depot.shelved.notInUse generation member)

theorem aside_rename (paths : PathsCreated text base cfg) (linked : store.Linked) (tm : LocalTime) :
    Aside cfg store (store.rename cfg.logBakName (timeLogFile cfg tm)).2 := by
  have entries : forall path, InUse cfg path ->
      (store.rename cfg.logBakName (timeLogFile cfg tm)).2.entry path = store.entry path := by
    intro path inUse
    cases isBak : store.entry cfg.logBakName with
    | none => rw [FileStore.rename_absent isBak]
    | some generation =>
        rw [FileStore.entry_rename isBak, if_neg (inUse_ne_timeLogFile paths inUse tm),
          if_neg (inUse_ne_logBakName paths inUse)]
  have entry := entries cfg.logName (Or.inl rfl)
  refine ⟨linked.rename _ _, Nat.le_of_eq FileStore.created_rename.symm,
    fun path inUse => Or.inl (entries path inUse), fun fd isOpen => isOpen.rename ?_ ?_, entry, ?_, ?_, ?_⟩
  · exact paths.logBakName_ne_logName.symm
  · exact (PathsCreated.timeLogFile_ne_logName tm).symm
  · rw [LogCfgInfo.logData, FileStore.dataAt, entry, FileStore.content_rename]
    rfl
  · intro generation isBak
    cases present : store.entry cfg.logBakName with
    | none =>
        rw [FileStore.rename_absent present, present] at isBak
        cases isBak
    | some moved =>
        rw [FileStore.entry_rename present, if_neg (paths.timeLogFile_ne_logBakName tm).symm, if_pos rfl] at isBak
        cases isBak
  · exact fun generation _ _ => congrFun FileStore.content_rename generation

theorem aside_remove (linked : store.Linked) {path : List UInt8} (different : forall name, InUse cfg name ->
    name ≠ path) : Aside cfg store (store.remove path).2 := by
  have entries : forall name, InUse cfg name -> (store.remove path).2.entry name = store.entry name :=
    fun name inUse => FileStore.entry_remove.trans (if_neg (different name inUse))
  have notLog := different cfg.logName (Or.inl rfl)
  refine ⟨linked.remove _, Nat.le_of_eq FileStore.created_remove.symm,
    fun name inUse => Or.inl (entries name inUse), fun fd isOpen => isOpen.remove notLog,
    entries _ (Or.inl rfl), ?_, ?_, ?_⟩
  · rw [LogCfgInfo.logData, FileStore.dataAt_remove notLog]
    rfl
  · intro generation isBak
    rw [FileStore.entry_remove] at isBak
    split at isBak
    · cases isBak
    · exact isBak
  · exact fun generation _ _ => congrFun FileStore.content_remove generation

theorem aside_tar (paths : PathsCreated text base cfg) (linked : store.Linked) {index : Nat}
    (small : index < 20) (bytes : List UInt8) :
    Aside cfg store (store.put (compressFile cfg index) bytes) := by
  have notLog : cfg.logName ≠ compressFile cfg index := (PathsCreated.compressFile_ne_logName index).symm
  have entry := store.entry_put bytes notLog
  refine ⟨linked.put _ _, FileStore.created_put bytes, fun path _ => ?_, fun fd isOpen => isOpen.put bytes notLog,
    entry, ?_, fun generation isBak => ?_, ?_⟩
  · by_cases same : path = compressFile cfg index
    · subst same
      unfold FileStore.put
      split
      · exact Or.inl rfl
      · exact Or.inr ((FileStore.entry_create bytes).trans (if_pos rfl))
    · exact Or.inl (store.entry_put bytes same)
  · rw [LogCfgInfo.logData, FileStore.dataAt_put linked, if_neg notLog]
    rfl
  · exact (store.entry_put bytes (paths.compressFile_ne_logBakName small).symm).symm.trans isBak
  · exact fun generation old notInUse =>
      FileStore.content_put bytes old (notInUse _ (Or.inr (Or.inr ⟨index, small, rfl⟩)))

theorem aside_openIdx (paths : PathsCreated text base cfg) (linked : store.Linked) :
    Aside cfg store (store.openPath cfg.logIdxFile ⟨false, false, false⟩).2 := by
  have notLog := paths.logName_ne_logIdxFile
  refine ⟨linked.openPath _ _, FileStore.created_openPath _, fun path _ => Or.inl ?_,
    fun fd isOpen => isOpen.openPath _ notLog, store.entry_openPath _ notLog, ?_, fun generation isBak => ?_, ?_⟩
  · unfold FileStore.openPath
    split <;> rfl
  · rw [LogCfgInfo.logData, FileStore.dataAt_openPath linked _ notLog]
    rfl
  · exact (store.entry_openPath _ paths.logBakName_ne_logIdxFile).symm.trans isBak
  · exact fun generation old _ => FileStore.content_openPath rfl old

theorem aside_writeIdx (paths : PathsCreated text base cfg) (linked : store.Linked) {fd : Nat}
    (isOpen : store.OpenOn fd cfg.logIdxFile false) (bytes : List UInt8) :
    Aside cfg store (store.write fd bytes) := by
  have entries : (store.write fd bytes).entry = store.entry := FileStore.entry_write bytes
  rcases isOpen.isFile with ⟨file, isFile, _, isEntry⟩
  refine ⟨linked.write fd bytes, Nat.le_of_eq (FileStore.created_write bytes).symm,
    fun path _ => Or.inl (congrFun entries path), fun other opens => opens.write fd bytes,
    congrFun entries _, ?_, fun generation isBak => entries ▸ isBak, ?_⟩
  · have notLog : store.entry cfg.logName ≠ some file.inode := fun isLog =>
      paths.logName_ne_logIdxFile (linked.injective _ _ _ isLog isEntry)
    rw [LogCfgInfo.logData, FileStore.dataAt_write isFile bytes notLog]
    rfl
  · exact fun generation _ notInUse => isOpen.content_write bytes (notInUse _ (Or.inr (Or.inl rfl)))

/-- Every call of a round of the archiver. -/
theorem Depot.archiverOp (paths : PathsCreated text base cfg) {files after : LogFiles}
    {history : RotationHistory} {op : LogOp} {answer : op.Answer}
    (depot : Depot cfg bound length files.store history.rotated flush stores)
    (allowed : (storeProtocol cfg).allowed stores op)
    (isAnswer : (Logger.files archive).answer files op = some (answer, after)) :
    Depot.Kept cfg bound length files.store after.store history.rotated history.rotated flush
        ((storeProtocol cfg).next stores op answer) ∧
      cfg.logData after.store = cfg.logData files.store ∧
      (history.observe cfg files.store op).rotated = history.rotated := by
  have linked := depot.linked
  cases stores with
  | free =>
      cases op with
      | rename source target =>
          rcases allowed with ⟨rfl, tm, rfl⟩
          rcases Prod.mk.inj (Option.some.inj isAnswer) with ⟨_, rfl⟩
          have aside := aside_rename paths linked tm
          refine ⟨depot.aside aside trivial, aside.log, ?_⟩
          simp only [RotationHistory.observe, if_true]
          split <;> rfl
      | remove path =>
          rcases Prod.mk.inj (Option.some.inj isAnswer) with ⟨_, rfl⟩
          have aside : Aside cfg files.store (files.store.remove path).2 := by
            refine aside_remove linked fun name inUse => ?_
            rcases allowed with rfl | ⟨tm, rfl⟩
            · exact inUse_ne_logBakName paths inUse
            · exact inUse_ne_timeLogFile paths inUse tm
          exact ⟨depot.aside aside trivial, aside.log, rfl⟩
      | tar target source =>
          rcases allowed with ⟨index, small, rfl⟩
          rcases Prod.mk.inj (Option.some.inj isAnswer) with ⟨_, rfl⟩
          have aside : Aside cfg files.store (files.store.put (compressFile cfg index) _) :=
            aside_tar paths linked small (archive source (files.store.dataAt source))
          exact ⟨depot.aside aside trivial, aside.log, rfl⟩
      | openFile path flags =>
          rcases allowed with ⟨rfl, rfl⟩
          simp only [Logger.files, if_neg paths.logIdxFile_ne_nil] at isAnswer
          rcases Prod.mk.inj (Option.some.inj isAnswer) with ⟨isFd, rfl⟩
          subst isFd
          have aside := aside_openIdx paths linked
          refine ⟨depot.aside aside ?_, aside.log, rfl⟩
          cases isEntry : files.store.entry cfg.logIdxFile with
          | none =>
              have unopened : (files.store.openPath cfg.logIdxFile ⟨false, false, false⟩).1 = none := by
                simp only [FileStore.openPath, isEntry]
                rfl
              simp only [storeProtocol, unopened]
              trivial
          | some idx =>
              have there : (files.store.entry cfg.logIdxFile).isSome := Option.isSome_iff_exists.mpr ⟨idx, isEntry⟩
              rcases files.store.openOn_openPath cfg.logIdxFile ⟨false, false, false⟩ (Or.inr there) with
                ⟨opened, opens⟩
              simp only [storeProtocol, opened]
              exact opens
      | _ => cases allowed
  | storing fd =>
      cases op with
      | write target bytes =>
          have isFd : target = fd := allowed
          subst isFd
          have isOpen : files.store.OpenOn target cfg.logIdxFile false := depot.stores
          rcases isOpen.isFile with ⟨file, isFile, _, _⟩
          simp only [Logger.files, isFile] at isAnswer
          rcases Prod.mk.inj (Option.some.inj isAnswer) with ⟨_, rfl⟩
          have aside := aside_writeIdx paths linked isOpen bytes
          exact ⟨depot.aside aside (isOpen.write target bytes), aside.log, rfl⟩
      | _ => cases allowed

end Archiver
end Depot

end Logger
end V2x
