import Mathlib.Data.List.Nodup
import V2x.Foundations.TransitionSystem
import V2x.Logger.Files

namespace V2x
namespace Logger

open Foundations

/-!
# Generations of the log file

A thread that finds the log file too large renames it to the backup name and
posts `g_timedSem`.  The archiver takes the semaphore and moves the file on to
a name with the time, under which it is packed.  The threads run the functions
of the logger call by call, and the calls of the two come in any order.

There is one backup name.  A rotation that comes before the archiver has moved
the last generation takes its place, and one archive round finds no file.
-/

/-! ## The threads -/

inductive Archiver where
  -- in `sem_timedwait`
  | waiting
  -- in `WriteLogToCache(NULL, 0)` after a timeout
  | ticking
  | archiving (rest : LogProgram (Option Nat))

/-- The generations that were renamed to the backup name, to a name with the time, and into
an archive, and the number of rounds without a generation. -/
structure RotationHistory where
  rotated : List Nat
  moved : List Nat
  archived : List Nat
  emptyRounds : Nat

/-- A generation is known by the number of its file. -/
def RotationHistory.observe (history : RotationHistory) (cfg : LogCfgInfo)
    (store : FileStore (List UInt8)) : LogOp -> RotationHistory
  | .rename source _ =>
      if source = cfg.logBakName then
        match store.entry cfg.logBakName with
        | none => { history with emptyRounds := history.emptyRounds + 1 }
        | some generation => { history with moved := history.moved ++ [generation] }
      else { history with rotated := history.rotated ++ (store.entry source).toList }
  | .tar _ timeLogFile =>
      { history with archived := history.archived ++ (store.entry timeLogFile).toList }
  | _ => history

/-- The writer is the thread in `WriteLogToFile`, which holds `g_logMutex`. -/
structure RotationState where
  files : LogFiles
  logFd : Option Nat
  writer : Option (LogProgram (Option Nat))
  archiver : Archiver
  index : Nat
  history : RotationHistory

inductive RotationLabel where
  -- a logging thread, or the archiver after a timeout, flushes the cache
  | flush (buf : List UInt8)
  | writerCall
  | writerReturn
  | timeout
  | ticked
  | wake (tm : LocalTime)
  | archiverCall
  | archiverReturn

section Machine

variable (archive : List UInt8 -> Option (List UInt8) -> List UInt8) (cfg : LogCfgInfo)

/-- One call of one of the threads. -/
def RotationState.call (state : RotationState) (op : LogOp) : Option (op.Answer × RotationState) :=
  ((Logger.files archive).answer state.files op).map (fun answered => (answered.1, { state with
    files := answered.2
    history := state.history.observe cfg state.files.store op }))

def rotationStep (state : RotationState) : RotationLabel -> Option RotationState
  | .flush buf =>
      match state.writer with
      | none => some { state with writer := some (writeLogToFile cfg state.logFd buf) }
      | some _ => none
  | .writerCall =>
      match state.writer with
      | some (.call op next) =>
          (state.call archive cfg op).map (fun done => { done.2 with writer := some (next done.1) })
      | _ => none
  | .writerReturn =>
      match state.writer with
      | some (.done logFd) => some { state with writer := none, logFd := logFd }
      | _ => none
  | .timeout =>
      match state.archiver with
      | .waiting => some { state with archiver := .ticking }
      | _ => none
  | .ticked =>
      match state.archiver with
      | .ticking => some { state with archiver := .waiting }
      | _ => none
  | .wake tm =>
      match state.archiver, state.files.sem with
      | .waiting, sem + 1 => some { state with
          files := { state.files with sem := sem }
          archiver := .archiving (myLogArchiveRound cfg tm state.index) }
      | _, _ => none
  | .archiverCall =>
      match state.archiver with
      | .archiving (.call op next) =>
          (state.call archive cfg op).map (fun done =>
            { done.2 with archiver := .archiving (next done.1) })
      | _ => none
  | .archiverReturn =>
      match state.archiver with
      | .archiving (.done (some index)) =>
          some { state with archiver := .waiting, index := index }
      | _ => none

def rotating : Machine RotationState RotationLabel where
  step := rotationStep archive cfg

/-- Nothing was rotated yet. -/
def RotationState.start (store : FileStore (List UInt8)) (index : Nat) : RotationState where
  files := ⟨store, 0, []⟩
  logFd := none
  writer := none
  archiver := .waiting
  index := index
  history := ⟨[], [], [], 0⟩

end Machine

/-! ## What is asked -/

namespace RotationState

/-- The generation under the backup name. -/
def pending (state : RotationState) (cfg : LogCfgInfo) : List Nat :=
  (state.files.store.entry cfg.logBakName).toList

/-- 1 if the writer has renamed the log file and its next call is `sem_post`. -/
def posting (state : RotationState) : Nat :=
  match state.writer with
  | some (.call .semPost _) => 1
  | _ => 0

/-- 1 if the archiver was woken and its next call is `rename`. -/
def woken (state : RotationState) : Nat :=
  match state.archiver with
  | .archiving (.call (.rename _ _) _) => 1
  | _ => 0

/-- Every rotated generation waits under the backup name, or it was moved.  The moved ones
are in the archives, each in one, but for the one that the current round is working on. -/
structure NothingLost (state : RotationState) (cfg : LogCfgInfo) : Prop where
  distinct : state.history.rotated.Nodup
  kept : state.history.rotated = state.history.moved ++ state.pending cfg
  archived : state.history.archived <+: state.history.moved
  settled : (forall rest, state.archiver ≠ .archiving rest) ->
    state.history.archived = state.history.moved
  noEmptyRound : state.history.emptyRounds = 0

/-- As many generations are pending as there are tokens in the semaphore, rounds that were
woken and have not yet renamed, and rotations that have not yet posted. -/
def Balanced (state : RotationState) (cfg : LogCfgInfo) : Prop :=
  (state.pending cfg).length = state.files.sem + state.woken + state.posting

end RotationState

/-- The next call of the writer renames the log file to the backup name. -/
def RotationState.renames (state : RotationState) : Bool :=
  match state.writer with
  | some (.call (.rename _ _) _) => true
  | _ => false

/-- Where the log file is renamed to the backup name, there is no file with that name. -/
def bakIsFree (cfg : LogCfgInfo) (state : RotationState) : RotationLabel -> Prop
  | .writerCall => state.renames = true -> state.files.store.entry cfg.logBakName = none
  | _ => True

instance (cfg : LogCfgInfo) (state : RotationState) :
    (label : RotationLabel) -> Decidable (bakIsFree cfg state label)
  | .writerCall => inferInstanceAs (Decidable (_ = true -> _ = none))
  | .flush _ | .writerReturn | .timeout | .ticked | .wake _ | .archiverCall | .archiverReturn =>
      inferInstanceAs (Decidable True)

/-! ## The protocols of the threads -/

/-- The log file may not be there; it is there; it was renamed. -/
inductive WriterPhase where
  | checking
  | present
  | posting
deriving DecidableEq

def WriterPhase.posts : WriterPhase -> Nat
  | .posting => 1
  | _ => 0

/-- After `access` has returned. -/
def WriterPhase.accessed (found : Int) : WriterPhase :=
  if found = 0 then .present else .checking

def WriterPhase.opened (logFd : Option Nat) : WriterPhase :=
  if logFd.isSome then .present else .checking

namespace WriterPhase

theorem posts_eq_zero {phase : WriterPhase} (notPosting : phase ≠ .posting) : phase.posts = 0 := by
  cases phase with
  | posting => exact absurd rfl notPosting
  | _ => rfl

theorem accessed_posts (found : Int) : (accessed found).posts = 0 := by
  unfold accessed
  split <;> rfl

theorem opened_posts (logFd : Option Nat) : (opened logFd).posts = 0 := by
  cases logFd <;> rfl

end WriterPhase

def writerProtocol (cfg : LogCfgInfo) : Protocol LogOp LogOp.Answer WriterPhase where
  allowed phase
    | .access path => phase ≠ .posting ∧ path = cfg.logName
    | .openFile path flags => phase ≠ .posting ∧ path = cfg.logName ∧ flags.create = true
    | .close _ | .write _ _ | .fstat _ => phase ≠ .posting
    | .rename source target => phase = .present ∧ source = cfg.logName ∧ target = cfg.logBakName
    | .semPost => phase = .posting
    | _ => False
  next phase
    | .access _, found => .accessed found
    | .openFile _ _, logFd => .opened logFd
    | .rename _ _, _ => .posting
    | .semPost, _ => .checking
    | _, _ => phase

inductive ArchiverPhase where
  | resting
  | woken (tm : LocalTime)
  | failed
  | moved (tm : LocalTime)
  | packed (tm : LocalTime)
  | storing

def ArchiverPhase.wakes : ArchiverPhase -> Nat
  | .woken _ => 1
  | _ => 0

/-- After `rename` to the name with the time has returned. -/
def ArchiverPhase.renamed (tm : LocalTime) (ret : Int) : ArchiverPhase :=
  if ret = 0 then .moved tm else .failed

def archiverProtocol (cfg : LogCfgInfo) : Protocol LogOp LogOp.Answer ArchiverPhase where
  allowed
    | .woken tm, .rename source target => source = cfg.logBakName ∧ target = timeLogFile cfg tm
    | .failed, .remove path => path = cfg.logBakName
    | .moved tm, .tar target source => source = timeLogFile cfg tm ∧
        Exists fun index => index < 20 ∧ target = compressFile cfg index
    | .packed tm, .remove path => path = timeLogFile cfg tm
    | .storing, .openFile path _ => path = cfg.logIdxFile
    | .storing, .write _ _ => True
    | _, _ => False
  next
    | .woken tm, .rename _ _, ret => .renamed tm ret
    | .moved tm, _, _ => .packed tm
    | _, _, _ => .storing

/-- A round ends with the next index. -/
def roundEnds (cfg : LogCfgInfo) (index : Option Nat) (phase : ArchiverPhase) : Prop :=
  phase = .storing ∧ Exists fun next => index = some next ∧ next < cfg.maxFileNum.toNat

section Follows

open Program

variable (cfg : LogCfgInfo)

theorem writeOpenLogFile_follows (fd : Nat) (buf : List UInt8) :
    Follows (writerProtocol cfg) (fun _ phase => phase ≠ .posting) .present
      (writeOpenLogFile cfg fd buf) := by
  have isPresent : WriterPhase.present ≠ .posting := nofun
  refine follows_call isPresent fun written => follows_call isPresent fun fileInfo => ?_
  refine follows_ite ?_ ?_
  · intro full
    refine follows_call isPresent fun closed => follows_call ⟨rfl, rfl, rfl⟩ fun renamed => ?_
    exact follows_call rfl fun posted => follows_pure nofun
  · exact fun _ => follows_pure nofun

theorem writeLogToFile_follows (logFd : Option Nat) (buf : List UInt8) :
    Follows (writerProtocol cfg) (fun _ phase => phase ≠ .posting) .checking
      (writeLogToFile cfg logFd buf) := by
  cases logFd with
  | some fd =>
      refine follows_call ⟨nofun, rfl⟩ fun (found : Int) => follows_ite ?_ ?_
      · intro missing
        simp only [writerProtocol, WriterPhase.accessed, if_neg missing]
        exact follows_call nofun fun closed => follows_pure nofun
      · intro notMissing
        simp only [writerProtocol, WriterPhase.accessed, if_pos (not_not.mp notMissing)]
        exact writeOpenLogFile_follows cfg fd buf
  | none =>
      refine follows_call ⟨nofun, rfl, rfl⟩ fun (opened : Option Nat) => ?_
      cases opened with
      | none => exact follows_pure nofun
      | some fd => exact writeOpenLogFile_follows cfg fd buf

theorem myLogArchiveRound_follows (tm : LocalTime) {index : Nat} (small : index < 20)
    (positive : 0 < cfg.maxFileNum.toNat) :
    Follows (archiverProtocol cfg) (roundEnds cfg) (.woken tm) (myLogArchiveRound cfg tm index) := by
  have nonzero : cfg.maxFileNum ≠ 0 := fun isZero => by
    rw [isZero] at positive
    exact absurd positive (by decide)
  have tars : Follows (archiverProtocol cfg) (fun _ phase => phase = .storing) (.woken tm)
      (myLogTarLogFile cfg tm index) := by
    refine follows_call ⟨rfl, rfl⟩ fun (renamed : Int) => follows_ite ?_ ?_
    · intro failed
      simp only [archiverProtocol, ArchiverPhase.renamed, if_neg failed]
      exact follows_call rfl fun removed => follows_pure rfl
    · intro succeeded
      simp only [archiverProtocol, ArchiverPhase.renamed, if_pos (not_not.mp succeeded)]
      refine follows_call ⟨rfl, index, small, rfl⟩ fun packed => ?_
      exact follows_call rfl fun removed => follows_pure rfl
  have stores : forall idx, Follows (archiverProtocol cfg) (fun _ phase => phase = .storing) .storing
      (myLogWriteIdxFile cfg idx) := by
    intro idx
    refine follows_call rfl fun (opened : Option Nat) => ?_
    cases opened with
    | none => exact follows_pure rfl
    | some fd => exact follows_call trivial fun written => follows_pure rfl
  refine follows_bind tars ?_
  rintro _ _ rfl
  simp only [nextIndex, if_neg nonzero]
  refine follows_bind (stores _) ?_
  rintro _ _ rfl
  exact follows_pure ⟨rfl, _, rfl, Nat.mod_lt _ positive⟩

end Follows

/-! ## What a step does -/

/-- The generation that the current round has moved and not yet packed. -/
def underWay (cfg : LogCfgInfo) (store : FileStore (List UInt8)) : ArchiverPhase -> List Nat
  | .moved tm => (store.entry (timeLogFile cfg tm)).toList
  | _ => []

/-- Each thread is in a phase of its protocol. -/
structure Threads (cfg : LogCfgInfo) (state : RotationState) (writer : WriterPhase)
    (archiver : ArchiverPhase) : Prop where
  writerAt : match state.writer with
    | none => writer = .checking
    | some rest => rest.Follows (writerProtocol cfg) (fun _ phase => phase ≠ .posting) writer
  archiverAt : match state.archiver with
    | .archiving rest => rest.Follows (archiverProtocol cfg) (roundEnds cfg) archiver
    | _ => archiver = .resting
  present : writer = .present -> (state.files.store.entry cfg.logName).isSome
  range : state.index < cfg.maxFileNum.toNat

/-- The log file keeps its number, or a new one is created. -/
structure LogKept (cfg : LogCfgInfo) (store after : FileStore (List UInt8)) : Prop where
  created : store.created ≤ after.created
  log : after.entry cfg.logName = store.entry cfg.logName ∨
    store.entry cfg.logName = none ∧ after.entry cfg.logName = some store.created ∧
      store.created < after.created

/-- The log file is renamed to the backup name. -/
structure Rotates (cfg : LogCfgInfo) (state next : RotationState) (generation : Nat) : Prop where
  log : state.files.store.entry cfg.logName = some generation
  logAfter : next.files.store.entry cfg.logName = none
  bak : next.files.store.entry cfg.logBakName = some generation
  times : forall tm, next.files.store.entry (timeLogFile cfg tm) =
    state.files.store.entry (timeLogFile cfg tm)
  created : next.files.store.created = state.files.store.created
  sem : next.files.sem = state.files.sem
  history : next.history =
    { state.history with rotated := state.history.rotated ++ [generation] }

/-- What any other step can do. -/
inductive Effect (cfg : LogCfgInfo) (state next : RotationState) :
    WriterPhase -> ArchiverPhase -> WriterPhase -> ArchiverPhase -> Prop
  | quiet {writer writer' archiver archiver'} (log : LogKept cfg state.files.store next.files.store)
      (bak : next.files.store.entry cfg.logBakName = state.files.store.entry cfg.logBakName)
      (sem : next.files.sem = state.files.sem) (history : next.history = state.history)
      (posts : writer'.posts = writer.posts) (wakes : archiver'.wakes = archiver.wakes)
      (working : underWay cfg next.files.store archiver' = underWay cfg state.files.store archiver)
      (failed : archiver' = .failed -> archiver = .failed) :
      Effect cfg state next writer archiver writer' archiver'
  | posts {archiver} (store : next.files.store = state.files.store)
      (sem : next.files.sem = state.files.sem + 1) (history : next.history = state.history) :
      Effect cfg state next .posting archiver .checking archiver
  | wakes {writer} (tm : LocalTime) (store : next.files.store = state.files.store)
      (sem : state.files.sem = next.files.sem + 1) (history : next.history = state.history) :
      Effect cfg state next writer .resting writer (.woken tm)
  | moves {writer} (tm : LocalTime) (generation : Nat)
      (bak : state.files.store.entry cfg.logBakName = some generation)
      (bakAfter : next.files.store.entry cfg.logBakName = none)
      (log : LogKept cfg state.files.store next.files.store)
      (working : underWay cfg next.files.store (.moved tm) = [generation])
      (sem : next.files.sem = state.files.sem)
      (history : next.history =
        { state.history with moved := state.history.moved ++ [generation] }) :
      Effect cfg state next writer (.woken tm) writer (.moved tm)
  | misses {writer} (tm : LocalTime) (bak : state.files.store.entry cfg.logBakName = none) :
      Effect cfg state next writer (.woken tm) writer .failed
  | discards {writer} : Effect cfg state next writer .failed writer .storing
  | packs {writer} (tm : LocalTime) (log : LogKept cfg state.files.store next.files.store)
      (bak : next.files.store.entry cfg.logBakName = state.files.store.entry cfg.logBakName)
      (sem : next.files.sem = state.files.sem)
      (history : next.history = { state.history with
        archived := state.history.archived ++ underWay cfg state.files.store (.moved tm) }) :
      Effect cfg state next writer (.moved tm) writer (.packed tm)

/-- A step rotates the log, where it matters whether the backup name is free, or it does
something else. -/
inductive Outcome (cfg : LogCfgInfo) (state next : RotationState) (free : Prop) :
    WriterPhase -> ArchiverPhase -> Prop
  | rotates {archiver} (generation : Nat) (rotates : Rotates cfg state next generation)
      (threads : Threads cfg next .posting archiver)
      (decides : free <-> state.files.store.entry cfg.logBakName = none) :
      Outcome cfg state next free .present archiver
  | other {writer writer' archiver archiver'}
      (effect : Effect cfg state next writer archiver writer' archiver')
      (threads : Threads cfg next writer' archiver') (isFree : free) :
      Outcome cfg state next free writer archiver

section Steps

variable {archive : List UInt8 -> Option (List UInt8) -> List UInt8} {text : List UInt8}
  {base cfg : LogCfgInfo} {state next : RotationState} {writer : WriterPhase} {archiver : ArchiverPhase}

/-- The two counts can be read off the phases. -/
theorem Threads.posting_eq (threads : Threads cfg state writer archiver) :
    state.posting = writer.posts := by
  have follows := threads.writerAt
  unfold RotationState.posting
  cases isWriter : state.writer with
  | none =>
      rw [isWriter] at follows
      rw [show writer = .checking from follows]
      rfl
  | some rest =>
      rw [isWriter] at follows
      cases rest with
      | done logFd => exact (WriterPhase.posts_eq_zero follows).symm
      | call op rest =>
          have allowed := follows.1
          cases op with
          | semPost =>
              rw [show writer = .posting from allowed]
              rfl
          | access _ => exact (WriterPhase.posts_eq_zero allowed.1).symm
          | openFile _ _ => exact (WriterPhase.posts_eq_zero allowed.1).symm
          | close _ | write _ _ | fstat _ => exact (WriterPhase.posts_eq_zero allowed).symm
          | rename _ _ =>
              rw [show writer = .present from allowed.1]
              rfl
          | _ => cases allowed

theorem Threads.woken_eq (threads : Threads cfg state writer archiver) :
    state.woken = archiver.wakes := by
  have follows := threads.archiverAt
  unfold RotationState.woken
  cases isArchiver : state.archiver with
  | archiving rest =>
      rw [isArchiver] at follows
      cases rest with
      | done index =>
          rw [show archiver = .storing from follows.1]
          rfl
      | call op rest =>
          have allowed := follows.1
          cases archiver <;> cases op <;> first | rfl | cases allowed
  | _ =>
      rw [isArchiver] at follows
      rw [show archiver = .resting from follows]
      rfl

theorem logKept_of_eq {store after : FileStore (List UInt8)}
    (log : after.entry cfg.logName = store.entry cfg.logName) (created : after.created = store.created) :
    LogKept cfg store after :=
  ⟨Nat.le_of_eq created.symm, Or.inl log⟩

/-- A step of the writer that touches no name but that of the log file. -/
theorem Effect.of_writer (paths : PathsCreated text base cfg) {writer' : WriterPhase}
    (log : LogKept cfg state.files.store next.files.store)
    (others : forall path, path ≠ cfg.logName ->
      next.files.store.entry path = state.files.store.entry path)
    (sem : next.files.sem = state.files.sem) (history : next.history = state.history)
    (posts : writer'.posts = writer.posts) : Effect cfg state next writer archiver writer' archiver := by
  refine .quiet log (others _ paths.logBakName_ne_logName) sem history posts rfl ?_ id
  cases archiver with
  | moved tm => exact congrArg Option.toList (others _ (PathsCreated.timeLogFile_ne_logName tm))
  | _ => rfl

/-- The state after a call of the writer. -/
def RotationState.writerCalled (state : RotationState) (cfg : LogCfgInfo) (op : LogOp) (after : LogFiles)
    (rest : LogProgram (Option Nat)) : RotationState :=
  { state with
    files := after
    writer := some rest
    history := state.history.observe cfg state.files.store op }

theorem writerOp_outcome (paths : PathsCreated text base cfg)
    (threads : Threads cfg state writer archiver) {op : LogOp} {rest : LogProgram (Option Nat)}
    {answer : op.Answer} {after : LogFiles} (allowed : (writerProtocol cfg).allowed writer op)
    (later : rest.Follows (writerProtocol cfg) (fun _ phase => phase ≠ .posting)
      ((writerProtocol cfg).next writer op answer))
    (isAnswer : (files archive).answer state.files op = some (answer, after)) {free : Prop}
    (isFree : (forall source target, op ≠ .rename source target) -> free)
    (decides : (Exists fun source => Exists fun target => op = .rename source target) ->
      (free <-> state.files.store.entry cfg.logBakName = none)) :
    Outcome cfg state (state.writerCalled cfg op after rest) free writer archiver := by
  cases op with
  | access path =>
      rcases allowed with ⟨notPosting, rfl⟩
      rcases Prod.mk.inj (Option.some.inj isAnswer) with ⟨isFound, rfl⟩
      refine .other (.of_writer paths (logKept_of_eq rfl rfl) (fun _ _ => rfl) rfl rfl ?_)
        ⟨later, threads.archiverAt, fun isPresent => ?_, threads.range⟩ (isFree (by rintro _ _ ⟨⟩))
      · rw [WriterPhase.posts_eq_zero notPosting]
        exact WriterPhase.accessed_posts answer
      · cases there : (state.files.store.entry cfg.logName).isSome with
        | true => exact there
        | false =>
            rw [there] at isFound
            rw [← isFound] at isPresent
            cases isPresent
  | openFile path flags =>
      rcases allowed with ⟨notPosting, rfl, creates⟩
      have quiet : (WriterPhase.opened answer).posts = writer.posts := by
        rw [WriterPhase.posts_eq_zero notPosting]
        exact WriterPhase.opened_posts answer
      simp only [files, if_neg paths.logName_ne_nil] at isAnswer
      rcases Prod.mk.inj (Option.some.inj isAnswer) with ⟨_, rfl⟩
      refine .other (.of_writer paths ⟨?_, ?_⟩ (fun path different => ?_) rfl rfl quiet)
        ⟨later, threads.archiverAt, fun _ => ?_, threads.range⟩ (isFree (by rintro _ _ ⟨⟩))
      · exact FileStore.created_openPath flags
      · exact FileStore.entry_openPath_self creates
      · exact FileStore.entry_openPath _ flags different
      · rcases state.files.store.openPath_creates cfg.logName creates with ⟨_, _, _, _, isSome, _⟩
        exact isSome
  | close fd =>
      rcases Prod.mk.inj (Option.some.inj isAnswer) with ⟨_, rfl⟩
      exact .other (.of_writer paths (logKept_of_eq rfl rfl) (fun _ _ => rfl) rfl rfl rfl)
        ⟨later, threads.archiverAt, threads.present, threads.range⟩ (isFree (by rintro _ _ ⟨⟩))
  | fstat fd =>
      rcases Prod.mk.inj (Option.some.inj isAnswer) with ⟨_, rfl⟩
      exact .other (.of_writer paths (logKept_of_eq rfl rfl) (fun _ _ => rfl) rfl rfl rfl)
        ⟨later, threads.archiverAt, threads.present, threads.range⟩ (isFree (by rintro _ _ ⟨⟩))
  | write fd buf =>
      rcases files_write isAnswer with ⟨entries, created, sem⟩
      refine .other (.of_writer paths (logKept_of_eq (congrFun entries _) created)
        (fun path _ => congrFun entries path) sem rfl rfl)
        ⟨later, threads.archiverAt, fun isPresent => ?_, threads.range⟩ (isFree (by rintro _ _ ⟨⟩))
      exact (congrFun entries cfg.logName).symm ▸ threads.present isPresent
  | rename source target =>
      rcases allowed with ⟨rfl, rfl, rfl⟩
      rcases Option.isSome_iff_exists.mp (threads.present rfl) with ⟨generation, isLog⟩
      rcases Prod.mk.inj (Option.some.inj isAnswer) with ⟨_, rfl⟩
      have renamed : forall path, (state.files.store.rename cfg.logName cfg.logBakName).2.entry path =
          if path = cfg.logBakName then some generation else if path = cfg.logName then none
          else state.files.store.entry path := fun path => FileStore.entry_rename isLog
      have logNe := paths.logBakName_ne_logName
      refine .rotates generation ⟨isLog, ?_, ?_, fun tm => ?_, ?_, rfl, ?_⟩
        ⟨later, threads.archiverAt, (by rintro ⟨⟩), threads.range⟩ (decides ⟨_, _, rfl⟩)
      · exact (renamed _).trans ((if_neg logNe.symm).trans (if_pos rfl))
      · exact (renamed _).trans (if_pos rfl)
      · exact (renamed _).trans ((if_neg (paths.timeLogFile_ne_logBakName tm)).trans
          (if_neg (PathsCreated.timeLogFile_ne_logName tm)))
      · exact FileStore.created_rename
      · simp only [RotationState.writerCalled, RotationHistory.observe, if_neg logNe.symm, isLog,
          Option.toList_some]
  | semPost =>
      have isPosting : writer = .posting := allowed
      subst isPosting
      rcases Prod.mk.inj (Option.some.inj isAnswer) with ⟨_, rfl⟩
      exact .other (.posts rfl rfl rfl) ⟨later, threads.archiverAt, (by rintro ⟨⟩), threads.range⟩ (isFree (by rintro _ _ ⟨⟩))
  | _ => cases allowed

theorem writerCall_outcome (paths : PathsCreated text base cfg)
    (threads : Threads cfg state writer archiver)
    (stepped : rotationStep archive cfg state .writerCall = some next) :
    Outcome cfg state next (bakIsFree cfg state .writerCall) writer archiver := by
  have follows := threads.writerAt
  cases isWriter : state.writer with
  | none =>
      simp only [rotationStep, isWriter] at stepped
      cases stepped
  | some program =>
      rw [isWriter] at follows
      cases program with
      | done logFd =>
          simp only [rotationStep, isWriter] at stepped
          cases stepped
      | call op rest =>
          rcases follows with ⟨allowed, follows⟩
          simp only [rotationStep, isWriter, RotationState.call, Option.map_map,
            Option.map_eq_some_iff] at stepped
          rcases stepped with ⟨⟨answer, after⟩, isAnswer, rfl⟩
          refine writerOp_outcome paths threads allowed (follows answer) isAnswer ?_ ?_
          · intro notRename renames
            rw [RotationState.renames, isWriter] at renames
            split at renames
            next source target _ same =>
              cases same
              exact absurd rfl (notRename _ _)
            next => cases renames
          · rintro ⟨source, target, rfl⟩
            have renames : state.renames = true := by
              rw [RotationState.renames, isWriter]
            exact ⟨fun free => free renames, fun free _ => free⟩

/-- The state after a call of the archiver. -/
def RotationState.archiverCalled (state : RotationState) (cfg : LogCfgInfo) (op : LogOp)
    (after : LogFiles) (rest : LogProgram (Option Nat)) : RotationState :=
  { state with
    files := after
    archiver := .archiving rest
    history := state.history.observe cfg state.files.store op }

theorem archiverOp_outcome (paths : PathsCreated text base cfg)
    (threads : Threads cfg state writer archiver) {op : LogOp} {rest : LogProgram (Option Nat)}
    {answer : op.Answer} {after : LogFiles} (allowed : (archiverProtocol cfg).allowed archiver op)
    (later : rest.Follows (archiverProtocol cfg) (roundEnds cfg)
      ((archiverProtocol cfg).next archiver op answer))
    (isAnswer : (files archive).answer state.files op = some (answer, after)) {free : Prop}
    (isFree : free) :
    Outcome cfg state (state.archiverCalled cfg op after rest) free writer archiver := by
  have logNe := paths.logBakName_ne_logName.symm
  cases archiver with
  | resting => cases allowed
  | woken tm =>
      cases op with
      | rename source target =>
          rcases allowed with ⟨rfl, rfl⟩
          have timeNe : cfg.logName ≠ timeLogFile cfg tm := (PathsCreated.timeLogFile_ne_logName tm).symm
          rcases Prod.mk.inj (Option.some.inj isAnswer) with ⟨isRenamed, rfl⟩
          cases isBak : state.files.store.entry cfg.logBakName with
          | none =>
              rw [FileStore.rename_absent isBak] at isRenamed ⊢
              rw [← isRenamed] at later
              exact .other (.misses tm isBak)
                ⟨threads.writerAt, later, threads.present, threads.range⟩ isFree
          | some generation =>
              have renamed : forall path,
                  (state.files.store.rename cfg.logBakName (timeLogFile cfg tm)).2.entry path =
                    if path = timeLogFile cfg tm then some generation
                    else if path = cfg.logBakName then none else state.files.store.entry path :=
                fun path => FileStore.entry_rename isBak
              have logSame := (renamed cfg.logName).trans ((if_neg timeNe).trans (if_neg logNe))
              have bakNone := (renamed cfg.logBakName).trans
                ((if_neg (paths.timeLogFile_ne_logBakName tm).symm).trans (if_pos rfl))
              have present : (state.files.store.entry cfg.logBakName).isSome :=
                Option.isSome_iff_exists.mpr ⟨generation, isBak⟩
              rw [FileStore.rename_present present] at isRenamed
              rw [← isRenamed] at later
              refine .other (.moves tm generation isBak bakNone
                (logKept_of_eq logSame FileStore.created_rename) ?_ rfl ?_)
                ⟨threads.writerAt, later, fun isPresent => ?_, threads.range⟩ isFree
              · exact congrArg Option.toList ((renamed _).trans (if_pos rfl))
              · simp only [RotationState.archiverCalled, RotationHistory.observe, if_true, isBak]
              · exact logSame.symm ▸ threads.present isPresent
      | _ => cases allowed
  | failed =>
      cases op with
      | remove path =>
          have isBak : path = cfg.logBakName := allowed
          subst isBak
          rcases Prod.mk.inj (Option.some.inj isAnswer) with ⟨_, rfl⟩
          refine .other .discards ⟨threads.writerAt, later, fun isPresent => ?_, threads.range⟩ isFree
          exact FileStore.entry_remove_isSome logNe (threads.present isPresent)
      | _ => cases allowed
  | moved tm =>
      cases op with
      | tar target source =>
          rcases allowed with ⟨rfl, index, small, rfl⟩
          rcases Prod.mk.inj (Option.some.inj isAnswer) with ⟨_, rfl⟩
          have notArchive : cfg.logName ≠ compressFile cfg index :=
            (PathsCreated.compressFile_ne_logName index).symm
          have logSame := state.files.store.entry_put
            (archive (timeLogFile cfg tm) (state.files.store.dataAt (timeLogFile cfg tm))) notArchive
          refine .other (.packs tm ⟨FileStore.created_put _, Or.inl logSame⟩ ?_ rfl rfl)
            ⟨threads.writerAt, later, fun isPresent => ?_, threads.range⟩ isFree
          · exact FileStore.entry_put _ _ (paths.compressFile_ne_logBakName small).symm
          · exact logSame.symm ▸ threads.present isPresent
      | _ => cases allowed
  | packed tm =>
      cases op with
      | remove path =>
          have isTime : path = timeLogFile cfg tm := allowed
          subst isTime
          rcases Prod.mk.inj (Option.some.inj isAnswer) with ⟨_, rfl⟩
          have others : forall name, name ≠ timeLogFile cfg tm ->
              (state.files.store.remove (timeLogFile cfg tm)).2.entry name =
                state.files.store.entry name :=
            fun name different => FileStore.entry_remove.trans (if_neg different)
          have logSame := others _ (PathsCreated.timeLogFile_ne_logName tm).symm
          have log := logKept_of_eq logSame FileStore.created_remove
          have bak := others _ (paths.timeLogFile_ne_logBakName tm).symm
          refine Outcome.other (show Effect cfg state _ writer (.packed tm) writer .storing from
              .quiet log bak rfl rfl rfl rfl rfl nofun)
            ⟨threads.writerAt, later, fun isPresent => ?_, threads.range⟩ isFree
          exact logSame.symm ▸ threads.present isPresent
      | _ => cases allowed
  | storing =>
      cases op with
      | openFile path flags =>
          have isIdx : path = cfg.logIdxFile := allowed
          subst isIdx
          simp only [files, if_neg paths.logIdxFile_ne_nil] at isAnswer
          rcases Prod.mk.inj (Option.some.inj isAnswer) with ⟨_, rfl⟩
          have logSame := state.files.store.entry_openPath flags paths.logName_ne_logIdxFile
          refine .other (.quiet ⟨FileStore.created_openPath flags, Or.inl logSame⟩
            (FileStore.entry_openPath _ flags paths.logBakName_ne_logIdxFile) rfl rfl rfl rfl rfl nofun)
            ⟨threads.writerAt, later, fun isPresent => ?_, threads.range⟩ isFree
          exact logSame.symm ▸ threads.present isPresent
      | write fd buf =>
          rcases files_write isAnswer with ⟨entries, created, sem⟩
          refine .other (.quiet (logKept_of_eq (congrFun entries _) created) (congrFun entries _) sem
            rfl rfl rfl rfl nofun) ⟨threads.writerAt, later, fun isPresent => ?_, threads.range⟩ isFree
          exact (congrFun entries cfg.logName).symm ▸ threads.present isPresent
      | _ => cases allowed

theorem archiverCall_outcome (paths : PathsCreated text base cfg)
    (threads : Threads cfg state writer archiver)
    (stepped : rotationStep archive cfg state .archiverCall = some next) :
    Outcome cfg state next (bakIsFree cfg state .archiverCall) writer archiver := by
  have follows := threads.archiverAt
  cases isArchiver : state.archiver with
  | archiving program =>
      rw [isArchiver] at follows
      cases program with
      | done index =>
          simp only [rotationStep, isArchiver] at stepped
          cases stepped
      | call op rest =>
          rcases follows with ⟨allowed, follows⟩
          simp only [rotationStep, isArchiver, RotationState.call, Option.map_map,
            Option.map_eq_some_iff] at stepped
          rcases stepped with ⟨⟨answer, after⟩, isAnswer, rfl⟩
          exact archiverOp_outcome paths threads allowed (follows answer) isAnswer trivial
  | _ =>
      simp only [rotationStep, isArchiver] at stepped
      cases stepped

theorem rotationStep_outcome {label : RotationLabel} (paths : PathsCreated text base cfg)
    (positive : 0 < cfg.maxFileNum.toNat) (most : cfg.maxFileNum.toNat ≤ 20)
    (threads : Threads cfg state writer archiver)
    (stepped : rotationStep archive cfg state label = some next) :
    Outcome cfg state next (bakIsFree cfg state label) writer archiver := by
  have writerAt := threads.writerAt
  have archiverAt := threads.archiverAt
  cases label with
  | flush buf =>
      cases isWriter : state.writer with
      | some program =>
          simp only [rotationStep, isWriter] at stepped
          cases stepped
      | none =>
          rw [isWriter] at writerAt
          subst writerAt
          simp only [rotationStep, isWriter, Option.some.injEq] at stepped
          subst stepped
          exact .other (.of_writer paths (logKept_of_eq rfl rfl) (fun _ _ => rfl) rfl rfl rfl)
            ⟨writeLogToFile_follows cfg state.logFd buf, archiverAt, nofun, threads.range⟩ trivial
  | writerCall => exact writerCall_outcome paths threads stepped
  | writerReturn =>
      cases isWriter : state.writer with
      | none =>
          simp only [rotationStep, isWriter] at stepped
          cases stepped
      | some program =>
          cases program with
          | call op rest =>
              simp only [rotationStep, isWriter] at stepped
              cases stepped
          | done logFd =>
              rw [isWriter] at writerAt
              simp only [rotationStep, isWriter, Option.some.injEq] at stepped
              subst stepped
              have quiet : WriterPhase.checking.posts = writer.posts :=
                (WriterPhase.posts_eq_zero writerAt).symm
              exact .other (.of_writer paths (logKept_of_eq rfl rfl) (fun _ _ => rfl) rfl rfl quiet)
                ⟨rfl, archiverAt, nofun, threads.range⟩ trivial
  | timeout =>
      cases isArchiver : state.archiver with
      | waiting =>
          rw [isArchiver] at archiverAt
          simp only [rotationStep, isArchiver, Option.some.injEq] at stepped
          subst stepped
          exact .other (.of_writer paths (logKept_of_eq rfl rfl) (fun _ _ => rfl) rfl rfl rfl)
            ⟨writerAt, archiverAt, threads.present, threads.range⟩ trivial
      | _ =>
          simp only [rotationStep, isArchiver] at stepped
          cases stepped
  | ticked =>
      cases isArchiver : state.archiver with
      | ticking =>
          rw [isArchiver] at archiverAt
          simp only [rotationStep, isArchiver, Option.some.injEq] at stepped
          subst stepped
          exact .other (.of_writer paths (logKept_of_eq rfl rfl) (fun _ _ => rfl) rfl rfl rfl)
            ⟨writerAt, archiverAt, threads.present, threads.range⟩ trivial
      | _ =>
          simp only [rotationStep, isArchiver] at stepped
          cases stepped
  | wake tm =>
      cases isArchiver : state.archiver with
      | waiting =>
          rw [isArchiver] at archiverAt
          subst archiverAt
          cases isSem : state.files.sem with
          | zero =>
              simp only [rotationStep, isArchiver, isSem] at stepped
              cases stepped
          | succ sem =>
              simp only [rotationStep, isArchiver, isSem, Option.some.injEq] at stepped
              subst stepped
              have small := Nat.lt_of_lt_of_le threads.range most
              exact .other (.wakes tm rfl isSem rfl) ⟨writerAt,
                myLogArchiveRound_follows cfg tm small positive, threads.present, threads.range⟩ trivial
      | _ =>
          simp only [rotationStep, isArchiver] at stepped
          cases stepped
  | archiverCall => exact archiverCall_outcome paths threads stepped
  | archiverReturn =>
      cases isArchiver : state.archiver with
      | archiving program =>
          rw [isArchiver] at archiverAt
          cases program with
          | call op rest =>
              simp only [rotationStep, isArchiver] at stepped
              cases stepped
          | done index =>
              rcases archiverAt with ⟨rfl, index, rfl, range⟩
              simp only [rotationStep, isArchiver, Option.some.injEq] at stepped
              subst stepped
              exact .other (show Effect cfg state _ writer .storing writer .resting from
                  .quiet (logKept_of_eq rfl rfl) rfl rfl rfl rfl rfl rfl nofun)
                ⟨writerAt, rfl, threads.present, range⟩ trivial
      | _ =>
          simp only [rotationStep, isArchiver] at stepped
          cases stepped

end Steps

/-! ## Where nothing is lost -/

/-- A generation has one of the numbers given out so far, the log file is not among the rotated
ones, and all of them are accounted for. -/
structure Accounted (cfg : LogCfgInfo) (state : RotationState) (writer : WriterPhase)
    (archiver : ArchiverPhase) : Prop where
  below : forall generation, generation ∈ state.history.rotated ->
    generation < state.files.store.created
  logNew : forall generation, state.files.store.entry cfg.logName = some generation ->
    generation < state.files.store.created ∧ generation ∉ state.history.rotated
  distinct : state.history.rotated.Nodup
  kept : state.history.rotated = state.history.moved ++ state.pending cfg
  working : state.history.moved =
    state.history.archived ++ underWay cfg state.files.store archiver
  succeeds : archiver ≠ .failed
  noEmptyRound : state.history.emptyRounds = 0
  balanced : (state.pending cfg).length = state.files.sem + archiver.wakes + writer.posts

section Accounts

variable {cfg : LogCfgInfo} {state next : RotationState} {writer writer' : WriterPhase}
  {archiver archiver' : ArchiverPhase}

theorem Accounted.nothingLost (accounted : Accounted cfg state writer archiver)
    (threads : Threads cfg state writer archiver) : state.NothingLost cfg where
  distinct := accounted.distinct
  kept := accounted.kept
  archived := accounted.working ▸ List.prefix_append _ _
  settled := by
    intro notArchiving
    have follows := threads.archiverAt
    have resting : archiver = .resting := by
      cases isArchiver : state.archiver with
      | archiving rest => exact absurd isArchiver (notArchiving rest)
      | _ =>
          rw [isArchiver] at follows
          exact follows
    rw [accounted.working, resting]
    exact (List.append_nil _).symm
  noEmptyRound := accounted.noEmptyRound

theorem Accounted.isBalanced (accounted : Accounted cfg state writer archiver)
    (threads : Threads cfg state writer archiver) : state.Balanced cfg := by
  rw [RotationState.Balanced, threads.posting_eq, threads.woken_eq]
  exact accounted.balanced

/-- The log file is still new after a step that may have created it. -/
theorem Accounted.logNew_of_kept (accounted : Accounted cfg state writer archiver)
    (log : LogKept cfg state.files.store next.files.store)
    (rotated : next.history.rotated = state.history.rotated) :
    (forall generation, generation ∈ next.history.rotated ->
      generation < next.files.store.created) ∧
    forall generation, next.files.store.entry cfg.logName = some generation ->
      generation < next.files.store.created ∧ generation ∉ next.history.rotated := by
  rw [rotated]
  refine ⟨fun generation member => Nat.lt_of_lt_of_le (accounted.below generation member) log.created,
    fun generation isLog => ?_⟩
  rcases log.log with same | ⟨_, isNew, larger⟩
  · rw [same] at isLog
    have ⟨below, new⟩ := accounted.logNew generation isLog
    exact ⟨Nat.lt_of_lt_of_le below log.created, new⟩
  · rw [isNew] at isLog
    cases isLog
    exact ⟨larger, fun member => Nat.lt_irrefl _ (accounted.below _ member)⟩

theorem Accounted.sameFiles (accounted : Accounted cfg state writer archiver)
    (store : next.files.store = state.files.store) (history : next.history = state.history)
    (working : underWay cfg state.files.store archiver' = underWay cfg state.files.store archiver)
    (succeeds : archiver' ≠ .failed)
    (balanced : (state.pending cfg).length = next.files.sem + archiver'.wakes + writer'.posts) :
    Accounted cfg next writer' archiver' := by
  constructor
  · rw [store, history]
    exact accounted.below
  · rw [store, history]
    exact accounted.logNew
  · rw [history]
    exact accounted.distinct
  · rw [RotationState.pending, store, history]
    exact accounted.kept
  · rw [store, history, working]
    exact accounted.working
  · exact succeeds
  · rw [history]
    exact accounted.noEmptyRound
  · rw [RotationState.pending, store]
    exact balanced

/-- No step but a rotation can lose a generation. -/
theorem Accounted.effect (accounted : Accounted cfg state writer archiver)
    (effect : Effect cfg state next writer archiver writer' archiver') :
    Accounted cfg next writer' archiver' := by
  have balanced := accounted.balanced
  cases effect with
  | quiet log bak sem history posts wakes working failed =>
      have ⟨below, logNew⟩ := accounted.logNew_of_kept log (congrArg _ history)
      have pending : next.pending cfg = state.pending cfg := congrArg Option.toList bak
      refine ⟨below, logNew, ?_, ?_, ?_, fun isFailed => accounted.succeeds (failed isFailed), ?_, ?_⟩
      · rw [history]
        exact accounted.distinct
      · rw [history, pending]
        exact accounted.kept
      · rw [history, working]
        exact accounted.working
      · rw [history]
        exact accounted.noEmptyRound
      · rw [pending, sem, posts, wakes]
        exact balanced
  | posts store sem history =>
      apply accounted.sameFiles store history rfl accounted.succeeds
      rw [balanced, sem]
      simp only [WriterPhase.posts]
      omega
  | wakes tm store sem history =>
      have working : underWay cfg state.files.store (.woken tm) = [] := rfl
      refine accounted.sameFiles store history working nofun ?_
      rw [balanced, sem]
      simp only [ArchiverPhase.wakes]
  | moves tm generation bak bakAfter log working sem history =>
      have ⟨below, logNew⟩ := accounted.logNew_of_kept log (by rw [history])
      have pending : state.pending cfg = [generation] := congrArg Option.toList bak
      have pendingAfter : next.pending cfg = [] := congrArg Option.toList bakAfter
      refine ⟨below, logNew, ?_, ?_, ?_, nofun, ?_, ?_⟩
      · rw [history]
        exact accounted.distinct
      · rw [history, pendingAfter, List.append_nil, ← pending]
        exact accounted.kept
      · have before : state.history.moved = state.history.archived ++ [] := accounted.working
        rw [List.append_nil] at before
        rw [history, working, before]
      · rw [history]
        exact accounted.noEmptyRound
      · rw [pending] at balanced
        rw [pendingAfter, sem]
        simp only [ArchiverPhase.wakes, List.length_singleton, List.length_nil] at balanced ⊢
        omega
  | misses tm bak =>
      rw [RotationState.pending, bak] at balanced
      simp only [ArchiverPhase.wakes, Option.toList_none, List.length_nil] at balanced
      omega
  | discards => exact absurd rfl accounted.succeeds
  | packs tm log bak sem history =>
      have ⟨below, logNew⟩ := accounted.logNew_of_kept log (by rw [history])
      have pending : next.pending cfg = state.pending cfg := congrArg Option.toList bak
      refine ⟨below, logNew, ?_, ?_, ?_, nofun, ?_, ?_⟩
      · rw [history]
        exact accounted.distinct
      · rw [history, pending]
        exact accounted.kept
      · rw [history]
        exact accounted.working.trans (List.append_nil _).symm
      · rw [history]
        exact accounted.noEmptyRound
      · rw [pending, sem]
        exact balanced

/-- A rotation loses nothing where the backup name is free. -/
theorem Accounted.rotates {generation : Nat} (accounted : Accounted cfg state .present archiver)
    (rotates : Rotates cfg state next generation)
    (free : state.files.store.entry cfg.logBakName = none) :
    Accounted cfg next .posting archiver := by
  have ⟨below, new⟩ := accounted.logNew generation rotates.log
  have pending : state.pending cfg = [] := congrArg Option.toList free
  have pendingAfter : next.pending cfg = [generation] := congrArg Option.toList rotates.bak
  have balanced := accounted.balanced
  constructor
  · intro other member
    rw [rotates.history] at member
    rw [rotates.created]
    rcases List.mem_append.mp member with earlier | last
    · exact accounted.below other earlier
    · exact List.mem_singleton.mp last ▸ below
  · intro other isLog
    rw [rotates.logAfter] at isLog
    cases isLog
  · rw [rotates.history]
    exact List.nodup_append.mpr ⟨accounted.distinct, List.nodup_singleton _, by
      rintro other member last isLast rfl
      exact new (List.mem_singleton.mp isLast ▸ member)⟩
  · have kept := accounted.kept
    rw [pending, List.append_nil] at kept
    rw [rotates.history, pendingAfter, kept]
  · have same : underWay cfg next.files.store archiver = underWay cfg state.files.store archiver := by
      cases archiver with
      | moved tm => exact congrArg Option.toList (rotates.times tm)
      | _ => rfl
    rw [rotates.history, same]
    exact accounted.working
  · exact accounted.succeeds
  · rw [rotates.history]
    exact accounted.noEmptyRound
  · rw [pending] at balanced
    rw [pendingAfter, rotates.sem]
    simp only [WriterPhase.posts, List.length_singleton, List.length_nil] at balanced ⊢
    omega

/-- A rotation that comes too early loses a generation, and it unbalances the tokens. -/
theorem Rotates.free_of_nothingLost {generation : Nat} (rotates : Rotates cfg state next generation)
    (before : state.NothingLost cfg) (after : next.NothingLost cfg) :
    state.files.store.entry cfg.logBakName = none := by
  have kept := after.kept
  rw [rotates.history, RotationState.pending, rotates.bak] at kept
  have moved := List.append_cancel_right kept
  have pending : state.pending cfg = [] := List.append_right_eq_self.mp (before.kept.symm.trans moved)
  exact Option.toList_eq_nil_iff.mp pending

theorem Rotates.free_of_balanced {generation : Nat} (rotates : Rotates cfg state next generation)
    (threads : Threads cfg state .present archiver) (threadsAfter : Threads cfg next .posting archiver)
    (before : state.Balanced cfg) (after : next.Balanced cfg) :
    state.files.store.entry cfg.logBakName = none := by
  have pendingAfter : next.pending cfg = [generation] := congrArg Option.toList rotates.bak
  rw [RotationState.Balanced, threads.posting_eq, threads.woken_eq] at before
  rw [RotationState.Balanced, threadsAfter.posting_eq, threadsAfter.woken_eq, pendingAfter,
    rotates.sem] at after
  simp only [WriterPhase.posts, List.length_singleton] at before after
  have pending : state.pending cfg = [] := List.length_eq_zero_iff.mp (by omega)
  exact Option.toList_eq_nil_iff.mp pending

end Accounts

/-! ## Runs -/

section Runs

variable {archive : List UInt8 -> Option (List UInt8) -> List UInt8} {text : List UInt8}
  {base cfg : LogCfgInfo} {state next : RotationState} {label : RotationLabel}

/-- The threads are in some phases, and everything is accounted for. -/
def AllAccounted (cfg : LogCfgInfo) (state : RotationState) : Prop :=
  Exists fun writer => Exists fun archiver =>
    Threads cfg state writer archiver ∧ Accounted cfg state writer archiver

def AnyThreads (cfg : LogCfgInfo) (state : RotationState) : Prop :=
  Exists fun writer => Exists fun archiver => Threads cfg state writer archiver

theorem threads_start (store : FileStore (List UInt8)) {index : Nat}
    (range : index < cfg.maxFileNum.toNat) :
    Threads cfg (.start store index) .checking .resting :=
  ⟨rfl, rfl, nofun, range⟩

theorem accounted_start {store : FileStore (List UInt8)} (index : Nat) (linked : store.Linked)
    (noBak : store.entry cfg.logBakName = none) :
    Accounted cfg (.start store index) .checking .resting where
  below := nofun
  logNew := fun _ isLog => ⟨linked.below _ _ isLog, List.not_mem_nil⟩
  distinct := List.nodup_nil
  kept := (congrArg Option.toList noBak).symm
  working := rfl
  succeeds := nofun
  noEmptyRound := rfl
  balanced := congrArg (fun bak => (Option.toList bak).length) noBak

variable (paths : PathsCreated text base cfg) (positive : 0 < cfg.maxFileNum.toNat)
  (most : cfg.maxFileNum.toNat ≤ 20)

include paths positive most

theorem anyThreads_step (threads : AnyThreads cfg state)
    (stepped : rotationStep archive cfg state label = some next) : AnyThreads cfg next := by
  rcases threads with ⟨writer, archiver, threads⟩
  cases rotationStep_outcome paths positive most threads stepped with
  | rotates _ _ threadsAfter => exact ⟨_, _, threadsAfter⟩
  | other _ threadsAfter => exact ⟨_, _, threadsAfter⟩

theorem allAccounted_step (accounts : AllAccounted cfg state) (free : bakIsFree cfg state label)
    (stepped : rotationStep archive cfg state label = some next) : AllAccounted cfg next := by
  rcases accounts with ⟨writer, archiver, threads, accounted⟩
  cases rotationStep_outcome paths positive most threads stepped with
  | rotates _ rotates threadsAfter decides =>
      exact ⟨_, _, threadsAfter, accounted.rotates rotates (decides.mp free)⟩
  | other effect threadsAfter => exact ⟨_, _, threadsAfter, accounted.effect effect⟩

theorem bakIsFree_of_nothingLost (threads : AnyThreads cfg state) (before : state.NothingLost cfg)
    (stepped : rotationStep archive cfg state label = some next) (after : next.NothingLost cfg) :
    bakIsFree cfg state label := by
  rcases threads with ⟨writer, archiver, threads⟩
  cases rotationStep_outcome paths positive most threads stepped with
  | rotates _ rotates _ decides =>
      exact decides.mpr (rotates.free_of_nothingLost before after)
  | other _ _ isFree => exact isFree

theorem bakIsFree_of_balanced (threads : AnyThreads cfg state) (before : state.Balanced cfg)
    (stepped : rotationStep archive cfg state label = some next) (after : next.Balanced cfg) :
    bakIsFree cfg state label := by
  rcases threads with ⟨writer, archiver, threads⟩
  cases rotationStep_outcome paths positive most threads stepped with
  | rotates _ rotates threadsAfter decides =>
      exact decides.mpr (rotates.free_of_balanced threads threadsAfter before after)
  | other _ _ isFree => exact isFree

end Runs

/-- From a start without a backup file, and with an index below `maxFileNum`: no rotated generation
is lost, each is moved into one archive, and no round is without one, in every state exactly if no
rotation finds a file under the backup name.  So it is for the balance of pending generations and
tokens. -/
theorem generations_archived_iff {archive : List UInt8 -> Option (List UInt8) -> List UInt8}
    {base cfg : LogCfgInfo} {processName : List UInt8}
    (created : myLogPathCreate base processName = some cfg) (most : base.maxFileNum ≤ logFileNumMax)
    {store : FileStore (List UInt8)} (linked : store.Linked)
    (noBak : store.entry cfg.logBakName = none) {index : Nat} (range : index < base.maxFileNum.toNat)
    {labels : List RotationLabel} {final : RotationState}
    (ran : (rotating archive cfg).run (.start store index) labels = some final) :
    ((rotating archive cfg).EveryState (RotationState.NothingLost · cfg) (.start store index) labels <->
      (rotating archive cfg).AllSteps (bakIsFree cfg) (.start store index) labels) ∧
    ((rotating archive cfg).EveryState (RotationState.Balanced · cfg) (.start store index) labels <->
      (rotating archive cfg).AllSteps (bakIsFree cfg) (.start store index) labels) := by
  have paths := myLogPathCreate_paths created
  have atMost := UInt32.le_iff_toNat_le.mp most
  rw [← paths.limits.2.2.1] at atMost range
  have positive : 0 < cfg.maxFileNum.toNat := Nat.zero_lt_of_lt range
  have threads := threads_start store range
  have start : AllAccounted cfg (.start store index) :=
    ⟨_, _, threads, accounted_start index linked noBak⟩
  have anyThreads : AnyThreads cfg (.start store index) := ⟨_, _, threads⟩
  have kept : forall state label next, AnyThreads cfg state ->
      (rotating archive cfg).step state label = some next -> AnyThreads cfg next :=
    fun _ _ _ threads stepped => anyThreads_step paths positive atMost threads stepped
  have strong : forall state label next, AllAccounted cfg state -> bakIsFree cfg state label ->
      (rotating archive cfg).step state label = some next -> AllAccounted cfg next :=
    fun _ _ _ accounts free stepped => allAccounted_step paths positive atMost accounts free stepped
  constructor
  · refine (rotating archive cfg).everyState_iff_of_stronger kept strong ?_ ?_ anyThreads start ran
    · rintro state ⟨writer, archiver, threads, accounted⟩
      exact accounted.nothingLost threads
    · exact fun state label next threads before stepped after =>
        bakIsFree_of_nothingLost paths positive atMost threads before stepped after
  · refine (rotating archive cfg).everyState_iff_of_stronger kept strong ?_ ?_ anyThreads start ran
    · rintro state ⟨writer, archiver, threads, accounted⟩
      exact accounted.isBalanced threads
    · exact fun state label next threads before stepped after =>
        bakIsFree_of_balanced paths positive atMost threads before stepped after

/-- The log is flushed with so many bytes that it is rotated: `open`, `write`, `fstat`, `close`,
`rename` and `sem_post`. -/
def sampleRotation : List RotationLabel :=
  .flush (List.replicate 1025 97) :: List.replicate 6 .writerCall ++ [.writerReturn]

/-- A round that finds a generation: `rename`, `tar`, `remove`, and `open` without success. -/
def sampleRound : List RotationLabel :=
  .wake ⟨2020, 1, 1, 12, 0, 0⟩ :: List.replicate 4 .archiverCall ++ [.archiverReturn]

/-- Two rotations, and the archiver is done with the first one before the second one. -/
theorem generations_archived_iff_twoRounds :
    let base : LogCfgInfo :=
      { LogCfgInfo.cleared with logPath := ascii "/log", size := 1024, maxFileNum := 2 }
    let machine := rotating fun _ generation => generation.getD []
    let labels := sampleRotation ++ sampleRound ++ sampleRotation ++ sampleRound
    Exists fun cfg => myLogPathCreate base (ascii "app") = some cfg ∧
      ((machine cfg).run (.start .empty 0) labels).isSome ∧
      (machine cfg).EveryState (RotationState.NothingLost · cfg) (.start .empty 0) labels := by
  intro base machine labels
  have created : myLogPathCreate base (ascii "app") = some _ := rfl
  refine ⟨_, created, ?_⟩
  have reached : ((machine { base with
      logName := ascii "/log/app.log"
      logBakName := ascii "/log/app.log.bak"
      logIdxFile := ascii "/log/app.idx" }).run (.start .empty 0) labels).isSome := by
    decide +kernel
  rcases Option.isSome_iff_exists.mp reached with ⟨final, ran⟩
  exact ⟨reached, (generations_archived_iff created (by decide) FileStore.linked_empty rfl (by decide)
    ran).1.mpr (by decide +kernel)⟩

/-- The archiver is late.  The second rotation takes the place of the first generation, and the
second round finds nothing. -/
theorem generations_lost_lateArchiver :
    let base : LogCfgInfo :=
      { LogCfgInfo.cleared with logPath := ascii "/log", size := 1024, maxFileNum := 2 }
    let machine := rotating fun _ generation => generation.getD []
    Exists fun cfg => myLogPathCreate base (ascii "app") = some cfg ∧
      Exists fun final =>
        (machine cfg).run (.start .empty 0) (sampleRotation ++ sampleRotation ++ sampleRound ++
          [.wake ⟨2020, 1, 1, 12, 0, 1⟩, .archiverCall]) = some final ∧
        final.history.rotated.length = 2 ∧ final.history.archived.length = 1 ∧
        final.history.emptyRounds = 1 := by
  intro base machine
  have reached : (myLogPathCreate base (ascii "app")).bind (fun cfg =>
      ((machine cfg).run (.start .empty 0) (sampleRotation ++ sampleRotation ++ sampleRound ++
        [.wake ⟨2020, 1, 1, 12, 0, 1⟩, .archiverCall])).map (fun final =>
          (final.history.rotated.length, final.history.archived.length, final.history.emptyRounds))) =
      some (2, 1, 1) := by
    decide +kernel
  rcases Option.bind_eq_some_iff.mp reached with ⟨cfg, created, rest⟩
  rcases Option.map_eq_some_iff.mp rest with ⟨final, ran, observed⟩
  simp only [Prod.mk.injEq] at observed
  exact ⟨cfg, created, final, ran, observed⟩

end Logger
end V2x
