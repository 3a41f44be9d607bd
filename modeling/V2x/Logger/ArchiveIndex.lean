import Mathlib.Data.Nat.ModEq
import V2x.Foundations.TransitionSystem
import V2x.Logger.Files

namespace V2x
namespace Logger

open Foundations

/-!
# The number of the next archive

The archives of a process have the numbers 0 to `maxFileNum - 1`, which are
used in turn.  A thread that archives keeps the next number in a variable, and
it stores the number in the index file for the thread after the next start.

The reader opens the index file with `O_TRUNC`, so it finds the file empty and
begins with 0.
-/

variable {archive : List UInt8 -> Option (List UInt8) -> List UInt8}

/-! ## What the functions do to the files -/

section Calls

variable (archive) {cfg : LogCfgInfo} {state : LogFiles}

/-- The reader truncates the file before it reads, and so it returns 0. -/
theorem myLogReadIdxFile_zero (named : cfg.logIdxFile ≠ []) (linked : state.store.Linked) :
    Exists fun after =>
      (myLogReadIdxFile cfg).exec (files archive) state = some (0, after) ∧
      after.written = state.written ∧ (after.store.entry cfg.logIdxFile).isSome ∧
      forall path, path ≠ cfg.logIdxFile -> after.store.dataAt path = state.store.dataAt path := by
  have creates : (⟨true, true, false⟩ : OpenFlags).create = true := rfl
  rcases state.store.openPath_creates cfg.logIdxFile creates with ⟨file, opened, _, _, present, _⟩
  let truncated := (state.store.openPath cfg.logIdxFile ⟨true, true, false⟩).2
  have nothing : (truncated.read state.store.opened 2).1 = [] := FileStore.read_openPath creates rfl 2
  refine ⟨{ state with store := (truncated.read state.store.opened 2).2.close state.store.opened },
    ?_, rfl, ?_, fun path different => ?_⟩
  · simp only [myLogReadIdxFile, Program.exec_bind, exec_openFile named, Option.bind_some]
    rw [opened]
    simp only [Program.exec_bind, exec_read, Option.bind_some]
    rw [nothing]
    rfl
  · rw [FileStore.entry_close, FileStore.entry_read]
    exact present
  · rw [FileStore.dataAt_close, FileStore.dataAt_read]
    exact FileStore.dataAt_openPath linked _ different

/-- The generation under the backup name becomes the archive with the number. -/
theorem myLogTarLogFile_archives (index : Nat) {generation : List UInt8} (tm : LocalTime)
    (linked : state.store.Linked) (waiting : state.store.dataAt cfg.logBakName = some generation) :
    Exists fun after =>
      (myLogTarLogFile cfg tm index).exec (files archive) state = some ((), after) ∧
      after.written = state.written ∧
      forall path, path ≠ cfg.logBakName -> path ≠ timeLogFile cfg tm ->
        ((state.store.entry path).isSome -> (after.store.entry path).isSome) ∧
        after.store.dataAt path =
          if path = compressFile cfg index then some (archive (timeLogFile cfg tm) (some generation))
          else state.store.dataAt path := by
  have present : (state.store.entry cfg.logBakName).isSome := by
    have isSome := congrArg Option.isSome waiting
    rw [FileStore.dataAt, Option.isSome_map] at isSome
    exact isSome
  have succeeds : returnValue (state.store.rename cfg.logBakName (timeLogFile cfg tm)).1 = 0 := by
    rw [FileStore.rename_present present]
    rfl
  simp only [myLogTarLogFile, Program.exec_bind, exec_rename, Option.bind_some, succeeds, ne_eq,
    not_true_eq_false, if_false, exec_tar, exec_remove, Program.exec_pure]
  refine ⟨_, rfl, rfl, fun path notBak notTime => ⟨fun isSome => ?_, ?_⟩⟩
  · apply FileStore.entry_remove_isSome notTime
    exact FileStore.entry_put_isSome _ (FileStore.entry_rename_isSome notBak isSome)
  · rw [FileStore.dataAt_remove notTime, FileStore.dataAt_put (linked.rename _ _),
      FileStore.dataAt_rename present, if_pos rfl, FileStore.dataAt_rename present, if_neg notTime,
      if_neg notBak, waiting]

/-- The number is written into the index file. -/
theorem myLogWriteIdxFile_stores (named : cfg.logIdxFile ≠ []) (idx : Nat)
    (linked : state.store.Linked) (present : (state.store.entry cfg.logIdxFile).isSome) :
    Exists fun after =>
      (myLogWriteIdxFile cfg idx).exec (files archive) state = some ((), after) ∧
      after.written = state.written ++ [(cfg.logIdxFile, decimal 2 idx)] ∧
      (after.store.entry cfg.logIdxFile).isSome ∧
      forall path, path ≠ cfg.logIdxFile -> after.store.dataAt path = state.store.dataAt path := by
  rcases Option.isSome_iff_exists.mp present with ⟨inode, isEntry⟩
  rcases FileStore.openPath_existing isEntry ⟨false, false, false⟩ with ⟨opened, isFile, entries⟩
  let started : LogFiles :=
    { state with store := (state.store.openPath cfg.logIdxFile ⟨false, false, false⟩).2 }
  have isStarted : started.store.openFile state.store.opened = some _ := isFile
  refine ⟨{ started with
    store := started.store.write state.store.opened (decimal 2 idx)
    written := state.written ++ [(cfg.logIdxFile, decimal 2 idx)] }, ?_, rfl, ?_, fun path different => ?_⟩
  · simp only [myLogWriteIdxFile, Program.exec_bind, exec_openFile named, Option.bind_some]
    rw [opened]
    exact (Program.exec_bind_iff _).mpr ⟨_, _, exec_write isStarted (decimal 2 idx), rfl⟩
  · rw [FileStore.entry_write, entries]
    exact present
  · have notSame : started.store.entry path ≠ some inode := by
      intro same
      have samePath := (congrFun entries path).symm.trans same
      exact different (linked.injective path cfg.logIdxFile inode samePath isEntry)
    rw [FileStore.dataAt_write isStarted _ notSame]
    exact FileStore.dataAt_openPath linked _ different

/-- What a round leaves under the names of the archives. -/
structure RoundDone (archive : List UInt8 -> Option (List UInt8) -> List UInt8) (cfg : LogCfgInfo)
    (state after : LogFiles) (index : Nat) (tm : LocalTime) (generation : List UInt8) : Prop where
  written : after.written =
    state.written ++ [(cfg.logIdxFile, decimal 2 ((index + 1) % cfg.maxFileNum.toNat))]
  idxFile : (after.store.entry cfg.logIdxFile).isSome
  archives : forall other, other < 20 ->
    after.store.dataAt (compressFile cfg other) =
      if other = index then some (archive (timeLogFile cfg tm) (some generation))
      else state.store.dataAt (compressFile cfg other)

theorem myLogArchiveRound_done {text : List UInt8} {base : LogCfgInfo} (paths : PathsCreated text base cfg)
    (positive : cfg.maxFileNum ≠ 0) {index : Nat} (small : index < 20) {generation : List UInt8}
    (tm : LocalTime) (linked : state.store.Linked)
    (waiting : state.store.dataAt cfg.logBakName = some generation)
    (present : (state.store.entry cfg.logIdxFile).isSome) :
    Exists fun after =>
      (myLogArchiveRound cfg tm index).exec (files archive) state =
        some (some ((index + 1) % cfg.maxFileNum.toNat), after) ∧
      RoundDone archive cfg state after index tm generation := by
  rcases myLogTarLogFile_archives archive index tm linked waiting with
    ⟨packed, ranTar, sameWritten, packs⟩
  have packedLinked : packed.store.Linked := exec_linked linked ranTar
  have packedIdx := (packs cfg.logIdxFile paths.logBakName_ne_logIdxFile.symm
    (paths.timeLogFile_ne_logIdxFile tm).symm).1 present
  rcases myLogWriteIdxFile_stores archive paths.logIdxFile_ne_nil
    ((index + 1) % cfg.maxFileNum.toNat) packedLinked packedIdx with ⟨after, ranWrite, written, idxFile, kept⟩
  refine ⟨after, ?_, ?_, idxFile, fun other otherSmall => ?_⟩
  · simp only [myLogArchiveRound, Program.exec_bind, ranTar, Option.bind_some, nextIndex,
      if_neg positive, ranWrite, Program.exec_pure]
  · rw [written, sameWritten]
  · rw [kept _ (paths.compressFile_ne_logIdxFile other),
      (packs _ (paths.compressFile_ne_logBakName otherSmall)
        (PathsCreated.compressFile_ne_timeLogFile tm otherSmall)).2]
    by_cases same : other = index
    · rw [if_pos same, if_pos (congrArg _ same)]
    · rw [if_neg same, if_neg (fun names => same (PathsCreated.compressFile_inj otherSmall small names))]

end Calls

/-! ## Rounds and restarts -/

/-- A generation of the log file, and the number under which it was archived. -/
structure ArchivedLog where
  generation : List UInt8
  time : LocalTime
  index : Nat

/-- The logger, with its rounds since the index file was first created, and with what
`MyLogReadIdxFile` has returned next to what had been stored last. -/
structure ArchiveState where
  files : LogFiles
  index : Option Nat
  rounds : List ArchivedLog
  reads : List (Nat × Int)

/-- The number that `MyLogWriteIdxFile` has written last, or 0. -/
def lastStored (cfg : LogCfgInfo) (files : LogFiles) : Int :=
  ((files.written.filter (fun write => decide (write.1 = cfg.logIdxFile))).getLast?.map
    (fun write => atoi write.2)).getD 0

inductive ArchiveLabel where
  -- a new `MyLogCycleThread`
  | restart
  -- the semaphore is taken; the log file was renamed to the backup name before
  | round (generation : List UInt8) (tm : LocalTime)

variable (archive) in
def archiveStep (cfg : LogCfgInfo) (state : ArchiveState) : ArchiveLabel -> Option ArchiveState
  | .restart => do
      let done <- (myLogReadIdxFile cfg).exec (files archive) state.files
      return { state with
        files := done.2
        index := some done.1
        reads := state.reads ++ [(done.1, lastStored cfg state.files)] }
  | .round generation tm => do
      let index <- state.index
      let rotated := { state.files with store := state.files.store.put cfg.logBakName generation }
      let done <- (myLogArchiveRound cfg tm index).exec (files archive) rotated
      let next <- done.1
      return { state with
        files := done.2
        index := some next
        rounds := state.rounds ++ [⟨generation, tm, index⟩] }

variable (archive) in
def archiving (cfg : LogCfgInfo) : Machine ArchiveState ArchiveLabel where
  step := archiveStep archive cfg

/-- Nothing was archived, and there is no index file. -/
def ArchiveState.first (store : FileStore (List UInt8)) : ArchiveState where
  files := ⟨store, 0, []⟩
  index := none
  rounds := []
  reads := []

/-- Every read has returned what was stored last. -/
def ReadsBack (state : ArchiveState) : Prop :=
  forall read, read ∈ state.reads -> (read.1 : Int) = read.2

/-- Round `k` has the number `k % maxFileNum`. -/
def Numbered (cfg : LogCfgInfo) (state : ArchiveState) : Prop :=
  forall k log, state.rounds[k]? = some log -> log.index = k % cfg.maxFileNum.toNat

/-- The last `maxFileNum` generations, or all if there are less, are in the archives. -/
def HoldsRecent (archive : List UInt8 -> Option (List UInt8) -> List UInt8) (cfg : LogCfgInfo)
    (state : ArchiveState) : Prop :=
  forall k log, state.rounds[k]? = some log -> state.rounds.length ≤ k + cfg.maxFileNum.toNat ->
    state.files.store.dataAt (compressFile cfg (k % cfg.maxFileNum.toNat)) =
      some (archive (timeLogFile cfg log.time) (some log.generation))

structure Continues (archive : List UInt8 -> Option (List UInt8) -> List UInt8) (cfg : LogCfgInfo)
    (state : ArchiveState) : Prop where
  numbered : Numbered cfg state
  readsBack : ReadsBack state
  holdsRecent : HoldsRecent archive cfg state

/-- The logger is started again only after whole turns of rounds. -/
def wholeTurns (cfg : LogCfgInfo) (state : ArchiveState) : ArchiveLabel -> Prop
  | .restart => state.rounds.length % cfg.maxFileNum.toNat = 0
  | .round _ _ => True

instance (cfg : LogCfgInfo) (state : ArchiveState) :
    (label : ArchiveLabel) -> Decidable (wholeTurns cfg state label)
  | .restart => inferInstanceAs (Decidable (_ = _))
  | .round _ _ => inferInstanceAs (Decidable True)

/-! ## What a step does -/

section Steps

variable {text : List UInt8} {base cfg : LogCfgInfo} {state : ArchiveState}

theorem lastStored_append {files after : LogFiles} {idx : Nat} (small : idx < 20)
    (written : after.written = files.written ++ [(cfg.logIdxFile, decimal 2 idx)]) :
    lastStored cfg after = idx := by
  simp only [lastStored, written, List.filter_append, List.filter_cons, decide_true, if_true,
    List.filter_nil, List.getLast?_append, List.getLast?_singleton, Option.some_or, Option.map_some,
    Option.getD_some, atoi_decimal idx small]

/-- A thread that starts finds nothing in the index file. -/
structure Restarts (cfg : LogCfgInfo) (state next : ArchiveState) : Prop where
  index : next.index = some 0
  rounds : next.rounds = state.rounds
  reads : next.reads = state.reads ++ [(0, lastStored cfg state.files)]
  linked : next.files.store.Linked
  idxFile : (next.files.store.entry cfg.logIdxFile).isSome
  stored : lastStored cfg next.files = lastStored cfg state.files
  archives : forall other, next.files.store.dataAt (compressFile cfg other) =
    state.files.store.dataAt (compressFile cfg other)

theorem archiveStep_restart {next : ArchiveState} (paths : PathsCreated text base cfg)
    (linked : state.files.store.Linked) (stepped : archiveStep archive cfg state .restart = some next) :
    Restarts cfg state next := by
  rcases myLogReadIdxFile_zero archive paths.logIdxFile_ne_nil linked with
    ⟨after, ran, written, idxFile, kept⟩
  simp only [archiveStep, ran, Option.bind_eq_bind, Option.bind_some, Option.pure_def,
    Option.some.injEq] at stepped
  rw [← stepped]
  refine ⟨rfl, rfl, rfl, exec_linked linked ran, idxFile, ?_, fun other => ?_⟩
  · rw [lastStored, lastStored, written]
  · exact kept _ (paths.compressFile_ne_logIdxFile other)

/-- A round stores the number after its own. -/
structure Archives (archive : List UInt8 -> Option (List UInt8) -> List UInt8) (cfg : LogCfgInfo)
    (state next : ArchiveState) (log : ArchivedLog) : Prop where
  running : state.index = some log.index
  index : next.index = some ((log.index + 1) % cfg.maxFileNum.toNat)
  rounds : next.rounds = state.rounds ++ [log]
  reads : next.reads = state.reads
  linked : next.files.store.Linked
  idxFile : (next.files.store.entry cfg.logIdxFile).isSome
  stored : lastStored cfg next.files = ((log.index + 1) % cfg.maxFileNum.toNat : Nat)
  archives : forall other, other < 20 -> next.files.store.dataAt (compressFile cfg other) =
    if other = log.index then some (archive (timeLogFile cfg log.time) (some log.generation))
    else state.files.store.dataAt (compressFile cfg other)

theorem archiveStep_round {next : ArchiveState} {generation : List UInt8} {tm : LocalTime}
    (paths : PathsCreated text base cfg) (positive : 0 < cfg.maxFileNum.toNat)
    (most : cfg.maxFileNum.toNat ≤ 20) (linked : state.files.store.Linked)
    (idxFile : state.index ≠ none -> (state.files.store.entry cfg.logIdxFile).isSome)
    (range : forall index, state.index = some index -> index < cfg.maxFileNum.toNat)
    (stepped : archiveStep archive cfg state (.round generation tm) = some next) :
    Exists fun index => Archives archive cfg state next ⟨generation, tm, index⟩ := by
  cases running : state.index with
  | none =>
      simp only [archiveStep, running, Option.bind_eq_bind, Option.bind_none, reduceCtorEq] at stepped
  | some index =>
      have small : index < 20 := Nat.lt_of_lt_of_le (range index running) most
      have nonzero : cfg.maxFileNum ≠ 0 := fun isZero => by
        rw [isZero] at positive
        exact absurd positive (by decide)
      let rotated : LogFiles :=
        { state.files with store := state.files.store.put cfg.logBakName generation }
      have rotatedLinked : rotated.store.Linked := linked.put _ _
      have waiting : rotated.store.dataAt cfg.logBakName = some generation := by
        rw [FileStore.dataAt_put linked, if_pos rfl]
      have present : (rotated.store.entry cfg.logIdxFile).isSome :=
        FileStore.entry_put_isSome _ (idxFile (by rw [running]; exact nofun))
      rcases myLogArchiveRound_done archive paths nonzero small tm rotatedLinked waiting
        present with ⟨after, ran, done⟩
      simp only [archiveStep, running, Option.bind_eq_bind, Option.bind_some] at stepped
      change ((myLogArchiveRound cfg tm index).exec (files archive) rotated).bind _ = _ at stepped
      rw [ran] at stepped
      rw [← Option.some.inj stepped]
      refine ⟨index, running, rfl, rfl, rfl, exec_linked rotatedLinked ran, done.idxFile, ?_, ?_⟩
      · exact lastStored_append (Nat.lt_of_lt_of_le (Nat.mod_lt _ positive) most) done.written
      · intro other otherSmall
        rw [done.archives other otherSmall, FileStore.dataAt_put linked,
          if_neg (paths.compressFile_ne_logBakName otherSmall)]

/-! ## What holds in every state -/

/-- The thread, the index file and the archives agree with the number of rounds. -/
structure Synchronised (archive : List UInt8 -> Option (List UInt8) -> List UInt8) (cfg : LogCfgInfo)
    (state : ArchiveState) : Prop where
  index : forall index, state.index = some index ->
    index = state.rounds.length % cfg.maxFileNum.toNat
  stored : lastStored cfg state.files = (state.rounds.length % cfg.maxFileNum.toNat : Nat)
  numbered : Numbered cfg state
  holdsRecent : HoldsRecent archive cfg state

structure Archiving (archive : List UInt8 -> Option (List UInt8) -> List UInt8) (cfg : LogCfgInfo)
    (state : ArchiveState) : Prop where
  linked : state.files.store.Linked
  idxFile : state.index ≠ none -> (state.files.store.entry cfg.logIdxFile).isSome
  range : forall index, state.index = some index -> index < cfg.maxFileNum.toNat
  synchronised : ReadsBack state -> Synchronised archive cfg state

theorem Restarts.synchronised {next : ArchiveState} (restarts : Restarts cfg state next)
    (before : ReadsBack state -> Synchronised archive cfg state) (readsBack : ReadsBack next) :
    Synchronised archive cfg next := by
  have earlier : ReadsBack state := fun read member => readsBack read (by
    rw [restarts.reads]
    exact List.mem_append_left _ member)
  have zero : (0 : Int) = lastStored cfg state.files := readsBack (0, _) (by
    rw [restarts.reads]
    exact List.mem_append_right _ List.mem_cons_self)
  have ⟨_, stored, numbered, holdsRecent⟩ := before earlier
  constructor
  · intro index isIndex
    rw [restarts.index] at isIndex
    rw [restarts.rounds, ← Option.some.inj isIndex]
    exact Int.ofNat.inj (zero.trans stored)
  · rw [restarts.stored, restarts.rounds]
    exact stored
  · intro k log isLog
    rw [restarts.rounds] at isLog
    exact numbered k log isLog
  · intro k log isLog recent
    rw [restarts.rounds] at isLog recent
    rw [restarts.archives]
    exact holdsRecent k log isLog recent

/-- Two of the last rounds do not have one number. -/
theorem mod_ne_of_recent {k count maxFileNum : Nat} (earlier : k < count)
    (recent : count < k + maxFileNum) : k % maxFileNum ≠ count % maxFileNum := by
  intro same
  have divides : maxFileNum ∣ count - k := (Nat.modEq_iff_dvd' (Nat.le_of_lt earlier)).mp same
  have whole := Nat.le_of_dvd (Nat.sub_pos_of_lt earlier) divides
  omega

theorem Archives.synchronised {next : ArchiveState} {log : ArchivedLog}
    (archives : Archives archive cfg state next log) (most : cfg.maxFileNum.toNat ≤ 20)
    (positive : 0 < cfg.maxFileNum.toNat)
    (before : ReadsBack state -> Synchronised archive cfg state) (readsBack : ReadsBack next) :
    Synchronised archive cfg next := by
  have ⟨index, _, numbered, holdsRecent⟩ := before (fun read member => readsBack read (by
    rw [archives.reads]
    exact member))
  have isCount := index log.index archives.running
  have following : (log.index + 1) % cfg.maxFileNum.toNat =
      next.rounds.length % cfg.maxFileNum.toNat := by
    rw [isCount, archives.rounds, List.length_append, List.length_singleton, Nat.mod_add_mod]
  -- a round of the longer list is an earlier one or the last one
  have member : forall {k other}, next.rounds[k]? = some other ->
      (k < state.rounds.length ∧ state.rounds[k]? = some other) ∨
        (k = state.rounds.length ∧ other = log) := by
    intro k other isOther
    rw [archives.rounds, List.getElem?_append] at isOther
    split at isOther
    next earlier => exact Or.inl ⟨earlier, isOther⟩
    next late =>
      rw [List.getElem?_singleton] at isOther
      split at isOther
      next isLast => exact Or.inr ⟨by omega, (Option.some.inj isOther).symm⟩
      next => cases isOther
  constructor
  · intro next isNext
    rw [archives.index] at isNext
    exact (Option.some.inj isNext).symm.trans following
  · rw [archives.stored, following]
  · intro k other isOther
    rcases member isOther with ⟨_, isEarlier⟩ | ⟨rfl, rfl⟩
    · exact numbered k other isEarlier
    · exact isCount
  · intro k other isOther recent
    have small : k % cfg.maxFileNum.toNat < 20 := Nat.lt_of_lt_of_le (Nat.mod_lt _ positive) most
    rw [archives.rounds, List.length_append, List.length_singleton] at recent
    rw [archives.archives _ small, isCount]
    rcases member isOther with ⟨earlier, isEarlier⟩ | ⟨rfl, rfl⟩
    · rw [if_neg (mod_ne_of_recent earlier (by omega))]
      exact holdsRecent k other isEarlier (by omega)
    · exact if_pos rfl

end Steps

/-! ## Runs -/

section Runs

variable {text : List UInt8} {base cfg : LogCfgInfo} {state next : ArchiveState}

theorem Synchronised.continues (synchronised : Synchronised archive cfg state)
    (readsBack : ReadsBack state) : Continues archive cfg state :=
  ⟨synchronised.numbered, readsBack, synchronised.holdsRecent⟩

theorem archiving_first {store : FileStore (List UInt8)} (linked : store.Linked) :
    Archiving archive cfg (.first store) where
  linked := linked
  idxFile := fun isSome => absurd rfl isSome
  range := nofun
  synchronised := fun _ => ⟨nofun, (congrArg Nat.cast (Nat.zero_mod _)).symm, nofun, nofun⟩

variable (paths : PathsCreated text base cfg) (positive : 0 < cfg.maxFileNum.toNat)
  (most : cfg.maxFileNum.toNat ≤ 20)

include paths positive most

theorem archiving_step {label : ArchiveLabel} (inv : Archiving archive cfg state)
    (stepped : archiveStep archive cfg state label = some next) : Archiving archive cfg next := by
  cases label with
  | restart =>
      have restarts := archiveStep_restart paths inv.linked stepped
      refine ⟨restarts.linked, fun _ => restarts.idxFile, fun index isIndex => ?_,
        restarts.synchronised inv.synchronised⟩
      rw [restarts.index] at isIndex
      exact Option.some.inj isIndex ▸ positive
  | round generation tm =>
      rcases archiveStep_round paths positive most inv.linked inv.idxFile inv.range stepped with
        ⟨_, archives⟩
      refine ⟨archives.linked, fun _ => archives.idxFile, fun index isIndex => ?_,
        archives.synchronised most positive inv.synchronised⟩
      rw [archives.index] at isIndex
      exact Option.some.inj isIndex ▸ Nat.mod_lt _ positive

/-- A restart goes on with the number stored last only where that number is 0. -/
theorem continues_step {label : ArchiveLabel} (inv : Archiving archive cfg state)
    (continues : Continues archive cfg state)
    (stepped : archiveStep archive cfg state label = some next) :
    Continues archive cfg next <-> wholeTurns cfg state label := by
  have after := (archiving_step paths positive most inv stepped).synchronised
  have now := inv.synchronised continues.readsBack
  cases label with
  | restart =>
      have restarts := archiveStep_restart paths inv.linked stepped
      constructor
      · intro continuesNext
        have zero : (0 : Int) = lastStored cfg state.files := continuesNext.readsBack (0, _) (by
          rw [restarts.reads]
          exact List.mem_append_right _ List.mem_cons_self)
        exact (Int.ofNat.inj (zero.trans now.stored)).symm
      · intro whole
        have readsBack : ReadsBack next := by
          intro read member
          rw [restarts.reads] at member
          rcases List.mem_append.mp member with earlier | last
          · exact continues.readsBack read earlier
          · rw [List.mem_singleton.mp last, now.stored, whole]
        exact (after readsBack).continues readsBack
  | round generation tm =>
      rcases archiveStep_round paths positive most inv.linked inv.idxFile inv.range stepped with
        ⟨_, archives⟩
      have readsBack : ReadsBack next := fun read member =>
        continues.readsBack read (archives.reads ▸ member)
      exact iff_of_true ((after readsBack).continues readsBack) trivial

end Runs

/-- The numbers go on across restarts, every read returns what was stored last, and the
archives hold the last generations in every state, exactly if every start comes after a
multiple of `maxFileNum` rounds. -/
theorem numbering_continues_iff {base cfg : LogCfgInfo} {processName : List UInt8}
    (created : myLogPathCreate base processName = some cfg) (least : logFileNumMin ≤ base.maxFileNum)
    (most : base.maxFileNum ≤ logFileNumMax) {store : FileStore (List UInt8)} (linked : store.Linked)
    {labels : List ArchiveLabel} {final : ArchiveState}
    (ran : (archiving archive cfg).run (.first store) labels = some final) :
    (archiving archive cfg).EveryState (Continues archive cfg) (.first store) labels <->
      (archiving archive cfg).AllSteps (wholeTurns cfg) (.first store) labels := by
  have paths := myLogPathCreate_paths created
  have sameNum := paths.limits.2.2.1
  have atLeast := UInt32.le_iff_toNat_le.mp least
  have atMost := UInt32.le_iff_toNat_le.mp most
  rw [← sameNum] at atLeast atMost
  have positive : 0 < cfg.maxFileNum.toNat := Nat.lt_of_lt_of_le (by decide) atLeast
  have start : Archiving archive cfg (.first store) := archiving_first linked
  have continues : Continues archive cfg (.first store) :=
    (start.synchronised nofun).continues nofun
  exact (archiving archive cfg).everyState_iff_allSteps
    (fun state label next inv _ stepped => archiving_step paths positive atMost inv stepped)
    (fun state label next inv holds _ stepped => continues_step paths positive atMost inv holds stepped)
    start continues ((archiving archive cfg).allSteps_of_forall (fun _ _ => trivial) _ _) ran

/-- Two rounds, a restart, and a third round. -/
theorem numbering_continues_iff_twoTurns :
    let base : LogCfgInfo := { LogCfgInfo.cleared with logPath := ascii "/log", maxFileNum := 2 }
    let noon : LocalTime := ⟨2020, 1, 1, 12, 0, 0⟩
    let machine := archiving fun _ generation => generation.getD []
    let labels : List ArchiveLabel := [.restart, .round (ascii "a") noon, .round (ascii "b") noon,
      .restart, .round (ascii "c") noon]
    Exists fun cfg => myLogPathCreate base (ascii "app") = some cfg ∧
      ((machine cfg).run (.first .empty) labels).isSome ∧
      (machine cfg).EveryState (Continues (fun _ generation => generation.getD []) cfg)
        (.first .empty) labels := by
  intro base noon machine labels
  have created : myLogPathCreate base (ascii "app") = some _ := rfl
  refine ⟨_, created, ?_⟩
  have reached : ((machine { base with
      logName := ascii "/log/app.log"
      logBakName := ascii "/log/app.log.bak"
      logIdxFile := ascii "/log/app.idx" }).run (.first .empty) labels).isSome := by
    decide
  rcases Option.isSome_iff_exists.mp reached with ⟨final, ran⟩
  exact ⟨reached, (numbering_continues_iff created (by decide) (by decide) FileStore.linked_empty
    ran).mpr (by decide)⟩

/-- The round after a restart has the number of the first one, and takes its place. -/
theorem numbering_breaks_restart :
    let base : LogCfgInfo := { LogCfgInfo.cleared with logPath := ascii "/log", maxFileNum := 2 }
    let noon : LocalTime := ⟨2020, 1, 1, 12, 0, 0⟩
    let machine := archiving fun _ generation => generation.getD []
    Exists fun cfg => myLogPathCreate base (ascii "app") = some cfg ∧
      Exists fun final =>
        (machine cfg).run (.first .empty)
          [.restart, .round (ascii "a") noon, .restart, .round (ascii "b") noon] = some final ∧
        final.rounds.map ArchivedLog.index = [0, 0] ∧ final.reads = [(0, 0), (0, 1)] ∧
        final.files.store.dataAt (compressFile cfg 0) = some (ascii "b") := by
  intro base noon machine
  have reached : (myLogPathCreate base (ascii "app")).bind (fun cfg =>
      ((machine cfg).run (.first .empty)
        [.restart, .round (ascii "a") noon, .restart, .round (ascii "b") noon]).map (fun final =>
          (final.rounds.map ArchivedLog.index, final.reads,
            final.files.store.dataAt (compressFile cfg 0)))) =
      some ([0, 0], [(0, 0), (0, 1)], some (ascii "b")) := by
    decide
  rcases Option.bind_eq_some_iff.mp reached with ⟨cfg, created, rest⟩
  rcases Option.map_eq_some_iff.mp rest with ⟨final, ran, observed⟩
  simp only [Prod.mk.injEq] at observed
  exact ⟨cfg, created, final, ran, observed⟩

end Logger
end V2x
