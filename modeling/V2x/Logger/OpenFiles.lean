import V2x.Foundations.Descriptors
import V2x.Foundations.TransitionSystem
import V2x.Logger.Sessions

namespace V2x
namespace Logger

open Foundations

/-!
# The descriptors of the logger

Here any call may succeed or fail.  The answers come with each operation, and an
operation makes no call twice, so an answer for every call is enough.

Between two operations the logger should have `g_logFd` open and nothing else.
The two functions for the index file break this: the reader returns a number
without closing the file, and the writer never closes it.
-/

/-! ## Calls with any answers -/

/-- A call that neither opens nor closes a descriptor. -/
def LogOp.quiet : LogOp -> Bool
  | .openFile _ _ => false
  | .close _ => false
  | _ => true

/-- `open` returns a number that is not in use. -/
def descriptors (answers : Answers) : Kernel LogOp LogOp.Answer (Descriptors Nat) where
  answer table
    | .openFile path flags =>
        match (answers (.openFile path flags) : Option Nat) with
        | none => some ((none : Option Nat), table)
        | some fd => if (table.file fd).isSome then none else some (some fd, table.create fd)
    | .close fd => some (answers (.close fd), table.close fd)
    | op => some (answers op, table)

section Calls

variable {answers : Answers} {fds : List Nat} {after : α -> Descriptors Nat -> Prop}

theorem meets_quiet {op : LogOp} {rest : op.Answer -> LogProgram α} (quiet : op.quiet = true)
    (next : forall answer, answer = answers op ->
      Program.Meets (descriptors answers) (Descriptors.Holds · fds) (rest answer) after) :
    Program.Meets (descriptors answers) (Descriptors.Holds · fds) (.perform op >>= rest) after := by
  have answered : Program.Meets (descriptors answers) (Descriptors.Holds · fds) (.perform op)
      (fun answer table => answer = answers op ∧ table.Holds fds) := by
    apply Program.meets_perform
    intro table answered holds isAnswer
    have same : some answered = some (answers op, table) := by
      rw [← isAnswer]
      cases op with
      | openFile _ _ | close _ => cases quiet
      | _ => rfl
    rw [Option.some.inj same]
    exact ⟨rfl, holds⟩
  exact Program.meets_bind answered (fun answer => Program.meets_of_fact (next answer))

theorem meets_openFile {path : List UInt8} {flags : OpenFlags} {rest : Option Nat -> LogProgram α}
    (refused : answers (.openFile path flags) = none ->
      Program.Meets (descriptors answers) (Descriptors.Holds · fds) (rest none) after)
    (granted : forall fd, answers (.openFile path flags) = some fd -> fd ∉ fds ->
      Program.Meets (descriptors answers) (Descriptors.Holds · (fd :: fds)) (rest (some fd)) after) :
    Program.Meets (descriptors answers) (Descriptors.Holds · fds)
      (Sys.openFile path flags >>= rest) after := by
  intro table value final holds ran
  rcases (Program.exec_bind_iff _).mp ran with ⟨opened, middle, performed, ranRest⟩
  have isOpened : (descriptors answers).answer table (.openFile path flags) = some (opened, middle) :=
    (Program.exec_perform _ (LogOp.openFile path flags) table).symm.trans performed
  simp only [descriptors] at isOpened
  split at isOpened
  next isNone =>
    cases isOpened
    exact refused isNone table value final holds ranRest
  next fd isSome =>
    split at isOpened
    · cases isOpened
    next free =>
      cases isOpened
      have new : fd ∉ fds := fun member => free ((holds.isOpen fd).mpr member)
      exact granted fd isSome new _ value final (holds.create fd) ranRest

theorem meets_close {fd : Nat} {rest : Int -> LogProgram α} (once : fd ∉ fds)
    (next : forall answer,
      Program.Meets (descriptors answers) (Descriptors.Holds · fds) (rest answer) after) :
    Program.Meets (descriptors answers) (Descriptors.Holds · (fd :: fds)) (Sys.close fd >>= rest)
      after := by
  intro table value final holds ran
  rcases (Program.exec_bind_iff _).mp ran with ⟨answer, middle, isClosed, ranRest⟩
  cases isClosed
  exact next _ _ value final (holds.close once) ranRest

end Calls

/-- These descriptors are open, and one more that an operation has not closed. -/
def HoldsAlso (fds : List Nat) (unclosed : Option Nat) (table : Descriptors Nat) : Prop :=
  (forall fd, unclosed = some fd -> fd ∉ fds) ∧ table.Holds (unclosed.toList ++ fds)

theorem HoldsAlso.holds_iff {fds : List Nat} {unclosed : Option Nat} {table : Descriptors Nat}
    (also : HoldsAlso fds unclosed table) : table.Holds fds <-> unclosed = none := by
  cases unclosed with
  | none => exact iff_of_true also.2 rfl
  | some fd => exact iff_of_false (also.2.not_cons (also.1 fd rfl)) nofun

/-! ## The functions that use files -/

section Functions

open Program

variable {answers : Answers} {fds : List Nat} (cfg : LogCfgInfo)

/-- The log file stays open as `g_logFd`, or it is closed. -/
theorem meets_writeOpenLogFile (fd : Nat) (buf : List UInt8) :
    Meets (descriptors answers) (Descriptors.Holds · [fd]) (writeOpenLogFile cfg fd buf)
      (fun logFd table => table.Holds logFd.toList) := by
  refine meets_quiet rfl fun written _ => meets_quiet rfl fun fileInfo _ => meets_ite ?_ ?_
  · intro full
    refine meets_close List.not_mem_nil fun _ => meets_quiet rfl fun renamed _ => ?_
    exact meets_quiet rfl fun posted _ => meets_pure fun _ holds => holds
  · exact fun _ => meets_pure fun _ holds => holds

theorem meets_writeLogToFile (logFd : Option Nat) (buf : List UInt8) :
    Meets (descriptors answers) (Descriptors.Holds · logFd.toList) (writeLogToFile cfg logFd buf)
      (fun logFd table => table.Holds logFd.toList) := by
  cases logFd with
  | some fd =>
      refine meets_quiet rfl fun (found : Int) _ => meets_ite ?_ ?_
      · intro missing
        exact meets_close List.not_mem_nil fun _ => meets_pure fun _ holds => holds
      · exact fun _ => meets_writeOpenLogFile cfg fd buf
  | none =>
      refine meets_openFile ?_ ?_
      · exact fun _ => meets_pure fun _ holds => holds
      · exact fun fd _ _ => meets_writeOpenLogFile cfg fd buf

theorem meets_myLogTarLogFile (tm : LocalTime) (index : Nat) :
    Meets (descriptors answers) (Descriptors.Holds · fds) (myLogTarLogFile cfg tm index)
      (fun _ table => table.Holds fds) := by
  refine meets_quiet rfl fun (renamed : Int) _ => meets_ite ?_ ?_
  · intro failed
    exact meets_quiet rfl fun removed _ => meets_pure fun _ holds => holds
  · intro moved
    refine meets_quiet rfl fun packed _ => meets_quiet rfl fun removed _ => ?_
    exact meets_pure fun _ holds => holds

/-- The index file is not closed. -/
theorem meets_myLogWriteIdxFile (idx : Nat) :
    Meets (descriptors answers) (Descriptors.Holds · fds) (myLogWriteIdxFile cfg idx)
      (fun _ => HoldsAlso fds (answers (.openFile cfg.logIdxFile ⟨false, false, false⟩))) := by
  refine meets_openFile ?_ ?_
  · intro refused
    rw [refused]
    exact meets_pure fun _ holds => ⟨nofun, holds⟩
  · intro fd granted new
    rw [granted]
    refine meets_quiet rfl fun written _ => meets_pure fun _ holds => ⟨?_, holds⟩
    exact fun _ same => Option.some.inj same ▸ new

/-- Two bytes that are a number below `maxFileNum`. -/
def isStoredIndex (cfg : LogCfgInfo) : Option (List UInt8) -> Bool
  | some [first, second] =>
      decide (0 ≤ atoi [first, second] ∧ atoi [first, second] < cfg.maxFileNum.toNat)
  | _ => false

/-- A number that is returned is returned without closing the index file. -/
theorem meets_myLogReadIdxFile :
    Meets (descriptors answers) (Descriptors.Holds · fds) (myLogReadIdxFile cfg)
      (fun _ => HoldsAlso fds (Option.filter (fun fd => isStoredIndex cfg (answers (.read fd 2)))
        (answers (.openFile cfg.logIdxFile ⟨true, true, false⟩)))) := by
  refine meets_openFile ?_ ?_
  · intro refused
    rw [refused]
    exact meets_pure fun _ holds => ⟨nofun, holds⟩
  · intro fd granted new
    rw [granted, Option.filter_some]
    refine meets_quiet rfl fun (idxstr : Option (List UInt8)) isRead => ?_
    rw [← isRead]
    have closes : Meets (descriptors answers) (Descriptors.Holds · (fd :: fds))
        (Sys.close fd >>= fun _ => pure 0) (fun (_ : Nat) => HoldsAlso fds none) :=
      meets_close new fun _ => meets_pure fun _ holds => ⟨nofun, holds⟩
    split
    next first second =>
      refine meets_ite ?_ ?_
      · intro outside
        have notStored : isStoredIndex cfg (some [first, second]) = false :=
          decide_eq_false (by omega)
        rw [notStored]
        exact closes
      · intro inside
        have isStored : isStoredIndex cfg (some [first, second]) = true := decide_eq_true (by omega)
        rw [isStored]
        exact meets_pure fun _ holds => ⟨fun _ same => Option.some.inj same ▸ new, holds⟩
    next other =>
      have notStored : isStoredIndex cfg idxstr = false := by
        unfold isStoredIndex
        split
        next first second => exact absurd rfl (other first second)
        next => rfl
      rw [notStored]
      exact closes

theorem meets_myLogReadFileCfgBuf (size : Nat) :
    Meets (descriptors answers) (Descriptors.Holds · fds) (myLogReadFileCfgBuf size)
      (fun _ table => table.Holds fds) := by
  refine meets_openFile ?_ ?_
  · exact fun _ => meets_pure fun _ holds => holds
  · intro fd _ new
    refine meets_quiet rfl fun (statInfo : Option Nat) _ => ?_
    cases statInfo with
    | none => exact meets_close new fun _ => meets_pure fun _ holds => holds
    | some stSize =>
        refine meets_ite ?_ ?_
        · exact fun _ => meets_close new fun _ => meets_pure fun _ holds => holds
        · intro fits
          refine meets_quiet rfl fun (logJsonBuf : Option (List UInt8)) _ => meets_close new fun _ => ?_
          cases logJsonBuf <;> exact meets_pure fun _ holds => holds

theorem meets_myLogCheckLogPathIsValid :
    Meets (descriptors answers) (Descriptors.Holds · fds) (myLogCheckLogPathIsValid cfg)
      (fun _ table => table.Holds fds) := by
  refine meets_quiet rfl fun (dir : Bool) _ => meets_ite ?_ ?_
  · exact fun _ => meets_quiet rfl fun _ _ => meets_pure fun _ holds => holds
  · exact fun _ => meets_quiet rfl fun _ _ => meets_pure fun _ holds => holds

theorem meets_myLogConfigure (parse : List UInt8 -> Option CJson) (input : InitInput) :
    Meets (descriptors answers) (Descriptors.Holds · fds) (myLogConfigure parse input)
      (fun _ table => table.Holds fds) := by
  have same : forall {α : Type} {value : α}, Meets (descriptors answers) (Descriptors.Holds · fds)
      (pure value) (fun _ table => table.Holds fds) := meets_pure fun _ holds => holds
  cases isName : input.processName with
  | none =>
      simp only [myLogConfigure, isName]
      exact same
  | some processName =>
      have loads : Meets (descriptors answers) (Descriptors.Holds · fds)
          (myLogLoadFileCfg parse input.buf .cleared processName) (fun _ table => table.Holds fds) :=
        meets_bind (meets_myLogReadFileCfgBuf 1024) fun loaded => meets_ite (fun _ => same) (fun _ => same)
      have configures : Meets (descriptors answers) (Descriptors.Holds · fds)
          (myLogCfgLoad parse input.buf .cleared processName) (fun _ table => table.Holds fds) := by
        refine meets_bind loads fun loaded => ?_
        cases loaded with
        | none => exact same
        | some result => exact meets_bind (meets_myLogCheckLogPathIsValid _) fun _ => same
      simp only [myLogConfigure, isName]
      refine meets_bind configures fun loaded => ?_
      cases loaded with
      | none => exact same
      | some result => exact meets_ite (fun _ => same) (fun _ => same)

end Functions

/-! ## Operations in any order -/

/-- The descriptors, and the variables that decide what is opened. -/
structure FilesState where
  table : Descriptors Nat
  cfg : LogCfgInfo
  logFd : Option Nat
  index : Nat

inductive FilesLabel where
  -- the configuration is loaded by `MyLogInit`
  | load (input : InitInput) (answers : Answers)
  | readIdx (answers : Answers)
  -- a flush, with a rotation if the log file is too large
  | flush (buf : List UInt8) (answers : Answers)
  | tar (tm : LocalTime) (answers : Answers)
  -- the next index is computed and stored
  | writeIdx (answers : Answers)
  | deinit

section Operations

variable (parse : List UInt8 -> Option CJson)

def filesStep (state : FilesState) : FilesLabel -> Option FilesState
  | .load input answers => do
      let done <- (myLogConfigure parse input).exec (descriptors answers) state.table
      let ended <- done.1
      return { state with table := done.2, cfg := ended.cfg }
  | .readIdx answers => do
      let done <- (myLogReadIdxFile state.cfg).exec (descriptors answers) state.table
      return { state with table := done.2, index := done.1 }
  | .flush buf answers => do
      let done <- (writeLogToFile state.cfg state.logFd buf).exec (descriptors answers) state.table
      return { state with table := done.2, logFd := done.1 }
  | .tar tm answers => do
      let done <- (myLogTarLogFile state.cfg tm state.index).exec (descriptors answers) state.table
      return { state with table := done.2 }
  | .writeIdx answers => do
      let index <- nextIndex state.cfg state.index
      let done <- (myLogWriteIdxFile state.cfg index).exec (descriptors answers) state.table
      return { state with table := done.2, index := index }
  | .deinit => some { state with
      table :=
        match state.logFd with
        | none => state.table
        | some fd => state.table.close fd
      cfg := .cleared
      logFd := none }

def fileOperations : Machine FilesState FilesLabel where
  step := filesStep parse

/-- No file is open. -/
def FilesState.start : FilesState where
  table := .empty
  cfg := .cleared
  logFd := none
  index := 0

/-- `g_logFd` is open when it is not -1, and nothing else is. -/
def HoldsLogFd (state : FilesState) : Prop :=
  state.table.Holds state.logFd.toList

/-- The index file is not opened, or it is opened by a reader that finds no number in it. -/
def closesIdxFile (state : FilesState) : FilesLabel -> Prop
  | .readIdx answers =>
      Option.all (fun fd => !isStoredIndex state.cfg (answers (.read fd 2)))
        (answers (.openFile state.cfg.logIdxFile ⟨true, true, false⟩)) = true
  | .writeIdx answers =>
      Option.isNone (answers (.openFile state.cfg.logIdxFile ⟨false, false, false⟩)) = true
  | _ => True

instance (state : FilesState) : (label : FilesLabel) -> Decidable (closesIdxFile state label)
  | .readIdx _ => inferInstanceAs (Decidable (_ = true))
  | .writeIdx _ => inferInstanceAs (Decidable (_ = true))
  | .load _ _ | .flush _ _ | .tar _ _ | .deinit => inferInstanceAs (Decidable True)

variable {parse}

theorem filter_eq_none_iff_all {opened : Option Nat} {keeps : Nat -> Bool} :
    opened.filter keeps = none <-> opened.all (fun fd => !keeps fd) = true := by
  cases opened with
  | none => exact iff_of_true rfl rfl
  | some fd => simp only [Option.filter_eq_none_iff, Option.some.injEq, forall_eq', Option.all_some,
      Bool.not_eq_true, Bool.not_eq_true']

theorem filesStep_holds_iff {state next : FilesState} {label : FilesLabel} (holds : HoldsLogFd state)
    (stepped : filesStep parse state label = some next) :
    HoldsLogFd next <-> closesIdxFile state label := by
  cases label with
  | load input answers =>
      rcases Option.bind_eq_some_iff.mp stepped with ⟨done, ran, configuring⟩
      rcases Option.bind_eq_some_iff.mp configuring with ⟨ended, _, isNext⟩
      rw [← Option.some.inj isNext]
      exact iff_of_true (meets_myLogConfigure parse input state.table done.1 done.2 holds ran) trivial
  | readIdx answers =>
      rcases Option.bind_eq_some_iff.mp stepped with ⟨done, ran, isNext⟩
      have also := meets_myLogReadIdxFile state.cfg state.table done.1 done.2 holds ran
      rw [← Option.some.inj isNext]
      exact also.holds_iff.trans filter_eq_none_iff_all
  | flush buf answers =>
      rcases Option.bind_eq_some_iff.mp stepped with ⟨done, ran, isNext⟩
      rw [← Option.some.inj isNext]
      exact iff_of_true (meets_writeLogToFile state.cfg state.logFd buf state.table done.1 done.2 holds ran)
        trivial
  | tar tm answers =>
      rcases Option.bind_eq_some_iff.mp stepped with ⟨done, ran, isNext⟩
      rw [← Option.some.inj isNext]
      exact iff_of_true
        (meets_myLogTarLogFile state.cfg tm state.index state.table done.1 done.2 holds ran) trivial
  | writeIdx answers =>
      rcases Option.bind_eq_some_iff.mp stepped with ⟨index, _, storing⟩
      rcases Option.bind_eq_some_iff.mp storing with ⟨done, ran, isNext⟩
      have also := meets_myLogWriteIdxFile state.cfg index state.table done.1 done.2 holds ran
      rw [← Option.some.inj isNext]
      exact also.holds_iff.trans Option.isNone_iff_eq_none.symm
  | deinit =>
      rw [← Option.some.inj stepped]
      refine iff_of_true ?_ trivial
      rcases state with ⟨table, cfg, logFd, index⟩
      cases logFd with
      | none => exact holds
      | some fd => exact Descriptors.Holds.close holds List.not_mem_nil

end Operations

/-! ## Runs -/

/-- Between two operations `g_logFd` is the only open descriptor, and no descriptor was
closed twice, exactly if no write of the index opens the file, and no read of it returns a
number from the file. -/
theorem descriptors_held_iff {parse : List UInt8 -> Option CJson} {labels : List FilesLabel}
    {final : FilesState} (ran : (fileOperations parse).run .start labels = some final) :
    (fileOperations parse).EveryState HoldsLogFd .start labels <->
      (fileOperations parse).AllSteps closesIdxFile .start labels :=
  (fileOperations parse).everyState_iff_allSteps (fun _ _ _ _ _ _ => trivial)
    (fun _ _ _ _ holds _ stepped => filesStep_holds_iff holds stepped)
    (trivial : (fun _ => True) FilesState.start) Descriptors.holds_empty
    ((fileOperations parse).allSteps_of_forall (fun _ _ => trivial) _ _) ran

/-- Every call succeeds, and every open file has the number 3.  The log file is too large
after a flush. -/
def sampleAnswers (idxstr : List UInt8) : Answers
  | .openFile _ _ => some (3 : Nat)
  | .fstat _ => some (100000 : Nat)
  | .read _ _ => some idxstr
  | .opendir _ => true
  | .access _ | .close _ | .write _ _ | .rename _ _ | .remove _ | .semPost | .tar _ _ | .closedir
  | .mkdir _ => (0 : Int)

/-- The configuration file is there, and its text has been read. -/
def sampleLoadAnswers : Answers
  | .openFile _ _ => some (3 : Nat)
  | .fstat _ => some sampleCfgText.length
  | .read _ _ => some sampleCfgText
  | .opendir _ => true
  | .access _ | .close _ | .write _ _ | .rename _ _ | .remove _ | .semPost | .tar _ _ | .closedir
  | .mkdir _ => (0 : Int)

/-- The index file is not there. -/
def sampleNoIdxAnswers : Answers
  | .openFile _ _ => (none : Option Nat)
  | op => sampleAnswers [] op

/-- A thread that starts reads an empty index file, and the log is rotated and archived.  The
index file cannot be opened to store the next index. -/
theorem descriptors_held_iff_oneRound :
    let labels : List FilesLabel := [.load sampleInput sampleLoadAnswers, .readIdx (sampleAnswers []),
      .flush (ascii "a") (sampleAnswers []), .tar ⟨2020, 1, 1, 12, 0, 0⟩ (sampleAnswers []),
      .writeIdx sampleNoIdxAnswers]
    ((fileOperations sampleParse).run .start labels).isSome ∧
      (fileOperations sampleParse).EveryState HoldsLogFd .start labels := by
  intro labels
  have reached : ((fileOperations sampleParse).run .start labels).isSome := by decide +kernel
  rcases Option.isSome_iff_exists.mp reached with ⟨final, ran⟩
  exact ⟨reached, (descriptors_held_iff ran).mpr (by decide +kernel)⟩

/-- One archive round leaves the index file open for ever. -/
theorem descriptors_leak_oneRound :
    Exists fun final =>
      (fileOperations sampleParse).run .start [.load sampleInput sampleLoadAnswers,
        .readIdx (sampleAnswers []), .flush (ascii "a") (sampleAnswers []),
        .tar ⟨2020, 1, 1, 12, 0, 0⟩ (sampleAnswers []), .writeIdx (sampleAnswers [])] = some final ∧
      final.cfg.output = outputFileType ∧ final.logFd = none ∧ (final.table.file 3).isSome := by
  have reached : ((fileOperations sampleParse).run .start [.load sampleInput sampleLoadAnswers,
        .readIdx (sampleAnswers []), .flush (ascii "a") (sampleAnswers []),
        .tar ⟨2020, 1, 1, 12, 0, 0⟩ (sampleAnswers []), .writeIdx (sampleAnswers [])]).map (fun final =>
      (final.cfg.output, final.logFd, (final.table.file 3).isSome)) =
      some (outputFileType, none, true) := by
    decide +kernel
  rcases Option.map_eq_some_iff.mp reached with ⟨final, ran, observed⟩
  simp only [Prod.mk.injEq] at observed
  exact ⟨final, ran, observed⟩

end Logger
end V2x
