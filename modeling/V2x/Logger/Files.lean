import V2x.Foundations.FileStore
import V2x.Foundations.Programs
import V2x.Logger.Config

namespace V2x
namespace Logger

open Foundations

/-!
# The files of the logger

The functions of the logger that use files are programs over the calls they
make.  A descriptor is `none` where the source has -1.

`files` is a kernel in which every call does what it is for: every file with a
name can be opened, and every write is complete.
-/

/-! ## Calls -/

inductive LogOp where
  | access (path : List UInt8)
  | openFile (path : List UInt8) (flags : OpenFlags)
  | close (fd : Nat)
  | write (fd : Nat) (buf : List UInt8)
  | fstat (fd : Nat)
  | read (fd : Nat) (count : Nat)
  | rename (source target : List UInt8)
  | remove (path : List UInt8)
  | semPost
  -- `system` with the command `tar -czvPf compressFile timeLogFile`
  | tar (compressFile timeLogFile : List UInt8)
  | opendir (path : List UInt8)
  | closedir
  | mkdir (path : List UInt8)
deriving DecidableEq, Repr

/-- What the calls return.  `fstat` gives the size and `read` the bytes, or `none` for -1. -/
def LogOp.Answer : LogOp -> Type
  | .openFile _ _ => Option Nat
  | .fstat _ => Option Nat
  | .read _ _ => Option (List UInt8)
  | .opendir _ => Bool
  | _ => Int

/-- An answer for every call. -/
abbrev Answers := (op : LogOp) -> op.Answer

abbrev LogProgram := Program LogOp LogOp.Answer

namespace Sys

def access (path : List UInt8) : LogProgram Int :=
  .perform (LogOp.access path)

def openFile (path : List UInt8) (flags : OpenFlags) : LogProgram (Option Nat) :=
  .perform (LogOp.openFile path flags)

def close (fd : Nat) : LogProgram Int :=
  .perform (LogOp.close fd)

def write (fd : Nat) (buf : List UInt8) : LogProgram Int :=
  .perform (LogOp.write fd buf)

def fstat (fd : Nat) : LogProgram (Option Nat) :=
  .perform (LogOp.fstat fd)

def read (fd count : Nat) : LogProgram (Option (List UInt8)) :=
  .perform (LogOp.read fd count)

def rename (source target : List UInt8) : LogProgram Int :=
  .perform (LogOp.rename source target)

def remove (path : List UInt8) : LogProgram Int :=
  .perform (LogOp.remove path)

def semPost : LogProgram Int :=
  .perform LogOp.semPost

def tar (compressFile timeLogFile : List UInt8) : LogProgram Int :=
  .perform (LogOp.tar compressFile timeLogFile)

def opendir (path : List UInt8) : LogProgram Bool :=
  .perform (LogOp.opendir path)

def closedir : LogProgram Int :=
  .perform LogOp.closedir

def mkdir (path : List UInt8) : LogProgram Int :=
  .perform (LogOp.mkdir path)

end Sys

/-! ## Texts -/

/-- A number in decimal digits with leading zeros, as `%0<width>d` prints it. -/
def decimal (width number : Nat) : List UInt8 :=
  let digits := (Nat.toDigits 10 number).map (fun char => char.toNat.toUInt8)
  List.replicate (width - digits.length) 48 ++ digits

def isDigit (byte : UInt8) : Bool :=
  decide (48 ≤ byte ∧ byte ≤ 57)

/-- The number that the digits at the front of a text stand for. -/
def leadingNumber (text : List UInt8) : Nat :=
  (text.takeWhile isDigit).foldl (fun number digit => 10 * number + (digit.toNat - 48)) 0

def atoi (text : List UInt8) : Int :=
  match text.dropWhile (fun byte => byte == 32 || decide (9 ≤ byte ∧ byte ≤ 13)) with
  | 45 :: digits => - (leadingNumber digits : Int)
  | 43 :: digits => leadingNumber digits
  | digits => leadingNumber digits

/-- `struct tm`, with the fields as they are printed. -/
structure LocalTime where
  year : Nat
  month : Nat
  day : Nat
  hour : Nat
  minute : Nat
  second : Nat
deriving DecidableEq, Repr

/-! ## The log file -/

/-- `WriteLogToFile` after the log file is open. -/
def writeOpenLogFile (cfg : LogCfgInfo) (logFd : Nat) (buf : List UInt8) : LogProgram (Option Nat) := do
  let _ <- Sys.write logFd buf
  let fileInfo <- Sys.fstat logFd
  if cfg.size.toNat < fileInfo.getD 0 then do
    let _ <- Sys.close logFd
    let _ <- Sys.rename cfg.logName cfg.logBakName
    let _ <- Sys.semPost
    return none
  else return some logFd

/-- `WriteLogToFile`, which returns the new `g_logFd`. -/
def writeLogToFile (cfg : LogCfgInfo) (logFd : Option Nat) (buf : List UInt8) :
    LogProgram (Option Nat) :=
  match logFd with
  | some logFd => do
      let found <- Sys.access cfg.logName
      if found ≠ 0 then do
        let _ <- Sys.close logFd
        return none
      else writeOpenLogFile cfg logFd buf
  | none => do
      let opened <- Sys.openFile cfg.logName ⟨true, false, true⟩
      match opened with
      | none => return none
      | some logFd => writeOpenLogFile cfg logFd buf

/-! ## The index file -/

def myLogReadIdxFile (cfg : LogCfgInfo) : LogProgram Nat := do
  let opened <- Sys.openFile cfg.logIdxFile ⟨true, true, false⟩
  match opened with
  | none => return 0
  | some fd => do
      let idxstr <- Sys.read fd 2
      match idxstr with
      | some [first, second] =>
          let idx := atoi [first, second]
          if idx < 0 ∨ cfg.maxFileNum.toNat ≤ idx then do
            let _ <- Sys.close fd
            return 0
          else return idx.toNat
      | _ => do
          let _ <- Sys.close fd
          return 0

def myLogWriteIdxFile (cfg : LogCfgInfo) (idx : Nat) : LogProgram Unit := do
  let opened <- Sys.openFile cfg.logIdxFile ⟨false, false, false⟩
  match opened with
  | none => return ()
  | some fd => do
      let _ <- Sys.write fd (decimal 2 idx)
      return ()

/-! ## Archives -/

def timeLogFile (cfg : LogCfgInfo) (tm : LocalTime) : List UInt8 :=
  cfg.logName ++ ascii "_" ++ decimal 4 tm.year ++ decimal 2 tm.month ++ decimal 2 tm.day ++
    decimal 2 tm.hour ++ decimal 2 tm.minute ++ decimal 2 tm.second

def compressFile (cfg : LogCfgInfo) (index : Nat) : List UInt8 :=
  cfg.logName ++ decimal 2 index ++ ascii ".tar.gz"

def myLogTarLogFile (cfg : LogCfgInfo) (tm : LocalTime) (index : Nat) : LogProgram Unit := do
  let renamed <- Sys.rename cfg.logBakName (timeLogFile cfg tm)
  if renamed ≠ 0 then do
    let _ <- Sys.remove cfg.logBakName
    return ()
  else do
    let _ <- Sys.tar (compressFile cfg index) (timeLogFile cfg tm)
    let _ <- Sys.remove (timeLogFile cfg tm)
    return ()

/-- The remainder by zero is undefined behaviour. -/
def nextIndex (cfg : LogCfgInfo) (index : Nat) : Option Nat :=
  if cfg.maxFileNum = 0 then none else some ((index + 1) % cfg.maxFileNum.toNat)

/-- A round of `MyLogCycleThread` after the semaphore was taken, with the new index. -/
def myLogArchiveRound (cfg : LogCfgInfo) (tm : LocalTime) (index : Nat) : LogProgram (Option Nat) := do
  myLogTarLogFile cfg tm index
  match nextIndex cfg index with
  | none => return none
  | some index => do
      myLogWriteIdxFile cfg index
      return some index

/-! ## The configuration file -/

/-- `MyLogReadFileCfgBuf` with the bytes that it puts into the buffer. -/
def myLogReadFileCfgBuf (size : Nat) : LogProgram (Int × List UInt8) := do
  let opened <- Sys.openFile logCfgFileName ⟨false, false, false⟩
  match opened with
  | none => return (-1, [])
  | some fd => do
      let statInfo <- Sys.fstat fd
      match statInfo with
      | none => do
          let _ <- Sys.close fd
          return (-1, [])
      | some stSize =>
          if stSize = 0 ∨ size ≤ stSize then do
            let _ <- Sys.close fd
            return (-1, [])
          else do
            let logJsonBuf <- Sys.read fd stSize
            let _ <- Sys.close fd
            match logJsonBuf with
            | none => return (-1, [])
            | some bytes =>
                return (if bytes.length = stSize then 0 else bytes.length, bytes)

def myLogCheckLogPathIsValid (cfg : LogCfgInfo) : LogProgram Int := do
  let dir <- Sys.opendir cfg.logPath
  if dir then do
    let _ <- Sys.closedir
    return 0
  else do
    let made <- Sys.mkdir cfg.logPath
    return if made ≠ 0 then -1 else 0

/-! ## The names of the archives -/

theorem atoi_decimal : forall index, index < 20 -> atoi (decimal 2 index) = index := by
  decide

theorem decimal_head : forall index, index < 20 ->
    (decimal 2 index).head?.any isDigit = true := by
  decide

namespace PathsCreated

variable {base : List UInt8} {cfg named : LogCfgInfo} {index other : Nat}

theorem logBakName_eq (paths : PathsCreated base cfg named) :
    named.logBakName = named.logName ++ ascii ".bak" := by
  rw [paths.logBakName, paths.logName, List.append_assoc]
  rfl

/-- What stands behind the name of the log file tells the names apart. -/
theorem compressFile_ne_append (rest : List UInt8) {byte : UInt8} (notDigit : isDigit byte = false)
    (small : index < 20) : compressFile named index ≠ named.logName ++ (byte :: rest) := by
  intro same
  rw [compressFile, List.append_assoc] at same
  have heads := congrArg List.head? (List.append_cancel_left same)
  have digit := decimal_head index small
  cases isHead : (decimal 2 index).head? with
  | none =>
      rw [isHead] at digit
      cases digit
  | some first =>
      rw [isHead, Option.any_some] at digit
      rw [List.head?_append, isHead, Option.some_or, List.head?_cons] at heads
      rw [Option.some.inj heads, notDigit] at digit
      cases digit

theorem compressFile_ne_timeLogFile (tm : LocalTime) (small : index < 20) :
    compressFile named index ≠ timeLogFile named tm := by
  simp only [timeLogFile, List.append_assoc]
  exact compressFile_ne_append _ (by decide) small

theorem compressFile_ne_logBakName (paths : PathsCreated base cfg named) (small : index < 20) :
    compressFile named index ≠ named.logBakName := by
  rw [paths.logBakName_eq]
  exact compressFile_ne_append _ (by decide) small

theorem append_ne_logIdxFile (paths : PathsCreated base cfg named) (rest : List UInt8) :
    named.logName ++ rest ≠ named.logIdxFile := by
  intro same
  rw [paths.logName, paths.logIdxFile, List.append_assoc] at same
  have seconds : some (108 : UInt8) = some 105 :=
    congrArg (fun text => text[1]?) (List.append_cancel_left same)
  exact absurd seconds (by decide)

theorem logName_ne_logIdxFile (paths : PathsCreated base cfg named) :
    named.logName ≠ named.logIdxFile := by
  have different := paths.append_ne_logIdxFile []
  rw [List.append_nil] at different
  exact different

theorem logBakName_ne_logIdxFile (paths : PathsCreated base cfg named) :
    named.logBakName ≠ named.logIdxFile := by
  rw [paths.logBakName_eq]
  exact paths.append_ne_logIdxFile _

theorem timeLogFile_ne_logIdxFile (paths : PathsCreated base cfg named) (tm : LocalTime) :
    timeLogFile named tm ≠ named.logIdxFile := by
  simp only [timeLogFile, List.append_assoc]
  exact paths.append_ne_logIdxFile _

theorem compressFile_ne_logIdxFile (paths : PathsCreated base cfg named) (index : Nat) :
    compressFile named index ≠ named.logIdxFile := by
  rw [compressFile, List.append_assoc]
  exact paths.append_ne_logIdxFile _

theorem append_ne_logName {rest : List UInt8} (more : rest ≠ []) : named.logName ++ rest ≠ named.logName :=
  fun same => more (List.append_right_eq_self.mp same)

theorem logBakName_ne_logName (paths : PathsCreated base cfg named) :
    named.logBakName ≠ named.logName := by
  rw [paths.logBakName_eq]
  exact append_ne_logName (by decide)

theorem timeLogFile_ne_logName (tm : LocalTime) : timeLogFile named tm ≠ named.logName := by
  simp only [timeLogFile, List.append_assoc]
  exact append_ne_logName (List.cons_ne_nil _ _)

theorem compressFile_ne_logName (index : Nat) : compressFile named index ≠ named.logName := by
  rw [compressFile, List.append_assoc]
  exact append_ne_logName (List.append_ne_nil_of_right_ne_nil _ (by decide))

theorem timeLogFile_ne_logBakName (paths : PathsCreated base cfg named) (tm : LocalTime) :
    timeLogFile named tm ≠ named.logBakName := by
  intro same
  rw [paths.logBakName_eq] at same
  simp only [timeLogFile, List.append_assoc] at same
  have firsts : some (95 : UInt8) = some 46 := congrArg List.head? (List.append_cancel_left same)
  exact absurd firsts (by decide)

theorem logIdxFile_ne_nil (paths : PathsCreated base cfg named) : named.logIdxFile ≠ [] := by
  rw [paths.logIdxFile]
  exact List.append_ne_nil_of_right_ne_nil base (by decide)

theorem compressFile_inj (small : index < 20) (otherSmall : other < 20)
    (same : compressFile named index = compressFile named other) : index = other := by
  have texts := List.append_cancel_left (List.append_cancel_right same)
  have numbers := congrArg atoi texts
  rw [atoi_decimal index small, atoi_decimal other otherSmall] at numbers
  exact Int.ofNat.inj numbers

end PathsCreated

/-! ## The kernel that keeps files -/

/-- The files, the semaphore `g_timedSem`, and all bytes passed to `write` with the path
by which the descriptor was opened. -/
structure LogFiles where
  store : FileStore (List UInt8)
  sem : Nat
  written : List (List UInt8 × List UInt8)

/-- The bytes passed to `write` on a file, in order. -/
def LogFiles.writtenTo (state : LogFiles) (path : List UInt8) : List UInt8 :=
  (state.written.filter (fun write => decide (write.1 = path))).flatMap Prod.snd

/-- A file that is not there gives -1. -/
def returnValue (success : Bool) : Int :=
  if success then 0 else -1

/-- Calls that do what they are for.  `archive` is what `tar` makes of a file. -/
def files (archive : List UInt8 -> Option (List UInt8) -> List UInt8) :
    Kernel LogOp LogOp.Answer LogFiles where
  answer state
    | .access path => some (returnValue (state.store.entry path).isSome, state)
    | .openFile path flags =>
        if path = [] then some ((none : Option Nat), state)
        else
          let opened := state.store.openPath path flags
          some (opened.1, { state with store := opened.2 })
    | .close fd => some ((0 : Int), { state with store := state.store.close fd })
    | .write fd buf =>
        match state.store.openFile fd with
        | none => some ((-1 : Int), state)
        | some file => some ((buf.length : Int), { state with
            store := state.store.write fd buf
            written := state.written ++ [(file.path, buf)] })
    | .fstat fd => some (some (state.store.size fd), state)
    | .read fd count =>
        let bytes := state.store.read fd count
        some (some bytes.1, { state with store := bytes.2 })
    | .rename source target =>
        let renamed := state.store.rename source target
        some (returnValue renamed.1, { state with store := renamed.2 })
    | .remove path =>
        let removed := state.store.remove path
        some (returnValue removed.1, { state with store := removed.2 })
    | .semPost => some ((0 : Int), { state with sem := state.sem + 1 })
    | .tar compressFile timeLogFile => some ((0 : Int), { state with
        store := state.store.put compressFile
          (archive timeLogFile (state.store.dataAt timeLogFile)) })
    | .opendir _ => some (true, state)
    | .closedir => some ((0 : Int), state)
    | .mkdir _ => some ((0 : Int), state)

/-! ## What the calls do -/

section Calls

variable {archive : List UInt8 -> Option (List UInt8) -> List UInt8} {state : LogFiles}

@[simp] theorem exec_access (path : List UInt8) :
    (Sys.access path).exec (files archive) state =
      some (returnValue (state.store.entry path).isSome, state) :=
  rfl

theorem exec_openFile {path : List UInt8} (named : path ≠ []) (flags : OpenFlags) :
    (Sys.openFile path flags).exec (files archive) state =
      some ((state.store.openPath path flags).1,
        { state with store := (state.store.openPath path flags).2 }) :=
  (Program.exec_perform (files archive) (LogOp.openFile path flags) state).trans (if_neg named)

theorem exec_openFile_nil (flags : OpenFlags) :
    (Sys.openFile [] flags).exec (files archive) state = some (none, state) :=
  rfl

@[simp] theorem exec_close (fd : Nat) :
    (Sys.close fd).exec (files archive) state =
      some (0, { state with store := state.store.close fd }) :=
  rfl

theorem exec_write {fd : Nat} {file : OpenFile (List UInt8)}
    (isFile : state.store.openFile fd = some file) (buf : List UInt8) :
    (Sys.write fd buf).exec (files archive) state =
      some ((buf.length : Int), { state with
        store := state.store.write fd buf
        written := state.written ++ [(file.path, buf)] }) := by
  refine (Program.exec_perform (files archive) (LogOp.write fd buf) state).trans ?_
  simp only [files, isFile]
  rfl

@[simp] theorem exec_fstat (fd : Nat) :
    (Sys.fstat fd).exec (files archive) state = some (some (state.store.size fd), state) :=
  rfl

@[simp] theorem exec_read (fd count : Nat) :
    (Sys.read fd count).exec (files archive) state =
      some (some (state.store.read fd count).1,
        { state with store := (state.store.read fd count).2 }) :=
  rfl

@[simp] theorem exec_rename (source target : List UInt8) :
    (Sys.rename source target).exec (files archive) state =
      some (returnValue (state.store.rename source target).1,
        { state with store := (state.store.rename source target).2 }) :=
  rfl

@[simp] theorem exec_remove (path : List UInt8) :
    (Sys.remove path).exec (files archive) state =
      some (returnValue (state.store.remove path).1,
        { state with store := (state.store.remove path).2 }) :=
  rfl

@[simp] theorem exec_semPost :
    Sys.semPost.exec (files archive) state = some (0, { state with sem := state.sem + 1 }) :=
  rfl

@[simp] theorem exec_tar (compressFile timeLogFile : List UInt8) :
    (Sys.tar compressFile timeLogFile).exec (files archive) state =
      some (0, { state with
        store := state.store.put compressFile
          (archive timeLogFile (state.store.dataAt timeLogFile)) }) :=
  rfl

/-- A `write` touches no name. -/
theorem files_write {fd : Nat} {buf : List UInt8} {written : Int} {after : LogFiles}
    (isAnswer : (files archive).answer state (.write fd buf) = some (written, after)) :
    after.store.entry = state.store.entry ∧ after.store.created = state.store.created ∧
      after.sem = state.sem := by
  simp only [files] at isAnswer
  split at isAnswer
  · rcases Prod.mk.inj (Option.some.inj isAnswer) with ⟨_, rfl⟩
    exact ⟨rfl, rfl, rfl⟩
  · rcases Prod.mk.inj (Option.some.inj isAnswer) with ⟨_, rfl⟩
    exact ⟨FileStore.entry_write buf, FileStore.created_write buf, rfl⟩

/-- No call gives a file a second name. -/
theorem files_linked (op : LogOp) (answered : op.Answer × LogFiles) (linked : state.store.Linked)
    (isAnswer : (files archive).answer state op = some answered) : answered.2.store.Linked := by
  cases op with
  | openFile path flags =>
      simp only [files] at isAnswer
      split at isAnswer
      · exact Option.some.inj isAnswer ▸ linked
      · exact Option.some.inj isAnswer ▸ linked.openPath path flags
  | write fd buf =>
      simp only [files] at isAnswer
      split at isAnswer
      · exact Option.some.inj isAnswer ▸ linked
      · exact Option.some.inj isAnswer ▸ linked.write fd buf
  | read fd count => exact Option.some.inj isAnswer ▸ linked.read fd count
  | rename source target => exact Option.some.inj isAnswer ▸ linked.rename source target
  | remove path => exact Option.some.inj isAnswer ▸ linked.remove path
  | tar compressFile timeLogFile => exact Option.some.inj isAnswer ▸ linked.put compressFile _
  | close fd => exact Option.some.inj isAnswer ▸ linked.of_entries rfl rfl
  | access _ | fstat _ | semPost | opendir _ | closedir | mkdir _ =>
      exact Option.some.inj isAnswer ▸ linked

theorem exec_linked {program : LogProgram α} {value : α} {after : LogFiles}
    (linked : state.store.Linked) (ran : program.exec (files archive) state = some (value, after)) :
    after.store.Linked :=
  Program.meets_of_calls (fun _ op answered kept isAnswer => files_linked op answered kept isAnswer)
    program state value after linked ran

end Calls

end Logger
end V2x
