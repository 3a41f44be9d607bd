import Mathlib.Algebra.Group.Nat.Defs
import V2x.Logger.InitialBuffers

namespace V2x
namespace Logger

/-!
# The lengths of the paths

The arrays for the paths of the logger are sized by macros.  `LOG_PATH_LEN` is
the size for the directory, and `LOG_FILE_NAME` is to be enough for the rest of
the name of a file.  Neither the string under `FilePath` nor the name of the
process is measured before it is copied.
-/

/-! ## What is written into the arrays -/

abbrev logBakFileTimeName : Nat := logPathLen + logFileName + 32

/-- A string that is copied or printed into an array of this size. -/
structure ArrayWrite where
  text : List UInt8
  size : Nat

/-- The string and its final NUL are inside the array. -/
def ArrayWrite.Fits (write : ArrayWrite) : Prop :=
  write.text.length + 1 ≤ write.size

/-- What `MyLogParseJsonFile` and `MyLogPathCreate` write into `g_logCfg`. -/
def pathWrites (logPath processName : List UInt8) : List ArrayWrite :=
  let base := logPath ++ ascii "/" ++ processName
  [⟨logPath, logPathLen + 1⟩,
    ⟨base ++ ascii ".log", logPathLen + logFileName + 1⟩,
    ⟨base ++ ascii ".log.bak", logPathLen + logBakFileName + 1⟩,
    ⟨base ++ ascii ".idx", logPathLen + logFileName + 1⟩]

def compressCmd (cfg : LogCfgInfo) (tm : LocalTime) (index : Nat) : List UInt8 :=
  ascii "tar -czvPf " ++ compressFile cfg index ++ ascii " " ++ timeLogFile cfg tm

/-- What `MyLogTarLogFile` writes into its arrays. -/
def tarWrites (cfg : LogCfgInfo) (tm : LocalTime) (index : Nat) : List ArrayWrite :=
  [⟨timeLogFile cfg tm, logBakFileTimeName⟩,
    ⟨compressFile cfg index, logBakFileTimeName⟩,
    ⟨compressCmd cfg tm index, logBakFileTimeName + logBakFileTimeName + 32⟩]

/-- A date that `localtime_r` can give.  The year is an `int`. -/
structure LocalTime.Valid (tm : LocalTime) : Prop where
  year : tm.year < 2147483648
  month : tm.month ≤ 12
  day : tm.day ≤ 31
  hour : tm.hour ≤ 23
  minute : tm.minute ≤ 59
  second : tm.second ≤ 60

/-- The document is accepted: there is a string under `FilePath`, and an entry is found. -/
structure Accepted (root : CJson) (processName logPath : List UInt8) : Prop where
  filePath : (root.getObjectItem "FilePath").bind CJson.valuestring = some logPath
  entry : Exists fun process => root.getObjectItem "Process" = some process ∧
    Exists fun item => findProcess processName process.children = some (some item)

/-- The configuration with its paths, where nothing was written past the end of an array. -/
def pathsCreated (root : CJson) (processName : List UInt8) : Option LogCfgInfo :=
  (myLogParseJsonFile .cleared (some root) processName).bind
    (fun parsed => myLogPathCreate parsed.2 processName)

/-- All seven arrays are long enough, for every date and index. -/
structure PathsFit (root : CJson) (processName logPath : List UInt8) : Prop where
  paths : forall write, write ∈ pathWrites logPath processName -> write.Fits
  tar : Exists fun named => pathsCreated root processName = some named ∧
    forall tm : LocalTime, tm.Valid -> forall index, index < 2147483648 ->
      forall write, write ∈ tarWrites named tm index -> write.Fits

/-! ## Lengths -/

theorem decimal_length_le {width number digits : Nat} (wide : width ≤ digits) (positive : 0 < digits)
    (small : number < 10 ^ digits) : (decimal width number).length ≤ digits := by
  have short := (Nat.length_toDigits_le_iff (by decide : 1 < 10) positive).mpr small
  simp only [decimal, List.length_append, List.length_replicate, List.length_map]
  omega

section Lengths

variable {cfg : LogCfgInfo} {tm : LocalTime} {index : Nat}

variable (cfg) in
theorem timeLogFile_length_le (valid : tm.Valid) :
    (timeLogFile cfg tm).length ≤ cfg.logName.length + 21 := by
  have twoDigits : forall {number : Nat}, number ≤ 60 -> (decimal 2 number).length ≤ 2 :=
    fun small => decimal_length_le (Nat.le_refl 2) (by decide) (by omega)
  have year : (decimal 4 tm.year).length ≤ 10 :=
    decimal_length_le (by decide) (by decide) (Nat.lt_trans valid.year (by decide))
  have month := twoDigits (Nat.le_trans valid.month (by decide))
  have day := twoDigits (Nat.le_trans valid.day (by decide))
  have hour := twoDigits (Nat.le_trans valid.hour (by decide))
  have minute := twoDigits (Nat.le_trans valid.minute (by decide))
  have second := twoDigits valid.second
  have separator : (ascii "_").length = 1 := by decide
  simp only [timeLogFile, List.length_append, separator]
  omega

variable (cfg) in
theorem compressFile_length_le (small : index < 2147483648) :
    (compressFile cfg index).length ≤ cfg.logName.length + 17 := by
  have digits : (decimal 2 index).length ≤ 10 :=
    decimal_length_le (by decide) (by decide) (Nat.lt_trans small (by decide))
  have ending : (ascii ".tar.gz").length = 7 := by decide
  simp only [compressFile, List.length_append, ending]
  omega

/-- A name that fits in `logName` leaves room for the dates and numbers of the archives. -/
theorem tarWrites_fit (logName : cfg.logName.length ≤ 287) (valid : tm.Valid)
    (small : index < 2147483648) {write : ArrayWrite} (isWrite : write ∈ tarWrites cfg tm index) :
    write.Fits := by
  have time := timeLogFile_length_le cfg valid
  have compressed := compressFile_length_le cfg small
  have command : (ascii "tar -czvPf ").length = 11 := by decide
  have blank : (ascii " ").length = 1 := by decide
  have size : logBakFileTimeName = 319 := rfl
  simp only [tarWrites, List.mem_cons, List.not_mem_nil, or_false] at isWrite
  rcases isWrite with rfl | rfl | rfl
  · simp only [ArrayWrite.Fits, size]
    omega
  · simp only [ArrayWrite.Fits, size]
    omega
  · simp only [ArrayWrite.Fits, compressCmd, List.length_append, command, blank, size]
    omega

end Lengths

theorem pathWrites_fit_iff (logPath processName : List UInt8) :
    (forall write, write ∈ pathWrites logPath processName -> write.Fits) <->
      logPath.length ≤ 255 ∧ logPath.length + processName.length ≤ 282 := by
  have separator : (ascii "/").length = 1 := by decide
  have log : (ascii ".log").length = 4 := by decide
  have bak : (ascii ".log.bak").length = 8 := by decide
  have idx : (ascii ".idx").length = 4 := by decide
  have pathSize : logPathLen + 1 = 256 := rfl
  have logSize : logPathLen + logFileName + 1 = 288 := rfl
  have bakSize : logPathLen + logBakFileName + 1 = 559 := rfl
  simp only [pathWrites, List.forall_mem_cons, ArrayWrite.Fits, List.length_append, separator, log, bak, idx,
    pathSize, logSize, bakSize, List.not_mem_nil, false_implies, implies_true, and_true]
  omega

/-! ## Accepted documents -/

section Accepted

variable {root : CJson} {processName logPath : List UInt8}

theorem pathsCreated_eq (accepted : Accepted root processName logPath) :
    Exists fun item => pathsCreated root processName =
      if logPath.length ≤ logPathLen then
        myLogPathCreate (myLogParseJsonCfg { LogCfgInfo.cleared with logPath := logPath } item) processName
      else none := by
  rcases accepted.entry with ⟨process, isProcess, item, found⟩
  rcases Option.bind_eq_some_iff.mp accepted.filePath with ⟨filePath, isFilePath, isString⟩
  refine ⟨item, ?_⟩
  simp only [pathsCreated, myLogParseJsonFile, isFilePath, isProcess, found, isString]
  split
  · rfl
  · rfl

/-- The functions have a result exactly where what they write fits. -/
theorem pathsCreated_isSome_iff (accepted : Accepted root processName logPath) :
    (pathsCreated root processName).isSome = true <->
      forall write, write ∈ pathWrites logPath processName -> write.Fits := by
  rcases pathsCreated_eq accepted with ⟨item, created⟩
  rw [pathWrites_fit_iff, created]
  by_cases fits : logPath.length ≤ logPathLen
  · rw [if_pos fits, myLogPathCreate_isSome_iff]
    exact (and_iff_right fits).symm
  · rw [if_neg fits]
    exact iff_of_false nofun (fun short => fits short.1)

theorem pathsCreated_logName (accepted : Accepted root processName logPath) {named : LogCfgInfo}
    (created : pathsCreated root processName = some named) :
    named.logName = logPath ++ ascii "/" ++ processName ++ ascii ".log" := by
  rcases pathsCreated_eq accepted with ⟨item, isCreated⟩
  rw [isCreated] at created
  split at created
  · exact (myLogPathCreate_paths created).logName
  · cases created

/-- The paths of a process fit exactly if the directory fits, and leaves enough room for the
process name in the name of the log file. -/
theorem pathsFit_iff (accepted : Accepted root processName logPath) :
    PathsFit root processName logPath <->
      logPath.length ≤ 255 ∧ logPath.length + processName.length ≤ 282 := by
  rw [← pathWrites_fit_iff]
  refine ⟨PathsFit.paths, fun fits => ⟨fits, ?_⟩⟩
  have short := (pathWrites_fit_iff logPath processName).mp fits
  rcases Option.isSome_iff_exists.mp ((pathsCreated_isSome_iff accepted).mpr fits) with ⟨named, created⟩
  refine ⟨named, created, fun tm valid index small write isWrite => ?_⟩
  refine tarWrites_fit ?_ valid small isWrite
  have separator : (ascii "/").length = 1 := by decide
  have log : (ascii ".log").length = 4 := by decide
  rw [pathsCreated_logName accepted created, List.length_append, List.length_append, List.length_append,
    separator, log]
  omega

end Accepted

/-- A process with a directory of four characters. -/
theorem pathsFit_iff_shortPath :
    let root : CJson := .object [(ascii "FilePath", .string (ascii "/log")),
      (ascii "Process", .array [.object [(ascii "ProcessName", .string (ascii "app"))]])]
    PathsFit root (ascii "app") (ascii "/log") := by
  intro root
  have accepted : Accepted root (ascii "app") (ascii "/log") := ⟨rfl, _, rfl, _, rfl⟩
  exact (pathsFit_iff accepted).mpr (by decide +kernel)

/-- A document of less than 400 bytes.  The string under `FilePath` is longer than `logPath`, and
so is the name of the log file than `logName`. -/
theorem pathsFit_longPath :
    let logPath := List.replicate 280 97
    let root : CJson := .object [(ascii "FilePath", .string logPath),
      (ascii "Process", .array [.object [(ascii "ProcessName", .string (ascii "app"))]])]
    lastComponent (some (ascii "/bin/app")) = some (ascii "app") ∧
      Accepted root (ascii "app") logPath ∧ ¬ PathsFit root (ascii "app") logPath := by
  intro logPath root
  refine ⟨by decide +kernel, ⟨rfl, _, rfl, _, rfl⟩, fun fits => ?_⟩
  have short := ((pathWrites_fit_iff logPath (ascii "app")).mp fits.paths).1
  rw [List.length_replicate] at short
  exact absurd short (by decide)

end Logger
end V2x
