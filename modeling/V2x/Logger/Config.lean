import Mathlib.Logic.Basic

namespace V2x
namespace Logger

/-!
# The configuration of the logger

Text is a list of bytes without the final NUL.  `cJSON` itself is not part of
the sources, so the configuration file enters as the tree that `cJSON_Parse`
returns.
-/

/-- The bytes of an ASCII text. -/
def ascii (text : String) : List UInt8 :=
  text.toList.map (fun char => char.toNat.toUInt8)

/-! ## Constants -/

abbrev logPathLen : Nat := 255
abbrev logFileName : Nat := 32
abbrev logBakFileName : Nat := logPathLen + logFileName + 16
def logDefaultDir : List UInt8 := ascii "/home/yxw/share/log/v2x/"
def logCfgFileName : List UInt8 := ascii "/home/yxw/share/work/v2x/etc/logCfg.json"
abbrev logDefaultLevel : UInt32 := 15
abbrev logDefaultSize : UInt32 := 60 * 1024
abbrev logSizeMax : UInt32 := 10 * 1024 * 1024
abbrev logFileNumMax : UInt32 := 20
abbrev logFileNumMin : UInt32 := 2
abbrev logCacheSize : Nat := 8 * 1024
abbrev logLineMax : Nat := 1024
abbrev logFlushSizeMax : Nat := logCacheSize - logLineMax
abbrev logTimeOut : UInt64 := 3

/-- `MyLogLevel`. -/
inductive MyLogLevel where
  | errorLevel
  | warnLevel
  | infoLevel
  | debugLevel
deriving DecidableEq, Repr

def MyLogLevel.value : MyLogLevel -> UInt32
  | .errorLevel => 1
  | .warnLevel => 2
  | .infoLevel => 4
  | .debugLevel => 8

abbrev outputFileType : UInt32 := 0
abbrev outputPrintType : UInt32 := 1
abbrev outputMaxType : UInt32 := 2

structure LogCfgInfo where
  logPath : List UInt8
  logName : List UInt8
  logBakName : List UInt8
  logIdxFile : List UInt8
  level : UInt32
  size : UInt32
  maxFileNum : UInt32
  output : UInt32
deriving DecidableEq, Repr

/-- `g_logCfg` after `memset`. -/
def LogCfgInfo.cleared : LogCfgInfo where
  logPath := []
  logName := []
  logBakName := []
  logIdxFile := []
  level := 0
  size := 0
  maxFileNum := 0
  output := 0

/-! ## Documents -/

/-- A parsed document.  `valueint` is 0 for what is no number, but 1 for `true`. -/
inductive CJson where
  | literal (valueint : Int32)
  | number (valueint : Int32)
  | string (valuestring : List UInt8)
  | array (items : List CJson)
  | object (members : List (List UInt8 × CJson))

namespace CJson

def valueint : CJson -> Int32
  | .literal value => value
  | .number value => value
  | _ => 0

/-- `none` is a null pointer. -/
def valuestring : CJson -> Option (List UInt8)
  | .string text => some text
  | _ => none

/-- The items below an array or an object, as `cJSON_GetArrayItem` counts them. -/
def children : CJson -> List CJson
  | .array items => items
  | .object members => members.map Prod.snd
  | _ => []

def toLower (byte : UInt8) : UInt8 :=
  if 65 ≤ byte ∧ byte ≤ 90 then byte + 32 else byte

/-- `cJSON_GetObjectItem`, which does not look at the case of the letters. -/
def getObjectItem (item : CJson) (name : String) : Option CJson :=
  match item with
  | .object members =>
      (members.find? (fun member =>
        member.1.map toLower == (ascii name).map toLower)).map Prod.snd
  | _ => none

end CJson

/-! ## Loading the configuration -/

def myLogParseJsonCfg (cfg : LogCfgInfo) (item : CJson) : LogCfgInfo :=
  let size :=
    match item.getObjectItem "MaxFileSize_KB" with
    | none => logDefaultSize
    | some subItem =>
        let size := (subItem.valueint * 1024).toUInt32
        if size = 0 ∨ size > logSizeMax then logDefaultSize else size
  let maxFileNum :=
    match item.getObjectItem "MaxFileNum" with
    | none => logFileNumMin
    | some subItem =>
        let maxFileNum := subItem.valueint.toUInt32
        if maxFileNum < logFileNumMin ∨ maxFileNum > logFileNumMax then logFileNumMin
        else maxFileNum
  let level :=
    match item.getObjectItem "Level" with
    | none => logDefaultLevel
    | some subItem =>
        let level := subItem.valueint.toUInt32
        if level < MyLogLevel.errorLevel.value then logDefaultLevel else level
  let output :=
    match item.getObjectItem "Output" with
    | none => outputPrintType
    | some subItem =>
        let output := subItem.valueint.toUInt32
        if output < outputFileType ∨ output > outputMaxType then outputPrintType else output
  { cfg with size := size, maxFileNum := maxFileNum, level := level, output := output }

/-- The loop over the processes.  `some none` is a search without success; a process
without a `ProcessName` string is read through a null pointer. -/
def findProcess (processName : List UInt8) : List CJson -> Option (Option CJson)
  | [] => some none
  | item :: items =>
      match (item.getObjectItem "ProcessName").bind CJson.valuestring with
      | none => none
      | some valuestring =>
          -- `strncmp` compares as many bytes as `processName` has
          if valuestring.take processName.length = processName then some (some item)
          else findProcess processName items

/-- `MyLogParseJsonFile` on the tree that `cJSON_Parse` returns.  A `FilePath` that is no
string, or that is too long for `logPath`, is undefined behaviour. -/
def myLogParseJsonFile (cfg : LogCfgInfo) (root : Option CJson) (processName : List UInt8) :
    Option (Int32 × LogCfgInfo) :=
  match root with
  | none => some (-1, cfg)
  | some root =>
      match root.getObjectItem "FilePath", root.getObjectItem "Process" with
      | some filePath, some process =>
          match findProcess processName process.children with
          | none => none
          | some none => some (-1, cfg)
          | some (some item) =>
              match filePath.valuestring with
              | none => none
              | some valuestring =>
                  if valuestring.length ≤ logPathLen then
                    some (0, myLogParseJsonCfg { cfg with logPath := valuestring } item)
                  else none
      | _, _ => some (-1, cfg)

def myLogLoadDefaultCfg (cfg : LogCfgInfo) : LogCfgInfo :=
  { cfg with
    level := logDefaultLevel
    size := logDefaultSize
    maxFileNum := logFileNumMin
    output := outputPrintType
    logPath := logDefaultDir }

/-- `sprintf` into an array of this size.  A text that does not fit is undefined
behaviour. -/
def sprintf (size : Nat) (text : List UInt8) : Option (List UInt8) :=
  if text.length < size then some text else none

def myLogPathCreate (cfg : LogCfgInfo) (processName : List UInt8) : Option LogCfgInfo := do
  let base := cfg.logPath ++ ascii "/" ++ processName
  let logName <- sprintf (logPathLen + logFileName + 1) (base ++ ascii ".log")
  let logBakName <- sprintf (logPathLen + logBakFileName + 1) (base ++ ascii ".log.bak")
  let logIdxFile <- sprintf (logPathLen + logFileName + 1) (base ++ ascii ".idx")
  return { cfg with logName := logName, logBakName := logBakName, logIdxFile := logIdxFile }

/-- The end of `MyLogInit`: the paths are set, and `MyLogCycleThread` is started if the
output is a file.  `created` says whether `pthread_create` succeeds. -/
def myLogInitEnd (cfg : LogCfgInfo) (processName : List UInt8) (created : Bool) :
    Option (LogCfgInfo × Bool) :=
  (myLogPathCreate cfg processName).map (fun named =>
    (named, decide (named.output = outputFileType) && created))

/-! ## The names -/

/-- The names that belong to one process. -/
structure PathsCreated (base : List UInt8) (cfg named : LogCfgInfo) : Prop where
  logName : named.logName = base ++ ascii ".log"
  logBakName : named.logBakName = base ++ ascii ".log.bak"
  logIdxFile : named.logIdxFile = base ++ ascii ".idx"
  limits : named.level = cfg.level ∧ named.size = cfg.size ∧ named.maxFileNum = cfg.maxFileNum ∧
    named.output = cfg.output

theorem sprintf_eq {size : Nat} {text printed : List UInt8} (fits : sprintf size text = some printed) :
    printed = text := by
  unfold sprintf at fits
  split at fits
  · exact (Option.some.inj fits).symm
  · cases fits

theorem myLogPathCreate_paths {cfg named : LogCfgInfo} {processName : List UInt8}
    (created : myLogPathCreate cfg processName = some named) :
    PathsCreated (cfg.logPath ++ ascii "/" ++ processName) cfg named := by
  simp only [myLogPathCreate, Option.bind_eq_bind, Option.pure_def, Option.bind_eq_some_iff,
    Option.some.injEq] at created
  rcases created with ⟨logName, isLog, logBakName, isBak, logIdxFile, isIdx, rfl⟩
  exact ⟨sprintf_eq isLog, sprintf_eq isBak, sprintf_eq isIdx, rfl, rfl, rfl, rfl⟩

/-- The names of the log file and of the index file are what has to fit. -/
theorem myLogPathCreate_isSome_iff (cfg : LogCfgInfo) (processName : List UInt8) :
    (myLogPathCreate cfg processName).isSome = true <->
      cfg.logPath.length + processName.length ≤ 282 := by
  have separator : (ascii "/").length = 1 := by decide
  have log : (ascii ".log").length = 4 := by decide
  have bak : (ascii ".log.bak").length = 8 := by decide
  have idx : (ascii ".idx").length = 4 := by decide
  have logSize : logPathLen + logFileName + 1 = 288 := rfl
  have bakSize : logPathLen + logBakFileName + 1 = 559 := rfl
  simp only [myLogPathCreate, sprintf, List.length_append, separator, log, bak, idx, logSize, bakSize]
  by_cases fits : cfg.logPath.length + processName.length ≤ 282
  · have isLog : cfg.logPath.length + 1 + processName.length + 4 < 288 := by omega
    have isBak : cfg.logPath.length + 1 + processName.length + 8 < 559 := by omega
    simp only [if_pos isLog, if_pos isBak]
    exact iff_of_true rfl fits
  · have isLong : ¬ cfg.logPath.length + 1 + processName.length + 4 < 288 := by omega
    rw [if_neg isLong]
    exact iff_of_false nofun fits

theorem PathsCreated.logName_ne_nil {base : List UInt8} {cfg named : LogCfgInfo}
    (paths : PathsCreated base cfg named) : named.logName ≠ [] := by
  rw [paths.logName]
  exact List.append_ne_nil_of_right_ne_nil base (by decide)

end Logger
end V2x
