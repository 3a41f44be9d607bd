import V2x.Logger.Messages

namespace V2x
namespace Logger

/-!
# What is loaded from the configuration file

`MyLogParseJsonFile` looks for the entry of a process among those of the file,
and `MyLogParseJsonCfg` takes four values from it.  The name of an entry is
compared as far as the name of the process is long, the size is validated after
it was multiplied by 1024 in 32 bits, and the number of the output types passes
for one of them.
-/

/-! ## The entry of a process -/

/-- The string under `ProcessName`. -/
def entryName (item : CJson) : Option (List UInt8) :=
  (item.getObjectItem "ProcessName").bind CJson.valuestring

/-- The first entry with exactly this name, if all entries in front of it have a name. -/
def namedEntry (processName : List UInt8) : List CJson -> Option CJson
  | [] => none
  | item :: items =>
      match entryName item with
      | none => none
      | some name => if name = processName then some item else namedEntry processName items

/-- The result that is asked for, given the string under `FilePath` and the entry. -/
def loaded (cfg : LogCfgInfo) : Option (List UInt8) -> Option CJson -> Int32 × LogCfgInfo
  | some logPath, some item => (0, myLogParseJsonCfg { cfg with logPath := logPath } item)
  | _, _ => (-1, cfg)

/-- What a lookup in a document is to do. -/
def lookup (cfg : LogCfgInfo) (root : CJson) (processName : List UInt8) : Int32 × LogCfgInfo :=
  match root.getObjectItem "FilePath", root.getObjectItem "Process" with
  | some filePath, some process =>
      loaded cfg filePath.valuestring (namedEntry processName process.children)
  | _, _ => (-1, cfg)

/-! ## When the lookup is exact -/

/-- The size that a value of `MaxFileSize_KB` asks for. -/
def requestedSize (value : Int) : Int :=
  if 0 < value * 1024 ∧ value * 1024 ≤ logSizeMax.toNat then value * 1024 else logDefaultSize.toNat

/-- The number of files that a value of `MaxFileNum` asks for. -/
def requestedFileNum (value : Int) : Int :=
  if logFileNumMin.toNat ≤ value ∧ value ≤ logFileNumMax.toNat then value else logFileNumMin.toNat

/-- The value under a name, or the default if there is none. -/
def requested (item : CJson) (name : String) (value : Int -> Int) (default : Int) : Int :=
  match item.getObjectItem name with
  | none => default
  | some subItem => value subItem.valueint.toInt

/-- What is to hold of the configuration after the values of an entry were loaded. -/
structure LimitsLoaded (item : CJson) (cfg : LogCfgInfo) : Prop where
  size : (cfg.size.toNat : Int) = requested item "MaxFileSize_KB" requestedSize logDefaultSize.toNat
  maxFileNum : (cfg.maxFileNum.toNat : Int) =
    requested item "MaxFileNum" requestedFileNum logFileNumMin.toNat
  level : MyLogLevel.errorLevel.value ≤ cfg.level
  output : cfg.output = outputFileType ∨ cfg.output = outputPrintType
  -- the archiver runs if there is a call that reaches the cache
  archiver : forall processName named running,
    myLogInitEnd cfg processName true = some (named, running) ->
    (Exists fun call => Exists fun buf => Exists fun len =>
      myPrintLog named true call = .cached buf len) -> running = true

/-- A size that is out of range stays so, or becomes the default, when its product is taken
modulo 2^32. -/
def SizeOk (value : Int) : Prop :=
  value < 1 ∨ 10240 < value ->
    value % 4194304 = 0 ∨ 10240 < value % 4194304 ∨ value % 4194304 = 60

structure LimitsOk (item : CJson) : Prop where
  size : forall subItem, item.getObjectItem "MaxFileSize_KB" = some subItem ->
    SizeOk subItem.valueint.toInt
  output : forall subItem, item.getObjectItem "Output" = some subItem -> subItem.valueint ≠ 2

theorem toNat_toUInt32 (value : Int32) : (value.toUInt32.toNat : Int) = value.toInt % 4294967296 := by
  have signed : value.toInt = if 2 * value.toUInt32.toNat < 2 ^ 32 then (value.toUInt32.toNat : Int)
      else (value.toUInt32.toNat : Int) - (2 ^ 32 : Nat) :=
    BitVec.toInt_eq_toNat_cond value.toBitVec
  have bounded : value.toUInt32.toNat < 4294967296 := value.toUInt32.toNat_lt
  split at signed <;> omega

theorem toNat_times1024 (value : Int32) :
    ((value * 1024).toUInt32.toNat : Int) = value.toInt * 1024 % 4294967296 := by
  have factor : (1024 : Int32).toUInt32.toNat = 1024 := rfl
  have narrow := toNat_toUInt32 value
  rw [Int32.toUInt32_mul, UInt32.toNat_mul, factor]
  omega

theorem size_loaded_iff (value : Int32) :
    ((if (value * 1024).toUInt32 = 0 ∨ (value * 1024).toUInt32 > logSizeMax then logDefaultSize
      else (value * 1024).toUInt32).toNat : Int) = requestedSize value.toInt <->
      SizeOk value.toInt := by
  have product := toNat_times1024 value
  have most : logSizeMax.toNat = 10485760 := rfl
  have fallback : logDefaultSize.toNat = 61440 := rfl
  have outside : (value * 1024).toUInt32 = 0 ∨ (value * 1024).toUInt32 > logSizeMax <->
      value.toInt * 1024 % 4294967296 = 0 ∨ 10485760 < value.toInt * 1024 % 4294967296 := by
    rw [← product, ← UInt32.toNat_inj, gt_iff_lt, UInt32.lt_iff_toNat_lt, most]
    exact or_congr Int.natCast_eq_zero.symm Int.ofNat_lt.symm
  rw [requestedSize, SizeOk, most, fallback]
  split
  next isOutside =>
    rw [outside] at isOutside
    rw [fallback]
    split <;> omega
  next isInside =>
    rw [outside] at isInside
    rw [product]
    split <;> omega

theorem fileNum_loaded (value : Int32) :
    ((if value.toUInt32 < logFileNumMin ∨ value.toUInt32 > logFileNumMax then logFileNumMin
      else value.toUInt32).toNat : Int) = requestedFileNum value.toInt := by
  have narrow := toNat_toUInt32 value
  have bounds := And.intro value.le_toInt value.toInt_lt
  have least : logFileNumMin.toNat = 2 := rfl
  have most : logFileNumMax.toNat = 20 := rfl
  have outside : value.toUInt32 < logFileNumMin ∨ value.toUInt32 > logFileNumMax <->
      value.toUInt32.toNat < 2 ∨ 20 < value.toUInt32.toNat := by
    rw [gt_iff_lt, UInt32.lt_iff_toNat_lt, UInt32.lt_iff_toNat_lt, least, most]
  rw [requestedFileNum, least, most]
  split
  next isOutside =>
    rw [outside] at isOutside
    rw [least]
    split <;> omega
  next isInside =>
    rw [outside] at isInside
    split <;> omega

theorem level_loaded (value : UInt32) :
    MyLogLevel.errorLevel.value ≤
      if value < MyLogLevel.errorLevel.value then logDefaultLevel else value := by
  split
  · decide
  next high => exact UInt32.not_lt.mp high

theorem output_loaded_iff (value : UInt32) :
    ((if value < outputFileType ∨ value > outputMaxType then outputPrintType else value) = outputFileType ∨
      (if value < outputFileType ∨ value > outputMaxType then outputPrintType else value) =
        outputPrintType) <-> value ≠ outputMaxType := by
  split
  next isOutside =>
    refine iff_of_true (Or.inr rfl) ?_
    rintro rfl
    exact absurd isOutside (by decide)
  next isInside =>
    rw [not_or, UInt32.not_lt, gt_iff_lt, UInt32.not_lt, UInt32.le_iff_toNat_le] at isInside
    have most : value.toNat ≤ 2 := isInside.2
    rw [Ne, ← UInt32.toNat_inj, ← UInt32.toNat_inj, ← UInt32.toNat_inj]
    change value.toNat = 0 ∨ value.toNat = 1 <-> ¬ value.toNat = 2
    omega

/-- No record reaches the cache of a logger that prints. -/
theorem archiver_loaded {cfg : LogCfgInfo}
    (output : cfg.output = outputFileType ∨ cfg.output = outputPrintType) {processName : List UInt8}
    {named : LogCfgInfo} {running : Bool}
    (started : myLogInitEnd cfg processName true = some (named, running)) {call : PrintCall}
    {buf : List UInt8} {len : Nat} (isCached : myPrintLog named true call = .cached buf len) :
    running = true := by
  rcases Option.map_eq_some_iff.mp started with ⟨paths, created, same⟩
  cases same
  rcases myPrintLog_cached isCached with ⟨_, _, reaches, _⟩
  have kept := (myLogPathCreate_paths created).limits.2.2.2
  have toFile : named.output = outputFileType := by
    rw [kept]
    exact output.resolve_right (kept ▸ reaches.toCache)
  rw [toFile]
  rfl

/-- The loaded limits are the requested ones or the defaults exactly if no size out of range
gets into it by the multiplication in 32 bits, and the output is not `OUTPUT_MAX_TYPE`. -/
theorem limitsLoaded_iff (cfg : LogCfgInfo) (item : CJson) :
    LimitsLoaded item (myLogParseJsonCfg cfg item) <-> LimitsOk item := by
  have size : (((myLogParseJsonCfg cfg item).size.toNat : Int) =
      requested item "MaxFileSize_KB" requestedSize logDefaultSize.toNat) <->
      forall subItem, item.getObjectItem "MaxFileSize_KB" = some subItem ->
        SizeOk subItem.valueint.toInt := by
    simp only [myLogParseJsonCfg, requested]
    cases item.getObjectItem "MaxFileSize_KB" with
    | none =>
        refine iff_of_true rfl ?_
        rintro subItem ⟨⟩
    | some subItem =>
        simp only [Option.some.injEq, forall_eq']
        exact size_loaded_iff subItem.valueint
  have output : ((myLogParseJsonCfg cfg item).output = outputFileType ∨
      (myLogParseJsonCfg cfg item).output = outputPrintType) <->
      forall subItem, item.getObjectItem "Output" = some subItem -> subItem.valueint ≠ 2 := by
    simp only [myLogParseJsonCfg]
    cases item.getObjectItem "Output" with
    | none =>
        refine iff_of_true (Or.inr rfl) ?_
        rintro subItem ⟨⟩
    | some subItem =>
        simp only [Option.some.injEq, forall_eq']
        rw [output_loaded_iff]
        exact not_congr ⟨fun same => congrArg UInt32.toInt32 same, fun same => congrArg Int32.toUInt32 same⟩
  constructor
  · exact fun limits => ⟨size.mp limits.size, output.mp limits.output⟩
  · intro limits
    have types := output.mpr limits.output
    refine ⟨size.mpr limits.size, ?_, ?_, types, ?_⟩
    · simp only [myLogParseJsonCfg, requested]
      cases item.getObjectItem "MaxFileNum" with
      | none => rfl
      | some subItem => exact fileNum_loaded subItem.valueint
    · simp only [myLogParseJsonCfg]
      cases item.getObjectItem "Level" with
      | none => decide
      | some subItem => exact level_loaded subItem.valueint.toUInt32
    · rintro processName named running started ⟨call, buf, len, isCached⟩
      exact archiver_loaded types started isCached

/-- With the number of the output types, records are cached and no archiver runs.  A size of
4 GB and 1 KB becomes one of 1 KB. -/
theorem limitsLoaded_outputMax :
    let maxOutput : CJson := .object [(ascii "Output", .number 2)]
    let large : CJson := .object [(ascii "MaxFileSize_KB", .number 4194305)]
    (myLogParseJsonCfg .cleared maxOutput).output = 2 ∧
      ¬ LimitsLoaded maxOutput (myLogParseJsonCfg .cleared maxOutput) ∧
      (myLogParseJsonCfg .cleared large).size = 1024 ∧
      ¬ LimitsLoaded large (myLogParseJsonCfg .cleared large) := by
  intro maxOutput large
  refine ⟨by decide, fun limits => ?_, by decide, fun limits => ?_⟩
  · exact absurd limits.output (by decide)
  · exact absurd limits.size (by decide)

end Logger
end V2x
