import V2x.Logger.Cache

namespace V2x
namespace Logger

open Foundations

/-!
# `MyPrintLog`

A call of `MyPrintLog` formats a line in a buffer on the stack and passes the
buffer to `WriteLogToCache`, with the length that `vsnprintf` returns.  This is
the length of the whole message, also where the buffer holds only a part of it.
-/

/-- What `vsnprintf` makes of the format and its arguments. -/
inductive Message where
  | null
  | failed
  | text (bytes : List UInt8)
deriving DecidableEq, Repr

/-- A call of `MyPrintLog`, the local time, and the bytes behind `buf` on the stack. -/
structure PrintCall where
  fileName : Option (List UInt8)
  line : UInt32
  level : MyLogLevel
  message : Message
  tm : LocalTime
  millisecond : Nat
  beyond : Nat -> UInt8

/-- `%0<width>d` of a number that may be negative. -/
def signedDecimal (width : Nat) (number : Int) : List UInt8 :=
  if number < 0 then 45 :: decimal (width - 1) number.natAbs else decimal width number.natAbs

def MyLogLevel.key : MyLogLevel -> List UInt8
  | .errorLevel => ascii "ERROR"
  | .warnLevel => ascii "WARN"
  | .infoLevel => ascii "INFO"
  | .debugLevel => ascii "DEBUG"

namespace PrintCall

/-- The text in front of the message.  Of a path only the first character is skipped. -/
def header (call : PrintCall) (fileName : List UInt8) : List UInt8 :=
  let shown := if 47 ∈ fileName then fileName.drop 1 else fileName
  let tm := call.tm
  decimal 4 tm.year ++ ascii "-" ++ decimal 2 tm.month ++ ascii "-" ++ decimal 2 tm.day ++
    ascii " " ++ decimal 2 tm.hour ++ ascii ":" ++ decimal 2 tm.minute ++ ascii ":" ++
    decimal 2 tm.second ++ ascii "." ++ decimal 3 call.millisecond ++ ascii " " ++ shown ++
    ascii " " ++ signedDecimal 5 call.line.toInt32.toInt ++ ascii " " ++ call.level.key ++ ascii " "

/-- The bytes from `buf` on.  `vsnprintf` cuts the message where `buf` ends. -/
def memory (call : PrintCall) (header text : List UInt8) : List UInt8 :=
  let shown := header ++ text.take (logLineMax - header.length - 1)
  shown ++ List.replicate (logLineMax - shown.length) 0 ++
    (List.range (header.length + text.length - logLineMax)).map call.beyond

end PrintCall

/-- What `MyPrintLog` does with a call. -/
inductive PrintResult where
  | dropped
  | printed
  -- `WriteLogToCache(buf, len)`
  | cached (buf : List UInt8) (len : Nat)
  -- a header that is too long for `buf`
  | undefined
deriving DecidableEq, Repr

/-- `g_logCfg.level & level == 0`, where `==` binds stronger than `&`. -/
def levelFiltered (cfgLevel level : UInt32) : Bool :=
  (cfgLevel &&& (if level = 0 then 1 else 0)) != 0

/-- The end of `MyPrintLog`, after the header was printed into `buf`. -/
def printMessage (cfg : LogCfgInfo) (call : PrintCall) (header : List UInt8) : Message -> PrintResult
  | .text text =>
      if cfg.output = outputPrintType then .printed
      else .cached (call.memory header text) (header.length + text.length)
  | _ => .dropped

def myPrintLog (cfg : LogCfgInfo) (isInit : Bool) (call : PrintCall) : PrintResult :=
  if !isInit then .dropped
  else
    match call.fileName with
    | none => .dropped
    | some fileName =>
        if call.message = .null then .dropped
        else if levelFiltered cfg.level call.level.value then .dropped
        else if (call.header fileName).length < logLineMax then
          printMessage cfg call (call.header fileName) call.message
        else .undefined

/-- A call of `MyPrintLog`.  A header or a copy that is too long ends the run. -/
def LogState.print (archive : List UInt8 -> Option (List UInt8) -> List UInt8) (log : LogState)
    (call : PrintCall) (cur : UInt64) : Option LogState :=
  match myPrintLog log.cfg log.isInit call with
  | .dropped => some log
  | .printed => some log
  | .undefined => none
  | .cached buf len => log.writeToCache archive (some buf) len cur

/-! ## The record of a call -/

/-- The calls that reach `WriteLogToCache`. -/
structure Reaches (cfg : LogCfgInfo) (isInit : Bool) (call : PrintCall) (fileName text : List UInt8) :
    Prop where
  initialised : isInit = true
  named : call.fileName = some fileName
  message : call.message = .text text
  passes : levelFiltered cfg.level call.level.value = false
  fits : (call.header fileName).length < logLineMax
  toCache : cfg.output ≠ outputPrintType

theorem printMessage_cached {cfg : LogCfgInfo} {call : PrintCall} {header buf : List UInt8} {len : Nat}
    {message : Message} (isCached : printMessage cfg call header message = .cached buf len) :
    Exists fun text => message = .text text ∧ cfg.output ≠ outputPrintType ∧
      buf = call.memory header text ∧ len = header.length + text.length := by
  cases message with
  | text text =>
      simp only [printMessage] at isCached
      split at isCached
      · cases isCached
      next toCache =>
        injection isCached with sameBuf sameLen
        exact ⟨text, rfl, toCache, sameBuf.symm, sameLen.symm⟩
  | null => cases isCached
  | failed => cases isCached

theorem myPrintLog_cached {cfg : LogCfgInfo} {isInit : Bool} {call : PrintCall} {buf : List UInt8}
    {len : Nat} (isCached : myPrintLog cfg isInit call = .cached buf len) :
    Exists fun fileName => Exists fun text => Reaches cfg isInit call fileName text ∧
      buf = call.memory (call.header fileName) text ∧
      len = (call.header fileName).length + text.length := by
  unfold myPrintLog at isCached
  split at isCached
  · cases isCached
  next initialised =>
    split at isCached
    · cases isCached
    next fileName named =>
      split at isCached
      · cases isCached
      · split at isCached
        · cases isCached
        next passes =>
          split at isCached
          next fits =>
            rcases printMessage_cached isCached with ⟨text, message, toCache, sameBuf, sameLen⟩
            exact ⟨fileName, text, ⟨by simpa using initialised, named, message,
              Bool.eq_false_iff.mpr passes, fits, toCache⟩, sameBuf, sameLen⟩
          · cases isCached

/-- The length never exceeds what lies behind `buf`. -/
theorem memory_length_le (call : PrintCall) (header text : List UInt8) :
    header.length + text.length ≤ (call.memory header text).length := by
  simp only [PrintCall.memory, List.length_append, List.length_replicate, List.length_map,
    List.length_range, List.length_take]
  omega

theorem cached_length {cfg : LogCfgInfo} {isInit : Bool} {call : PrintCall} {buf : List UInt8}
    {len : Nat} (isCached : myPrintLog cfg isInit call = .cached buf len) : len ≤ buf.length := by
  rcases myPrintLog_cached isCached with ⟨fileName, text, _, sameBuf, sameLen⟩
  rw [sameBuf, sameLen]
  exact memory_length_le call _ text

end Logger
end V2x
