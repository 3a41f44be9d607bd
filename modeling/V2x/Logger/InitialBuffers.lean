import Mathlib.Data.List.TakeWhile
import V2x.Logger.Sessions

namespace V2x
namespace Logger

open Foundations

/-!
# What `MyLogInit` finds on the stack

`MyLogInit` and `MyLogLoadFileCfg` each have an array on the stack that is not
initialised.  One is filled with the characters of the process name, the other
one with the bytes of the configuration file, and neither gets a final NUL.
Both are read as strings afterwards, together with what was in the array
before.
-/

/-! ## The process name -/

/-- The characters in front of the first NUL. -/
def untilNul (bytes : List UInt8) : List UInt8 :=
  bytes.takeWhile (fun byte => byte != 0)

/-- What `strrchr` finds, without the '/' itself. -/
def afterLastSlash (path : List UInt8) : Option (List UInt8) :=
  if 47 ∈ path then some (path.reverse.takeWhile (fun byte => byte != 47)).reverse else none

/-- The last component of the path, where there is one. -/
def lastComponent (path : Option (List UInt8)) : Option (List UInt8) :=
  (path.bind (fun path => afterLastSlash (untilNul (path.take (logPathLen - 1))))).filter
    (fun component => component.length != 0)

section Run

variable (cjson : CJsonParser) (answers : Answers) (created : Bool)

/-- The directory of the logs is there, or it can be made. -/
def dirValid (logPath : List UInt8) : Bool :=
  let dir : Bool := answers (.opendir logPath)
  let made : Int := answers (.mkdir logPath)
  dir || decide (made = 0)

/-- The end of `MyLogInit` with the configuration. -/
def configured (processName : List UInt8) (cfg : LogCfgInfo) : Option InitEnd :=
  if dirValid answers cfg.logPath then
    (myLogInitEnd cfg processName created).map (fun ended => ⟨0, true, ended.1, ended.2⟩)
  else some ⟨0, false, cfg, false⟩

end Run

/-! ## What is asked of two runs -/

section Runs

variable {parse : List UInt8 -> Option CJson} {cjson : CJsonParser} {answers : Answers} {created : Bool}
  {content : List UInt8} {fd : Nat}

end Runs

/-! ## When a run is defined -/

section SameRuns

variable {cjson : CJsonParser} {answers : Answers} {created : Bool} {content : List UInt8} {fd : Nat}
  {path : Option (List UInt8)} {first second : InitLocals}

end SameRuns

end Logger
end V2x
