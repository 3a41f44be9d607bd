import V2x.Foundations.TransitionSystem
import V2x.Logger.Sessions

namespace V2x
namespace Logger

open Foundations

/-!
# Levels

The filter of `MyPrintLog` is written `g_logCfg.level & level == 0`.  It compares
the level of the call with 0 first, so it drops no call at all, whatever mask is
configured.  A run therefore has the stream of the run without its disabled calls
only where no disabled call has anything to log.
-/

/-- The filter lets every level pass. -/
theorem levelFiltered_eq_false (cfgLevel : UInt32) (level : MyLogLevel) :
    levelFiltered cfgLevel level.value = false := by
  have nonzero : level.value ≠ 0 := by cases level <;> decide
  rw [levelFiltered, if_neg nonzero, UInt32.and_zero]
  rfl

/-! ## The machine -/

inductive LevelLabel where
  | setLevel (level : Int32)
  | print (call : PrintCall) (cur : UInt64)
  | tick (cur : UInt64)

/-- `MyLogSetLevel`: the level afterwards. -/
def myLogSetLevel (current : UInt32) (level : Int32) : UInt32 :=
  if level < MyLogLevel.debugLevel.value.toInt32 then current else level.toUInt32

def LogState.setLevel (log : LogState) (level : Int32) : LogState :=
  { log with cfg := { log.cfg with level := myLogSetLevel log.cfg.level level } }

section Machine

variable (archive : List UInt8 -> Option (List UInt8) -> List UInt8)

/-- Undefined behaviour ends the run. -/
def levelStep (log : LogState) : LevelLabel -> Option LogState
  | .setLevel level => some (log.setLevel level)
  | .print call cur => log.print archive call cur
  | .tick cur => log.writeToCache archive none 0 cur

def leveling : Machine LogState LevelLabel where
  step := levelStep archive

end Machine

/-- The bit of the level is set in the mask. -/
def enabled (mask : UInt32) (level : MyLogLevel) : Bool :=
  mask &&& level.value != 0

/-- The run without the calls whose level is not enabled at that moment. -/
def dropDisabled : UInt32 -> List LevelLabel -> List LevelLabel
  | _, [] => []
  | mask, .setLevel level :: labels =>
      .setLevel level :: dropDisabled (myLogSetLevel mask level) labels
  | mask, .print call cur :: labels =>
      if enabled mask call.level then .print call cur :: dropDisabled mask labels
      else dropDisabled mask labels
  | mask, .tick cur :: labels => .tick cur :: dropDisabled mask labels

/-- The call gives no record: there is no file name, no format, or no text. -/
def PrintCall.recordless (call : PrintCall) : Bool :=
  match call.fileName, call.message with
  | some _, .text _ => false
  | _, _ => true

/-- A call whose level is not enabled gives no record. -/
def levelOk (log : LogState) : LevelLabel -> Prop
  | .print call _ => enabled log.cfg.level call.level = true ∨ call.recordless = true
  | _ => True

instance (log : LogState) : (label : LevelLabel) -> Decidable (levelOk log label)
  | .print _ _ => inferInstanceAs (Decidable (_ ∨ _))
  | .setLevel _ => inferInstanceAs (Decidable True)
  | .tick _ => inferInstanceAs (Decidable True)

/-! ## One step -/

namespace PrintCall

/-- The bytes of the record that the call gives. -/
def recordLength (call : PrintCall) : Nat :=
  match call.fileName, call.message with
  | some fileName, .text text => (call.header fileName).length + text.length
  | _, _ => 0

theorem header_positive (call : PrintCall) (fileName : List UInt8) :
    0 < (call.header fileName).length := by
  have last : Exists fun front => call.header fileName = front ++ ascii " " := ⟨_, rfl⟩
  rcases last with ⟨front, isFront⟩
  rw [isFront, List.length_append]
  exact Nat.add_pos_right _ (by decide)

theorem recordLength_text {call : PrintCall} {fileName text : List UInt8}
    (named : call.fileName = some fileName) (message : call.message = .text text) :
    call.recordLength = (call.header fileName).length + text.length := by
  simp only [recordLength, named, message]

theorem recordLength_eq_zero_iff (call : PrintCall) :
    call.recordLength = 0 <-> call.recordless = true := by
  have positive := call.header_positive
  unfold recordLength recordless
  split
  next fileName text _ _ =>
    exact iff_of_false (Nat.ne_of_gt (Nat.add_pos_left (positive fileName) _)) Bool.false_ne_true
  next => exact iff_of_true rfl rfl

end PrintCall

theorem myPrintLog_text {cfg : LogCfgInfo} {call : PrintCall} {fileName text : List UInt8}
    (toCache : cfg.output ≠ outputPrintType) (named : call.fileName = some fileName)
    (message : call.message = .text text) :
    myPrintLog cfg true call =
      if (call.header fileName).length < logLineMax then
        .cached (call.memory (call.header fileName) text)
          ((call.header fileName).length + text.length)
      else .undefined := by
  simp only [myPrintLog, named, levelFiltered_eq_false, printMessage, message, if_neg toCache,
    Bool.not_true, Bool.false_eq_true, reduceCtorEq, if_false]

theorem myPrintLog_recordless (cfg : LogCfgInfo) (isInit : Bool) {call : PrintCall}
    (recordless : call.recordless = true) :
    myPrintLog cfg isInit call = .dropped ∨ myPrintLog cfg isInit call = .undefined := by
  unfold PrintCall.recordless at recordless
  unfold myPrintLog
  split
  · exact Or.inl rfl
  · split
    · exact Or.inl rfl
    next fileName named =>
      split
      · exact Or.inl rfl
      next notNull =>
        rw [levelFiltered_eq_false, if_neg Bool.false_ne_true]
        split
        · cases message : call.message with
          | null => exact absurd message notNull
          | failed => exact Or.inl rfl
          | text text =>
              rw [named, message] at recordless
              cases recordless
        · exact Or.inr rfl

variable {archive : List UInt8 -> Option (List UInt8) -> List UInt8} {log next : LogState}

/-- A session with file output. -/
structure Running (log : LogState) : Prop where
  isInit : log.isInit = true
  output : log.cfg.output = outputFileType
  steady : Steady log

theorem Running.toCache (running : Running log) : log.cfg.output ≠ outputPrintType := by
  rw [running.output]
  decide

theorem running_cached {buf : Option (List UInt8)} {len : Nat} {cur : UInt64} (running : Running log)
    (stepped : log.writeToCache archive buf len cur = some next) :
    Running next ∧ next.cfg = log.cfg ∧
      next.stream.length = log.stream.length + (copied buf len).length := by
  by_cases room : log.cache.offset + (copied buf len).length ≤ logCacheSize
  · rcases LogState.writeToCache_cached archive running.steady.sound buf cur room with
      ⟨after, taken, cached, sound, sameCfg, sameInit⟩
    cases stepped.symm.trans taken
    have live := running.steady.live running.isInit
    have ⟨steady, _⟩ := steady_cached running.steady running.isInit cached sound sameCfg sameInit
    have keeps : log.loses (copied buf len).length cur = false := by
      rw [LogState.loses, live.writable, Bool.not_true, Bool.and_false]
    refine ⟨⟨sameInit.trans running.isInit, sameCfg ▸ running.output, steady⟩, sameCfg, ?_⟩
    rw [cached.appends keeps, List.length_append]
  · have stuck := LogState.writeToCache_none archive running.steady.sound buf cur (Nat.not_le.mp room)
    cases stepped.symm.trans stuck

theorem print_step {call : PrintCall} {cur : UInt64} (running : Running log)
    (stepped : log.print archive call cur = some next) :
    Running next ∧ next.cfg = log.cfg ∧
      next.stream.length = log.stream.length + call.recordLength ∧
      (call.recordless = true -> next = log) := by
  unfold LogState.print at stepped
  cases recordless : call.recordless with
  | true =>
      rcases myPrintLog_recordless log.cfg log.isInit recordless with dropped | undefined
      · rw [dropped] at stepped
        cases stepped
        rw [(call.recordLength_eq_zero_iff).mpr recordless]
        exact ⟨running, rfl, rfl, fun _ => rfl⟩
      · rw [undefined] at stepped
        cases stepped
  | false =>
      unfold PrintCall.recordless at recordless
      split at recordless
      next fileName text named message =>
        rw [running.isInit, myPrintLog_text running.toCache named message] at stepped
        by_cases fits : (call.header fileName).length < logLineMax
        · rw [if_pos fits] at stepped
          have ⟨after, sameCfg, length⟩ := running_cached running stepped
          refine ⟨after, sameCfg, ?_, nofun⟩
          rw [length, copied, strncpy_length, PrintCall.recordLength_text named message]
        · rw [if_neg fits] at stepped
          cases stepped
      next => cases recordless

theorem setLevel_running (running : Running log) (level : Int32) :
    Running (log.setLevel level) where
  isInit := running.isInit
  output := running.output
  steady := by
    have live := running.steady.live running.isInit
    have sound := running.steady.sound
    refine ⟨⟨sound.size, sound.low, sound.logOpen⟩, fun _ => ⟨live.named, live.present⟩, fun notInit => ?_⟩
    cases running.isInit.symm.trans notInit

/-! ## Runs -/

/-- The bytes of the records of a run. -/
def recordBytes : List LevelLabel -> Nat
  | [] => 0
  | .print call _ :: labels => call.recordLength + recordBytes labels
  | .setLevel _ :: labels => recordBytes labels
  | .tick _ :: labels => recordBytes labels

/-- No record is missing in the stream, whatever its level. -/
theorem stream_length_of_run {labels : List LevelLabel} {final : LogState} (running : Running log)
    (ran : (leveling archive).run log labels = some final) :
    final.stream.length = log.stream.length + recordBytes labels := by
  induction labels generalizing log with
  | nil =>
      cases ran
      rfl
  | cons label labels inductionHypothesis =>
      rcases ((leveling archive).run_cons_iff log final label labels).mp ran with ⟨next, taken, rest⟩
      cases label with
      | setLevel level =>
          cases taken
          have length := inductionHypothesis (setLevel_running running level) rest
          exact length
      | print call cur =>
          have ⟨after, _, length, _⟩ := print_step running taken
          rw [inductionHypothesis after rest, length, recordBytes, Nat.add_assoc]
      | tick cur =>
          have ⟨after, _, length⟩ := running_cached running taken
          exact (inductionHypothesis after rest).trans (congrArg (· + _) length)

theorem recordBytes_dropDisabled_le (mask : UInt32) (labels : List LevelLabel) :
    recordBytes (dropDisabled mask labels) ≤ recordBytes labels := by
  induction labels generalizing mask with
  | nil => exact Nat.le_refl 0
  | cons label labels inductionHypothesis =>
      cases label with
      | setLevel level => exact inductionHypothesis _
      | tick cur => exact inductionHypothesis _
      | print call cur =>
          simp only [dropDisabled]
          split
          · exact Nat.add_le_add_left (inductionHypothesis mask) _
          · exact Nat.le_trans (inductionHypothesis mask) (Nat.le_add_left _ _)

/-- Where the dropped calls have no records, none of them has one. -/
theorem levelOk_of_recordBytes {labels : List LevelLabel} {final : LogState} (running : Running log)
    (ran : (leveling archive).run log labels = some final)
    (same : recordBytes (dropDisabled log.cfg.level labels) = recordBytes labels) :
    (leveling archive).AllSteps levelOk log labels := by
  induction labels generalizing log with
  | nil => exact trivial
  | cons label labels inductionHypothesis =>
      rcases ((leveling archive).run_cons_iff log final label labels).mp ran with ⟨next, taken, rest⟩
      have only : forall other, (leveling archive).step log label = some other -> other = next :=
        fun other isOther => Option.some.inj (isOther.symm.trans taken)
      cases label with
      | setLevel level =>
          refine ⟨trivial, fun other isOther => only other isOther ▸ ?_⟩
          cases taken
          exact inductionHypothesis (setLevel_running running level) rest same
      | tick cur =>
          have ⟨after, sameCfg, _⟩ := running_cached running taken
          refine ⟨trivial, fun other isOther => only other isOther ▸ ?_⟩
          exact inductionHypothesis after rest (sameCfg ▸ same)
      | print call cur =>
          have ⟨after, sameCfg, _⟩ := print_step running taken
          have bound := recordBytes_dropDisabled_le log.cfg.level labels
          simp only [dropDisabled, recordBytes] at same
          split at same
          next isEnabled =>
            refine ⟨Or.inl isEnabled, fun other isOther => only other isOther ▸ ?_⟩
            exact inductionHypothesis after rest (sameCfg ▸ Nat.add_left_cancel same)
          next =>
            have nothing : call.recordLength = 0 := by omega
            refine ⟨Or.inr (call.recordLength_eq_zero_iff.mp nothing), fun other isOther =>
              only other isOther ▸ ?_⟩
            exact inductionHypothesis after rest (sameCfg ▸ (by omega))

/-- Calls without a record do nothing, so the run without them is the same run. -/
theorem run_dropDisabled {labels : List LevelLabel} {final : LogState} (running : Running log)
    (ran : (leveling archive).run log labels = some final)
    (fine : (leveling archive).AllSteps levelOk log labels) :
    (leveling archive).run log (dropDisabled log.cfg.level labels) = some final := by
  induction labels generalizing log with
  | nil => exact ran
  | cons label labels inductionHypothesis =>
      rcases ((leveling archive).run_cons_iff log final label labels).mp ran with ⟨next, taken, rest⟩
      have later := fine.2 next taken
      cases label with
      | setLevel level =>
          cases taken
          exact inductionHypothesis (setLevel_running running level) rest later
      | tick cur =>
          have ⟨after, sameCfg, _⟩ := running_cached running taken
          have ended := inductionHypothesis after rest later
          rw [sameCfg] at ended
          exact ((leveling archive).run_cons_iff _ _ _ _).mpr ⟨next, taken, ended⟩
      | print call cur =>
          have ⟨after, sameCfg, _, idle⟩ := print_step running taken
          have ended := inductionHypothesis after rest later
          rw [sameCfg] at ended
          simp only [dropDisabled]
          split
          next => exact ((leveling archive).run_cons_iff _ _ _ _).mpr ⟨next, taken, ended⟩
          next disabled =>
            have isIdle := idle (fine.1.resolve_left disabled)
            exact isIdle ▸ ended

theorem running_step {label : LevelLabel} (running : Running log)
    (stepped : levelStep archive log label = some next) : Running next := by
  cases label with
  | setLevel level =>
      cases stepped
      exact setLevel_running running level
  | print call cur => exact (print_step running stepped).1
  | tick cur => exact (running_cached running stepped).1

theorem running_myLogInit {parse : List UInt8 -> Option CJson} {store : FileStore (List UInt8)}
    {input : InitInput} (inited : (LogState.statics store).myLogInit archive parse input = some (0, log))
    (output : log.cfg.output = outputFileType) : Running log := by
  have started := myLogInit_started rfl inited
  exact ⟨started.isInit, output, started.steady (tracked_start store).1 rfl⟩

/-- The stream is the one of the run without the disabled calls if and only if no disabled
call gives a record. -/
theorem levels_filter_iff {parse : List UInt8 -> Option CJson} {store : FileStore (List UInt8)}
    {input : InitInput} {state final : LogState} {before labels : List LevelLabel}
    (inited : (LogState.statics store).myLogInit archive parse input = some (0, log))
    (output : log.cfg.output = outputFileType)
    (reached : (leveling archive).run log before = some state)
    (ran : (leveling archive).run state labels = some final) :
    (Exists fun other =>
      (leveling archive).run state (dropDisabled state.cfg.level labels) = some other ∧
      other.stream = final.stream) <->
    (leveling archive).AllSteps levelOk state labels := by
  have running : Running state := (leveling archive).run_invariant
    (fun _ _ _ running stepped => running_step running stepped) (running_myLogInit inited output) reached
  constructor
  · rintro ⟨other, dropped, same⟩
    apply levelOk_of_recordBytes running ran
    have whole := stream_length_of_run running ran
    have part := stream_length_of_run running dropped
    rw [← same, part] at whole
    exact Nat.add_left_cancel whole
  · exact fun fine => ⟨final, run_dropDisabled running ran fine, rfl⟩

/-- The calls of a debug line, and of an error line without a format, under the mask 8. -/
def sampleDebugCalls : List LevelLabel :=
  [.setLevel 8, .print { sampleCall (ascii "x\n") with level := .debugLevel } 10,
    .print { sampleCall [] with level := .errorLevel, message := .null } 11]

theorem levels_filter_iff_debugOnly :
    Exists fun log => Exists fun final => Exists fun other =>
      (LogState.statics sampleStore).myLogInit (fun _ _ => []) sampleParse sampleInput = some (0, log) ∧
      (leveling (fun _ _ => [])).run log sampleDebugCalls = some final ∧
      (leveling (fun _ _ => [])).run log (dropDisabled log.cfg.level sampleDebugCalls) = some other ∧
      other.stream = final.stream := by
  have reached : ((LogState.statics sampleStore).myLogInit (fun _ _ => []) sampleParse sampleInput).bind
      (fun done => ((leveling (fun _ _ => [])).run done.2 sampleDebugCalls).map (fun _ =>
        (done.1, done.2.cfg.output,
          decide ((leveling (fun _ _ => [])).AllSteps levelOk done.2 sampleDebugCalls)))) =
      some (0, 0, true) := by
    decide +kernel
  rcases Option.bind_eq_some_iff.mp reached with ⟨⟨ret, log⟩, inited, rest⟩
  rcases Option.map_eq_some_iff.mp rest with ⟨final, ran, observed⟩
  simp only [Prod.mk.injEq] at observed
  rcases observed with ⟨isZero, output, fine⟩
  subst isZero
  have atOnce : (leveling (fun _ _ => [])).run log [] = some log := rfl
  rcases (levels_filter_iff inited output atOnce ran).mpr (of_decide_eq_true fine) with
    ⟨other, dropped, same⟩
  exact ⟨log, final, other, inited, ran, dropped, same⟩

/-- With the mask 8, an information line is logged all the same. -/
theorem levels_log_disabledInfo :
    let labels : List LevelLabel := [.setLevel 8, .print (sampleCall (ascii "x\n")) 10]
    Exists fun log => Exists fun final => Exists fun other =>
      (LogState.statics sampleStore).myLogInit (fun _ _ => []) sampleParse sampleInput = some (0, log) ∧
      log.cfg.output = outputFileType ∧
      (leveling (fun _ _ => [])).run log labels = some final ∧
      (leveling (fun _ _ => [])).run log (dropDisabled log.cfg.level labels) = some other ∧
      final.stream = ascii "2022-03-12 15:06:12.000 my_log.c 00464 INFO x\n" ∧
      other.stream = [] := by
  intro labels
  have reached : ((LogState.statics sampleStore).myLogInit (fun _ _ => []) sampleParse sampleInput).bind
      (fun done => ((leveling (fun _ _ => [])).run done.2 labels).bind (fun final =>
        ((leveling (fun _ _ => [])).run done.2 (dropDisabled done.2.cfg.level labels)).map (fun other =>
          (done.1, done.2.cfg.output, final.stream, other.stream)))) =
      some (0, 0, ascii "2022-03-12 15:06:12.000 my_log.c 00464 INFO x\n", []) := by
    decide +kernel
  rcases Option.bind_eq_some_iff.mp reached with ⟨⟨ret, log⟩, inited, rest⟩
  rcases Option.bind_eq_some_iff.mp rest with ⟨final, ran, dropped⟩
  rcases Option.map_eq_some_iff.mp dropped with ⟨other, alone, observed⟩
  simp only [Prod.mk.injEq] at observed
  rcases observed with ⟨isZero, output, stream, empty⟩
  subst isZero
  exact ⟨log, final, other, inited, output, ran, alone, stream, empty⟩

end Logger
end V2x
