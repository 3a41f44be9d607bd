import Mathlib.Data.List.TakeWhile
import V2x.Foundations.TransitionSystem
import V2x.Logger.Messages
import V2x.Logger.Stream

namespace V2x
namespace Logger

open Foundations

/-!
# The bounds of the cache

The cache is flushed when less than a line of `MyPrintLog` has room in it, so
that a record of at most `LOG_LINE_MAX - 1` characters can always be copied.
But the length that `MyPrintLog` passes on is the one that `vsnprintf` returns.
It counts the characters of the whole message, also where `buf` holds only the
first of them.
-/

/-! ## Calls -/

namespace PrintCall

/-- The characters of `buf` in front of its final NUL. -/
def held (header text : List UInt8) : List UInt8 :=
  header ++ text.take (logLineMax - header.length - 1)

/-- The file name is so short that the header fits in `buf`. -/
def HeaderFits (call : PrintCall) : Prop :=
  forall fileName, fileName ∈ call.fileName -> (call.header fileName).length < logLineMax

/-- Where the call is not filtered out, header and message fit in `buf` together. -/
def LineFits (cfg : LogCfgInfo) (call : PrintCall) : Prop :=
  match call.fileName, call.message with
  | some fileName, .text text =>
      levelFiltered cfg.level call.level.value = false ->
        (call.header fileName).length + text.length ≤ logLineMax - 1
  | _, _ => True

/-- There is no NUL in the file name and in the message. -/
def NulFree (call : PrintCall) : Prop :=
  (forall fileName, fileName ∈ call.fileName -> 0 ∉ fileName) ∧
    forall text, call.message = .text text -> 0 ∉ text

end PrintCall

/-- A call of `MyPrintLog` at a reading of the clock, a tick of the archiver, or the removal
of the log file by another process. -/
inductive PrintLabel where
  | print (call : PrintCall) (cur : UInt64)
  | tick (cur : UInt64)
  | remove

/-- What holds of the call, if the label is one. -/
def PrintLabel.Meets (property : PrintCall -> Prop) : PrintLabel -> Prop
  | .print call _ => property call
  | .tick _ => True
  | .remove => True

section Machine

variable (archive : List UInt8 -> Option (List UInt8) -> List UInt8)

def printStep (state : LogState) : PrintLabel -> Option LogState
  | .print call cur => state.print archive call cur
  | .tick cur => state.writeToCache archive none 0 cur
  | .remove => some state.removeLog

def printing : Machine LogState PrintLabel where
  step := printStep archive

end Machine

/-! ## The property -/

/-- `strncpy` writes only indices of `g_logCache`. -/
def copyInBounds (state : LogState) : PrintLabel -> Prop
  | .print call _ =>
      forall buf len, myPrintLog state.cfg state.isInit call = .cached buf len ->
        state.cache.offset + len ≤ logCacheSize
  | .tick _ => True
  | .remove => True

/-- The length that is passed on counts the characters in `buf`. -/
def exactLength (state : LogState) : PrintLabel -> Prop
  | .print call _ =>
      forall buf len fileName text, myPrintLog state.cfg state.isInit call = .cached buf len ->
        call.fileName = some fileName -> call.message = .text text ->
        len = (PrintCall.held (call.header fileName) text).length ∧ len ≤ logLineMax - 1
  | .tick _ => True
  | .remove => True

/-- All of this holds of a run. -/
structure CacheBounds (archive : List UInt8 -> Option (List UInt8) -> List UInt8) (start : LogState)
    (labels : List PrintLabel) : Prop where
  defined : Exists fun final => (printing archive).run start labels = some final
  copies : (printing archive).AllSteps copyInBounds start labels
  offset : (printing archive).EveryState (fun state => state.cache.offset ≤ logCacheSize) start labels
  lengths : (printing archive).AllSteps exactLength start labels
  nulFree : (forall label, label ∈ labels -> label.Meets PrintCall.NulFree) ->
    (printing archive).EveryState (fun state => 0 ∉ state.stream) start labels

/-! ## Characters that are not NUL -/

theorem decimal_nulFree (width number : Nat) : 0 ∉ decimal width number := by
  rw [decimal, List.mem_append, List.mem_map]
  rintro (padding | ⟨char, isDigit, same⟩)
  · cases List.eq_of_mem_replicate padding
  · have digit := Nat.isDigit_of_mem_toDigits (by decide) (by decide) isDigit
    rw [Char.isDigit, Bool.and_eq_true, decide_eq_true_iff, decide_eq_true_iff] at digit
    have low : 48 ≤ char.toNat := digit.1
    have high : char.toNat ≤ 57 := digit.2
    have value := congrArg UInt8.toNat same
    rw [UInt8.toNat_ofNat_of_lt' (Nat.lt_of_le_of_lt high (by decide))] at value
    have zero : (0 : UInt8).toNat = 0 := rfl
    omega

theorem signedDecimal_nulFree (width : Nat) (number : Int) : 0 ∉ signedDecimal width number := by
  unfold signedDecimal
  split
  · exact List.not_mem_cons_of_ne_of_not_mem (by decide) (decimal_nulFree _ _)
  · exact decimal_nulFree _ _

theorem key_nulFree (level : MyLogLevel) : 0 ∉ level.key := by
  cases level <;> decide

theorem PrintCall.header_nulFree (call : PrintCall) {fileName : List UInt8} (clean : 0 ∉ fileName) :
    0 ∉ call.header fileName := by
  have shown : 0 ∉ if 47 ∈ fileName then fileName.drop 1 else fileName := by
    split
    · exact fun member => clean (List.mem_of_mem_drop member)
    · exact clean
  have dash : 0 ∉ ascii "-" := by decide
  have colon : 0 ∉ ascii ":" := by decide
  have blank : 0 ∉ ascii " " := by decide
  have dot : 0 ∉ ascii "." := by decide
  unfold header
  simp only [List.mem_append, decimal_nulFree, signedDecimal_nulFree, key_nulFree, shown, dash, colon,
    blank, dot, or_self, not_false_iff]

/-- A line that fits in `buf` is in front of whatever follows. -/
theorem PrintCall.memory_take (call : PrintCall) {header text : List UInt8}
    (fits : header.length + text.length ≤ logLineMax - 1) :
    (call.memory header text).take (header.length + text.length) = header ++ text := by
  have whole : text.take (logLineMax - header.length - 1) = text :=
    List.take_of_length_le (by omega)
  simp only [memory, whole, List.append_assoc]
  rw [← List.append_assoc, ← List.length_append]
  exact List.take_left

/-- What is copied of a line without NUL. -/
theorem copied_nulFree {buf : List UInt8} {len : Nat} (within : len ≤ buf.length)
    (clean : 0 ∉ buf.take len) : 0 ∉ copied (some buf) len := by
  have storable : Storable (buf.take len) := by
    intro byte member
    have stops : (buf.take len).dropWhile (fun byte => byte != 0) = [] :=
      List.dropWhile_eq_nil_iff.mpr (fun byte isByte => bne_iff_ne.mpr (by
        rintro rfl
        exact clean isByte))
    rw [stops] at member
    exact absurd member List.not_mem_nil
  rw [copied, (strncpy_take_eq_iff within).mpr storable]
  exact clean

theorem LogState.Cached.nulFree {state next : LogState} {added : List UInt8} {cur : UInt64}
    (cached : state.Cached added cur next) (clean : 0 ∉ state.stream) (addedClean : 0 ∉ added) :
    0 ∉ next.stream := by
  cases loses : state.loses added.length cur with
  | false =>
      rw [cached.appends loses, List.mem_append, not_or]
      exact ⟨clean, addedClean⟩
  | true =>
      rw [← cached.drops loses, List.mem_append, not_or] at clean
      exact clean.1

/-! ## One call -/

section Call

variable {cfg : LogCfgInfo} {call : PrintCall}

theorem Reaches.result {fileName text : List UInt8} (reaches : Reaches cfg true call fileName text) :
    myPrintLog cfg true call = .cached (call.memory (call.header fileName) text)
      ((call.header fileName).length + text.length) := by
  simp only [myPrintLog, reaches.named, reaches.message, reaches.passes, if_pos reaches.fits, printMessage,
    if_neg reaches.toCache, Bool.not_true, Bool.false_eq_true, reduceCtorEq, if_false]

/-- A call either reaches the cache, or it is dropped. -/
theorem myPrintLog_ways (toCache : cfg.output ≠ outputPrintType) (headerFits : call.HeaderFits) :
    (Exists fun fileName => Exists fun text => Reaches cfg true call fileName text ∧
      (call.LineFits cfg <-> (call.header fileName).length + text.length ≤ logLineMax - 1)) ∨
    (myPrintLog cfg true call = .dropped ∧ call.LineFits cfg) := by
  unfold PrintCall.LineFits
  cases named : call.fileName with
  | none =>
      refine Or.inr ⟨?_, trivial⟩
      simp only [myPrintLog, named, Bool.not_true, Bool.false_eq_true, if_false]
  | some fileName =>
      have fits := headerFits fileName named
      cases message : call.message with
      | null =>
          refine Or.inr ⟨?_, trivial⟩
          simp only [myPrintLog, named, message, Bool.not_true, Bool.false_eq_true, if_false, if_true]
      | failed =>
          refine Or.inr ⟨?_, trivial⟩
          simp only [myPrintLog, named, message, Bool.not_true, Bool.false_eq_true, reduceCtorEq, if_pos fits,
            printMessage, ite_self]
      | text text =>
          cases passes : levelFiltered cfg.level call.level.value with
          | true =>
              refine Or.inr ⟨?_, by rintro ⟨⟩⟩
              simp only [myPrintLog, named, message, passes, Bool.not_true, Bool.false_eq_true, reduceCtorEq,
                if_false, if_true]
          | false =>
              refine Or.inl ⟨fileName, text, ⟨rfl, named, message, passes, fits, toCache⟩, ?_⟩
              exact forall_prop_of_true rfl

end Call

/-- What holds between two calls. -/
structure Ready (cfg : LogCfgInfo) (state : LogState) : Prop where
  sound : state.Sound
  sameCfg : state.cfg = cfg
  isInit : state.isInit = true

variable {archive : List UInt8 -> Option (List UInt8) -> List UInt8} {cfg : LogCfgInfo}
  {state : LogState}

theorem exactLength_iff (toCache : cfg.output ≠ outputPrintType) (ready : Ready cfg state)
    {label : PrintLabel} (headerFits : label.Meets PrintCall.HeaderFits) :
    exactLength state label <-> label.Meets (PrintCall.LineFits cfg) := by
  cases label with
  | tick cur => exact Iff.rfl
  | remove => exact Iff.rfl
  | print call cur =>
      simp only [exactLength, PrintLabel.Meets, ready.sameCfg, ready.isInit]
      rcases myPrintLog_ways toCache headerFits with
        ⟨fileName, text, reaches, lineFits⟩ | ⟨result, lineFits⟩
      · rw [reaches.result, lineFits]
        constructor
        · intro exact
          exact (exact _ _ fileName text rfl reaches.named reaches.message).2
        · intro fits buf len other message isCached named isText
          cases reaches.named.symm.trans named
          cases reaches.message.symm.trans isText
          rw [PrintResult.cached.injEq] at isCached
          rw [← isCached.2]
          refine ⟨?_, fits⟩
          rw [PrintCall.held, List.take_of_length_le (by omega), List.length_append]
      · refine iff_of_true (fun buf len fileName text isCached => ?_) lineFits
        rw [result] at isCached
        cases isCached

/-- A step with a line that fits, and what it adds to the cache. -/
structure PrintStep (archive : List UInt8 -> Option (List UInt8) -> List UInt8) (cfg : LogCfgInfo)
    (state : LogState) (label : PrintLabel) (next : LogState) : Prop where
  taken : printStep archive state label = some next
  ready : Ready cfg next
  inBounds : copyInBounds state label
  nulFree : label.Meets PrintCall.NulFree -> 0 ∉ state.stream -> 0 ∉ next.stream

variable (archive) in
theorem printStep_fits (toCache : cfg.output ≠ outputPrintType) (ready : Ready cfg state)
    {label : PrintLabel} (headerFits : label.Meets PrintCall.HeaderFits)
    (lineFits : label.Meets (PrintCall.LineFits cfg)) :
    Exists fun next => PrintStep archive cfg state label next := by
  cases label with
  | tick cur =>
      have room : state.cache.offset + (copied none 0).length ≤ logCacheSize :=
        Nat.le_trans ready.sound.low (by decide)
      rcases LogState.writeToCache_cached archive ready.sound none cur room with
        ⟨next, taken, cached, sound, sameCfg, sameInit⟩
      refine ⟨next, taken, ⟨sound, sameCfg.trans ready.sameCfg, sameInit.trans ready.isInit⟩, trivial, ?_⟩
      exact fun _ clean => cached.nulFree clean List.not_mem_nil
  | remove =>
      refine ⟨state.removeLog, rfl, ⟨removeLog_sound ready.sound, ready.sameCfg, ready.isInit⟩,
        trivial, fun _ clean => clean⟩
  | print call cur =>
      rcases myPrintLog_ways toCache headerFits with
        ⟨fileName, text, reaches, decides⟩ | ⟨result, _⟩
      · have result := reaches.result
        have fits := decides.mp lineFits
        have within := memory_length_le call (call.header fileName) text
        have short : (call.header fileName).length + text.length ≤ logLineMax := by omega
        have low := room_of_low ready.sound.low short
        have room : state.cache.offset + (copied (some (call.memory (call.header fileName) text))
            ((call.header fileName).length + text.length)).length ≤ logCacheSize := by
          rw [copied, strncpy_length]
          exact low
        rcases LogState.writeToCache_cached archive ready.sound _ cur room with
          ⟨next, taken, cached, sound, sameCfg, sameInit⟩
        refine ⟨next, ?_, ⟨sound, sameCfg.trans ready.sameCfg, sameInit.trans ready.isInit⟩, ?_, ?_⟩
        · simp only [printStep, LogState.print, ready.sameCfg, ready.isInit, result]
          exact taken
        · intro buf len isCached
          rw [ready.sameCfg, ready.isInit, result, PrintResult.cached.injEq] at isCached
          rw [← isCached.2]
          exact low
        · intro clean streamClean
          refine cached.nulFree streamClean (copied_nulFree within ?_)
          rw [call.memory_take fits, List.mem_append, not_or]
          exact ⟨call.header_nulFree (clean.1 fileName reaches.named), clean.2 text reaches.message⟩
      · refine ⟨state, ?_, ready, ?_, fun _ clean => clean⟩
        · simp only [printStep, LogState.print, ready.sameCfg, ready.isInit, result]
        · intro buf len isCached
          rw [ready.sameCfg, ready.isInit, result] at isCached
          cases isCached

/-! ## Runs -/

theorem ready_startUp (cfg : LogCfgInfo) (store : FileStore (List UInt8)) :
    Ready cfg (.startUp cfg store) :=
  ⟨(streams_startUp cfg store).sound, rfl, rfl⟩

/-- The two conditions on a call together. -/
def PrintLabel.Fits (cfg : LogCfgInfo) (label : PrintLabel) : Prop :=
  label.Meets PrintCall.HeaderFits ∧ label.Meets (PrintCall.LineFits cfg)

theorem ready_step (toCache : cfg.output ≠ outputPrintType) {next : LogState} {label : PrintLabel}
    (ready : Ready cfg state) (fits : label.Fits cfg)
    (taken : (printing archive).step state label = some next) : PrintStep archive cfg state label next := by
  rcases printStep_fits archive toCache ready fits.1 fits.2 with ⟨other, step⟩
  cases step.taken.symm.trans taken
  exact step

variable (archive) in
/-- Lines that fit keep the cache in its bounds. -/
theorem cacheBounds_of_fits (toCache : cfg.output ≠ outputPrintType) (store : FileStore (List UInt8))
    {labels : List PrintLabel} (fits : forall label, label ∈ labels -> label.Fits cfg) :
    CacheBounds archive (.startUp cfg store) labels := by
  have start := ready_startUp cfg store
  have conditioned := (printing archive).allSteps_of_labels fits (.startUp cfg store)
  have kept : forall state label next, Ready cfg state -> label.Fits cfg ->
      (printing archive).step state label = some next -> Ready cfg next :=
    fun state label next ready fits taken => (ready_step toCache ready fits taken).ready
  constructor
  · refine (printing archive).exists_run_of_allSteps (fun state label ready fits => ?_) start conditioned
    rcases printStep_fits archive toCache ready fits.1 fits.2 with ⟨next, step⟩
    exact ⟨next, step.taken, step.ready⟩
  · refine (printing archive).allSteps_of_invariant kept (fun state label ready fits => ?_) start conditioned
    rcases printStep_fits archive toCache ready fits.1 fits.2 with ⟨_, step⟩
    exact step.inBounds
  · refine (printing archive).everyState_imp (fun state ready => ?_)
      ((printing archive).everyState_of_allSteps kept start conditioned)
    exact Nat.le_trans ready.sound.low (by decide)
  · exact (printing archive).allSteps_of_invariant kept
      (fun state label ready fits => (exactLength_iff toCache ready fits.1).mpr fits.2) start conditioned
  · intro nulFree
    have clean := (printing archive).allSteps_of_labels (fun label member =>
      And.intro (fits label member) (nulFree label member)) (.startUp cfg store)
    have stays : forall state label next, Ready cfg state ∧ 0 ∉ state.stream ->
        label.Fits cfg ∧ label.Meets PrintCall.NulFree ->
        (printing archive).step state label = some next -> Ready cfg next ∧ 0 ∉ next.stream := by
      intro state label next inv ok taken
      have step := ready_step toCache inv.1 ok.1 taken
      exact ⟨step.ready, step.nulFree ok.2 inv.2⟩
    exact (printing archive).everyState_imp (fun state inv => inv.2)
      ((printing archive).everyState_of_allSteps stays ⟨start, List.not_mem_nil⟩ clean)

/-- The cache stays in its bounds and no length is wrong exactly if every line fits in the
line buffer of `MyPrintLog`. -/
theorem cacheBounds_iff (archive : List UInt8 -> Option (List UInt8) -> List UInt8) {cfg : LogCfgInfo}
    (toCache : cfg.output ≠ outputPrintType) (store : FileStore (List UInt8)) {labels : List PrintLabel}
    (headersFit : forall label, label ∈ labels -> label.Meets PrintCall.HeaderFits) :
    CacheBounds archive (.startUp cfg store) labels <->
      forall label, label ∈ labels -> label.Meets (PrintCall.LineFits cfg) := by
  constructor
  · intro bounds
    rcases bounds.defined with ⟨final, ran⟩
    have headers := (printing archive).allSteps_of_labels headersFit (.startUp cfg store)
    have decides : forall state label, Ready cfg state -> label.Meets PrintCall.HeaderFits ->
        (exactLength state label <-> label.Meets (PrintCall.LineFits cfg)) :=
      fun state label ready headerFits => exactLength_iff toCache ready headerFits
    have kept : forall state label next, Ready cfg state -> label.Meets PrintCall.HeaderFits ->
        label.Meets (PrintCall.LineFits cfg) -> (printing archive).step state label = some next ->
        Ready cfg next :=
      fun state label next ready headerFits lineFits taken =>
        (ready_step toCache ready ⟨headerFits, lineFits⟩ taken).ready
    exact ((printing archive).allSteps_labels_iff ran).mp
      (((printing archive).allSteps_iff decides kept (ready_startUp cfg store) headers).mp bounds.lengths)
  · exact fun linesFit => cacheBounds_of_fits archive toCache store
      (fun label member => ⟨headersFit label member, linesFit label member⟩)

/-- A file name and a message of three characters. -/
theorem cacheBounds_iff_shortLine :
    let call : PrintCall :=
      { fileName := some (ascii "app.c"), line := 7, level := .infoLevel, message := .text (ascii "up\n")
        tm := ⟨2022, 3, 12, 15, 6, 12⟩, millisecond := 5, beyond := fun _ => 1 }
    CacheBounds (fun _ _ => []) (.startUp { LogCfgInfo.cleared with level := 15 } .empty)
      [.print call 0, .tick 9] := by
  intro call
  refine (cacheBounds_iff (fun _ _ => []) (by decide) .empty ?_).mpr ?_
  · intro label member
    rcases List.mem_cons.mp member with rfl | member
    · rintro fileName ⟨⟩
      decide
    · rw [List.mem_singleton.mp member]
      trivial
  · intro label member
    rcases List.mem_cons.mp member with rfl | member
    · intro _
      decide
    · rw [List.mem_singleton.mp member]
      trivial

/-- A message as long as the cache.  `buf` holds the first of its characters, and `strncpy`
fills the rest of its length with zero bytes, past the end of `g_logCache`. -/
theorem longMessage_overflowsCache :
    let cfg : LogCfgInfo := { LogCfgInfo.cleared with level := 15 }
    let call : PrintCall :=
      { fileName := some (ascii "app.c"), line := 7, level := .infoLevel
        message := .text (List.replicate logCacheSize 120)
        tm := ⟨2022, 3, 12, 15, 6, 12⟩, millisecond := 5, beyond := fun _ => 1 }
    cfg.output = outputFileType ∧ call.HeaderFits ∧ call.NulFree ∧
      (printing fun _ _ => []).run (.startUp cfg .empty) [.print call 0] = none ∧
      ¬ CacheBounds (fun _ _ => []) (.startUp cfg .empty) [.print call 0] := by
  intro cfg call
  have fits : (call.header (ascii "app.c")).length < logLineMax := by decide
  have reaches : Reaches cfg true call (ascii "app.c") (List.replicate logCacheSize 120) :=
    ⟨rfl, rfl, rfl, by decide, fits, by decide⟩
  have overflows : (printing fun _ _ => []).run (.startUp cfg .empty) [.print call 0] = none := by
    have stuck : (LogState.startUp cfg .empty).print (fun _ _ => []) call 0 = none := by
      have result : myPrintLog (LogState.startUp cfg .empty).cfg (LogState.startUp cfg .empty).isInit call =
          _ := reaches.result
      simp only [LogState.print, result]
      refine LogState.writeToCache_none _ (ready_startUp cfg .empty).sound _ _ ?_
      rw [copied, strncpy_length, List.length_replicate]
      exact Nat.lt_add_left _ (Nat.lt_add_of_pos_left (by decide))
    exact Option.bind_eq_none_iff.mpr (fun next taken => by cases stuck.symm.trans taken)
  refine ⟨rfl, ?_, ⟨?_, ?_⟩, overflows, ?_⟩
  · rintro fileName ⟨⟩
    exact fits
  · rintro fileName ⟨⟩
    decide
  · rintro text ⟨⟩ member
    cases List.eq_of_mem_replicate member
  · intro bounds
    rcases bounds.defined with ⟨final, ran⟩
    cases overflows.symm.trans ran

end Logger
end V2x
