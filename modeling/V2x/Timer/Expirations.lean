import Mathlib.Data.Set.Card
import V2x.Foundations.IntervalTimer
import V2x.Timer.Callbacks

namespace V2x
namespace Timer

open Foundations

/-!
# When a timer expires

`SetTimerEvent` splits its milliseconds into seconds and nanoseconds and hands
them to `timerfd_settime`, together with `CLOCK_MONOTONIC` in the place of the
flags.  The clock counts nanoseconds from the start of the machine.

`CLOCK_MONOTONIC` has the value of `TFD_TIMER_ABSTIME`, so the first expiration
is an instant of the clock and not a distance from now.
-/

structure Timespec where
  tvSec : Nat
  tvNsec : Nat
deriving DecidableEq, Repr

structure Itimerspec where
  itValue : Timespec
  itInterval : Timespec
deriving DecidableEq, Repr

/-- `CLOCK_MONOTONIC`. -/
def clockMonotonic : Nat := 1

/-- `TFD_TIMER_ABSTIME`. -/
def tfdTimerAbstime : Nat := 1

def nanosecondsPerSecond : Nat := 1000000000

def nanosecondsPerMillisecond : Nat := 1000000

def Timespec.nanoseconds (time : Timespec) : Nat :=
  time.tvSec * nanosecondsPerSecond + time.tvNsec

/-- The timer that `timerfd_settime` arms; a value of zero disarms it. -/
def armedTimer (flags now : Nat) (new : Itimerspec) : Option IntervalTimer :=
  if new.itValue.nanoseconds = 0 then none
  else if flags &&& tfdTimerAbstime ≠ 0 then
    some ⟨new.itValue.nanoseconds, new.itInterval.nanoseconds⟩
  else some ⟨now + new.itValue.nanoseconds, new.itInterval.nanoseconds⟩

/-- `timerfd_settime`, which refuses nanoseconds that make a second. -/
def timerfdSettime (flags now : Nat) (new : Itimerspec) (file : TimerFile) : Int32 × TimerFile :=
  if nanosecondsPerSecond ≤ new.itValue.tvNsec ∨ nanosecondsPerSecond ≤ new.itInterval.tvNsec then
    (-1, file)
  else (0, ⟨armedTimer flags now new, 0⟩)

/-- The local variable `time` of `SetTimerEvent`. -/
def timerEventSpec (startTime period : UInt16) : Itimerspec where
  itValue := ⟨startTime.toNat / 1000, (startTime.toNat % 1000) * 1000 * 1000⟩
  itInterval := ⟨period.toNat / 1000, (period.toNat % 1000) * 1000 * 1000⟩

/-- `SetTimerEvent` at an instant of the clock, and the timer behind the descriptor. -/
def setTimerEventAt (now : Nat) (timerFd : Int32) (startTime period : UInt16) (file : TimerFile) :
    Int32 × TimerFile :=
  if timerFd < 0 then (-1, file)
  else timerfdSettime clockMonotonic now (timerEventSpec startTime period) file

/-- What a `read` of the timer returns to the handler. -/
def ReadResult.ofRead : Option Nat -> ReadResult
  | some count => .value count
  | none => .failed

/-- The timer that the arguments stand for on the clock. -/
def clockTimer (startTime period : UInt16) : IntervalTimer :=
  ⟨startTime.toNat * nanosecondsPerMillisecond, period.toNat * nanosecondsPerMillisecond⟩

section Spec

variable {now : Nat} {timerFd : Int32} {startTime period : UInt16} {file : TimerFile}

/-- The parts of a number of milliseconds. -/
theorem nanoseconds_split (milliseconds : Nat) :
    (Timespec.mk (milliseconds / 1000) ((milliseconds % 1000) * 1000 * 1000)).nanoseconds =
      milliseconds * nanosecondsPerMillisecond := by
  simp only [Timespec.nanoseconds, nanosecondsPerSecond, nanosecondsPerMillisecond]
  omega

/-- The parts are valid, and the flags make the value an instant of the clock. -/
theorem setTimerEventAt_eq (valid : 0 ≤ timerFd) :
    setTimerEventAt now timerFd startTime period file =
      (0, ⟨if startTime.toNat = 0 then none else some (clockTimer startTime period), 0⟩) := by
  have inSecond : forall milliseconds : Nat,
      ¬ nanosecondsPerSecond ≤ (milliseconds % 1000) * 1000 * 1000 := by
    intro milliseconds
    simp only [nanosecondsPerSecond]
    omega
  have isZero : startTime.toNat * nanosecondsPerMillisecond = 0 <-> startTime.toNat = 0 := by
    simp only [nanosecondsPerMillisecond]
    omega
  have absolute : clockMonotonic &&& tfdTimerAbstime ≠ 0 := by decide
  simp only [setTimerEventAt, if_neg (Int32.not_lt.mpr valid), timerfdSettime, timerEventSpec,
    inSecond, or_self, if_false, armedTimer, nanoseconds_split, isZero, if_pos absolute, clockTimer]

/-- The handler thread reads the expirations that the timer has had since the last read. -/
theorem readResult_ofRead {system : System} {timer : Nat}
    (isFile : system.timer.fds.file timerFd = some timer)
    (pending : system.expirations timer = file.dueBy now - file.taken) :
    system.readResult timerFd = ReadResult.ofRead (file.read now).1 := by
  simp only [System.readResult, isFile, pending, TimerFile.read, Nat.sub_eq_zero_iff_le]
  split <;> rfl

end Spec

/-! ## Relative milliseconds -/

/-- The instants that the arguments ask for at this time. -/
def RelativeExpiry (now : Nat) (startTime period : UInt16) (instant : Nat) : Prop :=
  0 < startTime.toNat ∧ Exists fun round => (round = 0 ∨ 0 < period.toNat) ∧
    instant = now + startTime.toNat * nanosecondsPerMillisecond +
      round * (period.toNat * nanosecondsPerMillisecond)

/-- The timer expires at these instants and at no other, and every read takes the ones that have
passed since the read before. -/
structure RunsRelative (now : Nat) (startTime period : UInt16) (file : TimerFile) : Prop where
  instants : forall instant, file.Expires instant <-> RelativeExpiry now startTime period instant
  counts : forall times, (now :: times).IsChain (· ≤ ·) ->
    file.reads times = TimerFile.resultsFrom
      (fun last upTo => {instant | last < instant ∧ instant ≤ upTo ∧
        RelativeExpiry now startTime period instant}.ncard) now times

section Relative

variable {now : Nat} {startTime period : UInt16}

theorem relativeExpiry_disarmed (disarms : startTime.toNat = 0) (instant : Nat) :
    ¬ RelativeExpiry now startTime period instant := by
  rintro ⟨positive, _⟩
  exact Nat.ne_of_gt positive disarms

/-- With the clock at zero the two readings of the value agree. -/
theorem relativeExpiry_atStart (starts : 0 < startTime.toNat) (instant : Nat) :
    RelativeExpiry 0 startTime period instant <-> (clockTimer startTime period).Expires instant := by
  have repeats : 0 < period.toNat * nanosecondsPerMillisecond <-> 0 < period.toNat := by
    simp only [nanosecondsPerMillisecond]
    omega
  simp only [RelativeExpiry, starts, true_and, Nat.zero_add, IntervalTimer.Expires, clockTimer, repeats]

/-- What is asked for does not come before the start time has passed. -/
theorem RelativeExpiry.le {instant : Nat} (expiry : RelativeExpiry now startTime period instant) :
    now + startTime.toNat * nanosecondsPerMillisecond ≤ instant := by
  rcases expiry with ⟨_, round, _, rfl⟩
  exact Nat.le_add_right _ _

theorem runsRelative_disarmed (disarms : startTime.toNat = 0) :
    RunsRelative now startTime period ⟨none, 0⟩ := by
  have never : forall instant, ¬ RelativeExpiry now startTime period instant :=
    relativeExpiry_disarmed disarms
  refine ⟨fun instant => iff_of_false ?_ (never instant), fun times ordered => ?_⟩
  · rintro ⟨timer, isTimer, _⟩
    cases isTimer
  · rw [TimerFile.reads_disarmed]
    apply TimerFile.resultsFrom_congr ordered
    intro last upTo _
    simp only [never, and_false, Set.ofPred_false, Set.ncard_empty]

theorem runsRelative_atStart (starts : 0 < startTime.toNat) :
    RunsRelative 0 startTime period ⟨some (clockTimer startTime period), 0⟩ := by
  have same : forall instant, RelativeExpiry 0 startTime period instant <->
      (clockTimer startTime period).Expires instant := relativeExpiry_atStart starts
  constructor
  · intro instant
    rw [same]
    constructor
    · rintro ⟨timer, isTimer, expires⟩
      cases isTimer
      exact expires
    · exact fun expires => ⟨_, rfl, expires⟩
  · intro times ordered
    have notYet : (clockTimer startTime period).dueBy 0 = 0 :=
      IntervalTimer.dueBy_eq_zero (Nat.mul_pos starts (by decide))
    have armed : (TimerFile.mk (some (clockTimer startTime period))
        ((clockTimer startTime period).dueBy 0)).reads times = _ := TimerFile.reads_armed ordered
    rw [notYet] at armed
    rw [armed]
    apply TimerFile.resultsFrom_congr ordered
    intro last upTo _
    rw [← Set.ncard_coe_finset]
    congr 1
    ext instant
    simp only [IntervalTimer.expirations, Finset.coe_filter, Finset.mem_Ioc, Set.mem_ofPred_eq, same,
      and_assoc]

end Relative

/-- Whatever the timer did before, `SetTimerEvent` makes it run on relative milliseconds exactly if
`startTime` disarms it or the clock is at zero. -/
theorem setTimerEvent_relative_iff {timerFd : Int32} (valid : 0 ≤ timerFd) (now : Nat)
    (startTime period : UInt16) (file : TimerFile) :
    RunsRelative now startTime period (setTimerEventAt now timerFd startTime period file).2 <->
      startTime = 0 ∨ now = 0 := by
  have isZero : startTime = 0 <-> startTime.toNat = 0 := UInt16.toNat_inj.symm
  rw [setTimerEventAt_eq valid, isZero]
  by_cases disarms : startTime.toNat = 0
  · simp only [if_pos disarms]
    exact iff_of_true (runsRelative_disarmed disarms) (Or.inl disarms)
  · simp only [if_neg disarms]
    have starts := Nat.pos_of_ne_zero disarms
    constructor
    · intro runs
      have expires := (runs.instants _).mp ⟨_, rfl, IntervalTimer.expires_first _⟩
      have late : now + startTime.toNat * nanosecondsPerMillisecond ≤
          startTime.toNat * nanosecondsPerMillisecond := expires.le
      exact Or.inr (by omega)
    · rintro (isNone | rfl)
      · exact absurd isNone disarms
      · exact runsRelative_atStart starts

theorem setTimerEvent_relative_iff_disarmed :
    RunsRelative 100000000000000 0 1000 (setTimerEventAt 100000000000000 5 0 1000 ⟨none, 0⟩).2 <->
      (0 : UInt16) = 0 ∨ (100000000000000 : Nat) = 0 :=
  setTimerEvent_relative_iff (by decide) _ _ _ _

/-- After a day of running, the first read takes an expiration for every second of that day. -/
theorem setTimerEvent_afterOneDay :
    ((setTimerEventAt 86400000000000 5 100 1000 ⟨none, 0⟩).2.read 86400000000000).1 = some 86400 ∧
      ¬ RunsRelative 86400000000000 100 1000
        (setTimerEventAt 86400000000000 5 100 1000 ⟨none, 0⟩).2 := by
  refine ⟨by decide, fun runs => ?_⟩
  have expires : (setTimerEventAt 86400000000000 5 100 1000 ⟨none, 0⟩).2.Expires 100000000 :=
    ⟨⟨100000000, 1000000000⟩, by decide, IntervalTimer.expires_first _⟩
  have late := ((runs.instants _).mp expires).le
  exact absurd late (by decide)

end Timer
end V2x
