import Mathlib.Data.Nat.Count
import Mathlib.Order.Interval.Finset.Nat

namespace Foundations

/-!
# Interval timers

A timer expires at a first instant and, if it has an interval, again and again
at that distance.  How often it has expired by some instant is computed with one
division.  Reading takes the expirations that have come since the last read.
-/

structure IntervalTimer where
  first : Nat
  interval : Nat
deriving DecidableEq, Repr

namespace IntervalTimer

variable {timer : IntervalTimer} {instant now last : Nat}

/-- The timer expires at this instant. -/
def Expires (timer : IntervalTimer) (instant : Nat) : Prop :=
  Exists fun round => (round = 0 ∨ 0 < timer.interval) ∧
    instant = timer.first + round * timer.interval

theorem expires_iff : timer.Expires instant <->
    instant = timer.first ∨ 0 < timer.interval ∧ timer.first ≤ instant ∧
      timer.interval ∣ instant - timer.first := by
  constructor
  · rintro ⟨round, rfl | repeats, rfl⟩
    · exact Or.inl (by rw [Nat.zero_mul, Nat.add_zero])
    · refine Or.inr ⟨repeats, Nat.le_add_right _ _, ?_⟩
      rw [Nat.add_sub_cancel_left]
      exact Nat.dvd_mul_left _ _
  · rintro (rfl | ⟨repeats, reached, round, isMultiple⟩)
    · exact ⟨0, Or.inl rfl, by rw [Nat.zero_mul, Nat.add_zero]⟩
    · refine ⟨round, Or.inr repeats, ?_⟩
      rw [Nat.mul_comm, ← isMultiple, Nat.add_sub_cancel' reached]

instance (timer : IntervalTimer) : DecidablePred timer.Expires :=
  fun _ => decidable_of_iff _ expires_iff.symm

theorem expires_first (timer : IntervalTimer) : timer.Expires timer.first :=
  expires_iff.mpr (Or.inl rfl)

/-- The number of expirations up to this instant. -/
def dueBy (timer : IntervalTimer) (now : Nat) : Nat :=
  if now < timer.first then 0
  else if timer.interval = 0 then 1
  else (now - timer.first) / timer.interval + 1

/-- Every instant at which the timer expires adds one. -/
theorem dueBy_succ : timer.dueBy (now + 1) =
    timer.dueBy now + if timer.Expires (now + 1) then 1 else 0 := by
  rcases timer with ⟨first, interval⟩
  simp only [dueBy, expires_iff]
  by_cases early : now + 1 < first
  · have earlier : now < first := Nat.lt_of_succ_lt early
    have notReached : ¬ first ≤ now + 1 := Nat.not_le.mpr early
    have notFirst : now + 1 ≠ first := Nat.ne_of_lt early
    simp only [if_pos early, if_pos earlier, notReached, notFirst, false_and, and_false, or_self,
      if_false]
  · by_cases isFirst : now + 1 = first
    · have earlier : now < first := isFirst ▸ Nat.lt_succ_self now
      simp only [if_pos earlier, isFirst, Nat.lt_irrefl, true_or, if_true, if_false, Nat.sub_self,
        Nat.zero_div, ite_self]
    · have reached : ¬ now < first := by omega
      have distance : now + 1 - first = (now - first) + 1 := by omega
      have atLeast : first ≤ now + 1 := by omega
      simp only [if_neg early, if_neg reached, isFirst, false_or, atLeast, true_and, distance]
      by_cases once : interval = 0
      · simp only [once, Nat.lt_irrefl, false_and, if_true, if_false]
      · simp only [if_neg once, Nat.pos_of_ne_zero once, true_and, Nat.succ_div]
        split <;> omega

theorem dueBy_zero : timer.dueBy 0 = if timer.Expires 0 then 1 else 0 := by
  rcases timer with ⟨first, interval⟩
  simp only [dueBy, expires_iff]
  by_cases isFirst : first = 0
  · simp [isFirst]
  · have notYet : 0 < first := Nat.pos_of_ne_zero isFirst
    simp [notYet, Nat.ne_of_lt notYet, isFirst]

/-- The division counts the instants. -/
theorem dueBy_eq_count : timer.dueBy now = Nat.count timer.Expires (now + 1) := by
  induction now with
  | zero =>
      rw [dueBy_zero, Nat.count_succ, Nat.count_zero, Nat.zero_add]
  | succ now inductionHypothesis => rw [dueBy_succ, Nat.count_succ, ← inductionHypothesis]

/-- The instants after the last one and up to now at which the timer expires. -/
def expirations (timer : IntervalTimer) (last now : Nat) : Finset Nat :=
  (Finset.Ioc last now).filter timer.Expires

theorem card_expirations (ordered : last ≤ now) :
    (timer.expirations last now).card = timer.dueBy now - timer.dueBy last := by
  have parts : (Finset.range (now + 1)).filter timer.Expires =
      ((Finset.range (last + 1)).filter timer.Expires) ∪ timer.expirations last now := by
    ext instant
    simp only [expirations, Finset.mem_union, Finset.mem_filter, Finset.mem_range, Finset.mem_Ioc]
    constructor
    · rintro ⟨below, expires⟩
      by_cases early : instant < last + 1
      · exact Or.inl ⟨early, expires⟩
      · exact Or.inr ⟨⟨by omega, by omega⟩, expires⟩
    · rintro (⟨below, expires⟩ | ⟨⟨_, below⟩, expires⟩)
      · exact ⟨by omega, expires⟩
      · exact ⟨by omega, expires⟩
  have apart : Disjoint ((Finset.range (last + 1)).filter timer.Expires)
      (timer.expirations last now) := by
    rw [Finset.disjoint_left]
    intro instant isEarly isLate
    simp only [expirations, Finset.mem_filter, Finset.mem_range, Finset.mem_Ioc] at isEarly isLate
    omega
  have total := congrArg Finset.card parts
  rw [Finset.card_union_of_disjoint apart, ← Nat.count_eq_card_filter_range,
    ← Nat.count_eq_card_filter_range, ← dueBy_eq_count, ← dueBy_eq_count] at total
  rw [total, Nat.add_sub_cancel_left]

theorem dueBy_mono (ordered : last ≤ now) : timer.dueBy last ≤ timer.dueBy now := by
  rw [dueBy_eq_count, dueBy_eq_count]
  exact Nat.count_monotone timer.Expires (Nat.succ_le_succ ordered)

/-- Nothing has come before the first instant. -/
theorem dueBy_eq_zero (early : now < timer.first) : timer.dueBy now = 0 :=
  if_pos early

end IntervalTimer

/-! ## Reading a timer -/

/-- A timer that may be disarmed, and how many of its expirations have been read. -/
structure TimerFile where
  timer : Option IntervalTimer
  taken : Nat
deriving DecidableEq, Repr

namespace TimerFile

def Expires (file : TimerFile) (instant : Nat) : Prop :=
  Exists fun timer => file.timer = some timer ∧ timer.Expires instant

def dueBy (file : TimerFile) (now : Nat) : Nat :=
  (file.timer.map (fun timer => timer.dueBy now)).getD 0

/-- A read that does not wait takes what has come since the last one, and fails if that is nothing. -/
def read (file : TimerFile) (now : Nat) : Option Nat × TimerFile :=
  if file.dueBy now ≤ file.taken then (none, file)
  else (some (file.dueBy now - file.taken), { file with taken := file.dueBy now })

/-- What reads at these instants return. -/
def reads (file : TimerFile) : List Nat -> List (Option Nat)
  | [] => []
  | now :: times => (file.read now).1 :: (file.read now).2.reads times

/-- The result of a read that should take this many expirations. -/
def resultOf (count : Nat) : Option Nat :=
  if count = 0 then none else some count

/-- The results of reads at these instants, when each takes what lies since the one before. -/
def resultsFrom (count : Nat -> Nat -> Nat) : Nat -> List Nat -> List (Option Nat)
  | _, [] => []
  | last, now :: times => resultOf (count last now) :: resultsFrom count now times

theorem read_armed {timer : IntervalTimer} {last now : Nat} (ordered : last ≤ now) :
    (TimerFile.mk (some timer) (timer.dueBy last)).read now =
      (resultOf (timer.expirations last now).card, ⟨some timer, timer.dueBy now⟩) := by
  have due : (TimerFile.mk (some timer) (timer.dueBy last)).dueBy now = timer.dueBy now := rfl
  have mono : timer.dueBy last ≤ timer.dueBy now := IntervalTimer.dueBy_mono ordered
  simp only [read, due, resultOf, IntervalTimer.card_expirations ordered, Nat.sub_eq_zero_iff_le]
  split
  next nothing => rw [Nat.le_antisymm nothing mono]
  next => rfl

/-- Each read takes the expirations since the one before. -/
theorem reads_armed {timer : IntervalTimer} {last : Nat} {times : List Nat}
    (ordered : (last :: times).IsChain (· ≤ ·)) :
    (TimerFile.mk (some timer) (timer.dueBy last)).reads times =
      resultsFrom (fun last now => (timer.expirations last now).card) last times := by
  induction times generalizing last with
  | nil => rfl
  | cons now times inductionHypothesis =>
      rcases List.isChain_cons_cons.mp ordered with ⟨first, rest⟩
      rw [reads, read_armed first, resultsFrom, inductionHypothesis rest]

theorem reads_disarmed {taken last : Nat} {times : List Nat} :
    (TimerFile.mk none taken).reads times = resultsFrom (fun _ _ => 0) last times := by
  induction times generalizing last with
  | nil => rfl
  | cons now times inductionHypothesis =>
      have nothing : (TimerFile.mk none taken).read now = (none, ⟨none, taken⟩) :=
        if_pos (Nat.zero_le taken)
      rw [reads, nothing, resultsFrom, inductionHypothesis]
      rfl

theorem resultsFrom_congr {count other : Nat -> Nat -> Nat} {last : Nat} {times : List Nat}
    (ordered : (last :: times).IsChain (· ≤ ·))
    (same : forall last now, last ≤ now -> count last now = other last now) :
    resultsFrom count last times = resultsFrom other last times := by
  induction times generalizing last with
  | nil => rfl
  | cons now times inductionHypothesis =>
      rcases List.isChain_cons_cons.mp ordered with ⟨first, rest⟩
      rw [resultsFrom, resultsFrom, same last now first, inductionHypothesis rest]

end TimerFile
end Foundations
