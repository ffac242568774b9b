import Aats.Execution.CancelOrder
import Aats.Lib.BinaryRounding
import Aats.Replay.Wire

/-!
# The slots of scheduled workflows

`data_platform/operations/workflow_scheduler.py`: the slots at which a workflow is due. The latest
slot of a daily or a weekly schedule is found by replacing the time of day; that of the two others by
dividing the seconds since an anchor. The step from a slot to the next one is written separately.

The seconds since the anchor are a float. From the year 2514 on, a time just before a slot may be
rounded to the slot.

## Main definitions
* `Schedule` — the `schedule` of a workflow's configuration.
* `Schedule.IsSlot` — the slots of the schedule, by their time of day, their weekday or their distance
  from the anchor.
* `RoundedUp` — a slot is so close after a time that the float does not tell them apart.

## Main results
* `latestSlot_isGreatest_iff` — **the latest slot is the greatest one that is not later, unless the
  time is rounded up**.
-/

namespace Aats.Operations

open Calendar Fallible Rounding
open Execution (strip)
open Replay (microsPerDay datetimeEnd)

/-! ### Schedules -/

inductive Frequency where
  | daily | weekly | custom | hourly
  deriving DecidableEq, Repr

/-- The `schedule` of a workflow's configuration; a key that is missing is `none`. -/
structure Schedule where
  frequency : Option String := none
  hourUtc : Option ℤ := none
  minuteUtc : Option ℤ := none
  weekdayUtc : Option String := none
  intervalMinutes : Option ℤ := none
  intervalHours : Option ℤ := none
  deriving DecidableEq, Repr

def weekdayMap : List (String × ℤ) :=
  [("MON", 0), ("TUE", 1), ("WED", 2), ("THU", 3), ("FRI", 4), ("SAT", 5), ("SUN", 6)]

namespace Schedule

variable (schedule : Schedule)

/-- The branch that is taken: a frequency that is none of the other three goes the way of `hourly`. -/
def kind : Frequency :=
  let frequency := (strip (schedule.frequency.getD "")).toLower
  if frequency = "daily" then .daily
  else if frequency = "weekly" then .weekly
  else if frequency = "custom" then .custom
  else .hourly

def minute : ℤ := schedule.minuteUtc.getD 0

def hour : ℤ := schedule.hourUtc.getD 0

/-- `_WEEKDAY_MAP.get(str(schedule.get("weekday_utc") or "SUN").upper(), 6)`. -/
def weekday : ℤ :=
  let given := schedule.weekdayUtc.getD ""
  (weekdayMap.lookup (if given = "" then "SUN" else given).toUpper).getD 6

def minutesBetween : ℤ := max (schedule.intervalMinutes.getD 15) 1

def hoursBetween : ℤ := max (schedule.intervalHours.getD 1) 1

theorem weekday_bounds : 0 ≤ schedule.weekday ∧ schedule.weekday < 7 := by
  have hmap : ∀ entry ∈ weekdayMap, 0 ≤ entry.2 ∧ entry.2 < 7 := by decide
  unfold weekday
  dsimp only
  cases h : weekdayMap.lookup (if schedule.weekdayUtc.getD "" = "" then "SUN"
      else schedule.weekdayUtc.getD "").toUpper with
  | none => decide
  | some number =>
    obtain ⟨before, after, heq, -⟩ := List.lookup_eq_some_iff.mp h
    exact hmap (_, number) (heq ▸ List.mem_append_right before List.mem_cons_self)

theorem minutesBetween_pos : 0 < schedule.minutesBetween := lt_max_of_lt_right one_pos

theorem hoursBetween_pos : 0 < schedule.hoursBetween := lt_max_of_lt_right one_pos

end Schedule

/-! ### Times

A time counts the microseconds from the first of January of the year one, which was a Monday. -/

/-- What a function raises: `ValueError` or `OverflowError`. -/
inductive Raised where
  | value | overflow
  deriving DecidableEq, Repr

/-- The times of a `datetime`. -/
def InDatetime (t : ℤ) : Prop := 0 ≤ t ∧ t < datetimeEnd

instance decidableInDatetime (t : ℤ) : Decidable (InDatetime t) := instDecidableAnd

/-- `datetime + timedelta`. -/
def add (t delta : ℤ) : Except Raised ℤ :=
  if InDatetime (t + delta) then .ok (t + delta) else .error .overflow

/-- A `timedelta` has at most 999999999 days. -/
def timedelta (micros : ℤ) : Except Raised ℤ :=
  if |micros / microsPerDay| ≤ 999999999 then .ok micros else .error .overflow

/-- `datetime.replace(hour=hour, minute=minute, second=0, microsecond=0)`. -/
def replaceTime (t hour minute : ℤ) : Except Raised ℤ :=
  if 0 ≤ hour ∧ hour < 24 ∧ 0 ≤ minute ∧ minute < 60 then
    .ok (t - t % microsPerDay + (hour * 60 + minute) * 60000000)
  else .error .value

/-- `datetime.weekday`. -/
def weekdayOf (t : ℤ) : ℤ := t / microsPerDay % 7

/-- The first of January 1970. -/
def epoch : ℤ := daysBeforeYear 1970 * microsPerDay

/-- `datetime(1970, 1, 1, 0, minute, tzinfo=UTC)`. -/
def epochAt (minute : ℤ) : Except Raised ℤ :=
  if 0 ≤ minute ∧ minute < 60 then .ok (epoch + minute * 60000000) else .error .value

/-- `timedelta.total_seconds`: the nearest number of 53 bits. -/
def totalSeconds (delta : ℤ) : ℚ := toBits 53 ((delta : ℚ) / 1000000)

/-! ### The latest slot -/

def alignedSlot (anchor slotSeconds now : ℤ) : Except Raised ℤ := do
  let elapsedSeconds := truncate (totalSeconds (now - anchor))
  let slotIndex := elapsedSeconds / slotSeconds
  let offset ← timedelta (slotIndex * slotSeconds * 1000000)
  add anchor offset

def latestSlotForSchedule (schedule : Schedule) (now : ℤ) : Except Raised ℤ :=
  match schedule.kind with
  | .daily => do
    let candidate ← replaceTime now schedule.hour schedule.minute
    if now < candidate then add candidate (-microsPerDay) else .ok candidate
  | .weekly => do
    let candidate ← replaceTime now schedule.hour schedule.minute
    let deltaDays := (weekdayOf candidate - schedule.weekday) % 7
    let candidate ← add candidate (-(deltaDays * microsPerDay))
    if now < candidate then add candidate (-(7 * microsPerDay)) else .ok candidate
  | .custom => alignedSlot epoch (schedule.minutesBetween * 60) now
  | .hourly => do
    let anchor ← epochAt schedule.minute
    alignedSlot anchor (schedule.hoursBetween * 3600) now

structure Step where
  micros : ℤ
  pos : 0 < micros

/-- The length of a step, whether it is a `timedelta` or not. -/
def Schedule.stepMicros (schedule : Schedule) : ℤ :=
  match schedule.kind with
  | .daily => microsPerDay
  | .weekly => 7 * microsPerDay
  | .custom => schedule.minutesBetween * 60000000
  | .hourly => schedule.hoursBetween * 3600000000

theorem Schedule.stepMicros_pos (schedule : Schedule) : 0 < schedule.stepMicros := by
  have hminutes := schedule.minutesBetween_pos
  have hhours := schedule.hoursBetween_pos
  have hday : (0 : ℤ) < microsPerDay := by decide
  unfold stepMicros
  split <;> omega

def scheduleStep (schedule : Schedule) : Except Raised Step := do
  let _ ← timedelta schedule.stepMicros
  return ⟨schedule.stepMicros, schedule.stepMicros_pos⟩

/-! ### The grid of a schedule -/

namespace Schedule

variable (schedule : Schedule)

/-- The hour and the minute are those of a day. -/
def InRange : Prop :=
  (0 ≤ schedule.hour ∧ schedule.hour < 24) ∧ 0 ≤ schedule.minute ∧ schedule.minute < 60

instance decidableInRange : Decidable schedule.InRange := instDecidableAnd

def timeOfDay : ℤ := (schedule.hour * 60 + schedule.minute) * 60000000

/-- The slots: the days at a time, the weekdays at a time, or every so many minutes from the start
of 1970, or every so many hours from a minute of its first hour. -/
def IsSlot (t : ℤ) : Prop :=
  match schedule.kind with
  | .daily => t % microsPerDay = schedule.timeOfDay
  | .weekly => t % microsPerDay = schedule.timeOfDay ∧ weekdayOf t = schedule.weekday
  | .custom => schedule.minutesBetween * 60000000 ∣ t - epoch
  | .hourly => schedule.hoursBetween * 3600000000 ∣ t - (epoch + schedule.minute * 60000000)

/-- A slot from which all others are counted. -/
def anchor : ℤ :=
  match schedule.kind with
  | .daily => schedule.timeOfDay
  | .weekly => schedule.weekday * microsPerDay + schedule.timeOfDay
  | .custom => epoch
  | .hourly => epoch + schedule.minute * 60000000

/-- The greatest slot that is not later than a time. -/
def floorSlot (t : ℤ) : ℤ := t - (t - schedule.anchor) % schedule.stepMicros

end Schedule

/-- A time from the second of January 1970 on. -/
def IsTick (now : ℤ) : Prop := epoch + microsPerDay ≤ now ∧ now < datetimeEnd

/-- A slot that is counted from 1970 comes so soon after a time that the float of the seconds does
not tell them apart: it comes within half of the last of the 53 bits. -/
def RoundedUp (schedule : Schedule) (now : ℤ) : Prop :=
  (schedule.kind = .custom ∨ schedule.kind = .hourly) ∧
    ∃ slot, schedule.IsSlot slot ∧ now < slot ∧
      (slot - now) * 2 ^ 53 ≤ 1000000 * 2 ^ Nat.log 2 ((now - schedule.anchor).toNat / 1000000)

theorem epoch_eq : epoch = 62135596800000000 := by decide

theorem datetimeEnd_eq : datetimeEnd = 315537897600000000 := by decide

theorem microsPerDay_eq : microsPerDay = 86400000000 := rfl

section Grid

variable {schedule : Schedule} {t now : ℤ}

theorem Schedule.InRange.timeOfDay (hrange : schedule.InRange) :
    0 ≤ schedule.timeOfDay ∧ schedule.timeOfDay < 86400000000 := by
  obtain ⟨hhour, hminute⟩ := hrange
  unfold Schedule.timeOfDay
  omega

theorem isSlot_iff (hrange : schedule.InRange) :
    schedule.IsSlot t ↔ schedule.stepMicros ∣ t - schedule.anchor := by
  have htime := hrange.timeOfDay
  have hweekday := schedule.weekday_bounds
  unfold Schedule.IsSlot Schedule.stepMicros Schedule.anchor weekdayOf
  rw [microsPerDay_eq]
  cases schedule.kind with
  | daily =>
    dsimp only
    push_cast
    omega
  | weekly =>
    dsimp only
    push_cast
    omega
  | custom => exact Iff.rfl
  | hourly => exact Iff.rfl

theorem floorSlot_le (t : ℤ) : schedule.floorSlot t ≤ t := by
  have hmod := Int.emod_nonneg (t - schedule.anchor) schedule.stepMicros_pos.ne'
  unfold Schedule.floorSlot
  omega

theorem lt_floorSlot_add (t : ℤ) : t < schedule.floorSlot t + schedule.stepMicros := by
  have hmod := Int.emod_lt_of_pos (t - schedule.anchor) schedule.stepMicros_pos
  unfold Schedule.floorSlot
  omega

theorem isSlot_floorSlot (hrange : schedule.InRange) (t : ℤ) :
    schedule.IsSlot (schedule.floorSlot t) := by
  rw [isSlot_iff hrange]
  unfold Schedule.floorSlot
  rw [sub_right_comm]
  exact Int.dvd_self_sub_emod

theorem le_of_lt_add_step (hrange : schedule.InRange) {slot other : ℤ} (hslot : schedule.IsSlot slot)
    (hother : schedule.IsSlot other) (hlt : other < slot + schedule.stepMicros) : other ≤ slot := by
  rw [isSlot_iff hrange] at hslot hother
  obtain ⟨k, hk⟩ : schedule.stepMicros ∣ other - slot := by
    have hsub := dvd_sub hother hslot
    rwa [sub_sub_sub_cancel_right] at hsub
  have hpos := schedule.stepMicros_pos
  have hk1 : k < 1 := by
    by_contra hge
    have hmul : schedule.stepMicros * 1 ≤ schedule.stepMicros * k :=
      Int.mul_le_mul_of_nonneg_left (not_lt.mp hge) hpos.le
    omega
  have hmul : schedule.stepMicros * k ≤ schedule.stepMicros * 0 :=
    Int.mul_le_mul_of_nonneg_left (by omega) hpos.le
  omega

theorem isGreatest_floorSlot (hrange : schedule.InRange) (t : ℤ) :
    IsGreatest {slot | schedule.IsSlot slot ∧ slot ≤ t} (schedule.floorSlot t) :=
  ⟨⟨isSlot_floorSlot hrange t, floorSlot_le t⟩, fun _ hother =>
    le_of_lt_add_step hrange (isSlot_floorSlot hrange t) hother.1
      (hother.2.trans_lt (lt_floorSlot_add t))⟩

theorem isSlot_add_step (hrange : schedule.InRange) (hslot : schedule.IsSlot t) :
    schedule.IsSlot (t + schedule.stepMicros) := by
  rw [isSlot_iff hrange] at hslot ⊢
  rw [add_sub_right_comm]
  exact dvd_add hslot (dvd_refl _)

theorem isLeast_floorSlot_add (hrange : schedule.InRange) (t : ℤ) :
    IsLeast {slot | schedule.IsSlot slot ∧ t < slot} (schedule.floorSlot t + schedule.stepMicros) := by
  refine ⟨⟨isSlot_add_step hrange (isSlot_floorSlot hrange t), lt_floorSlot_add t⟩, ?_⟩
  rintro other ⟨hother, hlt⟩
  by_contra hless
  have hle := le_of_lt_add_step hrange (isSlot_floorSlot hrange t) hother (not_le.mp hless)
  exact absurd (hlt.trans_le hle) (not_lt.mpr (floorSlot_le t))

theorem floorSlot_of_isSlot (hrange : schedule.InRange) (hslot : schedule.IsSlot t) :
    schedule.floorSlot t = t := by
  unfold Schedule.floorSlot
  rw [Int.emod_eq_zero_of_dvd ((isSlot_iff hrange).mp hslot), sub_zero]

end Grid

/-! ### The seconds since an anchor -/

/-- The whole seconds of a number of microseconds, with the last bit of the float. -/
def roundedSeconds (micros : ℕ) : ℕ :=
  if ((micros / 1000000 + 1) * 1000000 - micros) * 2 ^ 53 ≤
      1000000 * 2 ^ Nat.log 2 (micros / 1000000) then micros / 1000000 + 1
  else micros / 1000000

theorem truncate_totalSeconds {micros : ℕ} (hlow : 1000000 ≤ micros) (hhigh : micros < datetimeEnd) :
    truncate (totalSeconds micros) = roundedSeconds micros := by
  rw [datetimeEnd_eq] at hhigh
  have hsize : micros / 1000000 < 2 ^ (53 - 1) :=
    lt_of_le_of_lt (Nat.div_le_div_right hhigh.le) (by norm_num)
  have hfloor := floor_toBits_div (by norm_num : 0 < 1000000) hlow hsize (by norm_num)
  rw [Nat.cast_ofNat] at hfloor
  unfold totalSeconds
  rw [truncate_of_nonneg (toBits_nonneg (by positivity)), Int.cast_natCast, hfloor]
  rfl

theorem truncate_totalSeconds_mul {seconds : ℤ} (h : |seconds| < 2 ^ 53) :
    truncate (totalSeconds (seconds * 1000000)) = seconds := by
  have hquotient : ((seconds * 1000000 : ℤ) : ℚ) / 1000000 = (seconds : ℚ) := by
    push_cast
    exact mul_div_cancel_right₀ _ (by norm_num)
  unfold totalSeconds
  rw [hquotient, toBits_intCast h, truncate_intCast]

/-- A multiple of some seconds is near after a time exactly if the seconds are rounded up to it. -/
theorem exists_near_iff {micros step : ℕ} (hhigh : micros < datetimeEnd) {base : ℤ} :
    (∃ slot : ℤ, (step : ℤ) * 1000000 ∣ slot - base ∧ base + micros < slot ∧
      (slot - (base + micros)) * 2 ^ 53 ≤ 1000000 * 2 ^ Nat.log 2 (micros / 1000000)) ↔
      roundedSeconds micros = micros / 1000000 + 1 ∧ step ∣ micros / 1000000 + 1 := by
  rw [datetimeEnd_eq] at hhigh
  have hseconds : micros / 1000000 < 2 ^ 52 :=
    lt_of_le_of_lt (Nat.div_le_div_right hhigh.le) (by norm_num)
  have hpow : 2 ^ Nat.log 2 (micros / 1000000) < 2 ^ 53 := by
    refine Nat.pow_lt_pow_right (by norm_num) (Nat.lt_of_le_of_lt ?_ (by norm_num : 52 < 53))
    exact (Nat.log_mono_right hseconds.le).trans (Nat.log_pow (by norm_num) 52).le
  have hdiv := Nat.div_add_mod micros 1000000
  have hmod := Nat.mod_lt micros (by norm_num : 0 < 1000000)
  have hrounded : roundedSeconds micros = micros / 1000000 + 1 ↔
      ((micros / 1000000 + 1) * 1000000 - micros) * 2 ^ 53 ≤
        1000000 * 2 ^ Nat.log 2 (micros / 1000000) := by
    unfold roundedSeconds
    split
    · next h => exact iff_of_true rfl h
    · next h => exact iff_of_false (Nat.succ_ne_self _).symm h
  have hcast : (2 : ℤ) ^ Nat.log 2 (micros / 1000000) =
      ((2 ^ Nat.log 2 (micros / 1000000) : ℕ) : ℤ) := (Nat.cast_pow 2 _).symm
  rw [hrounded, hcast]
  generalize 2 ^ Nat.log 2 (micros / 1000000) = power at *
  generalize micros / 1000000 = seconds at *
  constructor
  · rintro ⟨slot, ⟨k, hk⟩, hlt, hnear⟩
    -- the multiple comes within a second
    have hslot : (step : ℤ) * k = seconds + 1 := by
      rw [mul_right_comm] at hk
      generalize (step : ℤ) * k = multiple at *
      omega
    rw [mul_right_comm, hslot] at hk
    exact ⟨by omega, Int.natCast_dvd_natCast.mp ⟨k, by rw [hslot]; push_cast; rfl⟩⟩
  · rintro ⟨hnear, k, hk⟩
    refine ⟨base + (seconds + 1) * 1000000, ⟨k, ?_⟩, by omega, by omega⟩
    have hk' : (seconds : ℤ) + 1 = step * k := by exact_mod_cast hk
    rw [hk']
    ring

/-! ### The latest slot -/

theorem add_of_inDatetime {t delta : ℤ} (h : InDatetime (t + delta)) : add t delta = .ok (t + delta) :=
  if_pos h

theorem timedelta_of_lt {micros : ℤ} (hlow : -datetimeEnd ≤ micros) (hhigh : micros ≤ 2 * datetimeEnd) :
    timedelta micros = .ok micros := by
  rw [datetimeEnd_eq] at hlow hhigh
  refine if_pos (abs_le.mpr ?_)
  rw [microsPerDay_eq]
  push_cast
  omega

section Aligned

variable {base now : ℤ} {step micros : ℕ}

theorem alignedSlot_eq (hnow : now = base + micros) (hbase : 0 ≤ base) (hlow : 1000000 ≤ micros)
    (hhigh : now < datetimeEnd) :
    alignedSlot base step now = add base ((roundedSeconds micros / step * step * 1000000 : ℕ) : ℤ) := by
  have hmicros : micros < datetimeEnd := by omega
  have hrounded : roundedSeconds micros ≤ micros / 1000000 + 1 := by
    unfold roundedSeconds
    split <;> omega
  have hwhole := Nat.div_mul_le_self (roundedSeconds micros) step
  have hcast : ((roundedSeconds micros : ℕ) : ℤ) / step * step * 1000000 =
      ((roundedSeconds micros / step * step * 1000000 : ℕ) : ℤ) := by
    push_cast
    rfl
  have hdelta : timedelta ((roundedSeconds micros / step * step * 1000000 : ℕ) : ℤ) =
      .ok ((roundedSeconds micros / step * step * 1000000 : ℕ) : ℤ) := by
    rw [datetimeEnd_eq] at hmicros
    apply timedelta_of_lt
    · rw [datetimeEnd_eq]
      omega
    · rw [datetimeEnd_eq]
      omega
  unfold alignedSlot
  rw [hnow, add_sub_cancel_left, truncate_totalSeconds hlow hmicros]
  dsimp only
  rw [hcast, hdelta]
  rfl

theorem alignedSlot_of_near (hnow : now = base + micros) (hbase : 0 ≤ base) (hlow : 1000000 ≤ micros)
    (hhigh : now < datetimeEnd)
    (hnear : roundedSeconds micros = micros / 1000000 + 1 ∧ step ∣ micros / 1000000 + 1) :
    alignedSlot base step now = add base (((micros / 1000000 + 1) * 1000000 : ℕ) : ℤ) := by
  rw [alignedSlot_eq hnow hbase hlow hhigh, hnear.1, Nat.div_mul_cancel hnear.2]

theorem alignedSlot_of_far (hnow : now = base + micros) (hbase : 0 ≤ base) (hlow : 1000000 ≤ micros)
    (hhigh : now < datetimeEnd)
    (hfar : ¬(roundedSeconds micros = micros / 1000000 + 1 ∧ step ∣ micros / 1000000 + 1)) :
    alignedSlot base step now = .ok (now - (now - base) % ((step : ℤ) * 1000000)) := by
  have hquotient : roundedSeconds micros / step = micros / 1000000 / step := by
    by_cases hup : roundedSeconds micros = micros / 1000000 + 1
    · rw [hup, Nat.succ_div, if_neg fun h => hfar ⟨hup, h⟩, add_zero]
    · unfold roundedSeconds at hup ⊢
      split at hup
      · exact absurd rfl hup
      · next hcond => rw [if_neg hcond]
  have hslot : now - (now - base) % ((step : ℤ) * 1000000) =
      base + ((micros / 1000000 / step * step * 1000000 : ℕ) : ℤ) := by
    have hdiv := Int.mul_ediv_add_emod (micros : ℤ) ((step : ℤ) * 1000000)
    have hdivdiv : (micros : ℤ) / ((step : ℤ) * 1000000) = (micros : ℤ) / 1000000 / step := by
      rw [mul_comm, Int.ediv_ediv_of_nonneg (by norm_num)]
    rw [hnow, add_sub_cancel_left]
    push_cast
    rw [hdivdiv] at hdiv
    linarith
  have hle : micros / 1000000 / step * step * 1000000 ≤ micros :=
    (Nat.mul_le_mul_right _ (Nat.div_mul_le_self _ _)).trans (Nat.div_mul_le_self _ _)
  rw [alignedSlot_eq hnow hbase hlow hhigh, hquotient, hslot]
  apply add_of_inDatetime
  constructor
  · omega
  · omega

theorem alignedSlot_of_multiple {steps : ℤ} (hstep : 0 < step)
    (hnow : now = base + steps * (step * 1000000)) (hbase : InDatetime base) (hin : InDatetime now) :
    alignedSlot base step now = .ok now := by
  have hstep' : (0 : ℤ) < step := by exact_mod_cast hstep
  have hseconds : now - base = steps * step * 1000000 := by
    rw [hnow]
    ring
  obtain ⟨hbase0, hbase1⟩ := hbase
  obtain ⟨hin0, hin1⟩ := hin
  rw [datetimeEnd_eq] at hbase1 hin1
  have hsize : |steps * step| < 2 ^ 53 := by
    rw [abs_lt]
    constructor
    · omega
    · omega
  unfold alignedSlot
  rw [hseconds, truncate_totalSeconds_mul hsize]
  dsimp only
  rw [Int.mul_ediv_cancel _ hstep'.ne', ← hseconds, timedelta_of_lt (by rw [datetimeEnd_eq]; omega)
    (by rw [datetimeEnd_eq]; omega), ok_bind, add_of_inDatetime, add_sub_cancel]
  rw [add_sub_cancel, InDatetime, datetimeEnd_eq]
  exact ⟨hin0, hin1⟩

end Aligned

section Latest

variable {schedule : Schedule} {t now : ℤ}

theorem replaceTime_of_inRange (hrange : schedule.InRange) (t : ℤ) :
    replaceTime t schedule.hour schedule.minute = .ok (t - t % microsPerDay + schedule.timeOfDay) :=
  if_pos ⟨hrange.1.1, hrange.1.2, hrange.2⟩

theorem latestSlot_aligned (hrange : schedule.InRange)
    (hkind : schedule.kind = .custom ∨ schedule.kind = .hourly) :
    ∃ step : ℕ, 0 < step ∧ schedule.stepMicros = step * 1000000 ∧
      epoch ≤ schedule.anchor ∧ schedule.anchor < epoch + 3600000000 ∧
      ∀ now, latestSlotForSchedule schedule now = alignedSlot schedule.anchor step now := by
  have hminutes := schedule.minutesBetween_pos
  have hhours := schedule.hoursBetween_pos
  have hminute := hrange.2
  unfold Schedule.stepMicros Schedule.anchor latestSlotForSchedule
  rcases hkind with hkind | hkind
  · rw [hkind]
    dsimp only
    refine ⟨(schedule.minutesBetween * 60).toNat, by omega, by omega, by omega, by omega, ?_⟩
    intro now
    rw [Int.toNat_of_nonneg (by omega)]
  · rw [hkind]
    dsimp only
    refine ⟨(schedule.hoursBetween * 3600).toNat, by omega, by omega, by omega, by omega, ?_⟩
    intro now
    rw [Int.toNat_of_nonneg (by omega), epochAt, if_pos hminute, ok_bind]

theorem floorSlot_inDatetime (hrange : schedule.InRange) (htick : IsTick now) :
    InDatetime (schedule.floorSlot now) := by
  have hle : schedule.floorSlot now ≤ now := floorSlot_le now
  have hlt : now < schedule.floorSlot now + schedule.stepMicros := lt_floorSlot_add now
  obtain ⟨hlow, hhigh⟩ := htick
  rw [epoch_eq, microsPerDay_eq] at hlow
  refine ⟨?_, hle.trans_lt hhigh⟩
  by_cases hkind : schedule.kind = .custom ∨ schedule.kind = .hourly
  · obtain ⟨step, -, -, hanchor, hanchor', -⟩ := latestSlot_aligned hrange hkind
    rw [epoch_eq] at hanchor hanchor'
    -- the anchor is itself a slot, and it comes before the time
    have hslot : schedule.IsSlot schedule.anchor := by
      rw [isSlot_iff hrange, sub_self]
      exact dvd_zero _
    have hgreatest := (isGreatest_floorSlot hrange now).2 ⟨hslot, by push_cast at hlow; omega⟩
    omega
  · rw [Schedule.stepMicros] at hlt
    cases hcase : schedule.kind with
    | daily =>
      rw [hcase, microsPerDay_eq] at hlt
      push_cast at hlt hlow
      omega
    | weekly =>
      rw [hcase, microsPerDay_eq] at hlt
      push_cast at hlt hlow
      omega
    | custom => exact absurd (.inl hcase) hkind
    | hourly => exact absurd (.inr hcase) hkind

/-- A schedule by the calendar finds the last slot before every time that is not too early. -/
theorem latestSlot_of_calendar (hrange : schedule.InRange)
    (hkind : ¬(schedule.kind = .custom ∨ schedule.kind = .hourly)) (hin : InDatetime now)
    (hfloor : InDatetime (schedule.floorSlot now)) :
    latestSlotForSchedule schedule now = .ok (schedule.floorSlot now) := by
  have htime := hrange.timeOfDay
  have hweekday := schedule.weekday_bounds
  have hreplace := replaceTime_of_inRange hrange now
  unfold InDatetime at hin hfloor
  rw [datetimeEnd_eq] at hin hfloor
  unfold Schedule.floorSlot Schedule.stepMicros Schedule.anchor at hfloor ⊢
  unfold latestSlotForSchedule
  cases hcase : schedule.kind with
  | daily =>
    rw [hcase, microsPerDay_eq] at hfloor
    rw [microsPerDay_eq] at hreplace
    dsimp only at hfloor ⊢
    rw [microsPerDay_eq, hreplace, ok_bind]
    push_cast at hfloor ⊢
    split
    · next hlate =>
      rw [add_of_inDatetime]
      · congr 1
        omega
      · rw [InDatetime, datetimeEnd_eq]
        omega
    · next hearly =>
      congr 1
      omega
  | weekly =>
    rw [hcase, microsPerDay_eq] at hfloor
    rw [microsPerDay_eq] at hreplace
    dsimp only at hfloor ⊢
    rw [microsPerDay_eq, hreplace, ok_bind]
    unfold weekdayOf
    rw [microsPerDay_eq]
    push_cast at hfloor ⊢
    rw [add_of_inDatetime (by rw [InDatetime, datetimeEnd_eq]; omega), ok_bind]
    split
    · next hlate =>
      rw [add_of_inDatetime]
      · congr 1
        omega
      · rw [InDatetime, datetimeEnd_eq]
        omega
    · next hearly =>
      congr 1
      omega
  | custom => exact absurd (.inl hcase) hkind
  | hourly => exact absurd (.inr hcase) hkind

theorem latestSlot_of_roundedUp (hrange : schedule.InRange) (htick : IsTick now)
    (hup : RoundedUp schedule now) :
    ∃ slot, now < slot ∧ latestSlotForSchedule schedule now = add slot 0 := by
  obtain ⟨hkind, hslot⟩ := hup
  obtain ⟨step, hstep, hmicros, hanchor, hanchor', hlatest⟩ := latestSlot_aligned hrange hkind
  obtain ⟨hlow, hhigh⟩ := htick
  rw [epoch_eq] at hanchor hanchor' hlow
  rw [microsPerDay_eq] at hlow
  push_cast at hlow
  obtain ⟨micros, hnow⟩ : ∃ micros : ℕ, now = schedule.anchor + micros :=
    ⟨(now - schedule.anchor).toNat, by omega⟩
  simp only [isSlot_iff hrange, hmicros] at hslot
  rw [hnow, add_sub_cancel_left, Int.toNat_natCast, exists_near_iff (by omega)] at hslot
  refine ⟨schedule.anchor + (((micros / 1000000 + 1) * 1000000 : ℕ) : ℤ), by omega, ?_⟩
  rw [hlatest, alignedSlot_of_near hnow (by omega) (by omega) hhigh hslot, add, add, add_zero]

theorem latestSlot_of_not_roundedUp (hrange : schedule.InRange) (htick : IsTick now)
    (hup : ¬RoundedUp schedule now) :
    latestSlotForSchedule schedule now = .ok (schedule.floorSlot now) := by
  have hfloor := floorSlot_inDatetime hrange htick
  obtain ⟨hlow, hhigh⟩ := htick
  rw [epoch_eq, microsPerDay_eq] at hlow
  push_cast at hlow
  by_cases hkind : schedule.kind = .custom ∨ schedule.kind = .hourly
  · obtain ⟨step, hstep, hmicros, hanchor, hanchor', hlatest⟩ := latestSlot_aligned hrange hkind
    rw [epoch_eq] at hanchor hanchor'
    obtain ⟨micros, hnow⟩ : ∃ micros : ℕ, now = schedule.anchor + micros :=
      ⟨(now - schedule.anchor).toNat, by omega⟩
    have hfar : ¬(roundedSeconds micros = micros / 1000000 + 1 ∧ step ∣ micros / 1000000 + 1) := by
      rw [← @exists_near_iff micros step (by omega) schedule.anchor]
      intro hnear
      refine hup ⟨hkind, ?_⟩
      simp only [isSlot_iff hrange, hmicros]
      rwa [hnow, add_sub_cancel_left, Int.toNat_natCast]
    rw [hlatest, alignedSlot_of_far hnow (by omega) (by omega) hhigh hfar, ← hmicros]
    rfl
  · exact latestSlot_of_calendar hrange hkind ⟨by omega, hhigh⟩ hfloor

theorem latestSlot_isGreatest_iff (hrange : schedule.InRange) (htick : IsTick now) :
    (∃ latest, latestSlotForSchedule schedule now = .ok latest ∧
      IsGreatest {slot | schedule.IsSlot slot ∧ slot ≤ now} latest) ↔ ¬RoundedUp schedule now := by
  constructor
  · rintro ⟨latest, hlatest, hgreatest⟩ hup
    obtain ⟨slot, hlater, hslot⟩ := latestSlot_of_roundedUp hrange htick hup
    rw [hslot, add, add_zero] at hlatest
    split at hlatest
    · cases hlatest
      exact absurd hgreatest.1.2 (not_le.mpr hlater)
    · cases hlatest
  · intro hup
    exact ⟨_, latestSlot_of_not_roundedUp hrange htick hup, isGreatest_floorSlot hrange now⟩

theorem latestSlot_of_isSlot (hrange : schedule.InRange) (hslot : schedule.IsSlot t)
    (hin : InDatetime t) : latestSlotForSchedule schedule t = .ok t := by
  have hfloor := floorSlot_of_isSlot hrange hslot
  by_cases hkind : schedule.kind = .custom ∨ schedule.kind = .hourly
  · obtain ⟨step, hstep, hmicros, hanchor, hanchor', hlatest⟩ := latestSlot_aligned hrange hkind
    rw [epoch_eq] at hanchor hanchor'
    obtain ⟨steps, hsteps⟩ := (isSlot_iff hrange).mp hslot
    have hnow : t = schedule.anchor + steps * (step * 1000000) := by
      rw [← hmicros, mul_comm, ← hsteps, add_sub_cancel]
    rw [hlatest]
    refine alignedSlot_of_multiple hstep hnow ⟨by omega, ?_⟩ hin
    rw [datetimeEnd_eq]
    push_cast
    omega
  · have heq := latestSlot_of_calendar hrange hkind hin (by rw [hfloor]; exact hin)
    rwa [hfloor] at heq

theorem not_roundedUp_of_lt (hlt : now < schedule.anchor + 2 ^ 34 * 1000000) :
    ¬RoundedUp schedule now := by
  rintro ⟨-, slot, -, hlater, hnear⟩
  have hseconds : (now - schedule.anchor).toNat / 1000000 < 2 ^ 34 := by omega
  have hpow : 2 ^ Nat.log 2 ((now - schedule.anchor).toNat / 1000000) ≤ 2 ^ 33 := by
    refine Nat.pow_le_pow_right (by norm_num) (Nat.le_of_lt_succ ?_)
    exact Nat.log_lt_of_lt_pow' (by norm_num) hseconds
  have hpow : (2 : ℤ) ^ Nat.log 2 ((now - schedule.anchor).toNat / 1000000) ≤ 2 ^ 33 := by
    exact_mod_cast hpow
  omega

end Latest

end Aats.Operations
