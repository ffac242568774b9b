import Aats.Lib.Runs
import Aats.Operations.WorkflowScheduler

/-!
# The ticks of the workflow scheduler

`_iter_due_slots` of `workflow_scheduler.py` lists the slots since the last one that was processed. Here
each call is given the last slot that was returned so far, as the scheduler does, with outages of any
length between the calls.

## Main definitions
* `Covers`, `NeitherSkipsNorRepeats` — the slots that were returned are those of the grid.
* `Clear` — a tick is not rounded up, and a slot after those that are due is still a time.

## Main results
* `tick_next` — **a tick returns the slots since the last one**.
* `neitherSkipsNorRepeats_of_meets` — **no slot is skipped or repeated in a run of clear ticks**.
-/

namespace Aats.Operations

open Fallible Runs
open Replay (datetimeEnd)

/-! ### The slots that are due -/

/-- The loop of `_iter_due_slots`: it computes the slot after the last one too. -/
def dueFrom (step : Step) (latest current : ℤ) : Except Raised (List ℤ) :=
  if current ≤ latest then do
    let _ ← add current step.micros
    let slots ← dueFrom step latest (current + step.micros)
    return current :: slots
  else .ok []
  termination_by (latest + 1 - current).toNat
  decreasing_by
    have hpos := step.pos
    omega

def iterDueSlots (schedule : Schedule) (now : ℤ) (lastProcessed : Option ℤ) :
    Except Raised (List ℤ) := do
  let latest ← latestSlotForSchedule schedule now
  match lastProcessed with
  | none => return [latest]
  | some last => do
    let alignedLast ← latestSlotForSchedule schedule last
    if latest ≤ alignedLast then return []
    else do
      let step ← scheduleStep schedule
      let current ← add alignedLast step.micros
      dueFrom step latest current

/-- One call, where the last slot that was returned so far is the last one processed. -/
def tick (schedule : Schedule) (returned : List ℤ) (now : ℤ) : Option (List ℤ) :=
  match iterDueSlots schedule now returned.getLast? with
  | .ok slots => some (returned ++ slots)
  | .error _ => none

/-! ### The slots of a tick -/

section Due

variable {schedule : Schedule} {now first : ℤ}

theorem scheduleStep_of_le (h : schedule.stepMicros ≤ datetimeEnd) :
    scheduleStep schedule = .ok ⟨schedule.stepMicros, schedule.stepMicros_pos⟩ := by
  have hpos := schedule.stepMicros_pos
  unfold scheduleStep
  rw [timedelta_of_lt (by rw [datetimeEnd_eq] at *; omega) (by rw [datetimeEnd_eq] at *; omega)]
  rfl

theorem eq_add_step (hrange : schedule.InRange) {slot next : ℤ} (hslot : schedule.IsSlot slot)
    (hin : InDatetime slot) (hin' : InDatetime next)
    (hnext : IsLeast {other | schedule.IsSlot other ∧ slot < other} next) :
    ∃ step, scheduleStep schedule = .ok step ∧ next = slot + step.micros := by
  have hleast := isLeast_floorSlot_add hrange slot
  rw [floorSlot_of_isSlot hrange hslot] at hleast
  have heq : next = slot + schedule.stepMicros := hnext.unique hleast
  have hle : schedule.stepMicros ≤ datetimeEnd := by
    have hlow := hin.1
    have hhigh := hin'.2
    omega
  exact ⟨_, scheduleStep_of_le hle, heq⟩

/-- What the loop lists, where the slot after the last one is a time too. -/
theorem dueFrom_spec {step : Step} {latest current : ℤ} (hroom : InDatetime (latest + step.micros))
    (hlow : 0 ≤ current) :
    ∃ slots, dueFrom step latest current = .ok slots ∧ slots.Pairwise (· < ·) ∧
      ∀ t, t ∈ slots ↔ current ≤ t ∧ t ≤ latest ∧ step.micros ∣ t - current := by
  have hpos := step.pos
  obtain ⟨hroom0, hroom1⟩ := hroom
  fun_induction dueFrom step latest current with
  | case1 current hle ih =>
    obtain ⟨slots, hslots, hpairs, hmem⟩ := ih (by omega)
    have hadd : add current step.micros = .ok (current + step.micros) :=
      add_of_inDatetime ⟨by omega, by omega⟩
    refine ⟨current :: slots, ?_, ?_, fun t => ?_⟩
    · rw [hadd, ok_bind, hslots]
      rfl
    · refine List.pairwise_cons.mpr ⟨fun t ht => ?_, hpairs⟩
      have hlater := ((hmem t).mp ht).1
      omega
    · rw [List.mem_cons, hmem]
      constructor
      · rintro (rfl | ⟨hlater, hlatest, hdvd⟩)
        · exact ⟨le_rfl, hle, by rw [sub_self]; exact dvd_zero _⟩
        · refine ⟨by omega, hlatest, ?_⟩
          have hsum := dvd_add hdvd (dvd_refl step.micros)
          rwa [sub_add_eq_sub_sub, sub_add_cancel] at hsum
      · rintro ⟨hlater, hlatest, k, hk⟩
        rcases hlater.eq_or_lt with heq | hlt
        · exact .inl heq.symm
        · have hk0 : 0 < k := by
            by_contra hneg
            have hmul : step.micros * k ≤ step.micros * 0 :=
              Int.mul_le_mul_of_nonneg_left (not_lt.mp hneg) hpos.le
            omega
          have hmul : step.micros * 1 ≤ step.micros * k :=
            Int.mul_le_mul_of_nonneg_left hk0 hpos.le
          refine .inr ⟨by omega, hlatest, k - 1, ?_⟩
          rw [mul_sub, mul_one, ← hk]
          omega
  | case2 current hgt =>
    refine ⟨[], rfl, .nil, fun t => ?_⟩
    exact iff_of_false List.not_mem_nil (by rintro ⟨hlater, hlatest, -⟩; omega)

end Due

/-! ### Runs of ticks -/

/-- The slots are exactly those from the latest one at the first tick up to a time, in their order and
each once. -/
structure Covers (schedule : Schedule) (first now : ℤ) (slots : List ℤ) : Prop where
  increasing : slots.Pairwise (· < ·)
  exact : ∃ start, slots.head? = some start ∧
    IsGreatest {slot | schedule.IsSlot slot ∧ slot ≤ first} start ∧
    ∀ t, t ∈ slots ↔ schedule.IsSlot t ∧ start ≤ t ∧ t ≤ now

/-- After each of the ticks, the slots that were returned cover the schedule so far. -/
def NeitherSkipsNorRepeats (schedule : Schedule) (ticks : List ℤ) : Prop :=
  ∀ first ∈ ticks.head?, ∀ before now after, ticks = before ++ now :: after →
    ∃ slots, run (tick schedule) [] (before ++ [now]) = some slots ∧ Covers schedule first now slots

/-- If a slot is due, then there is a later one among the times of a `datetime`. -/
def HasRoom (schedule : Schedule) (returned : List ℤ) (now : ℤ) : Prop :=
  ∀ last ∈ returned.getLast?, (∃ slot, schedule.IsSlot slot ∧ last < slot ∧ slot ≤ now) →
    ∃ slot, schedule.IsSlot slot ∧ now < slot ∧ slot < datetimeEnd

/-- The tick is not rounded up, and there is room after it. -/
def Clear (schedule : Schedule) (returned : List ℤ) (now : ℤ) : Prop :=
  ¬RoundedUp schedule now ∧ HasRoom schedule returned now

section Ticks

variable {schedule : Schedule} {first now next : ℤ} {slots ticks : List ℤ}

theorem Covers.getLast (hrange : schedule.InRange) (h : Covers schedule first now slots) :
    slots.getLast? = some (schedule.floorSlot now) := by
  obtain ⟨start, hstart, -, hmem⟩ := h.exact
  have hgreatest := isGreatest_floorSlot hrange now
  have hfirst := (hmem start).mp (List.mem_of_mem_head? hstart)
  have hfloor : schedule.floorSlot now ∈ slots :=
    (hmem _).mpr ⟨hgreatest.1.1, hgreatest.2 ⟨hfirst.1, hfirst.2.2⟩, hgreatest.1.2⟩
  obtain ⟨last, hlast⟩ := Option.ne_none_iff_exists'.mp
    (mt List.getLast?_eq_none_iff.mp (List.ne_nil_of_mem hfloor))
  obtain ⟨earlier, rfl⟩ := List.getLast?_eq_some_iff.mp hlast
  have hlastMem := (hmem last).mp (List.mem_append_right _ List.mem_cons_self)
  have hle : last ≤ schedule.floorSlot now := hgreatest.2 ⟨hlastMem.1, hlastMem.2.2⟩
  rw [hlast]
  congr 1
  rcases List.mem_append.mp hfloor with hearlier | hself
  · have hlt := (List.pairwise_append.mp h.increasing).2.2 _ hearlier last List.mem_cons_self
    omega
  · exact (List.mem_singleton.mp hself).symm

theorem tick_first (hrange : schedule.InRange) (htick : IsTick now) (hclear : Clear schedule [] now) :
    ∃ slots, tick schedule [] now = some slots ∧ Covers schedule now now slots := by
  have hlatest := latestSlot_of_not_roundedUp hrange htick hclear.1
  have hgreatest := isGreatest_floorSlot hrange now
  refine ⟨[schedule.floorSlot now], ?_, List.pairwise_singleton _ _, _, rfl, hgreatest, fun t => ?_⟩
  · unfold tick iterDueSlots
    rw [hlatest]
    rfl
  · rw [List.mem_singleton]
    constructor
    · rintro rfl
      exact ⟨hgreatest.1.1, le_rfl, hgreatest.1.2⟩
    · rintro ⟨hslot, hlow, hhigh⟩
      exact le_antisymm (hgreatest.2 ⟨hslot, hhigh⟩) hlow

/-- **A later tick returns the slots since the last one**, however long ago that is. -/
theorem tick_next (hrange : schedule.InRange) (htick : IsTick now) (htick' : IsTick next)
    (hle : now ≤ next) (h : Covers schedule first now slots) (hclear : Clear schedule slots next) :
    ∃ slots', tick schedule slots next = some slots' ∧ Covers schedule first next slots' := by
  have hlast := h.getLast hrange
  have hgreatest := isGreatest_floorSlot hrange now
  have hgreatest' := isGreatest_floorSlot hrange next
  have hin := floorSlot_inDatetime hrange htick
  have haligned := latestSlot_of_isSlot hrange hgreatest.1.1 hin
  have hlatest := latestSlot_of_not_roundedUp hrange htick' hclear.1
  obtain ⟨start, hstart, hstartGreatest, hmem⟩ := h.exact
  have hstartLe : start ≤ schedule.floorSlot now :=
    ((hmem _).mp (List.mem_of_getLast? hlast)).2.1
  have hpos := schedule.stepMicros_pos
  unfold tick iterDueSlots
  rw [hlast, hlatest, ok_bind]
  dsimp only
  rw [haligned, ok_bind]
  by_cases hdue : schedule.floorSlot next ≤ schedule.floorSlot now
  · -- no slot lies between the two ticks
    rw [if_pos hdue]
    refine ⟨slots ++ [], rfl, ?_, start, ?_, hstartGreatest, fun t => ?_⟩
    · rw [List.append_nil]
      exact h.increasing
    · rw [List.append_nil]
      exact hstart
    · rw [List.append_nil, hmem]
      refine and_congr_right fun hslot => and_congr_right fun _ => ⟨fun ht => ht.trans hle, ?_⟩
      exact fun ht => ((hgreatest'.2 ⟨hslot, ht⟩).trans hdue).trans hgreatest.1.2
  · rw [if_neg hdue]
    have hafter : schedule.floorSlot now + schedule.stepMicros ≤ schedule.floorSlot next := by
      by_contra hbefore
      exact hdue (le_of_lt_add_step hrange hgreatest.1.1 hgreatest'.1.1 (not_le.mp hbefore))
    obtain ⟨room, hroom, hlater, hend⟩ := hclear.2 _ (Option.mem_def.mpr hlast)
      ⟨_, hgreatest'.1.1, by omega, hgreatest'.1.2⟩
    have hroom' := (isLeast_floorSlot_add hrange next).2 ⟨hroom, hlater⟩
    have hin' := floorSlot_inDatetime hrange htick'
    have hnow0 := hin.1
    have hnext1 := hin'.2
    have hadd : add (schedule.floorSlot now) schedule.stepMicros =
        .ok (schedule.floorSlot now + schedule.stepMicros) :=
      add_of_inDatetime ⟨by omega, by omega⟩
    obtain ⟨due, hloop, hpairs, hdueMem⟩ :=
      @dueFrom_spec ⟨schedule.stepMicros, hpos⟩ (schedule.floorSlot next)
        (schedule.floorSlot now + schedule.stepMicros)
        ⟨by dsimp only; omega, by dsimp only; omega⟩ (by omega)
    rw [scheduleStep_of_le (by omega), ok_bind, hadd, ok_bind, hloop]
    refine ⟨slots ++ due, rfl, ?_, start, ?_, hstartGreatest, fun t => ?_⟩
    · refine List.pairwise_append.mpr ⟨h.increasing, hpairs, fun a ha b hb => ?_⟩
      have hbefore := hgreatest.2 ⟨((hmem a).mp ha).1, ((hmem a).mp ha).2.2⟩
      have hlate := ((hdueMem b).mp hb).1
      omega
    · rw [List.head?_append, hstart]
      rfl
    · rw [List.mem_append, hmem, hdueMem]
      -- a slot that is due is a whole number of steps after the last one
      have hgrid : ∀ t, schedule.stepMicros ∣
          t - (schedule.floorSlot now + schedule.stepMicros) ↔ schedule.IsSlot t := fun t => by
        rw [isSlot_iff hrange]
        have hbase := (isSlot_iff hrange).mp
          (isSlot_add_step hrange (isSlot_floorSlot hrange now))
        constructor
        · intro hdvd
          have hsum := dvd_add hdvd hbase
          rwa [sub_add_sub_cancel] at hsum
        · intro hdvd
          have hsub := dvd_sub hdvd hbase
          rwa [sub_sub_sub_cancel_right] at hsub
      rw [hgrid]
      constructor
      · rintro (⟨hslot, hlow, hhigh⟩ | ⟨hlow, hhigh, hslot⟩)
        · exact ⟨hslot, hlow, hhigh.trans hle⟩
        · exact ⟨hslot, by omega, hhigh.trans hgreatest'.1.2⟩
      · rintro ⟨hslot, hlow, hhigh⟩
        by_cases hearly : t ≤ now
        · exact .inl ⟨hslot, hlow, hearly⟩
        · refine .inr ⟨?_, hgreatest'.2 ⟨hslot, hhigh⟩, hslot⟩
          exact (isLeast_floorSlot_add hrange now).2 ⟨hslot, not_le.mp hearly⟩

theorem run_tick_spec (hrange : schedule.InRange) (htick : IsTick now)
    (h : Covers schedule first now slots) (hsorted : (now :: ticks).Pairwise (· ≤ ·))
    (hticks : ∀ later ∈ ticks, IsTick later) (hmeets : Meets (tick schedule) (Clear schedule) slots ticks)
    {before after : List ℤ} (hsplit : ticks = before ++ next :: after) :
    ∃ slots', run (tick schedule) slots (before ++ [next]) = some slots' ∧
      Covers schedule first next slots' := by
  induction ticks generalizing now slots before with
  | nil => exact absurd hsplit (by simp)
  | cons later rest ih =>
    obtain ⟨hfirst, hsorted'⟩ := List.pairwise_cons.mp hsorted
    have hlater := hticks later List.mem_cons_self
    obtain ⟨slots₁, hstep, hcovers⟩ :=
      tick_next hrange htick hlater (hfirst later List.mem_cons_self) h hmeets.1
    cases before with
    | nil =>
      obtain ⟨rfl, -⟩ := List.cons.inj hsplit
      exact ⟨slots₁, run_cons_eq_some.mpr ⟨slots₁, hstep, rfl⟩, hcovers⟩
    | cons head before =>
      obtain ⟨rfl, hrest⟩ := List.cons.inj hsplit
      obtain ⟨slots₂, hrun, hcovers₂⟩ := ih hlater hcovers hsorted'
        (fun t ht => hticks t (List.mem_cons_of_mem _ ht)) ((meets_cons hstep).mp hmeets).2 hrest
      exact ⟨slots₂, run_cons_eq_some.mpr ⟨slots₁, hstep, hrun⟩, hcovers₂⟩

theorem neitherSkipsNorRepeats_of_meets (hrange : schedule.InRange)
    (hsorted : ticks.Pairwise (· ≤ ·)) (hticks : ∀ now ∈ ticks, IsTick now)
    (hmeets : Meets (tick schedule) (Clear schedule) [] ticks) :
    NeitherSkipsNorRepeats schedule ticks := by
  intro first hfirst before now after hsplit
  cases ticks with
  | nil => exact absurd hfirst (Option.not_mem_none _)
  | cons head rest =>
    obtain rfl : head = first := Option.mem_some_iff.mp hfirst
    have hhead := hticks head List.mem_cons_self
    obtain ⟨slots, hstep, hcovers⟩ := tick_first hrange hhead hmeets.1
    cases before with
    | nil =>
      obtain ⟨rfl, -⟩ := List.cons.inj hsplit
      exact ⟨slots, run_cons_eq_some.mpr ⟨slots, hstep, rfl⟩, hcovers⟩
    | cons _ before =>
      obtain ⟨rfl, hrest⟩ := List.cons.inj hsplit
      obtain ⟨slots', hrun, hcovers'⟩ := run_tick_spec hrange hhead hcovers hsorted
        (fun t ht => hticks t (List.mem_cons_of_mem _ ht)) ((meets_cons hstep).mp hmeets).2 hrest
      exact ⟨slots', run_cons_eq_some.mpr ⟨slots, hstep, hrun⟩, hcovers'⟩

theorem clear_of_lt (hrange : schedule.InRange) {returned : List ℤ}
    (hlt : now < schedule.anchor + 2 ^ 34 * 1000000) (hroom : now + schedule.stepMicros < datetimeEnd) :
    Clear schedule returned now := by
  refine ⟨not_roundedUp_of_lt hlt, fun _ _ _ => ?_⟩
  have hnext := isLeast_floorSlot_add hrange now
  have hle : schedule.floorSlot now ≤ now := floorSlot_le now
  exact ⟨_, hnext.1.1, hnext.1.2, by omega⟩

end Ticks

/-! ### All parts together -/

/-- **The scheduler neither skips nor repeats a slot** in a run of clear ticks. A slot is its own
latest slot, the next one is a step later, and the latest slot is the greatest one so far exactly at
the times that are not rounded up. -/
theorem scheduler_keeps_the_grid (schedule : Schedule) (hrange : schedule.InRange) :
    (∀ ticks : List ℤ, ticks.Pairwise (· ≤ ·) → (∀ now ∈ ticks, IsTick now) →
      Meets (tick schedule) (Clear schedule) [] ticks → NeitherSkipsNorRepeats schedule ticks) ∧
    (∀ slot, schedule.IsSlot slot → InDatetime slot →
      latestSlotForSchedule schedule slot = .ok slot) ∧
    (∀ slot next, schedule.IsSlot slot → InDatetime slot → InDatetime next →
      IsLeast {other | schedule.IsSlot other ∧ slot < other} next →
      ∃ step, scheduleStep schedule = .ok step ∧ next = slot + step.micros) ∧
    ∀ now, IsTick now →
      ((∃ latest, latestSlotForSchedule schedule now = .ok latest ∧
        IsGreatest {slot | schedule.IsSlot slot ∧ slot ≤ now} latest) ↔ ¬RoundedUp schedule now) :=
  ⟨fun _ hsorted hticks hmeets => neitherSkipsNorRepeats_of_meets hrange hsorted hticks hmeets,
    fun _ hslot hin => latestSlot_of_isSlot hrange hslot hin,
    fun _ _ hslot hin hin' hnext => eq_add_step hrange hslot hin hin' hnext,
    fun _ htick => latestSlot_isGreatest_iff hrange htick⟩

/-- `{"frequency": "hourly"}`. -/
def everyHour : Schedule where
  frequency := some "hourly"

theorem everyHour_kind : everyHour.kind = .hourly := by decide +kernel

theorem everyHour_stepMicros : everyHour.stepMicros = 3600000000 := by
  rw [Schedule.stepMicros, everyHour_kind]
  rfl

theorem everyHour_anchor : everyHour.anchor = 62135596800000000 := by
  rw [Schedule.anchor, everyHour_kind, epoch_eq]
  rfl

theorem scheduler_keeps_the_grid_everyHour :
    NeitherSkipsNorRepeats everyHour [63911937600000000, 63911955600000000] := by
  have hrange : everyHour.InRange := by decide
  refine (scheduler_keeps_the_grid everyHour hrange).1 _ (by decide) ?_ ?_
  · unfold IsTick
    rw [epoch_eq, datetimeEnd_eq]
    decide
  · have hclear : ∀ now, now < 63911955600000001 → ∀ returned, Clear everyHour returned now := by
      intro now hlt returned
      apply clear_of_lt hrange
      · rw [everyHour_anchor]
        omega
      · rw [everyHour_stepMicros, datetimeEnd_eq]
        omega
    refine meets_of_forall fun now hnow returned => hclear now ?_ returned
    simp only [List.mem_cons, List.not_mem_nil, or_false] at hnow
    omega

theorem everyHour_roundedUp : RoundedUp everyHour 94639280399999999 := by
  refine ⟨.inr everyHour_kind, 94639280400000000, ?_, by norm_num, ?_⟩
  · rw [isSlot_iff (by decide), everyHour_stepMicros, everyHour_anchor]
    decide
  · have hlog : Nat.log 2 32503683599 = 34 := by
      rw [Nat.log_eq_iff (.inl (by norm_num))]
      norm_num
    have hseconds : (94639280399999999 - everyHour.anchor).toNat / 1000000 = 32503683599 := by
      rw [everyHour_anchor]
      rfl
    rw [hseconds, hlog]
    norm_num

/-- There the scheduler returns a slot that has not come yet. -/
theorem everyHour_slot_before_its_time :
    everyHour.InRange ∧ IsTick 94639280399999999 ∧
      (¬∃ latest, latestSlotForSchedule everyHour 94639280399999999 = .ok latest ∧
        IsGreatest {slot | everyHour.IsSlot slot ∧ slot ≤ 94639280399999999} latest) ∧
      ¬NeitherSkipsNorRepeats everyHour [94639280399999999] := by
  have hrange : everyHour.InRange := by decide
  have htick : IsTick 94639280399999999 := by
    unfold IsTick
    rw [epoch_eq, datetimeEnd_eq]
    decide
  refine ⟨hrange, htick, fun h => (latestSlot_isGreatest_iff hrange htick).mp h everyHour_roundedUp,
    fun h => ?_⟩
  obtain ⟨slots, hrun, hcovers⟩ := h _ rfl [] _ [] rfl
  obtain ⟨slot, hlater, hlatest⟩ := latestSlot_of_roundedUp hrange htick everyHour_roundedUp
  obtain ⟨returned, hstep, hend⟩ := run_cons_eq_some.mp hrun
  cases hend
  unfold tick iterDueSlots at hstep
  rw [hlatest, add, add_zero] at hstep
  split at hstep
  · next hok =>
    split at hok
    · cases hok
      cases hstep
      obtain ⟨start, -, -, hmem⟩ := hcovers.exact
      exact absurd ((hmem slot).mp List.mem_cons_self).2.2 (not_le.mpr hlater)
    · cases hok
  · cases hstep

end Aats.Operations
