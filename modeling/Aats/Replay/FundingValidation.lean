import Aats.Replay.EventCodec
import Aats.Replay.FundingPlan

/-!
# Checking the settlements against the plan

`data_platform/replay/derivatives_backtest/funding.py`: the events of the funding settlements are
checked one by one as they come (`FundingSettlementStreamValidatorV1`), or all of them at once
(`validate_funding_settlement_events`), which also runs them through the former.

## Main results
* `validateFundingSettlementEvents_iff` — **both accept the same events: those at the instants of
  the plan that keep the rules of their segments**.
-/

namespace Aats.Replay

open Fallible WireValue Windows
open Execution (Timestamp)

section Sha

variable (sha256 : WireValue → String)

def revalidateFundingEvent (event : ReplayEvent Decimal) :
    Except ContractError (ReplayEvent Decimal) := do
  raiseIf (event.body.payload.kind ≠ .fundingSettlement) { code := "funding_event_type_invalid" }
  let dict ← toDict event
  let validated ← parseDerivativeReplayEvent sha256 dict
  raiseIf (validated.body.payload.kind ≠ .fundingSettlement ∨ worth validated ≠ worth event)
    { code := "funding_event_revalidation_mismatch" }
  return validated

/-! ### One by one -/

/-- `FundingSettlementStreamValidatorV1`. -/
structure StreamValidator where
  plan : FundingContinuityPlan
  eventIndex : ℕ := 0
  segmentIndex : ℕ := 0
  previousTs : Option Timestamp := none
  finished : Bool := false

def checkEventOrder (previousTs : Option Timestamp) (ts : Timestamp) :
    Except ContractError Unit := do
  raiseIf (previousTs.any fun previous => ts = previous) { code := "funding_event_duplicate" }
  raiseIf (previousTs.any fun previous => ts < previous) { code := "funding_event_order_invalid" }

/-- The loop that steps over the segments that have ended. -/
def advanceSegment (segments : List FundingScheduleSegment) (ts : Timestamp) (index : ℕ) : ℕ :=
  if index + 1 < segments.length ∧ segments[index]?.any (fun segment => segment.endTs ≤ ts) then
    advanceSegment segments ts (index + 1)
  else index
  termination_by segments.length - index

def checkSettlement (segment : FundingScheduleSegment) (event : ReplayEvent Decimal) :
    Except ContractError Unit :=
  match event.body.payload with
  | .fundingSettlement rate scheduleRef observedAtTs => do
    let ts := event.header.ts
    let contained ← segment.contains ts
    raiseIf (contained = false) FundingContinuityPlan.outsideScheduleSegments
    let given ← scheduleRef.fingerprint sha256
    let expected ← segment.scheduleRef.fingerprint sha256
    raiseIf (given ≠ expected) { code := "funding_event_schedule_ref_mismatch" }
    scheduleRef.validateAt ts
    segment.resolved.schedule.validateRate rate
    raiseIf (ts < observedAtTs) { code := "funding_observation_in_future" }
    let age : ℤ := ts - observedAtTs
    raiseIf (segment.resolved.cadence < age) { code := "funding_event_stale" }
  | _ => .error { code := "funding_event_type_invalid" }

def validatorFinished : ContractError := { code := "funding_stream_validator_finished" }

def consume (v : StreamValidator) (event : ReplayEvent Decimal) :
    Except ContractError StreamValidator := do
  raiseIf v.finished validatorFinished
  let validated ← revalidateFundingEvent sha256 event
  let ts := validated.header.ts
  checkEventOrder v.previousTs ts
  match v.plan.expectedTimestamps[v.eventIndex]? with
  | none => .error { code := "funding_event_extra" }
  | some expectedTs => do
    raiseIf (ts ≠ expectedTs) { code := "funding_event_timestamp_mismatch" }
    let segmentIndex := advanceSegment v.plan.segments ts v.segmentIndex
    match v.plan.segments[segmentIndex]? with
    | none => .error FundingContinuityPlan.outsideScheduleSegments
    | some segment => do
      checkSettlement sha256 segment validated
      return { v with
        eventIndex := v.eventIndex + 1, segmentIndex := segmentIndex, previousTs := some ts }

def finish (v : StreamValidator) : Except ContractError StreamValidator := do
  raiseIf v.finished validatorFinished
  raiseIf (v.eventIndex < v.plan.expectedTimestamps.length) { code := "funding_event_missing" }
  return { v with finished := true }

/-! ### All at once -/

/-- The loop of `validate_funding_settlement_events` over the events on their own. -/
def checkSequence : Option Timestamp → List (ReplayEvent Decimal) → Except ContractError Unit
  | _, [] => .ok ()
  | previousTs, event :: rest => do
    let validated ← revalidateFundingEvent sha256 event
    checkEventOrder previousTs validated.header.ts
    checkSequence (some validated.header.ts) rest

variable {α : Type} (checkArtifacts : LoadedDerivativesSnapshotSet α → Except ContractError Unit)
  (decodeRaw : LoadedDerivativesSnapshotSet α → Except ContractError WireValue)

def newStreamValidator (snapshotSets : List (LoadedDerivativesSnapshotSet α))
    (startTs endTs : Timestamp) : Except ContractError StreamValidator := do
  let plan ← buildFundingContinuityPlan sha256 checkArtifacts decodeRaw snapshotSets startTs endTs
  return { plan := plan }

/-- A new validator that is given the events one by one, and is then finished. -/
def streamFundingSettlementEvents (snapshotSets : List (LoadedDerivativesSnapshotSet α))
    (events : List (ReplayEvent Decimal)) (startTs endTs : Timestamp) :
    Except ContractError FundingContinuityPlan := do
  let validator ← newStreamValidator sha256 checkArtifacts decodeRaw snapshotSets startTs endTs
  let validator ← events.foldlM (consume sha256) validator
  let validator ← finish validator
  return validator.plan

def validateFundingSettlementEvents (snapshotSets : List (LoadedDerivativesSnapshotSet α))
    (events : List (ReplayEvent Decimal)) (startTs endTs : Timestamp) :
    Except ContractError FundingContinuityPlan := do
  let validator ← newStreamValidator sha256 checkArtifacts decodeRaw snapshotSets startTs endTs
  raiseIf (maxExpectedFundingSettlements < events.length) { code := "funding_event_limit_exceeded" }
  checkSequence sha256 none events
  let expectedCount := validator.plan.expectedTimestamps.length
  raiseIf (events.length < expectedCount) { code := "funding_event_missing" }
  raiseIf (expectedCount < events.length) { code := "funding_event_extra" }
  let validator ← events.foldlM (consume sha256) validator
  let validator ← finish validator
  return validator.plan

end Sha

/-! ### The rules of a segment -/

def FundingRateSchedule.Allows (schedule : FundingRateSchedule) (rate : Decimal) : Prop :=
  schedule.minimumRateInclusive.atMost rate = true ∧
    rate.atMost schedule.maximumRateInclusive = true

/-- **An event keeps the rules of its segment**: it is well formed, refers to the schedule of the
segment in its window, has a rate that the schedule allows, and was observed within one cadence
before it. -/
def Settles (sha256 : WireValue → String) (plan : FundingContinuityPlan)
    (event : ReplayEvent Decimal) : Prop :=
  (∃ validated, revalidateFundingEvent sha256 event = .ok validated) ∧
    ∃ rate scheduleRef observedAtTs segment,
      event.body.payload = .fundingSettlement rate scheduleRef observedAtTs ∧
      plan.segmentAt event.header.ts = .ok segment ∧
      (∃ digest, scheduleRef.fingerprint sha256 = .ok digest ∧
        segment.scheduleRef.fingerprint sha256 = .ok digest) ∧
      scheduleRef.EffectiveAt event.header.ts ∧
      segment.resolved.schedule.Allows rate ∧
      observedAtTs ≤ event.header.ts ∧
      event.header.ts - observedAtTs ≤ segment.resolved.cadence

section Rules

variable {sha256 : WireValue → String} {event validated : ReplayEvent Decimal}
  {segment : FundingScheduleSegment} {ts : Timestamp}

theorem Decimal.atMost_congr {a a' b b' : Decimal} (ha : a.value = a'.value)
    (hb : b.value = b'.value) : a.atMost b = a'.atMost b' := by
  unfold Decimal.atMost
  rw [ha, hb]

theorem FundingRateSchedule.allows_congr {schedule : FundingRateSchedule} {rate rate' : Decimal}
    (h : rate.value = rate'.value) : schedule.Allows rate ↔ schedule.Allows rate' := by
  unfold Allows
  rw [Decimal.atMost_congr rfl h, Decimal.atMost_congr h rfl]

theorem FundingRateSchedule.validateRate_eq_ok {schedule : FundingRateSchedule} {rate : Decimal}
    {u : Unit} : schedule.validateRate rate = .ok u ↔
      (∃ number, Admits rate number) ∧ schedule.Allows rate := by
  simp only [validateRate, bind_eq_ok, raiseIf_eq_ok, requireFiniteDecimal_eq_ok, not_not]
  constructor
  · rintro ⟨number, hnumber, hbounds⟩
    exact ⟨⟨number, hnumber⟩, (allows_congr hnumber.value_eq).mpr hbounds⟩
  · rintro ⟨⟨number, hnumber⟩, hbounds⟩
    exact ⟨number, hnumber, (allows_congr hnumber.value_eq).mp hbounds⟩

theorem revalidateFundingEvent_eq_ok (h : revalidateFundingEvent sha256 event = .ok validated) :
    validated.header = event.header ∧ ∃ rate rate' scheduleRef observedAtTs,
      event.body.payload = .fundingSettlement rate scheduleRef observedAtTs ∧
      validated.body.payload = .fundingSettlement rate' scheduleRef observedAtTs ∧
      rate'.value = rate.value ∧ ∃ number, Admits rate' number := by
  simp only [revalidateFundingEvent, bind_eq_ok, raiseIf_eq_ok, pure_eq_ok, not_or, not_not,
    ne_eq] at h
  obtain ⟨_, hkind, dict, -, parsed, hparsed, _, ⟨hkind', hworth⟩, rfl⟩ := h
  have hheader : parsed.header = event.header :=
    congrArg (fun e : ReplayEvent (Option ℚ) => e.header) hworth
  have hpayload : parsed.body.payload.map Decimal.value = event.body.payload.map Decimal.value :=
    congrArg (fun e : ReplayEvent (Option ℚ) => e.body.payload) hworth
  have hcheck := (validEvent_iff.mp (parseDerivativeReplayEvent_eq_ok.mp hparsed).1).1
  refine ⟨hheader, ?_⟩
  cases hp : event.body.payload with
  | contractTierEffective | indexPrice | markPrice | tradable | barClose =>
    rw [hp] at hkind
    cases hkind
  | fundingSettlement rate scheduleRef observedAtTs =>
    cases hp' : parsed.body.payload with
    | contractTierEffective | indexPrice | markPrice | tradable | barClose =>
      rw [hp'] at hkind'
      cases hkind'
    | fundingSettlement rate' scheduleRef' observedAtTs' =>
      rw [hp, hp'] at hpayload
      injection hpayload with hrate href hobserved
      subst href hobserved
      refine ⟨rate, rate', scheduleRef', observedAtTs', rfl, rfl, hrate, ?_⟩
      simp only [hp', checkPayload, bind_eq_ok, requireFiniteDecimal_eq_ok] at hcheck
      obtain ⟨number, hnumber, -⟩ := hcheck
      exact ⟨number, hnumber⟩

theorem FundingScheduleSegment.contains_eq_true (h : 0 ≤ ts ∧ ts < datetimeEnd)
    (hcontains : Contains FundingScheduleSegment.startTs FundingScheduleSegment.endTs segment ts) :
    segment.contains ts = .ok true := by
  have hutc : requireUtcDatetime ts "funding_event_ts" = .ok ts :=
    requireUtcDatetime_eq_ok.mpr ⟨h, rfl⟩
  rw [contains, hutc, ok_bind, decide_eq_true hcontains.1, decide_eq_true hcontains.2]
  rfl

theorem checkSettlement_eq_ok {plan : FundingContinuityPlan} {u : Unit}
    (hvalidated : revalidateFundingEvent sha256 event = .ok validated)
    (hrange : 0 ≤ event.header.ts ∧ event.header.ts < datetimeEnd)
    (hat : plan.segmentAt event.header.ts = .ok segment)
    (hcontains : Contains FundingScheduleSegment.startTs FundingScheduleSegment.endTs segment
      event.header.ts) :
    checkSettlement sha256 segment validated = .ok u ↔ Settles sha256 plan event := by
  obtain ⟨hheader, rate, rate', scheduleRef, observedAtTs, hpayload, hpayload', hrate, hfinite⟩ :=
    revalidateFundingEvent_eq_ok hvalidated
  have hcontained := FundingScheduleSegment.contains_eq_true hrange hcontains
  simp only [checkSettlement, hpayload', hheader, hcontained, ok_bind, bind_eq_ok, raiseIf_eq_ok,
    ImmutableSnapshotRef.validateAt_eq_ok, FundingRateSchedule.validateRate_eq_ok, not_lt,
    not_not, ne_eq]
  constructor
  · rintro ⟨_, -, digest, hgiven, _, hexpected, _, rfl, _, ⟨-, heffective⟩, _, ⟨-, hallows⟩, _,
      hobserved, hage⟩
    exact ⟨⟨validated, hvalidated⟩, rate, scheduleRef, observedAtTs, segment, hpayload, hat,
      ⟨digest, hgiven, hexpected⟩, heffective,
      (FundingRateSchedule.allows_congr hrate).mp hallows, hobserved, hage⟩
  · rintro ⟨-, _, _, _, segment', hpayload₂, hat₂, ⟨digest, hgiven, hexpected⟩, heffective,
      hallows, hobserved, hage⟩
    rw [hpayload] at hpayload₂
    rw [hat] at hat₂
    cases hpayload₂
    cases hat₂
    exact ⟨(), Bool.true_eq_false_eq_False, digest, hgiven, digest, hexpected, (), rfl,
      (), ⟨hrange, heffective⟩, (), ⟨hfinite, (FundingRateSchedule.allows_congr hrate).mpr hallows⟩,
      (), hobserved, hage⟩

end Rules

/-! ### A plan that was built -/

/-- What the checks rest on: segments side by side, and instants of the window in their order. -/
structure Timeline (plan : FundingContinuityPlan) : Prop where
  tiles : SegmentsTile plan.startTs plan.segments plan.endTs
  start : 0 ≤ plan.startTs
  finish : plan.endTs < datetimeEnd
  within : ∀ ts ∈ plan.expectedTimestamps, plan.startTs ≤ ts ∧ ts < plan.endTs
  increasing : plan.expectedTimestamps.Pairwise (· < ·)
  limit : plan.expectedTimestamps.length ≤ maxExpectedFundingSettlements

section Streams

variable {α : Type} {sha256 : WireValue → String}
  {checkArtifacts : LoadedDerivativesSnapshotSet α → Except ContractError Unit}
  {decodeRaw : LoadedDerivativesSnapshotSet α → Except ContractError WireValue}
  {sets : List (LoadedDerivativesSnapshotSet α)} {startTs endTs ts : Timestamp}
  {plan : FundingContinuityPlan} {event : ReplayEvent Decimal}

theorem timeline_of_build
    (h : buildFundingContinuityPlan sha256 checkArtifacts decodeRaw sets startTs endTs =
      .ok plan) : Timeline plan := by
  obtain ⟨s, hs, rfl, rfl, hsegments, hexpected, hlimit, hstart, hfinish⟩ :=
    built_of_buildFundingContinuityPlan h
  have htiles := hs.segmentsTile
  rw [← hsegments] at htiles
  refine ⟨htiles, hstart, hfinish, fun ts hmem => ?_, ?_, hlimit⟩
  · rw [hexpected, mem_flatMap_segmentTimestamps hs.sound, ← hsegments] at hmem
    obtain ⟨segment, hsegment, hcontains, -⟩ := hmem
    obtain ⟨hle, -, hge⟩ := htiles.bounds segment hsegment
    exact ⟨hle.trans hcontains.1, hcontains.2.trans_le hge⟩
  · rw [hexpected]
    exact pairwise_flatMap_segmentTimestamps hs.sound hs.segmentsTile

theorem Timeline.exists_segment (h : Timeline plan) (hmem : ts ∈ plan.expectedTimestamps) :
    ∃ i, ∃ hi : i < plan.segments.length, plan.segmentAt ts = .ok plan.segments[i] ∧
      Contains FundingScheduleSegment.startTs FundingScheduleSegment.endTs plan.segments[i] ts := by
  obtain ⟨hfrom, hto⟩ := h.within ts hmem
  obtain ⟨segment, hsegment, hat, hcontains⟩ :=
    FundingContinuityPlan.segmentAt_spec h.tiles h.start h.finish hfrom hto
  obtain ⟨i, hi, rfl⟩ := List.getElem_of_mem hsegment
  exact ⟨i, hi, hat, hcontains⟩

theorem Timeline.advanceSegment_eq (h : Timeline plan) {i index : ℕ}
    (hi : i < plan.segments.length) (hcontains : Contains FundingScheduleSegment.startTs
      FundingScheduleSegment.endTs plan.segments[i] ts) (hindex : index ≤ i) :
    advanceSegment plan.segments ts index = i := by
  have hpairs := List.pairwise_iff_getElem.mp h.tiles.pairwise
  fun_induction advanceSegment plan.segments ts index with
  | case1 index hcond ih =>
    refine ih (Nat.lt_of_le_of_ne hindex ?_)
    rintro rfl
    rw [List.getElem?_eq_getElem hi, Option.any_some, decide_eq_true_iff] at hcond
    exact absurd hcontains.2 (not_lt.mpr hcond.2)
  | case2 index hcond =>
    by_contra hne
    have hlt : index < i := Nat.lt_of_le_of_ne hindex hne
    refine hcond ⟨by omega, ?_⟩
    rw [List.getElem?_eq_getElem (hlt.trans hi), Option.any_some, decide_eq_true_iff]
    exact (hpairs index i (hlt.trans hi) hi hlt).trans hcontains.1

/-- **What holds after the events `done`** were consumed. -/
structure Consumed (sha256 : WireValue → String) (plan : FundingContinuityPlan)
    (done : List (ReplayEvent Decimal)) (v : StreamValidator) : Prop where
  plan_eq : v.plan = plan
  not_finished : v.finished = false
  eventIndex_eq : v.eventIndex = done.length
  previousTs_eq : v.previousTs = (done.map (·.header.ts)).getLast?
  timestamps : done.map (·.header.ts) = plan.expectedTimestamps.take done.length
  settles : ∀ event ∈ done, Settles sha256 plan event
  segmentIndex_le : ∀ ts ∈ plan.expectedTimestamps.drop done.length,
    ∀ i (hi : i < plan.segments.length), Contains FundingScheduleSegment.startTs
      FundingScheduleSegment.endTs plan.segments[i] ts → v.segmentIndex ≤ i

theorem consumed_nil : Consumed sha256 plan [] { plan := plan } :=
  ⟨rfl, rfl, rfl, rfl, rfl, by simp, fun _ _ _ _ _ => Nat.zero_le _⟩

theorem checkEventOrder_eq_ok {previousTs : Option Timestamp} {u : Unit} :
    checkEventOrder previousTs ts = .ok u ↔ ∀ previous, previousTs = some previous →
      previous < ts := by
  simp only [checkEventOrder, bind_eq_ok, raiseIf_eq_ok]
  cases previousTs with
  | none => simp
  | some previous =>
    simp only [Option.any_some, decide_eq_true_iff, Option.some.injEq, forall_eq']
    constructor
    · rintro ⟨_, hne, hle⟩
      exact lt_of_le_of_ne (not_lt.mp hle) (Ne.symm hne)
    · exact fun hlt => ⟨(), hlt.ne', hlt.le.not_gt⟩

theorem Timeline.previous_lt {done : List (ReplayEvent Decimal)} (h : Timeline plan)
    (hdone : done.map (·.header.ts) = plan.expectedTimestamps.take done.length)
    (hts : plan.expectedTimestamps[done.length]? = some ts) :
    ∀ previous, (done.map (·.header.ts)).getLast? = some previous → previous < ts := by
  intro previous hprevious
  obtain ⟨hlt, rfl⟩ := List.getElem?_eq_some_iff.mp hts
  have hmem := List.mem_of_getLast? hprevious
  rw [hdone] at hmem
  obtain ⟨i, hi, rfl⟩ := List.getElem_of_mem hmem
  rw [List.length_take] at hi
  rw [List.getElem_take]
  exact List.pairwise_iff_getElem.mp h.increasing i done.length (by omega) hlt (by omega)

/-- **The check of one event asks for the next instant of the plan and for the rules of its
segment.** -/
theorem Consumed.consume_iff {done : List (ReplayEvent Decimal)} {v v' : StreamValidator}
    (hplan : Timeline plan) (hv : Consumed sha256 plan done v) :
    consume sha256 v event = .ok v' ↔
      (plan.expectedTimestamps[done.length]? = some event.header.ts ∧
        Settles sha256 plan event) ∧
      v' = { v with
        eventIndex := v.eventIndex + 1
        segmentIndex := advanceSegment plan.segments event.header.ts v.segmentIndex
        previousTs := some event.header.ts } := by
  obtain ⟨hplanEq, hfinished, hindex, hprevious, hdone, -, hbound⟩ := hv
  obtain ⟨plan', eventIndex, segmentIndex, previousTs, finished⟩ := v
  obtain rfl : plan = plan' := hplanEq.symm
  obtain rfl : finished = false := hfinished
  obtain rfl : eventIndex = done.length := hindex
  obtain rfl : previousTs = (done.map (·.header.ts)).getLast? := hprevious
  simp only [consume, bind_eq_ok, raiseIf_eq_ok, checkEventOrder_eq_ok]
  -- the segment of the instant, where the event is the next one
  have hsegment : plan.expectedTimestamps[done.length]? = some event.header.ts →
      ∃ segment, plan.segmentAt event.header.ts = .ok segment ∧
        Contains FundingScheduleSegment.startTs FundingScheduleSegment.endTs segment
          event.header.ts ∧
        plan.segments[advanceSegment plan.segments event.header.ts segmentIndex]? =
          some segment := by
    intro hts
    obtain ⟨hlt, hget⟩ := List.getElem?_eq_some_iff.mp hts
    have hmem : event.header.ts ∈ plan.expectedTimestamps := hget ▸ List.getElem_mem hlt
    obtain ⟨i, hi, hat, hcontains⟩ := hplan.exists_segment hmem
    have hdrop : event.header.ts ∈ plan.expectedTimestamps.drop done.length := by
      rw [List.drop_eq_getElem_cons hlt, hget]
      exact List.mem_cons_self
    rw [hplan.advanceSegment_eq hi hcontains (hbound _ hdrop i hi hcontains)]
    exact ⟨_, hat, hcontains, List.getElem?_eq_getElem hi⟩
  have hrange : plan.expectedTimestamps[done.length]? = some event.header.ts →
      0 ≤ event.header.ts ∧ event.header.ts < datetimeEnd := by
    intro hts
    obtain ⟨hfrom, hto⟩ := hplan.within _ (List.mem_of_getElem? hts)
    exact ⟨hplan.start.trans hfrom, hto.trans hplan.finish⟩
  constructor
  · rintro ⟨_, -, validated, hvalidated, _, -, h⟩
    have hheader := (revalidateFundingEvent_eq_ok hvalidated).1
    rw [hheader] at h
    split at h
    · cases h
    · next expectedTs hexpected =>
      simp only [bind_eq_ok, raiseIf_eq_ok, not_not, ne_eq] at h
      obtain ⟨_, rfl, h⟩ := h
      obtain ⟨segment, hat, hcontains, hget⟩ := hsegment hexpected
      rw [hget] at h
      obtain ⟨_, hcheck, h⟩ := bind_eq_ok.mp h
      cases pure_eq_ok.mp h
      exact ⟨⟨hexpected, (checkSettlement_eq_ok hvalidated (hrange hexpected) hat hcontains).mp
        hcheck⟩, rfl⟩
  · rintro ⟨⟨hexpected, hsettles⟩, rfl⟩
    obtain ⟨validated, hvalidated⟩ := hsettles.1
    obtain ⟨segment, hat, hcontains, hget⟩ := hsegment hexpected
    have hheader := (revalidateFundingEvent_eq_ok hvalidated).1
    refine ⟨(), Bool.false_ne_true, validated, hvalidated, (), ?_, ?_⟩
    · rw [hheader]
      exact hplan.previous_lt hdone hexpected
    · rw [hheader, hexpected]
      refine bind_eq_ok.mpr ⟨(), raiseIf_eq_ok.mpr (not_not_intro rfl), ?_⟩
      rw [hget]
      exact bind_eq_ok.mpr ⟨(), (checkSettlement_eq_ok hvalidated (hrange hexpected) hat
        hcontains).mpr hsettles, rfl⟩

theorem Consumed.add {done : List (ReplayEvent Decimal)} {v v' : StreamValidator}
    (hplan : Timeline plan) (hv : Consumed sha256 plan done v)
    (h : consume sha256 v event = .ok v') : Consumed sha256 plan (done ++ [event]) v' := by
  obtain ⟨⟨hts, hsettles⟩, rfl⟩ := (hv.consume_iff hplan).mp h
  have hlength : (done ++ [event]).length = done.length + 1 := List.length_append
  refine ⟨hv.plan_eq, hv.not_finished, ?_, ?_, ?_, ?_, ?_⟩
  · rw [hlength, ← hv.eventIndex_eq]
  · rw [List.map_append, List.map_singleton,
      List.getLast?_append_of_ne_nil _ (List.cons_ne_nil _ _)]
    rfl
  · rw [hlength, List.take_add_one, hts, List.map_append, hv.timestamps]
    rfl
  · intro other hmem
    rcases List.mem_append.mp hmem with hmem | hmem
    · exact hv.settles other hmem
    · rwa [List.mem_singleton.mp hmem]
  · intro ts hmem i hi hcontains
    obtain ⟨hlt, hget⟩ := List.getElem?_eq_some_iff.mp hts
    obtain ⟨j, hj, -, hcontained⟩ := hplan.exists_segment (List.mem_of_getElem? hts)
    have hdrop : event.header.ts ∈ plan.expectedTimestamps.drop done.length := by
      rw [List.drop_eq_getElem_cons hlt, hget]
      exact List.mem_cons_self
    rw [hplan.advanceSegment_eq hj hcontained (hv.segmentIndex_le _ hdrop j hj hcontained)]
    -- a later instant does not fall in an earlier segment
    by_contra hbefore
    rw [hlength] at hmem
    obtain ⟨k, hk, rfl⟩ := List.getElem_of_mem hmem
    rw [List.getElem_drop] at hcontains
    rw [List.length_drop] at hk
    have hlater := List.pairwise_iff_getElem.mp hplan.increasing done.length
      (done.length + 1 + k) hlt (by omega) (by omega)
    rw [hget] at hlater
    have hapart := List.pairwise_iff_getElem.mp hplan.tiles.pairwise i j hi hj (not_le.mp hbefore)
    exact absurd (hcontains.2.trans_le (hapart.trans hcontained.1)) hlater.asymm

theorem Consumed.of_foldlM {rest done : List (ReplayEvent Decimal)} {v v' : StreamValidator}
    (hplan : Timeline plan) (hv : Consumed sha256 plan done v)
    (h : rest.foldlM (consume sha256) v = .ok v') : Consumed sha256 plan (done ++ rest) v' := by
  induction rest generalizing done v with
  | nil =>
    cases h
    rwa [List.append_nil]
  | cons event rest ih =>
    rw [List.foldlM_cons] at h
    obtain ⟨v₁, hconsume, h⟩ := bind_eq_ok.mp h
    rw [List.append_cons]
    exact ih (hv.add hplan hconsume) h

theorem Consumed.exists_foldlM {rest done : List (ReplayEvent Decimal)} {v : StreamValidator}
    (hplan : Timeline plan) (hv : Consumed sha256 plan done v)
    (htimestamps : (done ++ rest).map (·.header.ts) <+: plan.expectedTimestamps)
    (hsettles : ∀ event ∈ rest, Settles sha256 plan event) :
    ∃ v', rest.foldlM (consume sha256) v = .ok v' := by
  induction rest generalizing done v with
  | nil => exact ⟨v, rfl⟩
  | cons event rest ih =>
    have hnext : plan.expectedTimestamps[done.length]? = some event.header.ts := by
      obtain ⟨later, hlater⟩ := htimestamps
      rw [← hlater, List.getElem?_append_left (by simp), List.getElem?_map,
        List.getElem?_append_right le_rfl, Nat.sub_self]
      rfl
    have hconsume := (hv.consume_iff hplan).mpr
      ⟨⟨hnext, hsettles event List.mem_cons_self⟩, rfl⟩
    obtain ⟨v', hfold⟩ := ih (hv.add hplan hconsume) (by rwa [← List.append_cons])
      fun other hmem => hsettles other (List.mem_cons_of_mem _ hmem)
    refine ⟨v', ?_⟩
    rw [List.foldlM_cons, hconsume, ok_bind, hfold]

theorem finish_eq_ok {v v' : StreamValidator} : finish v = .ok v' ↔
    v.finished = false ∧ v.plan.expectedTimestamps.length ≤ v.eventIndex ∧
      v' = { v with finished := true } := by
  simp only [finish, bind_eq_ok, raiseIf_eq_ok, pure_eq_ok, not_lt, Bool.not_eq_true]
  constructor
  · rintro ⟨_, hfinished, _, hle, rfl⟩
    exact ⟨hfinished, hle, rfl⟩
  · rintro ⟨hfinished, hle, rfl⟩
    exact ⟨(), hfinished, (), hle, rfl⟩

theorem streamFundingSettlementEvents_eq_ok {events : List (ReplayEvent Decimal)} :
    streamFundingSettlementEvents sha256 checkArtifacts decodeRaw sets events startTs endTs =
        .ok plan ↔
      buildFundingContinuityPlan sha256 checkArtifacts decodeRaw sets startTs endTs = .ok plan ∧
        events.map (·.header.ts) = plan.expectedTimestamps ∧
        ∀ event ∈ events, Settles sha256 plan event := by
  simp only [streamFundingSettlementEvents, newStreamValidator, bind_eq_ok, pure_eq_ok,
    finish_eq_ok]
  constructor
  · rintro ⟨_, ⟨built, hbuilt, rfl⟩, v, hfold, _, ⟨-, hlength, rfl⟩, hplan⟩
    have hv := consumed_nil.of_foldlM (timeline_of_build hbuilt) hfold
    rw [List.nil_append] at hv
    have hsame : built = plan := hv.plan_eq.symm.trans hplan
    subst hsame
    rw [hv.plan_eq, hv.eventIndex_eq] at hlength
    refine ⟨hbuilt, ?_, hv.settles⟩
    rw [hv.timestamps, List.take_of_length_le hlength]
  · rintro ⟨hbuilt, htimestamps, hsettles⟩
    have htimeline := timeline_of_build hbuilt
    have hnone : Consumed sha256 plan [] { plan := plan } := consumed_nil
    obtain ⟨v, hfold⟩ := hnone.exists_foldlM htimeline
      (by rw [List.nil_append, htimestamps]) hsettles
    have hv := hnone.of_foldlM htimeline hfold
    rw [List.nil_append] at hv
    refine ⟨_, ⟨plan, hbuilt, rfl⟩, v, hfold, _, ⟨hv.not_finished, ?_, rfl⟩, hv.plan_eq⟩
    rw [hv.plan_eq, hv.eventIndex_eq, ← htimestamps, List.length_map]

theorem checkSequence_eq_ok {events : List (ReplayEvent Decimal)} {previousTs : Option Timestamp}
    (hform : ∀ event ∈ events, ∃ validated, revalidateFundingEvent sha256 event = .ok validated)
    (hincreasing : (events.map (·.header.ts)).Pairwise (· < ·))
    (hprevious : ∀ previous, previousTs = some previous →
      ∀ event ∈ events, previous < event.header.ts) :
    checkSequence sha256 previousTs events = .ok () := by
  induction events generalizing previousTs with
  | nil => rfl
  | cons event rest ih =>
    obtain ⟨validated, hvalidated⟩ := hform event List.mem_cons_self
    have hheader := (revalidateFundingEvent_eq_ok hvalidated).1
    rw [List.map_cons, List.pairwise_cons] at hincreasing
    refine bind_eq_ok.mpr ⟨validated, hvalidated, bind_eq_ok.mpr ⟨(), ?_, ?_⟩⟩
    · rw [hheader]
      exact checkEventOrder_eq_ok.mpr fun previous hsome =>
        hprevious previous hsome event List.mem_cons_self
    · rw [hheader]
      refine ih (fun other hmem => hform other (List.mem_cons_of_mem _ hmem)) hincreasing.2 ?_
      rintro _ ⟨⟩ other hmem
      exact hincreasing.1 _ (List.mem_map_of_mem hmem)

end Streams

/-- **Both accept the same events**: those at the instants of the plan, each of which keeps the
rules of its segment. -/
theorem validateFundingSettlementEvents_iff {α : Type} (sha256 : WireValue → String)
    (checkArtifacts : LoadedDerivativesSnapshotSet α → Except ContractError Unit)
    (decodeRaw : LoadedDerivativesSnapshotSet α → Except ContractError WireValue)
    (sets : List (LoadedDerivativesSnapshotSet α)) (events : List (ReplayEvent Decimal))
    (startTs endTs : Timestamp) (plan : FundingContinuityPlan) :
    (validateFundingSettlementEvents sha256 checkArtifacts decodeRaw sets events startTs endTs =
        .ok plan ↔
      streamFundingSettlementEvents sha256 checkArtifacts decodeRaw sets events startTs endTs =
        .ok plan) ∧
    (streamFundingSettlementEvents sha256 checkArtifacts decodeRaw sets events startTs endTs =
        .ok plan ↔
      buildFundingContinuityPlan sha256 checkArtifacts decodeRaw sets startTs endTs = .ok plan ∧
        events.map (·.header.ts) = plan.expectedTimestamps ∧
        ∀ event ∈ events, Settles sha256 plan event) := by
  refine ⟨⟨fun h => ?_, fun h => ?_⟩, streamFundingSettlementEvents_eq_ok⟩
  · simp only [validateFundingSettlementEvents, bind_eq_ok, pure_eq_ok] at h
    obtain ⟨validator, hnew, _, -, _, -, _, -, _, -, v, hfold, done, hfinish, hplan⟩ := h
    exact bind_eq_ok.mpr ⟨validator, hnew, bind_eq_ok.mpr ⟨v, hfold,
      bind_eq_ok.mpr ⟨done, hfinish, pure_eq_ok.mpr hplan⟩⟩⟩
  · obtain ⟨hbuilt, htimestamps, hsettles⟩ := streamFundingSettlementEvents_eq_ok.mp h
    have htimeline := timeline_of_build hbuilt
    have hlength : events.length = plan.expectedTimestamps.length := by
      rw [← htimestamps, List.length_map]
    have hsequence : checkSequence sha256 none events = .ok () := by
      refine checkSequence_eq_ok (fun event hmem => (hsettles event hmem).1) ?_ (by rintro _ ⟨⟩)
      rw [htimestamps]
      exact htimeline.increasing
    obtain ⟨validator, hnew, h⟩ := bind_eq_ok.mp h
    obtain ⟨v, hfold, hend⟩ := bind_eq_ok.mp h
    obtain ⟨built, hbuilt', hvalidator⟩ := bind_eq_ok.mp hnew
    rw [hbuilt] at hbuilt'
    cases hbuilt'
    cases pure_eq_ok.mp hvalidator
    simp only [validateFundingSettlementEvents, hnew, ok_bind, hsequence, hlength, lt_irrefl,
      raiseIf_of_not _ (not_lt.mpr htimeline.limit), raiseIf_of_not _ not_false, hfold]
    exact hend

end Aats.Replay
