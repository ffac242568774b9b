import Aats.Lib.Windows
import Aats.Replay.Events
import Mathlib.Data.List.Chain

/-!
# The instants at which funding is due

`data_platform/replay/derivatives_backtest/funding.py`, `build_funding_continuity_plan`: the
snapshot sets of a replay, each for a window of its own, give the segments of the funding schedule,
where neighbours with one fingerprint are one segment, and the segments give the instants at which
a settlement is expected.

What the loader checks of the artifacts of a set, and how the bytes of an artifact are read as a
dictionary, are the parameters `checkArtifacts` and `decodeRaw`; the digest is `sha256`.

## Main results
* `buildFundingContinuityPlan_spec` — **the instants of a plan, its segments, and the plans of
  windows that are cut into parts**.
-/

namespace Aats.Replay

open Fallible WireValue Windows
open Execution (Timestamp)

/-! ### Schedules and segments -/

/-- `<=` of two finite decimals. -/
def Decimal.atMost (a b : Decimal) : Bool :=
  match a.value, b.value with
  | some a, some b => a ≤ b
  | _, _ => false

/-- `FundingRateScheduleV1`. -/
structure FundingRateSchedule where
  minimumRateInclusive : Decimal
  maximumRateInclusive : Decimal
  deriving DecidableEq, Repr

namespace FundingRateSchedule

def postInit (schedule : FundingRateSchedule) : Except ContractError FundingRateSchedule := do
  let minimum ← requireFiniteDecimal schedule.minimumRateInclusive "minimum_funding_rate"
  let maximum ← requireFiniteDecimal schedule.maximumRateInclusive "maximum_funding_rate"
  raiseIf (¬(-1 < minimum.value ∧ minimum.value ≤ maximum.value ∧ maximum.value < 1))
    { code := "funding_rate_schedule_bounds_invalid" }
  return schedule

def validateRate (schedule : FundingRateSchedule) (value : Decimal) :
    Except ContractError Unit := do
  let rate ← requireFiniteDecimal value "funding_rate"
  raiseIf (¬(schedule.minimumRateInclusive.atMost (.finite rate) ∧
    (Decimal.finite rate).atMost schedule.maximumRateInclusive))
    { code := "funding_rate_out_of_schedule" }

/-- What `==` compares. -/
def worth (schedule : FundingRateSchedule) : Option ℚ × Option ℚ :=
  (schedule.minimumRateInclusive.value, schedule.maximumRateInclusive.value)

end FundingRateSchedule

/-- `timedelta(minutes=1)`, in microseconds. -/
def oneMinute : ℤ := 60 * 1000000

/-- `timedelta(days=7)`. -/
def sevenDays : ℤ := 7 * 86400 * 1000000

/-- The cadences that are allowed: whole seconds, from a minute to a week. -/
def IsCadence (cadence : ℤ) : Prop :=
  oneMinute ≤ cadence ∧ cadence ≤ sevenDays ∧ cadence % 1000000 = 0

instance decidableIsCadence (cadence : ℤ) : Decidable (IsCadence cadence) :=
  inferInstanceAs (Decidable (_ ∧ _))

/-- `ResolvedFundingScheduleV1`: a schedule, its cadence and the anchor of its instants. -/
structure ResolvedFundingSchedule where
  schedule : FundingRateSchedule
  cadence : ℤ
  settlementAnchorTs : Timestamp
  deriving DecidableEq, Repr

/-- What `==` compares. -/
def ResolvedFundingSchedule.worth (resolved : ResolvedFundingSchedule) :
    (Option ℚ × Option ℚ) × ℤ × Timestamp :=
  (resolved.schedule.worth, resolved.cadence, resolved.settlementAnchorTs)

/-- `FundingScheduleSegmentV1`. -/
structure FundingScheduleSegment where
  startTs : Timestamp
  endTs : Timestamp
  scheduleRef : ImmutableSnapshotRef
  resolved : ResolvedFundingSchedule
  deriving DecidableEq, Repr

namespace FundingScheduleSegment

def postInit (segment : FundingScheduleSegment) :
    Except ContractError FundingScheduleSegment := do
  let start ← requireUtcDatetime segment.startTs "funding_segment_start_ts"
  let finish ← requireUtcDatetime segment.endTs "funding_segment_end_ts"
  raiseIf (finish ≤ start) { code := "funding_schedule_segment_window_invalid" }
  raiseIf (segment.scheduleRef.kind ≠ .fundingSchedule)
    { code := "funding_schedule_segment_ref_invalid" }
  let dict ← segment.scheduleRef.toDict
  let validatedRef ← ImmutableSnapshotRef.fromDict dict
  let validatedSchedule ← segment.resolved.schedule.postInit
  raiseIf (¬IsCadence segment.resolved.cadence)
    { code := "funding_schedule_segment_cadence_invalid" }
  let _ ← requireUtcDatetime segment.resolved.settlementAnchorTs
    "funding_segment_settlement_anchor_ts"
  raiseIf (start < validatedRef.effectiveFrom ∨
    validatedRef.effectiveTo.any fun effectiveTo => effectiveTo < finish)
    { code := "funding_schedule_segment_outside_ref_window" }
  return { segment with
    scheduleRef := validatedRef
    resolved := { segment.resolved with schedule := validatedSchedule } }

def contains (segment : FundingScheduleSegment) (ts : Timestamp) : Except ContractError Bool := do
  let resolved ← requireUtcDatetime ts "funding_event_ts"
  return segment.startTs ≤ resolved && resolved < segment.endTs

end FundingScheduleSegment

/-! ### The instants of a segment -/

/-- `MAX_FUNDING_SCHEDULE_SEGMENTS_V1`. -/
def maxFundingScheduleSegments : ℕ := 100000

/-- `MAX_EXPECTED_FUNDING_SETTLEMENTS_V1`. -/
def maxExpectedFundingSettlements : ℕ := 1000000

/-- `ts + delta`, where a result that no `datetime` can hold is an `OverflowError`. -/
def addTimedelta (ts : Timestamp) (delta : ℤ) : Except ContractError Timestamp := do
  raiseIf (ts + delta < 0 ∨ datetimeEnd ≤ ts + delta)
    { code := "funding_schedule_timestamp_overflow" }
  return ts + delta

/-- What the plan raises where there are too many instants. -/
def expectedEventLimitExceeded : ContractError := { code := "funding_expected_event_limit_exceeded" }

def segmentTimestampSpan (segment : FundingScheduleSegment) :
    Except ContractError (Option Timestamp × ℕ) := do
  let cadence := segment.resolved.cadence
  let offset : ℤ := segment.startTs - segment.resolved.settlementAnchorTs
  let firstMultiplier := -(-offset / cadence)
  let first ← addTimedelta segment.resolved.settlementAnchorTs (firstMultiplier * cadence)
  raiseIf (first < segment.startTs) { code := "funding_schedule_timestamp_generation_invalid" }
  if segment.endTs ≤ first then return (none, 0)
  else do
    let remaining : ℤ := segment.endTs - first
    let count := ((remaining - 1) / cadence + 1).toNat
    raiseIf (maxExpectedFundingSettlements < count) expectedEventLimitExceeded
    return (some first, count)

/-- `first + ordinal * segment.cadence` for each ordinal. -/
def spanTimestamps (cadence : ℤ) : Option Timestamp × ℕ → List Timestamp
  | (none, _) => []
  | (some first, count) => (List.range count).map fun ordinal : ℕ => first + ordinal * cadence

/-! ### The plan -/

/-- `FundingContinuityPlanV1`. -/
structure FundingContinuityPlan where
  startTs : Timestamp
  endTs : Timestamp
  segments : List FundingScheduleSegment
  expectedTimestamps : List Timestamp
  deriving DecidableEq, Repr

/-- What the plan raises where it is given other instants. -/
def expectedTimestampsMismatch : ContractError := { code := "funding_expected_timestamps_mismatch" }

/-- The check of the instants of one segment, and what comes after them. -/
def matchTimestamps : List Timestamp → List Timestamp → Except ContractError (List Timestamp)
  | [], supplied => .ok supplied
  | _ :: _, [] => .error expectedTimestampsMismatch
  | ts :: more, supplied :: rest => do
    let supplied ← requireUtcDatetime supplied "funding_expected_ts"
    raiseIf (supplied ≠ ts) expectedTimestampsMismatch
    matchTimestamps more rest

def checkExpectedTimestamps : List FundingScheduleSegment → List Timestamp →
    Except ContractError Unit
  | [], supplied => raiseIf (supplied ≠ []) expectedTimestampsMismatch
  | segment :: more, supplied => do
    let span ← segmentTimestampSpan segment
    let rest ← matchTimestamps (spanTimestamps segment.resolved.cadence span) supplied
    checkExpectedTimestamps more rest

def checkContiguous : List FundingScheduleSegment → Except ContractError Unit
  | previous :: current :: rest => do
    raiseIf (current.startTs < previous.endTs) { code := "funding_schedule_segment_overlap" }
    raiseIf (previous.endTs < current.startTs) { code := "funding_schedule_segment_gap" }
    checkContiguous (current :: rest)
  | _ => .ok ()

namespace FundingContinuityPlan

def postInit (plan : FundingContinuityPlan) : Except ContractError FundingContinuityPlan := do
  let start ← requireUtcDatetime plan.startTs "start_ts"
  let finish ← requireUtcDatetime plan.endTs "end_ts"
  raiseIf (finish ≤ start) { code := "replay_window_invalid" }
  raiseIf (plan.segments = []) { code := "funding_schedule_segments_missing" }
  raiseIf (maxFundingScheduleSegments < plan.segments.length)
    { code := "funding_schedule_segment_limit_exceeded" }
  raiseIf (maxExpectedFundingSettlements < plan.expectedTimestamps.length)
    expectedEventLimitExceeded
  let segments ← plan.segments.mapM FundingScheduleSegment.postInit
  raiseIf (segments.head?.any (fun segment => segment.startTs ≠ start) ∨
    segments.getLast?.any fun segment => segment.endTs ≠ finish)
    { code := "funding_schedule_window_uncovered" }
  checkContiguous segments
  checkExpectedTimestamps segments plan.expectedTimestamps
  return { plan with segments := segments }

/-- What the plan raises for an instant without a segment. -/
def outsideScheduleSegments : ContractError := { code := "funding_event_outside_schedule_segments" }

def segmentAt (plan : FundingContinuityPlan) (ts : Timestamp) :
    Except ContractError FundingScheduleSegment := do
  let resolved ← requireUtcDatetime ts "funding_event_ts"
  let startsBefore (middle : ℕ) : Bool :=
    plan.segments[middle]?.any fun segment => segment.startTs ≤ resolved
  match bisect startsBefore 0 plan.segments.length with
  | 0 => .error outsideScheduleSegments
  | index + 1 =>
    match plan.segments[index]? with
    | none => .error outsideScheduleSegments
    | some candidate => do
      let contained ← candidate.contains resolved
      raiseIf (contained = false) outsideScheduleSegments
      return candidate

end FundingContinuityPlan

/-! ### Snapshot sets -/

/-- `LoadedDerivativesSnapshotSetV1`, with what it has besides the references and the schedule of
the funding in one field. -/
structure LoadedDerivativesSnapshotSet (α : Type) where
  refs : DerivativesSnapshotRefs
  replayStartTs : Timestamp
  replayEndTs : Timestamp
  fundingSchedule : ResolvedFundingSchedule
  snapshotSetFingerprint : String
  authorityStatus : String
  capitalPromotionEligible : Bool
  artifacts : α

/-- `validate_window` of a reference. -/
def ImmutableSnapshotRef.validateWindow (ref : ImmutableSnapshotRef) (start finish : Timestamp) :
    Except ContractError Unit := do
  let windowStart ← requireUtcDatetime start "start_ts"
  let windowEnd ← requireUtcDatetime finish "end_ts"
  raiseIf (windowEnd ≤ windowStart) { code := "replay_window_invalid" }
  raiseIf (windowStart < ref.effectiveFrom ∨
    ref.effectiveTo.any fun effectiveTo => effectiveTo < windowEnd)
    { code := "snapshot_effective_window_unproven", field := some ref.kind.value }

def DerivativesSnapshotRefs.validateWindow (s : DerivativesSnapshotRefs)
    (start finish : Timestamp) : Except ContractError Unit :=
  eachOf (fun ref => ref.validateWindow start finish) s.refs

theorem ImmutableSnapshotRef.validateWindow_eq_ok {ref : ImmutableSnapshotRef}
    {start finish : Timestamp} :
    ref.validateWindow start finish = .ok () ↔ (0 ≤ start ∧ finish < datetimeEnd) ∧
      start < finish ∧ ref.effectiveFrom ≤ start ∧
        ∀ effectiveTo, ref.effectiveTo = some effectiveTo → finish ≤ effectiveTo := by
  simp only [validateWindow, bind_eq_ok, requireUtcDatetime_eq_ok, raiseIf_eq_ok, not_le, not_or,
    not_lt, Bool.not_eq_true, Option.any_eq_false, decide_eq_false_iff_not]
  constructor
  · rintro ⟨_, ⟨hstart, rfl⟩, _, ⟨hfinish, rfl⟩, _, hlt, hfrom, hto⟩
    exact ⟨⟨hstart.1, hfinish.2⟩, hlt, hfrom, hto⟩
  · rintro ⟨⟨hstart, hfinish⟩, hlt, hfrom, hto⟩
    exact ⟨_, ⟨⟨hstart, hlt.trans hfinish⟩, rfl⟩, _, ⟨⟨hstart.trans hlt.le, hfinish⟩, rfl⟩, (), hlt,
      hfrom, hto⟩

/-- **A window is checked at its ends**: a set passes `validate_window` exactly if it passes
`validate_at` at every time of the window. -/
theorem validateWindow_iff_validateAt (s : DerivativesSnapshotRefs) (start finish : Timestamp) :
    s.validateWindow start finish = .ok () ↔
      start < finish ∧ finish < datetimeEnd ∧
        ∀ ts, start ≤ ts → ts < finish → s.validateAt ts = .ok () := by
  simp only [DerivativesSnapshotRefs.validateAt, DerivativesSnapshotRefs.validateWindow,
    eachOf_eq_ok, ImmutableSnapshotRef.validateWindow_eq_ok, ImmutableSnapshotRef.validateAt_eq_ok]
  constructor
  · intro h
    obtain ⟨⟨hstart, hfinish⟩, hlt, -⟩ := h s.instrument List.mem_cons_self
    refine ⟨hlt, hfinish, fun ts hfrom hto ref hmem => ⟨⟨hstart.trans hfrom, hto.trans hfinish⟩, ?_⟩⟩
    obtain ⟨-, -, heffective, hends⟩ := h ref hmem
    exact ⟨heffective.trans hfrom, fun effectiveTo heq => hto.trans_le (hends effectiveTo heq)⟩
  · rintro ⟨hlt, hfinish, h⟩ ref hmem
    obtain ⟨⟨hstart, -⟩, heffective, -⟩ := h start le_rfl hlt ref hmem
    refine ⟨⟨hstart, hfinish⟩, hlt, heffective, fun effectiveTo heq => ?_⟩
    -- the last microsecond of the window
    obtain ⟨-, -, hends⟩ := h (finish - 1) (Int.le_sub_one_of_lt hlt) (sub_one_lt finish) ref hmem
    exact Int.le_of_sub_one_lt (hends effectiveTo heq)

def derivativesSnapshotAuthoritySynthetic : String := "synthetic_test_only"

def derivativesSnapshotEnvelopeSchema : String := "derivatives-snapshot-envelope/v1"

/-- `FUNDING_SCHEDULE_PAYLOAD_SCHEMA_V1`. -/
def fundingSchedulePayloadSchema : String := "derivatives-funding-schedule-snapshot-payload/v1"

def envelopeKeys : List String :=
  ["schema", "kind", "payload_schema", "venue", "symbol", "instrument_type", "contract_type",
    "settle_currency", "margin_mode", "position_mode", "snapshot_id", "source_registry_id",
    "source_seal_fingerprint", "source_schema", "effective_window", "authority_status", "payload"]

def fundingPayloadKeys : List String :=
  ["minimum_rate_inclusive", "maximum_rate_inclusive", "schedule_id", "cadence_seconds",
    "settlement_anchor_ts"]

/-- The entries of an envelope that are the same in all of them. -/
def envelopeScope : List (String × String) :=
  [("venue", "OKX"), ("symbol", derivativesBacktestSymbol), ("instrument_type", "SWAP"),
    ("contract_type", "linear"), ("settle_currency", "USDT"), ("margin_mode", "isolated"),
    ("position_mode", "single_position")]

/-- The part of `_decode_funding_artifact` that compares the envelope with the reference. -/
def checkEnvelopeRef (envelope : WireValue) (ref : ImmutableSnapshotRef) :
    Except ContractError Unit := do
  let window ← requireExactMappingKeys (envelope.get "effective_window") ["start", "end"]
    "funding_snapshot_effective_window_invalid"
  let effectiveFrom ← requireCanonicalUtcTimestamp (window.get "start") "funding_effective_from"
  let effectiveTo ← requireOptionalTimestamp (window.get "end") "funding_effective_to"
  let snapshotId ← requireCanonicalUuid (envelope.get "snapshot_id") "funding_snapshot_id"
  let mismatch : ContractError := { code := "funding_snapshot_ref_mismatch" }
  raiseIf (snapshotId ≠ ref.snapshotId) mismatch
  let sourceRegistryId ← requireCanonicalUuid (envelope.get "source_registry_id")
    "funding_source_registry_id"
  raiseIf (sourceRegistryId ≠ ref.sourceRegistryId) mismatch
  let sourceSealFingerprint ← requireSha256 (envelope.get "source_seal_fingerprint")
    "funding_source_seal_fingerprint"
  raiseIf (sourceSealFingerprint ≠ ref.sourceSealFingerprint ∨
    ¬isStr (envelope.get "source_schema") ref.sourceSchema ∨
    effectiveFrom ≠ ref.effectiveFrom ∨ effectiveTo ≠ ref.effectiveTo) mismatch

/-- The part of `_decode_funding_artifact` that reads the schedule of the envelope. -/
def readFundingPayload (envelope : WireValue) (ref : ImmutableSnapshotRef) :
    Except ContractError ResolvedFundingSchedule := do
  let payload ← requireExactMappingKeys (envelope.get "payload") fundingPayloadKeys
    "funding_snapshot_payload_shape_invalid"
  let scheduleId ← requireCanonicalUuid (payload.get "schedule_id") "funding_schedule_id"
  raiseIf (scheduleId ≠ ref.snapshotId) { code := "funding_schedule_id_mismatch" }
  let minimum ← parseCanonicalAccountingDecimal (payload.get "minimum_rate_inclusive")
    "minimum_funding_rate"
  let maximum ← parseCanonicalAccountingDecimal (payload.get "maximum_rate_inclusive")
    "maximum_funding_rate"
  let schedule ← FundingRateSchedule.postInit
    { minimumRateInclusive := minimum, maximumRateInclusive := maximum }
  let cadenceSeconds ← requireExactInt (payload.get "cadence_seconds") "funding_cadence_seconds"
    60 (7 * 24 * 60 * 60)
  let anchor ← requireCanonicalUtcTimestamp (payload.get "settlement_anchor_ts")
    "funding_settlement_anchor_ts"
  return { schedule := schedule, cadence := cadenceSeconds * 1000000, settlementAnchorTs := anchor }

section Sets

variable {α : Type} (sha256 : WireValue → String)
  -- The artifacts of a set and the contracts derived from them.
  (checkArtifacts : LoadedDerivativesSnapshotSet α → Except ContractError Unit)
  -- The dictionary in the artifact of the funding schedule, whose bytes have the digests of `refs`.
  (decodeRaw : LoadedDerivativesSnapshotSet α → Except ContractError WireValue)

/-- `_revalidate_loaded_snapshot_set`: the constructor of a set. -/
def revalidateLoadedSnapshotSet (snapshotSet : LoadedDerivativesSnapshotSet α) :
    Except ContractError (LoadedDerivativesSnapshotSet α) := do
  let dict ← snapshotSet.refs.toDict
  let validatedRefs ← DerivativesSnapshotRefs.fromDict dict
  raiseIf (validatedRefs ≠ snapshotSet.refs) { code := "snapshot_set_revalidation_mismatch" }
  let start ← requireUtcDatetime snapshotSet.replayStartTs "start_ts"
  let finish ← requireUtcDatetime snapshotSet.replayEndTs "end_ts"
  eachOf (fun ref => ref.validateWindow start finish) validatedRefs.refs
  let fingerprint ← validatedRefs.fingerprint sha256
  raiseIf (snapshotSet.snapshotSetFingerprint ≠ fingerprint)
    { code := "snapshot_set_fingerprint_mismatch" }
  checkArtifacts snapshotSet
  raiseIf (snapshotSet.authorityStatus ≠ derivativesSnapshotAuthoritySynthetic)
    { code := "snapshot_authority_invalid" }
  raiseIf snapshotSet.capitalPromotionEligible
    { code := "synthetic_snapshot_cannot_be_promotable" }
  return snapshotSet

/-- `_decode_funding_artifact`. The reference that it gives as well is the one of the set. -/
def decodeFundingArtifact (snapshotSet : LoadedDerivativesSnapshotSet α) :
    Except ContractError ResolvedFundingSchedule := do
  raiseIf (snapshotSet.authorityStatus ≠ derivativesSnapshotAuthoritySynthetic ∨
    snapshotSet.capitalPromotionEligible = true) { code := "funding_snapshot_authority_invalid" }
  let fingerprint ← snapshotSet.refs.fingerprint sha256
  raiseIf (snapshotSet.snapshotSetFingerprint ≠ fingerprint)
    { code := "funding_snapshot_set_fingerprint_mismatch" }
  let ref := snapshotSet.refs.fundingSchedule
  raiseIf (ref.kind ≠ .fundingSchedule) { code := "funding_snapshot_artifact_ref_mismatch" }
  let decoded ← decodeRaw snapshotSet
  let envelope ← requireExactMappingKeys decoded envelopeKeys
    "funding_snapshot_envelope_shape_invalid"
  raiseIf (¬isStr (envelope.get "schema") derivativesSnapshotEnvelopeSchema ∨
    ¬isStr (envelope.get "kind") SnapshotKind.fundingSchedule.value ∨
    ¬isStr (envelope.get "payload_schema") fundingSchedulePayloadSchema)
    { code := "funding_snapshot_envelope_schema_mismatch" }
  raiseIf (¬envelopeScope.all fun entry => isStr (envelope.get entry.1) entry.2)
    { code := "funding_snapshot_scope_mismatch" }
  raiseIf (¬isStr (envelope.get "authority_status") snapshotSet.authorityStatus)
    { code := "funding_snapshot_authority_mismatch" }
  checkEnvelopeRef envelope ref
  let resolved ← readFundingPayload envelope ref
  raiseIf (snapshotSet.fundingSchedule.worth ≠ resolved.worth)
    { code := "funding_schedule_derived_mismatch" }
  return resolved

/-! ### Building -/

/-- The locals of `build_funding_continuity_plan` at the head of its loop. -/
structure PlanState (α : Type) where
  segments : List FundingScheduleSegment := []
  previousSet : Option (LoadedDerivativesSnapshotSet α) := none

def checkPrevious (start : Timestamp) (previousSet : Option (LoadedDerivativesSnapshotSet α))
    (snapshotSet : LoadedDerivativesSnapshotSet α) : Except ContractError Unit :=
  match previousSet with
  | none =>
    raiseIf (snapshotSet.replayStartTs ≠ start) { code := "funding_schedule_window_uncovered" }
  | some previous => do
    raiseIf (snapshotSet.replayStartTs < previous.replayEndTs)
      { code := "funding_schedule_segment_overlap" }
    raiseIf (previous.replayEndTs < snapshotSet.replayStartTs)
      { code := "funding_schedule_segment_gap" }
    let _ ← validateSnapshotTransition sha256 previous.refs snapshotSet.refs
      snapshotSet.replayStartTs
    return ()

def extendSegments (segments : List FundingScheduleSegment)
    (snapshotSet : LoadedDerivativesSnapshotSet α) (resolved : ResolvedFundingSchedule) :
    Except ContractError (List FundingScheduleSegment) := do
  let ref := snapshotSet.refs.fundingSchedule
  let append : Except ContractError (List FundingScheduleSegment) := do
    let segment ← FundingScheduleSegment.postInit
      { startTs := snapshotSet.replayStartTs, endTs := snapshotSet.replayEndTs
        scheduleRef := ref, resolved := resolved }
    return segments ++ [segment]
  match segments.getLast? with
  | none => append
  | some previousSegment => do
    let before ← previousSegment.scheduleRef.fingerprint sha256
    let after ← ref.fingerprint sha256
    if before = after then do
      raiseIf (previousSegment.resolved.worth ≠ resolved.worth)
        { code := "funding_schedule_semantic_identity_conflict" }
      let segment ← FundingScheduleSegment.postInit
        { startTs := previousSegment.startTs, endTs := snapshotSet.replayEndTs
          scheduleRef := previousSegment.scheduleRef, resolved := resolved }
      return segments.dropLast ++ [segment]
    else append

/-- One round of the loop of `build_funding_continuity_plan`. -/
def addSnapshotSet (start finish : Timestamp) (s : PlanState α)
    (rawSnapshotSet : LoadedDerivativesSnapshotSet α) : Except ContractError (PlanState α) := do
  let snapshotSet ← revalidateLoadedSnapshotSet sha256 checkArtifacts rawSnapshotSet
  raiseIf (snapshotSet.replayStartTs < start ∨ finish < snapshotSet.replayEndTs ∨
    snapshotSet.replayEndTs ≤ snapshotSet.replayStartTs)
    { code := "funding_schedule_segment_outside_window" }
  checkPrevious sha256 start s.previousSet snapshotSet
  let resolved ← decodeFundingArtifact sha256 decodeRaw snapshotSet
  let segments ← extendSegments sha256 s.segments snapshotSet resolved
  return { segments := segments, previousSet := some snapshotSet }

/-- The instants of the segments, after those of earlier ones. -/
def collectTimestamps : List FundingScheduleSegment → List Timestamp →
    Except ContractError (List Timestamp)
  | [], expected => .ok expected
  | segment :: rest, expected => do
    let span ← segmentTimestampSpan segment
    raiseIf (maxExpectedFundingSettlements < expected.length + span.2) expectedEventLimitExceeded
    collectTimestamps rest (expected ++ spanTimestamps segment.resolved.cadence span)

def buildFundingContinuityPlan (snapshotSets : List (LoadedDerivativesSnapshotSet α))
    (startTs endTs : Timestamp) : Except ContractError FundingContinuityPlan := do
  let start ← requireUtcDatetime startTs "start_ts"
  let finish ← requireUtcDatetime endTs "end_ts"
  raiseIf (finish ≤ start) { code := "replay_window_invalid" }
  raiseIf snapshotSets.isEmpty { code := "funding_snapshot_sets_missing" }
  raiseIf (maxFundingScheduleSegments < snapshotSets.length)
    { code := "funding_schedule_segment_limit_exceeded" }
  let s ← snapshotSets.foldlM (addSnapshotSet sha256 checkArtifacts decodeRaw start finish) {}
  raiseIf (s.previousSet.map (·.replayEndTs) ≠ some finish)
    { code := "funding_schedule_window_uncovered" }
  let expected ← collectTimestamps s.segments []
  FundingContinuityPlan.postInit
    { startTs := start, endTs := finish, segments := s.segments, expectedTimestamps := expected }

end Sets

/-! ### What the steps do -/

section Steps

variable {segment segment' : FundingScheduleSegment}

def segmentTimestamps (segment : FundingScheduleSegment) : List Timestamp :=
  residues segment.resolved.settlementAnchorTs segment.resolved.cadence segment.startTs
    segment.endTs

theorem IsCadence.pos {cadence : ℤ} (h : IsCadence cadence) : 0 < cadence :=
  lt_of_lt_of_le (by decide) h.1

structure Sound (segment : FundingScheduleSegment) : Prop where
  ref : segment.scheduleRef.Valid
  self : segment.postInit = .ok segment
  cadence : IsCadence segment.resolved.cadence

theorem sound_of_postInit (href : segment.scheduleRef.Valid)
    (h : segment.postInit = .ok segment') : segment' = segment ∧ Sound segment := by
  have hself := h
  simp only [FundingScheduleSegment.postInit, FundingRateSchedule.postInit, bind_eq_ok,
    raiseIf_eq_ok, pure_eq_ok, not_not] at h
  obtain ⟨_, -, _, -, _, -, _, -, dict, hdict, ref, hread, schedule,
    ⟨_, -, _, -, _, -, rfl⟩, _, hcadence, _, -, _, -, rfl⟩ := h
  have hsame := ImmutableSnapshotRef.fromDict_eq_ok.mpr ⟨href, hdict⟩
  rw [hread] at hsame
  cases hsame
  exact ⟨rfl, href, hself, hcadence⟩

theorem spanTimestamps_of_segmentTimestampSpan {span : Option Timestamp × ℕ}
    (h : segmentTimestampSpan segment = .ok span) :
    spanTimestamps segment.resolved.cadence span = segmentTimestamps segment := by
  simp only [segmentTimestampSpan, addTimedelta, bind_eq_ok, raiseIf_eq_ok, pure_eq_ok] at h
  obtain ⟨first, ⟨_, -, rfl⟩, _, -, h⟩ := h
  unfold segmentTimestamps residues residueCount firstResidue
  split at h
  · next hempty =>
    cases pure_eq_ok.mp h
    rw [if_pos hempty]
    rfl
  · next hsome =>
    obtain ⟨_, -, h⟩ := bind_eq_ok.mp h
    cases pure_eq_ok.mp h
    rw [if_neg hsome]
    rfl

theorem collectTimestamps_eq_ok {segments : List FundingScheduleSegment}
    {expected collected : List Timestamp} (h : collectTimestamps segments expected = .ok collected) :
    collected = expected ++ segments.flatMap segmentTimestamps := by
  induction segments generalizing expected with
  | nil =>
    cases h
    simp
  | cons segment rest ih =>
    simp only [collectTimestamps, bind_eq_ok, raiseIf_eq_ok] at h
    obtain ⟨span, hspan, _, -, h⟩ := h
    rw [ih h, spanTimestamps_of_segmentTimestampSpan hspan, List.flatMap_cons, List.append_assoc]

theorem mapM_postInit {segments : List FundingScheduleSegment}
    (h : ∀ segment ∈ segments, Sound segment) :
    segments.mapM FundingScheduleSegment.postInit = .ok segments := by
  induction segments with
  | nil => rfl
  | cons segment rest ih =>
    rw [List.mapM_cons, (h segment List.mem_cons_self).self, ok_bind,
      ih fun other hmem => h other (List.mem_cons_of_mem _ hmem), ok_bind]
    rfl

theorem FundingContinuityPlan.postInit_eq {plan plan' : FundingContinuityPlan}
    (hsound : ∀ segment ∈ plan.segments, Sound segment) (h : plan.postInit = .ok plan') :
    plan' = plan ∧ plan.expectedTimestamps.length ≤ maxExpectedFundingSettlements := by
  simp only [FundingContinuityPlan.postInit, mapM_postInit hsound, ok_bind, bind_eq_ok,
    raiseIf_eq_ok, pure_eq_ok, not_lt] at h
  obtain ⟨_, -, _, -, _, -, _, -, _, -, _, hlimit, _, -, _, -, _, -, rfl⟩ := h
  exact ⟨rfl, hlimit⟩

abbrev SegmentsTile (a : Timestamp) (segments : List FundingScheduleSegment) (b : Timestamp) :
    Prop :=
  Tiles FundingScheduleSegment.startTs FundingScheduleSegment.endTs a segments b

theorem mem_flatMap_segmentTimestamps {segments : List FundingScheduleSegment} {t : Timestamp}
    (hsound : ∀ segment ∈ segments, Sound segment) :
    t ∈ segments.flatMap segmentTimestamps ↔ ∃ segment ∈ segments,
      Contains FundingScheduleSegment.startTs FundingScheduleSegment.endTs segment t ∧
        segment.resolved.cadence ∣ t - segment.resolved.settlementAnchorTs := by
  rw [List.mem_flatMap]
  constructor
  · rintro ⟨segment, hmem, ht⟩
    obtain ⟨hfrom, hto, hdvd⟩ := (mem_residues (hsound segment hmem).cadence.pos).mp ht
    exact ⟨segment, hmem, ⟨hfrom, hto⟩, hdvd⟩
  · rintro ⟨segment, hmem, ⟨hfrom, hto⟩, hdvd⟩
    exact ⟨segment, hmem, (mem_residues (hsound segment hmem).cadence.pos).mpr
      ⟨hfrom, hto, hdvd⟩⟩

theorem pairwise_flatMap_segmentTimestamps {segments : List FundingScheduleSegment}
    {a b : Timestamp} (hsound : ∀ segment ∈ segments, Sound segment)
    (htiles : SegmentsTile a segments b) :
    (segments.flatMap segmentTimestamps).Pairwise (· < ·) := by
  rw [List.pairwise_flatMap]
  refine ⟨fun segment hmem => pairwise_residues (hsound segment hmem).cadence.pos, ?_⟩
  refine htiles.pairwise.imp_of_mem fun {first second} hfirst hsecond hle t ht u hu => ?_
  obtain ⟨-, hto, -⟩ := (mem_residues (hsound first hfirst).cadence.pos).mp ht
  obtain ⟨hfrom, -⟩ := (mem_residues (hsound second hsecond).cadence.pos).mp hu
  exact (hto.trans_le hle).trans_le hfrom

end Steps

/-! ### The loop over the sets -/

section Loop

variable {α : Type} {sha256 : WireValue → String}
  {checkArtifacts : LoadedDerivativesSnapshotSet α → Except ContractError Unit}
  {decodeRaw : LoadedDerivativesSnapshotSet α → Except ContractError WireValue}
  {snapshotSet : LoadedDerivativesSnapshotSet α} {start finish : Timestamp}

/-- The windows of the sets lie side by side. -/
abbrev SetsTile (a : Timestamp) (sets : List (LoadedDerivativesSnapshotSet α)) (b : Timestamp) :
    Prop :=
  Tiles LoadedDerivativesSnapshotSet.replayStartTs LoadedDerivativesSnapshotSet.replayEndTs
    a sets b

/-- What decides the instants of a schedule: its cadence and its anchor. -/
def ResolvedFundingSchedule.lattice (resolved : ResolvedFundingSchedule) : ℤ × Timestamp :=
  (resolved.cadence, resolved.settlementAnchorTs)

theorem lattice_eq_of_worth {resolved resolved' : ResolvedFundingSchedule}
    (h : resolved.worth = resolved'.worth) : resolved.lattice = resolved'.lattice :=
  congrArg (fun worth : (Option ℚ × Option ℚ) × ℤ × Timestamp => worth.2) h

def ownSegment (snapshotSet : LoadedDerivativesSnapshotSet α) (resolved : ResolvedFundingSchedule) :
    FundingScheduleSegment :=
  { startTs := snapshotSet.replayStartTs, endTs := snapshotSet.replayEndTs
    scheduleRef := snapshotSet.refs.fundingSchedule, resolved := resolved }

def prolonged (last : FundingScheduleSegment) (snapshotSet : LoadedDerivativesSnapshotSet α)
    (resolved : ResolvedFundingSchedule) : FundingScheduleSegment :=
  { startTs := last.startTs, endTs := snapshotSet.replayEndTs
    scheduleRef := last.scheduleRef, resolved := resolved }

/-- **What a set does to the segments**: it has one of its own, or prolongs the last one, which
has the fingerprint of its schedule. -/
inductive Extended (sha256 : WireValue → String) (snapshotSet : LoadedDerivativesSnapshotSet α)
    (resolved : ResolvedFundingSchedule) :
    List FundingScheduleSegment → List FundingScheduleSegment → Prop
  | own (segments : List FundingScheduleSegment)
      (hsound : Sound (ownSegment snapshotSet resolved))
      (hother : ∀ last, segments.getLast? = some last → last.scheduleRef.fingerprint sha256 ≠
        snapshotSet.refs.fundingSchedule.fingerprint sha256) :
      Extended sha256 snapshotSet resolved segments (segments ++ [ownSegment snapshotSet resolved])
  | prolong (earlier : List FundingScheduleSegment) (last : FundingScheduleSegment)
      (hsound : Sound (prolonged last snapshotSet resolved))
      (hfingerprint : last.scheduleRef.fingerprint sha256 =
        snapshotSet.refs.fundingSchedule.fingerprint sha256)
      (hworth : last.resolved.worth = resolved.worth) :
      Extended sha256 snapshotSet resolved (earlier ++ [last])
        (earlier ++ [prolonged last snapshotSet resolved])

theorem extended_of_extendSegments {segments segments' : List FundingScheduleSegment}
    {resolved : ResolvedFundingSchedule} (hsound : ∀ segment ∈ segments, Sound segment)
    (href : snapshotSet.refs.fundingSchedule.Valid)
    (h : extendSegments sha256 segments snapshotSet resolved = .ok segments') :
    Extended sha256 snapshotSet resolved segments segments' := by
  have hown : ∀ {out : List FundingScheduleSegment},
      (do let segment ← FundingScheduleSegment.postInit (ownSegment snapshotSet resolved)
          return segments ++ [segment] : Except ContractError (List FundingScheduleSegment)) =
        .ok out →
      (∀ last, segments.getLast? = some last → last.scheduleRef.fingerprint sha256 ≠
        snapshotSet.refs.fundingSchedule.fingerprint sha256) →
      Extended sha256 snapshotSet resolved segments out := by
    intro out hout hother
    obtain ⟨segment, hsegment, hout⟩ := bind_eq_ok.mp hout
    obtain ⟨rfl, hsegmentSound⟩ := sound_of_postInit href hsegment
    cases pure_eq_ok.mp hout
    exact .own segments hsegmentSound hother
  rcases List.eq_nil_or_concat segments with rfl | ⟨earlier, last, rfl⟩
  · exact hown h (by simp)
  · rw [List.concat_eq_append] at h hown hsound ⊢
    simp only [extendSegments, List.getLast?_append_of_ne_nil _ (List.cons_ne_nil last []),
      List.getLast?_singleton] at h
    obtain ⟨before, hbefore, h⟩ := bind_eq_ok.mp h
    obtain ⟨after, hafter, h⟩ := bind_eq_ok.mp h
    split at h
    · next hsame =>
      simp only [bind_eq_ok, raiseIf_eq_ok, pure_eq_ok, not_not, ne_eq] at h
      obtain ⟨_, hworth, segment, hsegment, rfl⟩ := h
      have href' : (prolonged last snapshotSet resolved).scheduleRef.Valid := (hsound last (by simp)).ref
      obtain ⟨rfl, hsegmentSound⟩ := sound_of_postInit href' hsegment
      rw [List.dropLast_concat]
      exact .prolong earlier last hsegmentSound (by rw [hbefore, hafter, hsame]) hworth
    · next hdiffer =>
      refine hown h ?_
      intro other hlast
      rw [List.getLast?_append_of_ne_nil _ (List.cons_ne_nil last []),
        List.getLast?_singleton] at hlast
      cases hlast
      rw [hbefore, hafter]
      exact fun heq => hdiffer (Except.ok.inj heq)

/-- A set whose window lies in a segment with its instants. -/
def ServedBy (resolved : ResolvedFundingSchedule) (segment : FundingScheduleSegment)
    (snapshotSet : LoadedDerivativesSnapshotSet α) : Prop :=
  segment.startTs ≤ snapshotSet.replayStartTs ∧ snapshotSet.replayEndTs ≤ segment.endTs ∧
    segment.resolved.lattice = resolved.lattice

namespace Extended

variable {resolved : ResolvedFundingSchedule} {segments segments' : List FundingScheduleSegment}

theorem sound (h : Extended sha256 snapshotSet resolved segments segments')
    (hsound : ∀ segment ∈ segments, Sound segment) : ∀ segment ∈ segments', Sound segment := by
  cases h with
  | own _ hnew _ =>
    intro segment hmem
    rcases List.mem_append.mp hmem with hmem | hmem
    · exact hsound segment hmem
    · rwa [List.mem_singleton.mp hmem]
  | prolong earlier last hnew _ _ =>
    intro segment hmem
    rcases List.mem_append.mp hmem with hmem | hmem
    · exact hsound segment (List.mem_append_left _ hmem)
    · rwa [List.mem_singleton.mp hmem]

theorem tiles {a : Timestamp} (h : Extended sha256 snapshotSet resolved segments segments')
    (hwindow : snapshotSet.replayStartTs < snapshotSet.replayEndTs)
    (htiles : SegmentsTile a segments snapshotSet.replayStartTs) :
    SegmentsTile a segments' snapshotSet.replayEndTs := by
  cases h with
  | own _ _ _ => exact tiles_append.mpr ⟨_, htiles, rfl, hwindow, rfl⟩
  | prolong earlier last _ _ _ =>
    obtain ⟨b, hearlier, hstart, hlt, hend⟩ := tiles_append.mp htiles
    have hend : last.endTs = snapshotSet.replayStartTs := hend
    exact tiles_append.mpr ⟨b, hearlier, hstart, hlt.trans (hend.trans_lt hwindow), rfl⟩

theorem last_eq (h : Extended sha256 snapshotSet resolved segments segments') :
    ∃ earlier segment, segments' = earlier ++ [segment] ∧ segment.resolved = resolved ∧
      segment.scheduleRef.fingerprint sha256 =
        snapshotSet.refs.fundingSchedule.fingerprint sha256 := by
  cases h with
  | own _ _ _ => exact ⟨segments, _, rfl, rfl, rfl⟩
  | prolong earlier last _ hfingerprint _ => exact ⟨earlier, _, rfl, rfl, hfingerprint⟩

theorem served {a : Timestamp} (h : Extended sha256 snapshotSet resolved segments segments')
    (htiles : SegmentsTile a segments snapshotSet.replayStartTs) :
    ∃ segment ∈ segments', ServedBy resolved segment snapshotSet := by
  cases h with
  | own _ _ _ => exact ⟨ownSegment snapshotSet resolved, by simp, le_rfl, le_rfl, rfl⟩
  | prolong earlier last _ _ _ =>
    obtain ⟨-, hlt, hend⟩ := htiles.bounds last (by simp)
    exact ⟨prolonged last snapshotSet resolved, by simp, hlt.le.trans hend, le_rfl, rfl⟩

theorem served_of_served {a : Timestamp} {other : LoadedDerivativesSnapshotSet α}
    {resolved' : ResolvedFundingSchedule} {segment : FundingScheduleSegment}
    (h : Extended sha256 snapshotSet resolved segments segments')
    (hwindow : snapshotSet.replayStartTs < snapshotSet.replayEndTs)
    (htiles : SegmentsTile a segments snapshotSet.replayStartTs) (hmem : segment ∈ segments)
    (hserved : ServedBy resolved' segment other) :
    ∃ segment ∈ segments', ServedBy resolved' segment other := by
  cases h with
  | own _ _ _ => exact ⟨segment, List.mem_append_left _ hmem, hserved⟩
  | prolong earlier last _ _ hworth =>
    rcases List.mem_append.mp hmem with hmem | hlast
    · exact ⟨segment, List.mem_append_left _ hmem, hserved⟩
    · rw [List.mem_singleton.mp hlast] at hserved hmem
      obtain ⟨hstart, hend, hlattice⟩ := hserved
      refine ⟨prolonged last snapshotSet resolved, by simp, hstart, ?_, ?_⟩
      · exact (hend.trans (htiles.bounds last hmem).2.2).trans hwindow.le
      · exact (lattice_eq_of_worth hworth).symm.trans hlattice

theorem lattice_eq {earlier : List FundingScheduleSegment} {last : FundingScheduleSegment}
    (h : Extended sha256 snapshotSet resolved segments segments')
    (hsegments : segments = earlier ++ [last]) (hfingerprint : last.scheduleRef.fingerprint sha256 =
      snapshotSet.refs.fundingSchedule.fingerprint sha256) :
    last.resolved.lattice = resolved.lattice := by
  cases h with
  | own _ _ hother =>
    refine absurd hfingerprint (hother last ?_)
    rw [hsegments, List.getLast?_append_of_ne_nil _ (List.cons_ne_nil _ _)]
    rfl
  | prolong earlier' last' _ _ hworth =>
    obtain ⟨-, hsame⟩ := List.append_inj' hsegments rfl
    cases hsame
    exact lattice_eq_of_worth hworth

end Extended

structure Added (sha256 : WireValue → String)
    (decodeRaw : LoadedDerivativesSnapshotSet α → Except ContractError WireValue)
    (start : Timestamp) (s : PlanState α) (snapshotSet : LoadedDerivativesSnapshotSet α)
    (s' : PlanState α) : Prop where
  previous : s'.previousSet = some snapshotSet
  window : snapshotSet.replayStartTs < snapshotSet.replayEndTs
  opening : s.previousSet = none → snapshotSet.replayStartTs = start
  next : ∀ previous, s.previousSet = some previous →
    snapshotSet.replayStartTs = previous.replayEndTs
  extended : ∃ resolved, decodeFundingArtifact sha256 decodeRaw snapshotSet = .ok resolved ∧
    Extended sha256 snapshotSet resolved s.segments s'.segments

theorem added_of_addSnapshotSet {s s' : PlanState α}
    (hsound : ∀ segment ∈ s.segments, Sound segment)
    (h : addSnapshotSet sha256 checkArtifacts decodeRaw start finish s snapshotSet = .ok s') :
    Added sha256 decodeRaw start s snapshotSet s' := by
  simp only [addSnapshotSet, revalidateLoadedSnapshotSet, bind_eq_ok, raiseIf_eq_ok,
    pure_eq_ok, not_or, not_le, not_not, ne_eq, DerivativesSnapshotRefs.fromDict_eq_ok] at h
  obtain ⟨_, ⟨_, -, refs, ⟨hvalid, -⟩, _, rfl, _, -, _, -, _, -, _, -, _, -, _, -, _, -, _, -, rfl⟩,
    _, ⟨-, -, hwindow⟩, _, hprevious, resolved, hresolved, segments, hsegments, rfl⟩ := h
  have href : snapshotSet.refs.fundingSchedule.Valid :=
    hvalid.refs _ (by simp [DerivativesSnapshotRefs.refs])
  refine ⟨rfl, hwindow, fun hnone => ?_, fun previous hsome => ?_, resolved, hresolved,
    extended_of_extendSegments hsound href hsegments⟩
  · rw [hnone] at hprevious
    exact not_not.mp (raiseIf_eq_ok.mp hprevious)
  · rw [hsome] at hprevious
    simp only [checkPrevious, bind_eq_ok, raiseIf_eq_ok, not_lt] at hprevious
    obtain ⟨_, hle, _, hge, -⟩ := hprevious
    exact le_antisymm hge hle

/-- Two sets whose schedules have one fingerprint have the same instants. -/
def Alike (sha256 : WireValue → String)
    (decodeRaw : LoadedDerivativesSnapshotSet α → Except ContractError WireValue)
    (first second : LoadedDerivativesSnapshotSet α) : Prop :=
  first.refs.fundingSchedule.fingerprint sha256 = second.refs.fundingSchedule.fingerprint sha256 →
    ∀ resolved resolved', decodeFundingArtifact sha256 decodeRaw first = .ok resolved →
      decodeFundingArtifact sha256 decodeRaw second = .ok resolved' →
        resolved.lattice = resolved'.lattice

/-- **What holds after the sets `sets`.** -/
structure Gathered (sha256 : WireValue → String)
    (decodeRaw : LoadedDerivativesSnapshotSet α → Except ContractError WireValue)
    (start : Timestamp) (sets : List (LoadedDerivativesSnapshotSet α)) (s : PlanState α)
    (reached : Timestamp) : Prop where
  previous : s.previousSet = sets.getLast?
  setsTile : SetsTile start sets reached
  segmentsTile : SegmentsTile start s.segments reached
  sound : ∀ segment ∈ s.segments, Sound segment
  served : ∀ snapshotSet ∈ sets, ∃ resolved,
    decodeFundingArtifact sha256 decodeRaw snapshotSet = .ok resolved ∧
      ∃ segment ∈ s.segments, ServedBy resolved segment snapshotSet
  last : ∀ previous, s.previousSet = some previous → ∃ earlier segment resolved,
    s.segments = earlier ++ [segment] ∧
      decodeFundingArtifact sha256 decodeRaw previous = .ok resolved ∧
      segment.resolved.lattice = resolved.lattice ∧
      segment.scheduleRef.fingerprint sha256 =
        previous.refs.fundingSchedule.fingerprint sha256
  alike : sets.IsChain (Alike sha256 decodeRaw)

theorem gathered_nil : Gathered sha256 decodeRaw start [] {} start :=
  ⟨rfl, rfl, rfl, by simp, by simp, by rintro _ ⟨⟩, .nil⟩

theorem Gathered.add {sets : List (LoadedDerivativesSnapshotSet α)} {s s' : PlanState α}
    {reached : Timestamp} (hs : Gathered sha256 decodeRaw start sets s reached)
    (h : Added sha256 decodeRaw start s snapshotSet s') :
    Gathered sha256 decodeRaw start (sets ++ [snapshotSet]) s' snapshotSet.replayEndTs := by
  obtain ⟨resolved, hresolved, hextended⟩ := h.extended
  have hreached : snapshotSet.replayStartTs = reached := by
    rcases List.eq_nil_or_concat sets with rfl | ⟨done, previous, rfl⟩
    · exact (h.opening hs.previous).trans hs.setsTile
    · rw [List.concat_eq_append] at hs
      have hsome : s.previousSet = some previous := by
        rw [hs.previous, List.getLast?_append_of_ne_nil _ (List.cons_ne_nil _ _)]
        rfl
      obtain ⟨_, -, -, -, htiles⟩ := tiles_append.mp hs.setsTile
      exact (h.next previous hsome).trans htiles
  subst hreached
  refine ⟨?_, ?_, hextended.tiles h.window hs.segmentsTile, hextended.sound hs.sound, ?_, ?_, ?_⟩
  · rw [h.previous, List.getLast?_append_of_ne_nil _ (List.cons_ne_nil _ _)]
    rfl
  · exact tiles_append.mpr ⟨_, hs.setsTile, rfl, h.window, rfl⟩
  · intro other hmem
    rcases List.mem_append.mp hmem with hmem | hmem
    · obtain ⟨resolved', hresolved', segment, hsegment, hserved⟩ := hs.served other hmem
      exact ⟨resolved', hresolved',
        hextended.served_of_served h.window hs.segmentsTile hsegment hserved⟩
    · rw [List.mem_singleton.mp hmem]
      exact ⟨resolved, hresolved, hextended.served hs.segmentsTile⟩
  · intro previous hprevious
    rw [h.previous] at hprevious
    cases hprevious
    obtain ⟨earlier, segment, hsegments, hsame, hfingerprint⟩ := hextended.last_eq
    exact ⟨earlier, segment, resolved, hsegments, hresolved, by rw [hsame], hfingerprint⟩
  · refine hs.alike.append (.singleton _) fun previous hprevious other hother hsame => ?_
    cases hother
    intro first second hfirst hsecond
    rw [← hs.previous] at hprevious
    obtain ⟨earlier, segment, resolved', hsegments, hresolved', hlattice, hfingerprint⟩ :=
      hs.last previous hprevious
    rw [hresolved'] at hfirst
    rw [hresolved] at hsecond
    cases hfirst
    cases hsecond
    exact hlattice.symm.trans (hextended.lattice_eq hsegments (hfingerprint.trans hsame))

theorem gathered_of_foldlM {sets : List (LoadedDerivativesSnapshotSet α)} {s : PlanState α}
    (h : sets.foldlM (addSnapshotSet sha256 checkArtifacts decodeRaw start finish) {} = .ok s) :
    ∃ reached, Gathered sha256 decodeRaw start sets s reached := by
  have hloop : ∀ (rest done : List (LoadedDerivativesSnapshotSet α)) (s₀ : PlanState α)
      (reached : Timestamp), Gathered sha256 decodeRaw start done s₀ reached →
        rest.foldlM (addSnapshotSet sha256 checkArtifacts decodeRaw start finish) s₀ = .ok s →
          ∃ reached, Gathered sha256 decodeRaw start (done ++ rest) s reached := by
    intro rest
    induction rest with
    | nil =>
      intro done s₀ reached hs₀ hfold
      cases hfold
      rw [List.append_nil]
      exact ⟨reached, hs₀⟩
    | cons snapshotSet rest ih =>
      intro done s₀ reached hs₀ hfold
      rw [List.foldlM_cons] at hfold
      obtain ⟨s₁, hadd, hfold⟩ := bind_eq_ok.mp hfold
      have hs₁ := hs₀.add (added_of_addSnapshotSet hs₀.sound hadd)
      rw [List.append_cons]
      exact ih _ s₁ _ hs₁ hfold
  exact hloop sets [] {} start gathered_nil h

theorem built_of_buildFundingContinuityPlan {sets : List (LoadedDerivativesSnapshotSet α)}
    {plan : FundingContinuityPlan}
    (h : buildFundingContinuityPlan sha256 checkArtifacts decodeRaw sets start finish = .ok plan) :
    ∃ s, Gathered sha256 decodeRaw start sets s finish ∧ plan.startTs = start ∧
      plan.endTs = finish ∧ plan.segments = s.segments ∧
      plan.expectedTimestamps = s.segments.flatMap segmentTimestamps ∧
      plan.expectedTimestamps.length ≤ maxExpectedFundingSettlements ∧
      0 ≤ start ∧ finish < datetimeEnd := by
  simp only [buildFundingContinuityPlan, bind_eq_ok, raiseIf_eq_ok, requireUtcDatetime_eq_ok,
    not_not, ne_eq] at h
  obtain ⟨start, ⟨⟨hstart, -⟩, rfl⟩, finish, ⟨⟨-, hfinish⟩, rfl⟩, _, -, _, -, _, -, s, hfold, _, hend,
    expected, hcollect, hplan⟩ := h
  obtain ⟨reached, hs⟩ := gathered_of_foldlM hfold
  have hreached : reached = finish := by
    rcases List.eq_nil_or_concat sets with rfl | ⟨done, previous, rfl⟩
    · rw [hs.previous] at hend
      cases hend
    · rw [List.concat_eq_append] at hs
      rw [hs.previous, List.getLast?_append_of_ne_nil _ (List.cons_ne_nil _ _)] at hend
      obtain ⟨_, -, -, -, htiles⟩ := tiles_append.mp hs.setsTile
      exact htiles.symm.trans (Option.some.inj hend)
  rw [hreached] at hs
  obtain ⟨hplan, hlimit⟩ := FundingContinuityPlan.postInit_eq hs.sound hplan
  subst hplan
  exact ⟨s, hs, rfl, rfl, rfl, collectTimestamps_eq_ok hcollect, hlimit, hstart, hfinish⟩

end Loop

/-! ### The segment of an instant -/

theorem FundingContinuityPlan.segmentAt_spec {plan : FundingContinuityPlan}
    {start finish t : Timestamp} (htiles : SegmentsTile start plan.segments finish)
    (hstart : 0 ≤ start) (hfinish : finish < datetimeEnd) (hfrom : start ≤ t) (hto : t < finish) :
    ∃ segment ∈ plan.segments, plan.segmentAt t = .ok segment ∧
      Contains FundingScheduleSegment.startTs FundingScheduleSegment.endTs segment t := by
  have hutc : ∀ fieldName : String, requireUtcDatetime t fieldName = .ok t := fun fieldName =>
    requireUtcDatetime_eq_ok.mpr ⟨⟨hstart.trans hfrom, hto.trans hfinish⟩, rfl⟩
  have htest : ∀ i (hi : i < plan.segments.length),
      (plan.segments[i]?.any fun segment => decide (segment.startTs ≤ t)) = true ↔
        plan.segments[i].startTs ≤ t := by
    intro i hi
    rw [List.getElem?_eq_getElem hi, Option.any_some, decide_eq_true_iff]
  obtain ⟨i, hi, hbisect, hcontains⟩ := htiles.bisect_spec hfrom hto htest
  refine ⟨plan.segments[i], List.getElem_mem hi, ?_, hcontains⟩
  have hcontained : plan.segments[i].contains t = .ok true := by
    rw [FundingScheduleSegment.contains, hutc, ok_bind, decide_eq_true hcontains.1,
      decide_eq_true hcontains.2]
    rfl
  simp only [segmentAt, hutc, ok_bind, hbisect, List.getElem?_eq_getElem hi, hcontained]
  rfl

/-! ### Windows that are cut into parts -/

section Split

variable {α : Type} {sha256 : WireValue → String}
  {checkArtifacts : LoadedDerivativesSnapshotSet α → Except ContractError Unit}
  {decodeRaw : LoadedDerivativesSnapshotSet α → Except ContractError WireValue}
  {start finish t : Timestamp}

/-- An instant is due: it is in the class of the anchor of the set whose window contains it. -/
def Due (sha256 : WireValue → String)
    (decodeRaw : LoadedDerivativesSnapshotSet α → Except ContractError WireValue)
    (sets : List (LoadedDerivativesSnapshotSet α)) (t : Timestamp) : Prop :=
  ∃ snapshotSet ∈ sets, Contains LoadedDerivativesSnapshotSet.replayStartTs
      LoadedDerivativesSnapshotSet.replayEndTs snapshotSet t ∧
    ∃ resolved, decodeFundingArtifact sha256 decodeRaw snapshotSet = .ok resolved ∧
      resolved.cadence ∣ t - resolved.settlementAnchorTs

theorem dvd_of_lattice_eq {resolved resolved' : ResolvedFundingSchedule}
    (h : resolved.lattice = resolved'.lattice)
    (hdvd : resolved.cadence ∣ t - resolved.settlementAnchorTs) :
    resolved'.cadence ∣ t - resolved'.settlementAnchorTs := by
  obtain ⟨hcadence, hanchor⟩ := Prod.mk.inj h
  rwa [← hcadence, ← hanchor]

theorem Gathered.mem_iff_due {sets : List (LoadedDerivativesSnapshotSet α)} {s : PlanState α}
    (hs : Gathered sha256 decodeRaw start sets s finish) :
    t ∈ s.segments.flatMap segmentTimestamps ↔ Due sha256 decodeRaw sets t := by
  rw [mem_flatMap_segmentTimestamps hs.sound]
  constructor
  · rintro ⟨segment, hmem, hcontains, hdvd⟩
    obtain ⟨hfrom, -, hto⟩ := hs.segmentsTile.bounds segment hmem
    obtain ⟨snapshotSet, hset, hwindow⟩ :=
      hs.setsTile.exists_contains (hfrom.trans hcontains.1) (hcontains.2.trans_le hto)
    obtain ⟨resolved, hresolved, serving, hserving, hle, hge, hlattice⟩ :=
      hs.served snapshotSet hset
    have hsame := hs.segmentsTile.eq_of_contains hmem hserving hcontains
      ⟨hle.trans hwindow.1, hwindow.2.trans_le hge⟩
    rw [hsame] at hlattice
    exact ⟨snapshotSet, hset, hwindow, resolved, hresolved, dvd_of_lattice_eq hlattice hdvd⟩
  · rintro ⟨snapshotSet, hset, hwindow, resolved, hresolved, hdvd⟩
    obtain ⟨resolved', hresolved', serving, hserving, hle, hge, hlattice⟩ :=
      hs.served snapshotSet hset
    rw [hresolved] at hresolved'
    cases hresolved'
    exact ⟨serving, hserving, ⟨hle.trans hwindow.1, hwindow.2.trans_le hge⟩,
      dvd_of_lattice_eq hlattice.symm hdvd⟩

/-- A set whose window is cut into adjacent parts, with one fingerprint of the schedule. -/
structure CutInto (sha256 : WireValue → String)
    (decodeRaw : LoadedDerivativesSnapshotSet α → Except ContractError WireValue)
    (snapshotSet first : LoadedDerivativesSnapshotSet α)
    (rest : List (LoadedDerivativesSnapshotSet α)) : Prop where
  tiles : SetsTile snapshotSet.replayStartTs (first :: rest) snapshotSet.replayEndTs
  read : decodeFundingArtifact sha256 decodeRaw first =
    decodeFundingArtifact sha256 decodeRaw snapshotSet
  fingerprint : ∀ part ∈ rest, part.refs.fundingSchedule.fingerprint sha256 =
    first.refs.fundingSchedule.fingerprint sha256

inductive SplitInto (sha256 : WireValue → String)
    (decodeRaw : LoadedDerivativesSnapshotSet α → Except ContractError WireValue) :
    List (LoadedDerivativesSnapshotSet α) → List (LoadedDerivativesSnapshotSet α) → Prop
  | nil : SplitInto sha256 decodeRaw [] []
  | cons {sets parts : List (LoadedDerivativesSnapshotSet α)}
      (snapshotSet first : LoadedDerivativesSnapshotSet α)
      (rest : List (LoadedDerivativesSnapshotSet α))
      (hcut : CutInto sha256 decodeRaw snapshotSet first rest)
      (hlater : SplitInto sha256 decodeRaw sets parts) :
      SplitInto sha256 decodeRaw (snapshotSet :: sets) (first :: rest ++ parts)

theorem lattice_eq_of_alike {first : LoadedDerivativesSnapshotSet α}
    {rest : List (LoadedDerivativesSnapshotSet α)} {resolved : ResolvedFundingSchedule}
    (halike : (first :: rest).IsChain (Alike sha256 decodeRaw))
    (hfingerprint : ∀ part ∈ rest, part.refs.fundingSchedule.fingerprint sha256 =
      first.refs.fundingSchedule.fingerprint sha256)
    (hread : ∀ part ∈ rest, ∃ resolved, decodeFundingArtifact sha256 decodeRaw part = .ok resolved)
    (hfirst : decodeFundingArtifact sha256 decodeRaw first = .ok resolved) :
    ∀ part ∈ first :: rest, ∃ resolved', decodeFundingArtifact sha256 decodeRaw part =
      .ok resolved' ∧ resolved'.lattice = resolved.lattice := by
  induction rest generalizing first resolved with
  | nil =>
    intro part hmem
    rw [List.mem_singleton.mp hmem]
    exact ⟨resolved, hfirst, rfl⟩
  | cons second rest ih =>
    obtain ⟨hnext, halike⟩ := List.isChain_cons_cons.mp halike
    have hsecond := hfingerprint second List.mem_cons_self
    obtain ⟨resolved₂, hresolved₂⟩ := hread second List.mem_cons_self
    have hlattice := hnext hsecond.symm resolved resolved₂ hfirst hresolved₂
    intro part hmem
    rcases List.mem_cons.mp hmem with rfl | hmem
    · exact ⟨resolved, hfirst, rfl⟩
    · obtain ⟨resolved', hresolved', hsame⟩ := ih halike
        (fun part hmem => (hfingerprint part (List.mem_cons_of_mem _ hmem)).trans hsecond.symm)
        (fun part hmem => hread part (List.mem_cons_of_mem _ hmem)) hresolved₂ part hmem
      exact ⟨resolved', hresolved', hsame.trans hlattice.symm⟩

theorem CutInto.due_iff {snapshotSet first : LoadedDerivativesSnapshotSet α}
    {rest : List (LoadedDerivativesSnapshotSet α)}
    (h : CutInto sha256 decodeRaw snapshotSet first rest)
    (halike : (first :: rest).IsChain (Alike sha256 decodeRaw))
    (hread : ∀ part ∈ first :: rest, ∃ resolved,
      decodeFundingArtifact sha256 decodeRaw part = .ok resolved) :
    Due sha256 decodeRaw (first :: rest) t ↔ Due sha256 decodeRaw [snapshotSet] t := by
  obtain ⟨resolved, hfirst⟩ := hread first List.mem_cons_self
  have hparts := lattice_eq_of_alike halike h.fingerprint
    (fun part hmem => hread part (List.mem_cons_of_mem _ hmem)) hfirst
  have hset := hfirst
  rw [h.read] at hset
  constructor
  · rintro ⟨part, hmem, hcontains, resolved', hresolved', hdvd⟩
    obtain ⟨_, hsame, hlattice⟩ := hparts part hmem
    rw [hresolved'] at hsame
    cases hsame
    obtain ⟨hfrom, -, hto⟩ := h.tiles.bounds part hmem
    exact ⟨snapshotSet, List.mem_singleton_self _,
      ⟨hfrom.trans hcontains.1, hcontains.2.trans_le hto⟩, resolved, hset,
      dvd_of_lattice_eq hlattice hdvd⟩
  · rintro ⟨_, hmem, hcontains, resolved', hresolved', hdvd⟩
    rw [List.mem_singleton.mp hmem] at hcontains hresolved'
    rw [hset] at hresolved'
    cases hresolved'
    obtain ⟨part, hpart, hcontained⟩ := h.tiles.exists_contains hcontains.1 hcontains.2
    obtain ⟨resolved', hresolved', hlattice⟩ := hparts part hpart
    exact ⟨part, hpart, hcontained, resolved', hresolved', dvd_of_lattice_eq hlattice.symm hdvd⟩

theorem due_append {sets later : List (LoadedDerivativesSnapshotSet α)} :
    Due sha256 decodeRaw (sets ++ later) t ↔
      Due sha256 decodeRaw sets t ∨ Due sha256 decodeRaw later t := by
  simp only [Due, List.mem_append, or_and_right, exists_or]

theorem SplitInto.due_iff {sets parts : List (LoadedDerivativesSnapshotSet α)}
    (h : SplitInto sha256 decodeRaw sets parts) (halike : parts.IsChain (Alike sha256 decodeRaw))
    (hread : ∀ part ∈ parts, ∃ resolved,
      decodeFundingArtifact sha256 decodeRaw part = .ok resolved) :
    Due sha256 decodeRaw parts t ↔ Due sha256 decodeRaw sets t := by
  induction h with
  | nil => exact Iff.rfl
  | cons snapshotSet first rest hcut hlater ih =>
    rename_i sets parts
    obtain ⟨hfirst, hparts, -⟩ := List.isChain_append.mp halike
    have hcutDue := hcut.due_iff (t := t) hfirst
      fun part hmem => hread part (List.mem_append_left _ hmem)
    rw [due_append, hcutDue, ih hparts fun part hmem => hread part (List.mem_append_right _ hmem),
      ← due_append]
    rfl

end Split

def IsSegmentOf (plan : FundingContinuityPlan) (t : Timestamp)
    (segment : FundingScheduleSegment) : Prop :=
  segment ∈ plan.segments ∧ segment.startTs ≤ t ∧ t < segment.endTs ∧
    ∀ other ∈ plan.segments, other.startTs ≤ t → t < other.endTs → other = segment

/-- **The plan of an accepted list of sets**: its instants are those that are due, in their order
and each once; the segment of each instant of the window is found, and the instant is in the plan
if it is in the class of the anchor of that segment; and a list in which windows are cut into parts
has the same instants. -/
theorem buildFundingContinuityPlan_spec {α : Type} (sha256 : WireValue → String)
    (checkArtifacts : LoadedDerivativesSnapshotSet α → Except ContractError Unit)
    (decodeRaw : LoadedDerivativesSnapshotSet α → Except ContractError WireValue)
    (sets : List (LoadedDerivativesSnapshotSet α)) (start finish : Timestamp)
    (plan : FundingContinuityPlan)
    (h : buildFundingContinuityPlan sha256 checkArtifacts decodeRaw sets start finish = .ok plan) :
    plan.expectedTimestamps.Pairwise (· < ·) ∧
    (∀ t, t ∈ plan.expectedTimestamps ↔ start ≤ t ∧ t < finish ∧ Due sha256 decodeRaw sets t) ∧
    (∀ t, start ≤ t → t < finish → ∃ segment, plan.segmentAt t = .ok segment ∧
      IsSegmentOf plan t segment ∧ (t ∈ plan.expectedTimestamps ↔
        segment.resolved.cadence ∣ t - segment.resolved.settlementAnchorTs)) ∧
    ∀ parts plan', SplitInto sha256 decodeRaw sets parts →
      buildFundingContinuityPlan sha256 checkArtifacts decodeRaw parts start finish = .ok plan' →
        plan'.expectedTimestamps = plan.expectedTimestamps := by
  obtain ⟨s, hs, -, -, hsegments, hexpected, -, hstart, hfinish⟩ :=
    built_of_buildFundingContinuityPlan h
  rw [hexpected]
  have hpairwise := pairwise_flatMap_segmentTimestamps hs.sound hs.segmentsTile
  refine ⟨hpairwise, fun t => ?_, fun t hfrom hto => ?_, fun parts plan' hsplit hplan' => ?_⟩
  · rw [hs.mem_iff_due]
    refine ⟨fun hdue => ?_, fun hdue => hdue.2.2⟩
    obtain ⟨snapshotSet, hmem, hcontains, -⟩ := id hdue
    obtain ⟨hle, -, hge⟩ := hs.setsTile.bounds snapshotSet hmem
    exact ⟨hle.trans hcontains.1, hcontains.2.trans_le hge, hdue⟩
  · have htiles := hs.segmentsTile
    rw [← hsegments] at htiles
    obtain ⟨segment, hmem, hat, hcontains⟩ :=
      FundingContinuityPlan.segmentAt_spec htiles hstart hfinish hfrom hto
    have honly : ∀ other ∈ plan.segments, other.startTs ≤ t → t < other.endTs →
        other = segment := fun other hother hle hlt =>
      htiles.eq_of_contains hmem hother hcontains ⟨hle, hlt⟩
    refine ⟨segment, hat, ⟨hmem, hcontains.1, hcontains.2, honly⟩, ?_⟩
    rw [mem_flatMap_segmentTimestamps hs.sound, ← hsegments]
    constructor
    · rintro ⟨other, hother, hwindow, hdvd⟩
      rwa [honly other hother hwindow.1 hwindow.2] at hdvd
    · exact fun hdvd => ⟨segment, hmem, hcontains, hdvd⟩
  · obtain ⟨s', hs', -, -, -, hexpected', -⟩ := built_of_buildFundingContinuityPlan hplan'
    rw [hexpected']
    have hpairwise' := pairwise_flatMap_segmentTimestamps hs'.sound hs'.segmentsTile
    refine hpairwise'.eq_of_mem_iff hpairwise fun t => ?_
    rw [hs'.mem_iff_due, hs.mem_iff_due]
    refine hsplit.due_iff hs'.alike fun part hmem => ?_
    obtain ⟨resolved, hresolved, -⟩ := hs'.served part hmem
    exact ⟨resolved, hresolved⟩

/-- The dictionary in the artifact of the funding schedule of `newYearRefs`. -/
def newYearFundingEnvelope : WireValue :=
  dictOf [("schema", .str derivativesSnapshotEnvelopeSchema), ("kind", .str "funding_schedule"),
    ("payload_schema", .str fundingSchedulePayloadSchema), ("venue", .str "OKX"),
    ("symbol", .str derivativesBacktestSymbol), ("instrument_type", .str "SWAP"),
    ("contract_type", .str "linear"), ("settle_currency", .str "USDT"),
    ("margin_mode", .str "isolated"), ("position_mode", .str "single_position"),
    ("snapshot_id", .str newYearRefs.fundingSchedule.snapshotId),
    ("source_registry_id", .str newYearRefs.fundingSchedule.sourceRegistryId),
    ("source_seal_fingerprint", .str newYearRefs.fundingSchedule.sourceSealFingerprint),
    ("source_schema", .str newYearRefs.fundingSchedule.sourceSchema),
    ("effective_window", dictOf [("start", .str "2026-01-01T00:00:00.000000Z"), ("end", .null)]),
    ("authority_status", .str derivativesSnapshotAuthoritySynthetic),
    ("payload", dictOf [("minimum_rate_inclusive", .str "-1e-2"),
      ("maximum_rate_inclusive", .str "1e-2"),
      ("schedule_id", .str newYearRefs.fundingSchedule.snapshotId),
      ("cadence_seconds", .int 28800),
      ("settlement_anchor_ts", .str "2026-01-01T00:00:00.000000Z")])]

/-- The set with these references for the first day of 2026, with a settlement each eight hours. -/
def newYearSet : LoadedDerivativesSnapshotSet WireValue :=
  { refs := newYearRefs, replayStartTs := newYear, replayEndTs := newYear + microsPerDay
    fundingSchedule :=
      { schedule :=
          { minimumRateInclusive := .finite { negative := true, coefficient := 1, exponent := -2 }
            maximumRateInclusive := .finite { negative := false, coefficient := 1, exponent := -2 } }
        cadence := 28800 * 1000000, settlementAnchorTs := newYear }
    snapshotSetFingerprint := newYearFingerprint
    authorityStatus := derivativesSnapshotAuthoritySynthetic, capitalPromotionEligible := false
    artifacts := newYearFundingEnvelope }

def newYearPlan : FundingContinuityPlan :=
  { startTs := newYear, endTs := newYear + microsPerDay
    segments := [ownSegment newYearSet newYearSet.fundingSchedule]
    expectedTimestamps := [newYear, newYear + 28800000000, newYear + 57600000000] }

theorem revalidateLoadedSnapshotSet_of_valid {α : Type} {sha256 : WireValue → String}
    {checkArtifacts : LoadedDerivativesSnapshotSet α → Except ContractError Unit}
    {snapshotSet : LoadedDerivativesSnapshotSet α} (hrefs : snapshotSet.refs.Valid)
    (hstart : 0 ≤ snapshotSet.replayStartTs ∧ snapshotSet.replayStartTs < datetimeEnd)
    (hend : 0 ≤ snapshotSet.replayEndTs ∧ snapshotSet.replayEndTs < datetimeEnd)
    (hwindow : eachOf (fun ref => ref.validateWindow snapshotSet.replayStartTs
      snapshotSet.replayEndTs) snapshotSet.refs.refs = .ok ())
    (hfingerprint : snapshotSet.refs.fingerprint sha256 = .ok snapshotSet.snapshotSetFingerprint)
    (hartifacts : checkArtifacts snapshotSet = .ok ())
    (hauthority : snapshotSet.authorityStatus = derivativesSnapshotAuthoritySynthetic)
    (hpromotion : snapshotSet.capitalPromotionEligible = false) :
    revalidateLoadedSnapshotSet sha256 checkArtifacts snapshotSet = .ok snapshotSet := by
  obtain ⟨dict, hdict⟩ := hrefs.exists_toDict
  simp only [revalidateLoadedSnapshotSet, bind_eq_ok, raiseIf_eq_ok, pure_eq_ok, not_not, ne_eq,
    DerivativesSnapshotRefs.fromDict_eq_ok, requireUtcDatetime_eq_ok]
  exact ⟨dict, hdict, snapshotSet.refs, ⟨hrefs, hdict⟩, (), rfl, _, ⟨hstart, rfl⟩, _, ⟨hend, rfl⟩,
    (), hwindow, _, hfingerprint, (), rfl, (), hartifacts, (), hauthority, (),
    by rw [hpromotion]; exact Bool.false_ne_true, trivial⟩

theorem sound_of_valid {segment : FundingScheduleSegment} (href : segment.scheduleRef.Valid)
    (hkind : segment.scheduleRef.kind = .fundingSchedule)
    (hstart : 0 ≤ segment.startTs) (hlt : segment.startTs < segment.endTs)
    (hend : segment.endTs < datetimeEnd)
    (hschedule : segment.resolved.schedule.postInit = .ok segment.resolved.schedule)
    (hcadence : IsCadence segment.resolved.cadence)
    (hanchor : 0 ≤ segment.resolved.settlementAnchorTs ∧
      segment.resolved.settlementAnchorTs < datetimeEnd)
    (hwindow : ¬(segment.startTs < segment.scheduleRef.effectiveFrom ∨
      segment.scheduleRef.effectiveTo.any fun effectiveTo => effectiveTo < segment.endTs)) :
    Sound segment := by
  obtain ⟨dict, hdict⟩ := href.exists_toDict
  refine ⟨href, ?_, hcadence⟩
  simp only [FundingScheduleSegment.postInit, bind_eq_ok, raiseIf_eq_ok, pure_eq_ok, not_not,
    ne_eq, ImmutableSnapshotRef.fromDict_eq_ok, requireUtcDatetime_eq_ok, not_le]
  exact ⟨_, ⟨⟨hstart, hlt.trans hend⟩, rfl⟩, _, ⟨⟨hstart.trans hlt.le, hend⟩, rfl⟩, (), hlt, (),
    hkind, dict, hdict, segment.scheduleRef, ⟨href, hdict⟩, _, hschedule, (), hcadence, _,
    ⟨hanchor, rfl⟩, (), hwindow, rfl⟩

theorem buildFundingContinuityPlan_single {α : Type} {sha256 : WireValue → String}
    {checkArtifacts : LoadedDerivativesSnapshotSet α → Except ContractError Unit}
    {decodeRaw : LoadedDerivativesSnapshotSet α → Except ContractError WireValue}
    {snapshotSet : LoadedDerivativesSnapshotSet α} {resolved : ResolvedFundingSchedule}
    {expected : List Timestamp} (hstart : 0 ≤ snapshotSet.replayStartTs)
    (hlt : snapshotSet.replayStartTs < snapshotSet.replayEndTs)
    (hend : snapshotSet.replayEndTs < datetimeEnd)
    (hset : revalidateLoadedSnapshotSet sha256 checkArtifacts snapshotSet = .ok snapshotSet)
    (hresolved : decodeFundingArtifact sha256 decodeRaw snapshotSet = .ok resolved)
    (hsegment : Sound (ownSegment snapshotSet resolved))
    (hcollect : collectTimestamps [ownSegment snapshotSet resolved] [] = .ok expected)
    (hcheck : checkExpectedTimestamps [ownSegment snapshotSet resolved] expected = .ok ())
    (hlimit : expected.length ≤ maxExpectedFundingSettlements) :
    buildFundingContinuityPlan sha256 checkArtifacts decodeRaw [snapshotSet]
        snapshotSet.replayStartTs snapshotSet.replayEndTs =
      .ok { startTs := snapshotSet.replayStartTs, endTs := snapshotSet.replayEndTs
            segments := [ownSegment snapshotSet resolved], expectedTimestamps := expected } := by
  have hextend : extendSegments sha256 [] snapshotSet resolved =
      .ok [ownSegment snapshotSet resolved] :=
    bind_eq_ok.mpr ⟨_, hsegment.self, rfl⟩
  have hround : addSnapshotSet sha256 checkArtifacts decodeRaw snapshotSet.replayStartTs
      snapshotSet.replayEndTs {} snapshotSet =
        .ok { segments := [ownSegment snapshotSet resolved], previousSet := some snapshotSet } := by
    refine bind_eq_ok.mpr ⟨snapshotSet, hset, ?_⟩
    refine bind_eq_ok.mpr ⟨(), raiseIf_eq_ok.mpr (by simpa using hlt), ?_⟩
    refine bind_eq_ok.mpr ⟨(), raiseIf_eq_ok.mpr (not_not.mpr rfl), ?_⟩
    exact bind_eq_ok.mpr ⟨resolved, hresolved, bind_eq_ok.mpr ⟨_, hextend, rfl⟩⟩
  have hstart' : ∀ fieldName, requireUtcDatetime snapshotSet.replayStartTs fieldName =
      .ok snapshotSet.replayStartTs := fun fieldName =>
    requireUtcDatetime_eq_ok.mpr ⟨⟨hstart, hlt.trans hend⟩, rfl⟩
  have hend' : ∀ fieldName, requireUtcDatetime snapshotSet.replayEndTs fieldName =
      .ok snapshotSet.replayEndTs := fun fieldName =>
    requireUtcDatetime_eq_ok.mpr ⟨⟨hstart.trans hlt.le, hend⟩, rfl⟩
  refine bind_eq_ok.mpr ⟨_, hstart' _, bind_eq_ok.mpr ⟨_, hend' _, ?_⟩⟩
  refine bind_eq_ok.mpr ⟨(), raiseIf_eq_ok.mpr (not_le.mpr hlt), ?_⟩
  refine bind_eq_ok.mpr ⟨(), raiseIf_eq_ok.mpr (by simp), ?_⟩
  refine bind_eq_ok.mpr ⟨(), raiseIf_eq_ok.mpr (by simp [maxFundingScheduleSegments]), ?_⟩
  refine bind_eq_ok.mpr ⟨_, (List.foldlM_cons ..).trans (by rw [hround]; rfl), ?_⟩
  refine bind_eq_ok.mpr ⟨(), raiseIf_eq_ok.mpr (not_not.mpr rfl), ?_⟩
  refine bind_eq_ok.mpr ⟨expected, hcollect, ?_⟩
  -- The constructor of the plan makes the same checks again.
  refine bind_eq_ok.mpr ⟨_, hstart' _, bind_eq_ok.mpr ⟨_, hend' _, ?_⟩⟩
  refine bind_eq_ok.mpr ⟨(), raiseIf_eq_ok.mpr (not_le.mpr hlt), ?_⟩
  refine bind_eq_ok.mpr ⟨(), raiseIf_eq_ok.mpr (List.cons_ne_nil _ _), ?_⟩
  refine bind_eq_ok.mpr ⟨(), raiseIf_eq_ok.mpr (by simp [maxFundingScheduleSegments]), ?_⟩
  refine bind_eq_ok.mpr ⟨(), raiseIf_eq_ok.mpr (not_lt.mpr hlimit), ?_⟩
  refine bind_eq_ok.mpr ⟨_, mapM_postInit (by simpa using hsegment), ?_⟩
  refine bind_eq_ok.mpr ⟨(), raiseIf_eq_ok.mpr (by simp [ownSegment]), ?_⟩
  exact bind_eq_ok.mpr ⟨(), rfl, bind_eq_ok.mpr ⟨(), hcheck, rfl⟩⟩

theorem newYearRefs_fundingSchedule_valid : newYearRefs.fundingSchedule.Valid :=
  newYearRefs_valid.refs _ (by simp [DerivativesSnapshotRefs.refs])

theorem buildFundingContinuityPlan_newYear :
    buildFundingContinuityPlan (fun _ => newYearFingerprint) (fun _ => .ok ())
      (fun snapshotSet => .ok snapshotSet.artifacts) [newYearSet] newYear
      (newYear + microsPerDay) = .ok newYearPlan := by
  have hsegment : Sound (ownSegment newYearSet newYearSet.fundingSchedule) :=
    sound_of_valid newYearRefs_fundingSchedule_valid rfl (by decide) (by decide) (by decide +kernel)
      (by decide +kernel) (by decide) (by decide +kernel) (by decide)
  have hset : revalidateLoadedSnapshotSet (fun _ => newYearFingerprint) (fun _ => .ok ())
      newYearSet = .ok newYearSet :=
    revalidateLoadedSnapshotSet_of_valid newYearRefs_valid (by decide +kernel) (by decide +kernel)
      (by decide +kernel) (by decide +kernel) rfl rfl rfl
  exact buildFundingContinuityPlan_single (by decide) (by decide) (by decide +kernel) hset
    (by decide +kernel) hsegment (by decide +kernel) (by decide +kernel) (by decide)

theorem buildFundingContinuityPlan_spec_newYear :
    newYearPlan.expectedTimestamps.Pairwise (· < ·) :=
  (buildFundingContinuityPlan_spec (fun _ => newYearFingerprint) (fun _ => .ok ())
    (fun snapshotSet => .ok snapshotSet.artifacts) [newYearSet] newYear (newYear + microsPerDay)
    newYearPlan buildFundingContinuityPlan_newYear).1

end Aats.Replay
