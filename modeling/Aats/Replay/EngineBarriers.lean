import Aats.Replay.EventCodec
import Mathlib.Data.List.Chain

/-!
# The liquidation barriers between the events

`data_platform/replay/derivatives_backtest/event_merge.py`, `expand_engine_barriers`: one pass
over the ordered events, with one event of look-ahead, puts a barrier before the trades of each
time and one after each trade. A barrier carries the fingerprint of the snapshots that are active
where it stands; they change with the events of the contract schedule.

## Main definitions
* `Expansion` — what a pass that ends without an error has done, event by event.

## Main results
* `expandEngineBarriers_spec` — **what the pass gives**.
-/

namespace Aats.Replay

open Fallible WireValue
open Execution (Timestamp)

/-! ### Barriers -/

/-- `EngineBarrierKindV1`. -/
inductive EngineBarrierKind
  | preFillLiquidation
  | postFillLiquidation
  deriving DecidableEq, Repr

open EngineBarrierKind

def EngineBarrierKind.value : EngineBarrierKind → String
  | preFillLiquidation => "pre_fill_liquidation"
  | postFillLiquidation => "post_fill_liquidation"

def barrierPhase : EngineBarrierKind → ℕ
  | preFillLiquidation => 40
  | postFillLiquidation => 55

/-- `DerivedLiquidationBarrierV1`. -/
structure DerivedLiquidationBarrier where
  kind : EngineBarrierKind
  ts : Timestamp
  triggerSourceKey : EventOrderKey
  snapshotSetFingerprint : String
  barrierId : String
  deriving DecidableEq

def derivativesEngineBarrierSchema : String := "derivatives-engine-barrier/v1"

def derivativesEventOrderingPolicyId : String := "derivatives-event-ordering/v1"

def keyTs (key : EventOrderKey) : Timestamp := (ofLex key).1

def keyPhase (key : EventOrderKey) : ℕ := (ofLex (ofLex key).2).1

def keySequence (key : EventOrderKey) : ℕ := (ofLex (ofLex (ofLex key).2).2).1

def keyId (key : EventOrderKey) : String := (ofLex (ofLex (ofLex key).2).2).2

def sourceKeyPayload (key : EventOrderKey) : Except ContractError WireValue := do
  let ts ← canonicalUtcTimestamp (keyTs key) "event_ts"
  return dictOf [("ts", .str ts), ("phase_priority", .int (keyPhase key)),
    ("source_sequence", .int (keySequence key)), ("event_id", .str (keyId key))]

section Sha

-- `typed_json_sha256`.
variable (sha256 : WireValue → String)

def deriveBarrierId (kind : EngineBarrierKind) (ts : Timestamp) (triggerSourceKey : EventOrderKey)
    (snapshotSetFingerprint : String) : Except ContractError String := do
  let _ ← requireSha256 (.str snapshotSetFingerprint) "snapshot_set_fingerprint"
  let ts ← canonicalUtcTimestamp ts "barrier_ts"
  let key ← sourceKeyPayload triggerSourceKey
  return sha256 (dictOf [("schema", .str derivativesEngineBarrierSchema),
    ("ordering_policy_id", .str derivativesEventOrderingPolicyId),
    ("barrier_type", .str kind.value), ("ts", .str ts), ("trigger_source_key", key),
    ("snapshot_set_fingerprint", .str snapshotSetFingerprint)])

/-- `__post_init__` of a barrier. -/
def barrierPostInit (barrier : DerivedLiquidationBarrier) :
    Except ContractError DerivedLiquidationBarrier := do
  let _ ← requireUtcDatetime barrier.ts "barrier_ts"
  raiseIf (keyTs barrier.triggerSourceKey ≠ barrier.ts) { code := "barrier_trigger_key_invalid" }
  let _ ← requireExactInt (.int (keyPhase barrier.triggerSourceKey)) "barrier_trigger_phase" 0 100
  raiseIf (keyPhase barrier.triggerSourceKey ∉ derivativeEventKinds.map eventPhasePriority)
    { code := "barrier_trigger_phase_invalid" }
  let _ ← requireExactInt (.int (keySequence barrier.triggerSourceKey))
    "barrier_trigger_source_sequence" 0 derivativesMaxSourceSequence
  raiseIf (barrier.kind = postFillLiquidation ∧
    keyPhase barrier.triggerSourceKey ≠ eventPhasePriority .tradable)
    { code := "post_fill_barrier_trigger_phase_invalid" }
  let _ ← requireSha256 (.str (keyId barrier.triggerSourceKey)) "trigger_event_id"
  let _ ← requireSha256 (.str barrier.snapshotSetFingerprint) "snapshot_set_fingerprint"
  let _ ← requireSha256 (.str barrier.barrierId) "barrier_id"
  let derived ← deriveBarrierId sha256 barrier.kind barrier.ts barrier.triggerSourceKey
    barrier.snapshotSetFingerprint
  raiseIf (barrier.barrierId ≠ derived) { code := "barrier_id_mismatch" }
  return barrier

/-- `_barrier`. -/
def barrierOf (kind : EngineBarrierKind) (event : ReplayEvent Decimal)
    (snapshotSetFingerprint : String) : Except ContractError DerivedLiquidationBarrier := do
  let key := eventOrderKey event
  let barrierId ← deriveBarrierId sha256 kind event.header.ts key snapshotSetFingerprint
  barrierPostInit sha256
    { kind := kind, ts := event.header.ts, triggerSourceKey := key
      snapshotSetFingerprint := snapshotSetFingerprint, barrierId := barrierId }

inductive EngineStep
  | event (event : ReplayEvent Decimal)
  | barrier (barrier : DerivedLiquidationBarrier)

/-- `_revalidate_event`, without an expected kind. -/
def revalidateReplayEvent (event : ReplayEvent Decimal) :
    Except ContractError (ReplayEvent Decimal) := do
  let dict ← toDict event
  let validated ← parseDerivativeReplayEvent sha256 dict
  raiseIf (validated.eventClass ≠ event.eventClass ∨ worth validated ≠ worth event)
    { code := "event_revalidation_mismatch" }
  return validated

/-! ### The pass -/

/-- The locals of the pass at the head of its loop. -/
structure BarrierState where
  activeSnapshotRefs : DerivativesSnapshotRefs
  activeSnapshotSetFingerprint : String
  previousKey : Option EventOrderKey := none
  preEmittedForTs : Bool := false
  tradableSeenForTs : Bool := false

/-- The check of the order and of the cardinality, against the event that follows. -/
def checkFollowing (current : ReplayEvent Decimal) (following : Option (ReplayEvent Decimal)) :
    Except ContractError Unit :=
  match following with
  | none => .ok ()
  | some following => do
    raiseIf (eventOrderKey following ≤ eventOrderKey current) eventGlobalOrderInvalid
    raiseIf (following.header.ts = current.header.ts ∧
        following.eventClass = current.eventClass ∧
        current.eventClass ∈ singletonEventKindsPerTimestamp)
      (if current.eventClass = .tradable then { code := "multiple_tradable_events_per_timestamp" }
        else { code := "event_timestamp_cardinality_invalid"
               field := some current.eventClass.value })

def switchSnapshots (s : BarrierState) (current : ReplayEvent Decimal) :
    Except ContractError (DerivativesSnapshotRefs × String) :=
  match current.body.payload with
  | .contractTierEffective snapshotRefs => do
    let (_, incoming) ← validateSnapshotTransition sha256 s.activeSnapshotRefs snapshotRefs
      current.header.ts
    let fingerprint ← incoming.fingerprint sha256
    return (incoming, fingerprint)
  | _ => do
    s.activeSnapshotRefs.validateAt current.header.ts
    return (s.activeSnapshotRefs, s.activeSnapshotSetFingerprint)

/-- The check of the schedule that an event of a funding settlement refers to. -/
def checkSchedule (active : DerivativesSnapshotRefs) (current : ReplayEvent Decimal) :
    Except ContractError Unit :=
  match current.body.payload with
  | .fundingSettlement _ scheduleRef _ => do
    scheduleRef.validateAt current.header.ts
    let given ← scheduleRef.fingerprint sha256
    let expected ← active.fundingSchedule.fingerprint sha256
    raiseIf (given ≠ expected) { code := "funding_event_active_schedule_mismatch" }
  | _ => .ok ()

def barrierIf (condition : Bool) (kind : EngineBarrierKind) (event : ReplayEvent Decimal)
    (snapshotSetFingerprint : String) : Except ContractError (List EngineStep) :=
  if condition then do
    let barrier ← barrierOf sha256 kind event snapshotSetFingerprint
    return [.barrier barrier]
  else .ok []

def leavingTimestamp (current : ReplayEvent Decimal) (following : Option (ReplayEvent Decimal)) :
    Bool :=
  !following.any fun following => following.header.ts = current.header.ts

/-- One round of the loop, once the event that follows was read. -/
def expandStep (s : BarrierState) (current : ReplayEvent Decimal)
    (following : Option (ReplayEvent Decimal)) :
    Except ContractError (List EngineStep × BarrierState) := do
  checkFollowing current following
  let (active, fingerprint) ← switchSnapshots sha256 s current
  checkSchedule sha256 active current
  let phase := eventPhasePriority current.eventClass
  let early ← barrierIf sha256 (50 ≤ phase && !s.preEmittedForTs) preFillLiquidation current
    fingerprint
  let preEmitted := s.preEmittedForTs || 50 ≤ phase
  let tradable : Bool := current.eventClass = .tradable
  raiseIf (tradable ∧ s.tradableSeenForTs) { code := "multiple_tradable_events_per_timestamp" }
  let post ← barrierIf sha256 tradable postFillLiquidation current fingerprint
  let leaving := leavingTimestamp current following
  let late ← barrierIf sha256 (leaving && !preEmitted) preFillLiquidation current fingerprint
  return (early ++ [.event current] ++ post ++ late,
    { activeSnapshotRefs := active
      activeSnapshotSetFingerprint := fingerprint
      previousKey := some (eventOrderKey current)
      preEmittedForTs := !leaving && preEmitted
      tradableSeenForTs := !leaving && (s.tradableSeenForTs || tradable) })

/-- What a consumer sees that takes all the pass gives. -/
structure Expanded where
  emitted : List EngineStep := []
  error : Option ContractError := none

def expandLoop : BarrierState → ReplayEvent Decimal → List (ReplayEvent Decimal) → Expanded
  | s, current, rest =>
    if s.previousKey.any (fun previous => eventOrderKey current ≤ previous) then
      { error := some eventGlobalOrderInvalid }
    else
      match rest with
      | [] =>
        match expandStep sha256 s current none with
        | .error e => { error := some e }
        | .ok (steps, _) => { emitted := steps }
      | next :: rest =>
        match revalidateReplayEvent sha256 next with
        | .error e => { error := some e }
        | .ok following =>
          match expandStep sha256 s current (some following) with
          | .error e => { error := some e }
          | .ok (steps, s') =>
            let later := expandLoop s' following rest
            { later with emitted := steps ++ later.emitted }

def openSnapshots (opening : DerivativesSnapshotRefs) :
    Except ContractError (DerivativesSnapshotRefs × String) := do
  let dict ← opening.toDict
  let active ← DerivativesSnapshotRefs.fromDict dict
  raiseIf (active ≠ opening) { code := "opening_snapshot_set_revalidation_mismatch" }
  let fingerprint ← active.fingerprint sha256
  return (active, fingerprint)

def expandEngineBarriers (events : List (ReplayEvent Decimal)) (opening : DerivativesSnapshotRefs) :
    Expanded :=
  match openSnapshots sha256 opening with
  | .error e => { error := some e }
  | .ok (active, fingerprint) =>
    match events with
    | [] => {}
    | first :: rest =>
      match revalidateReplayEvent sha256 first with
      | .error e => { error := some e }
      | .ok current =>
        expandLoop sha256
          { activeSnapshotRefs := active, activeSnapshotSetFingerprint := fingerprint } current rest

def engineStepOrderKey : EngineStep → Except ContractError EventOrderKey
  | .event event => do
    let validated ← revalidateReplayEvent sha256 event
    return eventOrderKey validated
  | .barrier barrier => do
    let validated ← barrierPostInit sha256 barrier
    raiseIf (validated ≠ barrier) { code := "barrier_revalidation_mismatch" }
    return toLex (validated.ts, toLex (barrierPhase validated.kind,
      toLex (keySequence validated.triggerSourceKey, validated.barrierId)))

end Sha

/-! ### Keys -/

def stepKey : EngineStep → EventOrderKey
  | .event event => eventOrderKey event
  | .barrier barrier => toLex (barrier.ts, toLex (barrierPhase barrier.kind,
      toLex (keySequence barrier.triggerSourceKey, barrier.barrierId)))

theorem key_lt_of_ts {a b : EventOrderKey} (h : keyTs a < keyTs b) : a < b :=
  Prod.Lex.toLex_lt_toLex.mpr (.inl h)

theorem key_lt_of_phase {a b : EventOrderKey} (hts : keyTs a = keyTs b)
    (h : keyPhase a < keyPhase b) : a < b :=
  Prod.Lex.toLex_lt_toLex.mpr (.inr ⟨hts, Prod.Lex.toLex_lt_toLex.mpr (.inl h)⟩)

theorem keyTs_le {a b : EventOrderKey} (h : a < b) : keyTs a ≤ keyTs b :=
  Prod.Lex.monotone_fst a b h.le

theorem keyPhase_le {a b : EventOrderKey} (h : a < b) (hts : keyTs a = keyTs b) :
    keyPhase a ≤ keyPhase b := by
  rcases Prod.Lex.toLex_lt_toLex.mp h with hlt | ⟨-, hlt⟩
  · exact absurd hts (ne_of_lt hlt)
  · exact Prod.Lex.monotone_fst (ofLex a).2 (ofLex b).2 hlt.le

theorem phase_lt_forty {kind : DerivativeEventKind} (h : eventPhasePriority kind < 50) :
    eventPhasePriority kind < 40 := by
  revert h
  cases kind <;> decide

/-! ### The steps of a round -/

section Rounds

variable {sha256 : WireValue → String} {event : ReplayEvent Decimal} {kind : EngineBarrierKind}
  {fingerprint : String} {barrier : DerivedLiquidationBarrier} {steps : List EngineStep}
  {condition : Bool}

theorem barrierPostInit_eq_self {barrier' : DerivedLiquidationBarrier}
    (h : barrierPostInit sha256 barrier = .ok barrier') : barrier' = barrier := by
  simp only [barrierPostInit, bind_eq_ok, pure_eq_ok] at h
  obtain ⟨_, -, _, -, _, -, _, -, _, -, _, -, _, -, _, -, _, -, _, -, _, -, rfl⟩ := h
  rfl

structure BelongsTo (sha256 : WireValue → String) (barrier : DerivedLiquidationBarrier)
    (kind : EngineBarrierKind) (event : ReplayEvent Decimal) (fingerprint : String) : Prop where
  kind_eq : barrier.kind = kind
  ts_eq : barrier.ts = event.header.ts
  trigger_eq : barrier.triggerSourceKey = eventOrderKey event
  fingerprint_eq : barrier.snapshotSetFingerprint = fingerprint
  valid : barrierPostInit sha256 barrier = .ok barrier

theorem belongsTo_of_barrierOf (h : barrierOf sha256 kind event fingerprint = .ok barrier) :
    BelongsTo sha256 barrier kind event fingerprint := by
  obtain ⟨barrierId, -, h⟩ := bind_eq_ok.mp h
  have hsame := barrierPostInit_eq_self h
  subst hsame
  exact ⟨rfl, rfl, rfl, rfl, h⟩

theorem barrierOf_of_digest (barrierId : String)
    (hheader : HeaderValid event.header event.body.sourceRef)
    (hpost : kind = postFillLiquidation → event.eventClass = .tradable)
    (hfingerprint : isSha256 fingerprint.toList = true) (hid : isSha256 barrierId.toList = true)
    (hderived : deriveBarrierId sha256 kind event.header.ts (eventOrderKey event) fingerprint =
      .ok barrierId) :
    ∃ barrier, barrierOf sha256 kind event fingerprint = .ok barrier := by
  have hsha : ∀ {text : String}, isSha256 text.toList = true → ∀ fieldName,
      requireSha256 (.str text) fieldName = .ok text := fun h _ =>
    requireText_eq_ok.mpr ⟨rfl, h⟩
  have hphase : (eventPhasePriority event.eventClass : ℤ) ≤ 100 ∧
      eventPhasePriority event.eventClass ∈ derivativeEventKinds.map eventPhasePriority := by
    cases event.eventClass <;> decide
  refine ⟨{ kind := kind, ts := event.header.ts, triggerSourceKey := eventOrderKey event
            snapshotSetFingerprint := fingerprint, barrierId := barrierId },
    bind_eq_ok.mpr ⟨barrierId, hderived, ?_⟩⟩
  refine bind_eq_ok.mpr ⟨_, requireUtcDatetime_eq_ok.mpr ⟨hheader.ts, rfl⟩, ?_⟩
  refine bind_eq_ok.mpr ⟨(), raiseIf_eq_ok.mpr (not_not.mpr rfl), ?_⟩
  refine bind_eq_ok.mpr ⟨_, requireExactInt_eq_ok.mpr ⟨rfl, Int.natCast_nonneg _, hphase.1⟩, ?_⟩
  refine bind_eq_ok.mpr ⟨(), raiseIf_eq_ok.mpr (not_not.mpr hphase.2), ?_⟩
  refine bind_eq_ok.mpr ⟨_, requireExactInt_eq_ok.mpr
    ⟨rfl, Int.natCast_nonneg _, hheader.sourceSequence⟩, ?_⟩
  refine bind_eq_ok.mpr ⟨(), raiseIf_eq_ok.mpr ?_, ?_⟩
  · rintro ⟨hk, hne⟩
    exact hne (congrArg eventPhasePriority (hpost hk))
  refine bind_eq_ok.mpr ⟨_, hsha hheader.eventId _, bind_eq_ok.mpr ⟨_, hsha hfingerprint _, ?_⟩⟩
  refine bind_eq_ok.mpr ⟨_, hsha hid _, bind_eq_ok.mpr ⟨barrierId, hderived, ?_⟩⟩
  exact bind_eq_ok.mpr ⟨(), raiseIf_eq_ok.mpr (not_not.mpr rfl), rfl⟩

theorem barrierIf_true (h : barrierIf sha256 true kind event fingerprint = .ok steps) :
    ∃ barrier, steps = [.barrier barrier] ∧ BelongsTo sha256 barrier kind event fingerprint := by
  obtain ⟨barrier, hbarrier, h⟩ := bind_eq_ok.mp h
  exact ⟨barrier, (pure_eq_ok.mp h).symm, belongsTo_of_barrierOf hbarrier⟩

theorem barrierIf_false (h : barrierIf sha256 false kind event fingerprint = .ok steps) :
    steps = [] := by
  cases h
  rfl

variable {s s' : BarrierState} {current : ReplayEvent Decimal}
  {following : Option (ReplayEvent Decimal)}

def phaseOf (event : ReplayEvent Decimal) : ℕ := eventPhasePriority event.eventClass

/-- The steps that a round gives: those of an early event, and those of a trade or of a bar. -/
inductive RoundSteps (sha256 : WireValue → String) (fingerprint : String)
    (current : ReplayEvent Decimal) : (preEmitted leaving : Bool) → List EngineStep → Prop
  | early (hphase : phaseOf current < 50) : RoundSteps sha256 fingerprint current false false
      [.event current]
  | close (barrier : DerivedLiquidationBarrier) (hphase : phaseOf current < 50)
      (hbarrier : BelongsTo sha256 barrier preFillLiquidation current fingerprint) :
      RoundSteps sha256 fingerprint current false true [.event current, .barrier barrier]
  | late (opening post : List EngineStep) (preEmitted leaving : Bool)
      (hphase : 50 ≤ phaseOf current)
      (hopening : (preEmitted = true ∧ opening = []) ∨
        (preEmitted = false ∧ ∃ barrier, opening = [.barrier barrier] ∧
          BelongsTo sha256 barrier preFillLiquidation current fingerprint))
      (hpost : (current.eventClass ≠ .tradable ∧ post = []) ∨
        (current.eventClass = .tradable ∧ ∃ barrier, post = [.barrier barrier] ∧
          BelongsTo sha256 barrier postFillLiquidation current fingerprint)) :
      RoundSteps sha256 fingerprint current preEmitted leaving
        (opening ++ .event current :: post)

structure Round (sha256 : WireValue → String) (s : BarrierState) (current : ReplayEvent Decimal)
    (following : Option (ReplayEvent Decimal)) (steps : List EngineStep) (s' : BarrierState) :
    Prop where
  order : ∀ next, following = some next → eventOrderKey current < eventOrderKey next
  alone : ∀ next, following = some next → next.header.ts = current.header.ts →
    current.eventClass ∈ singletonEventKindsPerTimestamp → next.eventClass ≠ current.eventClass
  active : switchSnapshots sha256 s current =
    .ok (s'.activeSnapshotRefs, s'.activeSnapshotSetFingerprint)
  preEmitted : s'.preEmittedForTs =
    (!leavingTimestamp current following && decide (50 ≤ phaseOf current))
  steps : RoundSteps sha256 s'.activeSnapshotSetFingerprint current s.preEmittedForTs
    (leavingTimestamp current following) steps

theorem checkFollowing_eq_ok {u : Unit} (h : checkFollowing current following = .ok u) :
    (∀ next, following = some next → eventOrderKey current < eventOrderKey next) ∧
      ∀ next, following = some next → next.header.ts = current.header.ts →
        current.eventClass ∈ singletonEventKindsPerTimestamp →
          next.eventClass ≠ current.eventClass := by
  cases following with
  | none => simp
  | some next =>
    simp only [checkFollowing, bind_eq_ok, raiseIf_eq_ok, not_le] at h
    obtain ⟨-, horder, halone⟩ := h
    refine ⟨?_, ?_⟩
    · rintro _ ⟨⟩
      exact horder
    · rintro _ ⟨⟩ hts hsingle hclass
      exact halone ⟨hts, hclass, hsingle⟩

/-- **What one round of the loop has done**, when it ends well and the barrier of its time was
given before a late event only. -/
theorem round_of_expandStep (hpre : s.preEmittedForTs = true → 50 ≤ phaseOf current)
    (h : expandStep sha256 s current following = .ok (steps, s')) :
    Round sha256 s current following steps s' := by
  simp only [expandStep, bind_eq_ok, pure_eq_ok, raiseIf_eq_ok] at h
  obtain ⟨_, hfollowing, ⟨active, fingerprint⟩, hswitch, _, -, opening, hopening, _, -, post, hpost,
    closing, hclosing, heq⟩ := h
  obtain ⟨rfl, rfl⟩ := Prod.mk.inj heq
  obtain ⟨horder, halone⟩ := checkFollowing_eq_ok hfollowing
  have hphaseOf : eventPhasePriority current.eventClass = phaseOf current := rfl
  rw [hphaseOf] at hopening hclosing
  by_cases hphase : 50 ≤ phaseOf current
  · have hor : (s.preEmittedForTs || decide (50 ≤ phaseOf current)) = true := by simp [hphase]
    rw [hor, Bool.not_true, Bool.and_false] at hclosing
    have hclosing := barrierIf_false hclosing
    subst hclosing
    refine ⟨horder, halone, hswitch, by simp [hphaseOf, hphase], ?_⟩
    rw [List.append_nil, List.append_assoc, List.singleton_append]
    refine .late opening post _ _ hphase ?_ ?_
    · rw [decide_eq_true hphase, Bool.true_and] at hopening
      cases hemitted : s.preEmittedForTs with
      | true =>
        rw [hemitted] at hopening
        exact .inl ⟨rfl, barrierIf_false hopening⟩
      | false =>
        rw [hemitted] at hopening
        exact .inr ⟨rfl, barrierIf_true hopening⟩
    · by_cases htrade : current.eventClass = .tradable
      · rw [decide_eq_true htrade] at hpost
        exact .inr ⟨htrade, barrierIf_true hpost⟩
      · rw [decide_eq_false htrade] at hpost
        exact .inl ⟨htrade, barrierIf_false hpost⟩
  · have hemitted : s.preEmittedForTs = false := by
      by_contra hne
      exact hphase (hpre (by simpa using hne))
    have htrade : current.eventClass ≠ .tradable := by
      intro heq
      apply hphase
      rw [phaseOf, heq]
      decide
    rw [decide_eq_false hphase, Bool.false_and] at hopening
    rw [decide_eq_false htrade] at hpost
    rw [hemitted, decide_eq_false hphase, Bool.or_self, Bool.not_false, Bool.and_true] at hclosing
    have hopening := barrierIf_false hopening
    have hpost := barrierIf_false hpost
    subst hopening hpost
    refine ⟨horder, halone, hswitch, by simp [hphaseOf, hphase, hemitted], ?_⟩
    rw [hemitted]
    cases hleaving : leavingTimestamp current following with
    | true =>
      rw [hleaving] at hclosing
      obtain ⟨barrier, rfl, hbarrier⟩ := barrierIf_true hclosing
      exact .close barrier (not_le.mp hphase) hbarrier
    | false =>
      rw [hleaving] at hclosing
      rw [barrierIf_false hclosing]
      exact .early (not_le.mp hphase)

theorem ts_eq_of_not_leaving {next : ReplayEvent Decimal}
    (h : leavingTimestamp current (some next) = false) : next.header.ts = current.header.ts := by
  simpa [leavingTimestamp] using h

theorem ts_ne_of_leaving {next : ReplayEvent Decimal}
    (h : leavingTimestamp current (some next) = true) : next.header.ts ≠ current.header.ts := by
  simpa [leavingTimestamp] using h

theorem Round.preEmitted_next {next : ReplayEvent Decimal}
    (h : Round sha256 s current (some next) steps s') (hpre : s'.preEmittedForTs = true) :
    50 ≤ phaseOf next := by
  rw [h.preEmitted, Bool.and_eq_true, Bool.not_eq_true', decide_eq_true_eq] at hpre
  have hle := keyPhase_le (h.order next rfl) (ts_eq_of_not_leaving hpre.1).symm
  exact hpre.2.trans hle

/-! ### The pass as a whole -/

structure Read (sha256 : WireValue → String) (event : ReplayEvent Decimal) : Prop where
  again : revalidateReplayEvent sha256 event = .ok event
  kind : event.eventClass = event.body.payload.kind

theorem read_of_revalidate {validated : ReplayEvent Decimal}
    (h : revalidateReplayEvent sha256 event = .ok validated) :
    Read sha256 validated ∧ worth validated = worth event := by
  simp only [revalidateReplayEvent, bind_eq_ok, raiseIf_eq_ok, pure_eq_ok, not_or, not_not,
    ne_eq] at h
  obtain ⟨dict, -, parsed, hparse, -, ⟨-, hworth⟩, rfl⟩ := h
  obtain ⟨hvalid, -, hdict⟩ := parseDerivativeReplayEvent_eq_ok.mp hparse
  refine ⟨⟨?_, (headerValid_of_validateHeader (validEvent_iff.mp hvalid).2.1).1⟩, hworth⟩
  refine bind_eq_ok.mpr ⟨dict, hdict, bind_eq_ok.mpr ⟨parsed, hparse, ?_⟩⟩
  exact bind_eq_ok.mpr ⟨(), raiseIf_eq_ok.mpr (by simp), rfl⟩

theorem revalidateReplayEvent_of_valid (h : ValidEvent sha256 event) :
    revalidateReplayEvent sha256 event = .ok (mapDecimals Decimal.trimmed event) := by
  obtain ⟨value, hvalue⟩ := h.exists_toDict
  have hparse := parseDerivativeReplayEvent_eq_ok.mpr ⟨h.trimmed,
    mapDecimals_trimmed_trimmed event, h.toDict_trimmed.trans hvalue⟩
  refine bind_eq_ok.mpr ⟨value, hvalue, bind_eq_ok.mpr ⟨_, hparse, ?_⟩⟩
  have hclass : (mapDecimals Decimal.trimmed event).eventClass = event.eventClass := by
    unfold mapDecimals DerivativeReplayEvent.eventClass
    cases event.body.payload <;> rfl
  exact bind_eq_ok.mpr ⟨(), raiseIf_eq_ok.mpr (by simp [worth_trimmed, hclass]), rfl⟩

theorem openSnapshots_of_valid {opening : DerivativesSnapshotRefs} (h : opening.Valid)
    {fingerprint : String} (hfingerprint : opening.fingerprint sha256 = .ok fingerprint) :
    openSnapshots sha256 opening = .ok (opening, fingerprint) := by
  obtain ⟨dict, hdict⟩ := h.exists_toDict
  have hread := DerivativesSnapshotRefs.fromDict_eq_ok.mpr ⟨h, hdict⟩
  refine bind_eq_ok.mpr ⟨dict, hdict, bind_eq_ok.mpr ⟨opening, hread, ?_⟩⟩
  exact bind_eq_ok.mpr ⟨(), raiseIf_eq_ok.mpr (by simp),
    bind_eq_ok.mpr ⟨fingerprint, hfingerprint, rfl⟩⟩

theorem expandEngineBarriers_of_ok {first : ReplayEvent Decimal}
    {rest : List (ReplayEvent Decimal)} {opening active : DerivativesSnapshotRefs}
    {fingerprint : String} (hopen : openSnapshots sha256 opening = .ok (active, fingerprint))
    (hfirst : revalidateReplayEvent sha256 first = .ok current) :
    expandEngineBarriers sha256 (first :: rest) opening =
      expandLoop sha256
        { activeSnapshotRefs := active, activeSnapshotSetFingerprint := fingerprint }
        current rest := by
  unfold expandEngineBarriers
  simp only [hopen, hfirst]

theorem error_expandLoop_cons {next following : ReplayEvent Decimal}
    {rest : List (ReplayEvent Decimal)} {steps : List EngineStep}
    (hkey : s.previousKey.any (fun previous => eventOrderKey current ≤ previous) = false)
    (hnext : revalidateReplayEvent sha256 next = .ok following)
    (hstep : expandStep sha256 s current (some following) = .ok (steps, s')) :
    (expandLoop sha256 s current (next :: rest)).error =
      (expandLoop sha256 s' following rest).error := by
  rw [expandLoop, hkey, if_neg Bool.false_ne_true]
  simp only [hnext, hstep]

theorem error_expandLoop_last {steps : List EngineStep}
    (hkey : s.previousKey.any (fun previous => eventOrderKey current ≤ previous) = false)
    (hstep : expandStep sha256 s current none = .ok (steps, s')) :
    (expandLoop sha256 s current []).error = none := by
  rw [expandLoop, hkey, if_neg Bool.false_ne_true]
  simp only [hstep]

/-- **A pass that ends well**, from the event that was read last: its rounds, with what they
give. -/
inductive Expansion (sha256 : WireValue → String) :
    BarrierState → ReplayEvent Decimal → List (ReplayEvent Decimal) → List EngineStep → Prop
  | last {s s' : BarrierState} {current : ReplayEvent Decimal} {steps : List EngineStep}
      (hread : Read sha256 current) (hpre : s.preEmittedForTs = true → 50 ≤ phaseOf current)
      (hround : Round sha256 s current none steps s') : Expansion sha256 s current [] steps
  | next {s s' : BarrierState} {current next following : ReplayEvent Decimal}
      {rest : List (ReplayEvent Decimal)} {steps out : List EngineStep}
      (hread : Read sha256 current) (hpre : s.preEmittedForTs = true → 50 ≤ phaseOf current)
      (hround : Round sha256 s current (some following) steps s')
      (hworth : worth following = worth next) (hrest : Expansion sha256 s' following rest out) :
      Expansion sha256 s current (next :: rest) (steps ++ out)

theorem expansion_of_expandLoop {rest : List (ReplayEvent Decimal)} (hread : Read sha256 current)
    (hpre : s.preEmittedForTs = true → 50 ≤ phaseOf current)
    (h : (expandLoop sha256 s current rest).error = none) :
    Expansion sha256 s current rest (expandLoop sha256 s current rest).emitted := by
  induction rest generalizing s current with
  | nil =>
    by_cases hprev : s.previousKey.any (fun previous => eventOrderKey current ≤ previous) = true
    · rw [expandLoop, if_pos hprev] at h
      cases h
    · rw [expandLoop, if_neg hprev] at h ⊢
      cases hstep : expandStep sha256 s current none with
      | error e => simp only [hstep, reduceCtorEq] at h
      | ok pair => exact .last hread hpre (round_of_expandStep hpre hstep)
  | cons next rest ih =>
    by_cases hprev : s.previousKey.any (fun previous => eventOrderKey current ≤ previous) = true
    · rw [expandLoop, if_pos hprev] at h
      cases h
    · rw [expandLoop, if_neg hprev] at h ⊢
      cases hfollowing : revalidateReplayEvent sha256 next with
      | error e => simp only [hfollowing, reduceCtorEq] at h
      | ok following =>
        simp only [hfollowing] at h ⊢
        cases hstep : expandStep sha256 s current (some following) with
        | error e => simp only [hstep, reduceCtorEq] at h
        | ok pair =>
          simp only [hstep] at h ⊢
          have hround := round_of_expandStep hpre hstep
          obtain ⟨hreadNext, hworth⟩ := read_of_revalidate hfollowing
          exact .next hread hpre hround hworth (ih hreadNext hround.preEmitted_next h)

/-- The events among the steps: what is left when the barriers are erased. -/
def eventsOf (steps : List EngineStep) : List (ReplayEvent Decimal) :=
  steps.filterMap fun step =>
    match step with
    | .event event => some event
    | .barrier _ => none

@[simp] theorem eventsOf_nil : eventsOf [] = [] := rfl

@[simp] theorem eventsOf_event (event : ReplayEvent Decimal) (steps : List EngineStep) :
    eventsOf (.event event :: steps) = event :: eventsOf steps := rfl

@[simp] theorem eventsOf_barrier (barrier : DerivedLiquidationBarrier) (steps : List EngineStep) :
    eventsOf (.barrier barrier :: steps) = eventsOf steps := rfl

@[simp] theorem eventsOf_append (steps later : List EngineStep) :
    eventsOf (steps ++ later) = eventsOf steps ++ eventsOf later := List.filterMap_append

theorem mem_eventsOf : event ∈ eventsOf steps ↔ .event event ∈ steps := by
  unfold eventsOf
  rw [List.mem_filterMap]
  constructor
  · rintro ⟨step, hmem, hstep⟩
    cases step with
    | event e =>
      cases hstep
      exact hmem
    | barrier b => cases hstep
  · exact fun h => ⟨_, h, rfl⟩

theorem RoundSteps.eventsOf_eq {preEmitted leaving : Bool}
    (h : RoundSteps sha256 fingerprint current preEmitted leaving steps) :
    eventsOf steps = [current] := by
  cases h with
  | early hphase => rfl
  | close barrier hphase hbarrier => rfl
  | late opening post _ _ hphase hopening hpost =>
    rcases hopening with ⟨-, rfl⟩ | ⟨-, b, rfl, -⟩ <;>
      rcases hpost with ⟨-, rfl⟩ | ⟨-, c, rfl, -⟩ <;> rfl

theorem RoundSteps.ts_eq {preEmitted leaving : Bool}
    (h : RoundSteps sha256 fingerprint current preEmitted leaving steps) :
    ∀ step ∈ steps, keyTs (stepKey step) = current.header.ts := by
  have hbelongs : ∀ {barrier : DerivedLiquidationBarrier} {kind : EngineBarrierKind},
      BelongsTo sha256 barrier kind current fingerprint →
        keyTs (stepKey (.barrier barrier)) = current.header.ts := fun hb => hb.ts_eq
  have hevent : keyTs (stepKey (.event current)) = current.header.ts := rfl
  cases h with
  | early hphase => simpa using hevent
  | close barrier hphase hbarrier => simpa using ⟨hevent, hbelongs hbarrier⟩
  | late opening post _ _ hphase hopening hpost =>
    rcases hopening with ⟨-, rfl⟩ | ⟨-, b, rfl, hb⟩ <;>
      rcases hpost with ⟨-, rfl⟩ | ⟨-, c, rfl, hc⟩
    · simpa using hevent
    · simpa using ⟨hevent, hbelongs hc⟩
    · simpa using ⟨hbelongs hb, hevent⟩
    · simpa using ⟨hbelongs hb, hevent, hbelongs hc⟩

variable {rest : List (ReplayEvent Decimal)} {out : List EngineStep}

theorem Expansion.erase (h : Expansion sha256 s current rest out) :
    (eventsOf out).map worth = worth current :: rest.map worth := by
  induction h with
  | last hread hpre hround =>
    rw [hround.steps.eventsOf_eq]
    rfl
  | next hread hpre hround hworth hrest ih =>
    rw [eventsOf_append, hround.steps.eventsOf_eq, List.map_append, ih, hworth]
    rfl

theorem Expansion.key_le (h : Expansion sha256 s current rest out) :
    ∀ event ∈ eventsOf out, eventOrderKey current ≤ eventOrderKey event := by
  induction h with
  | last hread hpre hround =>
    rw [hround.steps.eventsOf_eq]
    simp
  | next hread hpre hround hworth hrest ih =>
    intro event hmem
    rw [eventsOf_append, hround.steps.eventsOf_eq, List.mem_append, List.mem_singleton] at hmem
    rcases hmem with rfl | hmem
    · exact le_rfl
    · exact (hround.order _ rfl).le.trans (ih event hmem)

theorem Expansion.ts_le (h : Expansion sha256 s current rest out) :
    ∀ step ∈ out, current.header.ts ≤ keyTs (stepKey step) := by
  induction h with
  | last hread hpre hround => exact fun step hmem => (hround.steps.ts_eq step hmem).ge
  | next hread hpre hround hworth hrest ih =>
    intro step hmem
    rcases List.mem_append.mp hmem with hmem | hmem
    · exact (hround.steps.ts_eq step hmem).ge
    · exact (keyTs_le (hround.order _ rfl)).trans (ih step hmem)

theorem Expansion.exists_event (h : Expansion sha256 s current rest out) :
    ∀ step ∈ out, ∃ event ∈ eventsOf out, event.header.ts = keyTs (stepKey step) := by
  induction h with
  | last hread hpre hround =>
    intro step hmem
    rw [hround.steps.eventsOf_eq]
    exact ⟨_, List.mem_singleton_self _, (hround.steps.ts_eq step hmem).symm⟩
  | next hread hpre hround hworth hrest ih =>
    intro step hmem
    rw [eventsOf_append, hround.steps.eventsOf_eq]
    rcases List.mem_append.mp hmem with hmem | hmem
    · exact ⟨_, List.mem_append_left _ (List.mem_singleton_self _),
        (hround.steps.ts_eq step hmem).symm⟩
    · obtain ⟨event, hevent, hts⟩ := ih step hmem
      exact ⟨event, List.mem_append_right _ hevent, hts⟩

/-! ### Steps next to each other -/

def IsTrade : EngineStep → Prop
  | .event event => event.eventClass = .tradable
  | .barrier _ => False

def IsPost : EngineStep → Prop
  | .event _ => False
  | .barrier barrier => barrier.kind = postFillLiquidation

def IsPreAt (ts : Timestamp) : EngineStep → Prop
  | .event _ => False
  | .barrier barrier => barrier.kind = preFillLiquidation ∧ barrier.ts = ts

/-- What holds of two steps next to each other: their order, and a trade is followed by the barrier
after it and by nothing else, nor anything else by such a barrier. -/
structure Adjacent (first second : EngineStep) : Prop where
  key_lt : stepKey first < stepKey second
  trade_iff : IsTrade first ↔ IsPost second
  trigger : ∀ event barrier, first = .event event → second = .barrier barrier →
    barrier.kind = postFillLiquidation → barrier.triggerSourceKey = eventOrderKey event

theorem adjacent_of_lt {first second : EngineStep} (hlt : stepKey first < stepKey second)
    (hfirst : ¬IsTrade first) (hsecond : ¬IsPost second) : Adjacent first second := by
  refine ⟨hlt, iff_of_false hfirst hsecond, ?_⟩
  rintro event barrier - rfl hkind
  exact absurd hkind hsecond

theorem phaseOf_tradable (h : event.eventClass = .tradable) : phaseOf event = 50 := by
  rw [phaseOf, h]
  rfl

theorem not_isPost_of_belongsTo
    (h : BelongsTo sha256 barrier preFillLiquidation event fingerprint) :
    ¬IsPost (.barrier barrier) := by
  intro hpost
  have hkind : barrier.kind = postFillLiquidation := hpost
  rw [h.kind_eq] at hkind
  cases hkind

theorem keyPhase_barrier (h : BelongsTo sha256 barrier kind event fingerprint) :
    keyPhase (stepKey (.barrier barrier)) = barrierPhase kind := congrArg barrierPhase h.kind_eq

theorem keyTs_barrier (h : BelongsTo sha256 barrier kind event fingerprint) :
    keyTs (stepKey (.barrier barrier)) = event.header.ts := h.ts_eq

theorem adjacent_event_pre (hphase : phaseOf event < 50)
    (h : BelongsTo sha256 barrier preFillLiquidation event fingerprint) :
    Adjacent (.event event) (.barrier barrier) := by
  refine adjacent_of_lt (key_lt_of_phase (keyTs_barrier h).symm ?_) ?_ (not_isPost_of_belongsTo h)
  · rw [keyPhase_barrier h]
    exact phase_lt_forty hphase
  · intro htrade
    have := phaseOf_tradable htrade
    omega

theorem adjacent_pre_event (hphase : 50 ≤ phaseOf event)
    (h : BelongsTo sha256 barrier preFillLiquidation event fingerprint) :
    Adjacent (.barrier barrier) (.event event) := by
  refine adjacent_of_lt (key_lt_of_phase (keyTs_barrier h) ?_) (fun h => h) (fun h => h)
  rw [keyPhase_barrier h]
  exact lt_of_lt_of_le (by decide) hphase

theorem adjacent_event_post (htrade : event.eventClass = .tradable)
    (h : BelongsTo sha256 barrier postFillLiquidation event fingerprint) :
    Adjacent (.event event) (.barrier barrier) := by
  refine ⟨key_lt_of_phase (keyTs_barrier h).symm ?_, iff_of_true htrade h.kind_eq, ?_⟩
  · rw [keyPhase_barrier h]
    exact (phaseOf_tradable htrade).trans_lt (by decide)
  · rintro _ _ ⟨⟩ ⟨⟩ -
    exact h.trigger_eq

theorem RoundSteps.isChain {preEmitted leaving : Bool}
    (h : RoundSteps sha256 fingerprint current preEmitted leaving steps) :
    steps.IsChain Adjacent := by
  cases h with
  | early hphase => exact .singleton _
  | close barrier hphase hbarrier =>
    exact List.isChain_cons_cons.mpr ⟨adjacent_event_pre hphase hbarrier, .singleton _⟩
  | late opening post _ _ hphase hopening hpost =>
    rcases hopening with ⟨-, rfl⟩ | ⟨-, b, rfl, hb⟩ <;>
      rcases hpost with ⟨-, rfl⟩ | ⟨htrade, c, rfl, hc⟩
    · exact .singleton _
    · exact List.isChain_cons_cons.mpr ⟨adjacent_event_post htrade hc, .singleton _⟩
    · exact List.isChain_cons_cons.mpr ⟨adjacent_pre_event hphase hb, .singleton _⟩
    · exact List.isChain_cons_cons.mpr ⟨adjacent_pre_event hphase hb,
        List.isChain_cons_cons.mpr ⟨adjacent_event_post htrade hc, .singleton _⟩⟩

/-- What a pass can start with: its event, or the barrier in front of it. -/
def Starts (sha256 : WireValue → String) (preEmitted : Bool) (current : ReplayEvent Decimal)
    (step : EngineStep) : Prop :=
  step = .event current ∨ (preEmitted = false ∧ 50 ≤ phaseOf current ∧ ∃ barrier fingerprint,
    step = .barrier barrier ∧ BelongsTo sha256 barrier preFillLiquidation current fingerprint)

theorem RoundSteps.starts {preEmitted leaving : Bool} {step : EngineStep}
    (h : RoundSteps sha256 fingerprint current preEmitted leaving steps)
    (later : List EngineStep) (hstep : (steps ++ later).head? = some step) :
    Starts sha256 preEmitted current step := by
  cases h with
  | early hphase => exact .inl (Option.some.inj hstep).symm
  | close barrier hphase hbarrier => exact .inl (Option.some.inj hstep).symm
  | late opening post _ _ hphase hopening hpost =>
    rcases hopening with ⟨-, rfl⟩ | ⟨hemitted, b, rfl, hb⟩
    · exact .inl (Option.some.inj hstep).symm
    · exact .inr ⟨hemitted, hphase, b, fingerprint, (Option.some.inj hstep).symm, hb⟩

theorem Expansion.starts {step : EngineStep} (h : Expansion sha256 s current rest out)
    (hstep : out.head? = some step) : Starts sha256 s.preEmittedForTs current step := by
  cases h with
  | last hread hpre hround => exact hround.steps.starts [] (by rwa [List.append_nil])
  | next hread hpre hround hworth hrest => exact hround.steps.starts _ hstep

theorem RoundSteps.not_isTrade_last {preEmitted leaving : Bool} {step : EngineStep}
    (h : RoundSteps sha256 fingerprint current preEmitted leaving steps)
    (hstep : steps.getLast? = some step) : ¬IsTrade step := by
  cases h with
  | early hphase =>
    cases hstep
    intro htrade
    have := phaseOf_tradable htrade
    omega
  | close barrier hphase hbarrier =>
    cases hstep
    exact fun h => h
  | late opening post _ _ hphase hopening hpost =>
    rcases hopening with ⟨-, rfl⟩ | ⟨-, b, rfl, hb⟩ <;>
      rcases hpost with ⟨hno, rfl⟩ | ⟨htrade, c, rfl, hc⟩ <;> cases hstep
    · exact hno
    · exact fun h => h
    · exact hno
    · exact fun h => h

theorem Round.adjacent {next : ReplayEvent Decimal} {first second : EngineStep}
    (h : Round sha256 s current (some next) steps s') (hfirst : steps.getLast? = some first)
    (hsecond : Starts sha256 s'.preEmittedForTs next second) : Adjacent first second := by
  have hnotPost : ¬IsPost second := by
    rcases hsecond with rfl | ⟨-, -, b, fp, rfl, hb⟩
    · exact fun h => h
    · exact not_isPost_of_belongsTo hb
  refine adjacent_of_lt ?_ (h.steps.not_isTrade_last hfirst) hnotPost
  have hts : keyTs (stepKey first) = current.header.ts :=
    h.steps.ts_eq first (List.mem_of_getLast? hfirst)
  have htsNext : keyTs (stepKey second) = next.header.ts := by
    rcases hsecond with rfl | ⟨-, -, b, fp, rfl, hb⟩
    · rfl
    · exact hb.ts_eq
  have hle : current.header.ts ≤ next.header.ts := keyTs_le (h.order next rfl)
  cases hleaving : leavingTimestamp current (some next) with
  | true =>
    have hlt := lt_of_le_of_ne hle (ts_ne_of_leaving hleaving).symm
    exact key_lt_of_ts (by rwa [hts, htsNext])
  | false =>
    have hsame := ts_eq_of_not_leaving hleaving
    have hphases := keyPhase_le (h.order next rfl) hsame.symm
    have hemitted := h.preEmitted
    have hsteps := h.steps
    rw [hleaving] at hsteps hemitted
    generalize hpre : s.preEmittedForTs = pre at hsteps
    cases hsteps with
    | early hphase =>
      cases hfirst
      rcases hsecond with rfl | ⟨-, -, b, fp, rfl, hb⟩
      · exact h.order next rfl
      · refine key_lt_of_phase (by rw [hts, htsNext, hsame]) ?_
        rw [keyPhase_barrier hb]
        exact phase_lt_forty hphase
    | late opening post _ _ hphase hopening hpost =>
      -- the barrier of this time was given, so that the next event comes without one
      rw [decide_eq_true hphase] at hemitted
      rcases hsecond with rfl | ⟨hfalse, -⟩
      · rcases hpost with ⟨-, rfl⟩ | ⟨htrade, c, rfl, hc⟩
        · rw [List.getLast?_append_of_ne_nil _ (List.cons_ne_nil _ _)] at hfirst
          cases hfirst
          exact h.order next rfl
        · rw [List.getLast?_append_of_ne_nil _ (List.cons_ne_nil _ _)] at hfirst
          cases hfirst
          refine key_lt_of_phase (by rw [hts, htsNext, hsame]) ?_
          show keyPhase (stepKey (.barrier c)) < phaseOf next
          rw [keyPhase_barrier hc]
          have hne := h.alone next rfl hsame (by rw [htrade]; decide)
          have hle : phaseOf current ≤ phaseOf next := hphases
          rw [phaseOf_tradable htrade] at hle
          rw [htrade] at hne
          unfold phaseOf at hle ⊢
          revert hle hne
          cases next.eventClass <;> decide
      · rw [hemitted] at hfalse
        cases hfalse

theorem Expansion.isChain (h : Expansion sha256 s current rest out) : out.IsChain Adjacent := by
  induction h with
  | last hread hpre hround => exact hround.steps.isChain
  | next hread hpre hround hworth hrest ih =>
    refine hround.steps.isChain.append ih fun first hfirst second hsecond => ?_
    exact hround.adjacent hfirst (hrest.starts hsecond)

theorem Expansion.not_isTrade_last {step : EngineStep} (h : Expansion sha256 s current rest out)
    (hstep : out.getLast? = some step) : ¬IsTrade step := by
  induction h with
  | last hread hpre hround => exact hround.steps.not_isTrade_last hstep
  | next hread hpre hround hworth hrest ih =>
    rename_i out'
    have hne : out' ≠ [] := by
      rintro rfl
      cases hrest.erase
    rw [List.getLast?_append_of_ne_nil _ hne] at hstep
    exact ih hstep

/-! ### One barrier before the trades of each time -/

/-- **Exactly one barrier before the trades of a time**, after all its early events and before all
its late ones. -/
def OneBarrier (ts : Timestamp) (steps : List EngineStep) : Prop :=
  ∃ before barrier after, steps = before ++ .barrier barrier :: after ∧
    IsPreAt ts (.barrier barrier) ∧ (∀ step ∈ before ++ after, ¬IsPreAt ts step) ∧
    (∀ event ∈ eventsOf before, event.header.ts = ts → phaseOf event < 50) ∧
    ∀ event ∈ eventsOf after, event.header.ts = ts → 50 ≤ phaseOf event

theorem OneBarrier.append_left {ts : Timestamp} (h : OneBarrier ts out)
    (hsteps : ∀ step ∈ steps, ¬IsPreAt ts step)
    (hearly : ∀ event ∈ eventsOf steps, event.header.ts = ts → phaseOf event < 50) :
    OneBarrier ts (steps ++ out) := by
  obtain ⟨before, barrier, after, rfl, hpre, hnone, hbefore, hafter⟩ := h
  refine ⟨steps ++ before, barrier, after, by rw [List.append_assoc], hpre, ?_, ?_, hafter⟩
  · intro step hmem
    rw [List.append_assoc] at hmem
    rcases List.mem_append.mp hmem with hmem | hmem
    · exact hsteps step hmem
    · exact hnone step hmem
  · intro event hmem hts
    rw [eventsOf_append] at hmem
    rcases List.mem_append.mp hmem with hmem | hmem
    · exact hearly event hmem hts
    · exact hbefore event hmem hts

theorem not_isPreAt_of_ts_ne {ts : Timestamp} {step : EngineStep}
    (h : keyTs (stepKey step) ≠ ts) : ¬IsPreAt ts step := by
  cases step with
  | event event => exact fun h => h
  | barrier barrier => exact fun hpre => h hpre.2

theorem RoundSteps.not_isPreAt {leaving : Bool} {ts : Timestamp}
    (h : RoundSteps sha256 fingerprint current true leaving steps) :
    ∀ step ∈ steps, ¬IsPreAt ts step := by
  cases h with
  | late opening post _ _ hphase hopening hpost =>
    rcases hopening with ⟨-, rfl⟩ | ⟨hfalse, -⟩
    · rcases hpost with ⟨-, rfl⟩ | ⟨-, c, rfl, hc⟩
      · simp [IsPreAt]
      · simp [IsPreAt, hc.kind_eq]
    · cases hfalse

theorem RoundSteps.oneBarrier {leaving : Bool}
    (h : RoundSteps sha256 fingerprint current false leaving steps)
    (hnone : ∀ step ∈ out, leaving = true ∨ 50 ≤ phaseOf current →
      ¬IsPreAt current.header.ts step)
    (hlate : ∀ event ∈ eventsOf out, event.header.ts = current.header.ts →
      leaving = false ∧ phaseOf current ≤ phaseOf event)
    (hlater : leaving = false → phaseOf current < 50 → OneBarrier current.header.ts out) :
    OneBarrier current.header.ts (steps ++ out) := by
  cases h with
  | early hphase =>
    refine (hlater rfl hphase).append_left ?_ ?_
    · simp [IsPreAt]
    · simpa using hphase
  | close barrier hphase hbarrier =>
    refine ⟨[.event current], barrier, out, rfl, ⟨hbarrier.kind_eq, hbarrier.ts_eq⟩, ?_, ?_, ?_⟩
    · intro step hmem
      rcases List.mem_cons.mp hmem with rfl | hmem
      · exact fun h => h
      · exact hnone step hmem (.inl rfl)
    · simpa using hphase
    · intro event hmem hts
      cases (hlate event hmem hts).1
  | late opening post _ _ hphase hopening hpost =>
    rcases hopening with ⟨hfalse, -⟩ | ⟨-, b, rfl, hb⟩
    · cases hfalse
    · refine ⟨[], b, .event current :: post ++ out, by simp, ⟨hb.kind_eq, hb.ts_eq⟩, ?_, by simp, ?_⟩
      · intro step hmem
        rw [List.nil_append] at hmem
        rcases List.mem_append.mp hmem with hmem | hmem
        · rcases List.mem_cons.mp hmem with rfl | hmem
          · exact fun h => h
          · rcases hpost with ⟨-, rfl⟩ | ⟨-, c, rfl, hc⟩
            · cases hmem
            · rw [List.mem_singleton.mp hmem]
              simp [IsPreAt, hc.kind_eq]
        · exact hnone step hmem (.inr hphase)
      · intro event hmem hts
        rw [eventsOf_append] at hmem
        rcases List.mem_append.mp hmem with hmem | hmem
        · have hown : eventsOf (.event current :: post) = [current] := by
            rcases hpost with ⟨-, rfl⟩ | ⟨-, c, rfl, hc⟩ <;> rfl
          rw [hown, List.mem_singleton] at hmem
          rw [hmem]
          exact hphase
        · exact hphase.trans (hlate event hmem hts).2

/-- **The barriers before the trades**: none for the time of the first event if it was given
before, one otherwise, and one for each later time. -/
theorem Expansion.oneBarrier (h : Expansion sha256 s current rest out) :
    (s.preEmittedForTs = true → ∀ step ∈ out, ¬IsPreAt current.header.ts step) ∧
      (s.preEmittedForTs = false → OneBarrier current.header.ts out) ∧
      ∀ event ∈ eventsOf out, event.header.ts ≠ current.header.ts →
        OneBarrier event.header.ts out := by
  induction h with
  | last hread hpre hround =>
    have hsteps := hround.steps
    refine ⟨fun hemitted => ?_, fun hemitted => ?_, ?_⟩
    · rw [hemitted] at hsteps
      exact hsteps.not_isPreAt
    · rw [hemitted] at hsteps
      have hone : OneBarrier _ (_ ++ []) :=
        hsteps.oneBarrier (by simp) (by simp [eventsOf]) (by intro hfalse; cases hfalse)
      rwa [List.append_nil] at hone
    · rw [hsteps.eventsOf_eq]
      intro event hmem hne
      rw [List.mem_singleton.mp hmem] at hne
      exact absurd rfl hne
  | next hread hpre hround hworth hrest ih =>
    rename_i s₀ s₁ c next f rest₀ steps₀ out₀
    obtain ⟨hgiven, hopen, hlaterTs⟩ := ih
    have hsteps := hround.steps
    have hlt := hround.order f rfl
    have hle : c.header.ts ≤ f.header.ts := keyTs_le hlt
    -- what comes later, at the time of this round
    have hnone : ∀ step ∈ out₀, leavingTimestamp c (some f) = true ∨ 50 ≤ phaseOf c →
        ¬IsPreAt c.header.ts step := by
      intro step hmem hor
      cases hleaving : leavingTimestamp c (some f) with
      | true =>
        refine not_isPreAt_of_ts_ne (ne_of_gt ?_)
        exact (lt_of_le_of_ne hle (ts_ne_of_leaving hleaving).symm).trans_le
          (hrest.ts_le step hmem)
      | false =>
        rw [hleaving] at hor
        have hphase := hor.resolve_left Bool.false_ne_true
        have hemitted := hround.preEmitted
        rw [hleaving, decide_eq_true hphase] at hemitted
        rw [← ts_eq_of_not_leaving hleaving]
        exact hgiven hemitted step hmem
    have hlate : ∀ event ∈ eventsOf out₀, event.header.ts = c.header.ts →
        leavingTimestamp c (some f) = false ∧ phaseOf c ≤ phaseOf event := by
      intro event hmem hts
      have hkey := hlt.trans_le (hrest.key_le event hmem)
      refine ⟨?_, keyPhase_le hkey hts.symm⟩
      by_contra hleaving
      rw [Bool.not_eq_false] at hleaving
      have htsLe : f.header.ts ≤ event.header.ts := hrest.ts_le _ (mem_eventsOf.mp hmem)
      rw [hts] at htsLe
      exact ts_ne_of_leaving hleaving (le_antisymm htsLe hle)
    refine ⟨fun hemitted => ?_, fun hemitted => ?_, ?_⟩
    · intro step hmem
      have hphase := hpre hemitted
      rw [hemitted] at hsteps
      rcases List.mem_append.mp hmem with hmem | hmem
      · exact hsteps.not_isPreAt step hmem
      · exact hnone step hmem (.inr hphase)
    · rw [hemitted] at hsteps
      refine hsteps.oneBarrier hnone hlate fun hleaving hphase => ?_
      have hnext := hround.preEmitted
      rw [hleaving, decide_eq_false (not_le.mpr hphase)] at hnext
      rw [← ts_eq_of_not_leaving hleaving]
      exact hopen hnext
    · intro event hmem hne
      rw [eventsOf_append, hsteps.eventsOf_eq, List.mem_append, List.mem_singleton] at hmem
      rcases hmem with rfl | hmem
      · exact absurd rfl hne
      · have hone : OneBarrier event.header.ts out₀ := by
          by_cases hfirst : event.header.ts = f.header.ts
          · rw [hfirst]
            apply hopen
            by_contra hemitted
            rw [Bool.not_eq_false, hround.preEmitted, Bool.and_eq_true, Bool.not_eq_true'] at hemitted
            exact hne (hfirst.trans (ts_eq_of_not_leaving hemitted.1))
          · exact hlaterTs event hmem hfirst
        refine hone.append_left (fun step hstep => not_isPreAt_of_ts_ne ?_) ?_
        · rw [hsteps.ts_eq step hstep]
          exact hne.symm
        · rw [hsteps.eventsOf_eq]
          intro other hother hts
          rw [List.mem_singleton.mp hother] at hts
          exact absurd hts.symm hne

/-! ### The snapshots at a barrier -/

def activeWith (active : DerivativesSnapshotRefs) (event : ReplayEvent Decimal) :
    DerivativesSnapshotRefs :=
  match event.body.payload with
  | .contractTierEffective snapshotRefs => snapshotRefs
  | _ => active

def activeAfter (opening : DerivativesSnapshotRefs) (steps : List EngineStep) :
    DerivativesSnapshotRefs := (eventsOf steps).foldl activeWith opening

/-- **Every barrier carries the fingerprint of the snapshots that are active where it stands.** -/
def CarriesActive (sha256 : WireValue → String) (opening : DerivativesSnapshotRefs)
    (steps : List EngineStep) : Prop :=
  ∀ before barrier after, steps = before ++ .barrier barrier :: after →
    (activeAfter opening before).fingerprint sha256 = .ok barrier.snapshotSetFingerprint

variable {opening : DerivativesSnapshotRefs}

@[simp] theorem activeAfter_nil : activeAfter opening [] = opening := rfl

@[simp] theorem activeAfter_event : activeAfter opening (.event event :: steps) =
    activeAfter (activeWith opening event) steps := rfl

@[simp] theorem activeAfter_barrier : activeAfter opening (.barrier barrier :: steps) =
    activeAfter opening steps := rfl

theorem activeAfter_append : activeAfter opening (steps ++ out) =
    activeAfter (activeAfter opening steps) out := by
  unfold activeAfter
  rw [eventsOf_append, List.foldl_append]

theorem carriesActive_nil : CarriesActive sha256 opening [] := by
  intro before barrier after h
  cases before <;> cases h

theorem carriesActive_event (h : CarriesActive sha256 (activeWith opening event) steps) :
    CarriesActive sha256 opening (.event event :: steps) := by
  intro before barrier after heq
  cases before with
  | nil => cases heq
  | cons first before =>
    obtain ⟨rfl, htail⟩ := List.cons.inj heq
    exact h before barrier after htail

theorem carriesActive_barrier
    (hfingerprint : opening.fingerprint sha256 = .ok barrier.snapshotSetFingerprint)
    (h : CarriesActive sha256 opening steps) :
    CarriesActive sha256 opening (.barrier barrier :: steps) := by
  intro before other after heq
  cases before with
  | nil =>
    obtain ⟨hbarrier, -⟩ := List.cons.inj heq
    cases hbarrier
    exact hfingerprint
  | cons first before =>
    obtain ⟨rfl, htail⟩ := List.cons.inj heq
    exact h before other after htail

theorem Round.active_eq (h : Round sha256 s current following steps s')
    (hactive : s.activeSnapshotRefs.fingerprint sha256 = .ok s.activeSnapshotSetFingerprint) :
    s'.activeSnapshotRefs = activeWith s.activeSnapshotRefs current ∧
      s'.activeSnapshotRefs.fingerprint sha256 = .ok s'.activeSnapshotSetFingerprint := by
  have hswitch := h.active
  unfold switchSnapshots at hswitch
  unfold activeWith
  cases hpayload : current.body.payload with
  | contractTierEffective snapshotRefs =>
    simp only [hpayload, bind_eq_ok, pure_eq_ok] at hswitch ⊢
    obtain ⟨⟨previous, incoming⟩, htransition, fingerprint, hfingerprint, heq⟩ := hswitch
    obtain ⟨hpair, -⟩ := validateSnapshotTransition_eq_ok htransition
    obtain ⟨rfl, rfl⟩ := Prod.mk.inj hpair
    obtain ⟨hrefs, hsame⟩ := Prod.mk.inj heq
    rw [← hrefs, ← hsame]
    exact ⟨rfl, hfingerprint⟩
  | indexPrice | markPrice | fundingSettlement | tradable | barClose =>
    simp only [hpayload, bind_eq_ok, pure_eq_ok] at hswitch ⊢
    obtain ⟨_, -, heq⟩ := hswitch
    obtain ⟨hrefs, hsame⟩ := Prod.mk.inj heq
    rw [← hrefs, ← hsame]
    exact ⟨rfl, hactive⟩

theorem activeWith_of_late (hread : Read sha256 event) (hphase : 50 ≤ phaseOf event) :
    activeWith opening event = opening := by
  unfold activeWith
  cases hpayload : event.body.payload with
  | contractTierEffective snapshotRefs =>
    rw [phaseOf, hread.kind, hpayload, EventPayload.kind] at hphase
    exact absurd hphase (by decide)
  | indexPrice | markPrice | fundingSettlement | tradable | barClose => rfl

theorem RoundSteps.carriesActive {preEmitted leaving : Bool} (hread : Read sha256 current)
    (hactive : (activeWith opening current).fingerprint sha256 = .ok fingerprint)
    (h : RoundSteps sha256 fingerprint current preEmitted leaving steps)
    (hlater : CarriesActive sha256 (activeWith opening current) out) :
    CarriesActive sha256 opening (steps ++ out) := by
  cases h with
  | early hphase => exact carriesActive_event hlater
  | close barrier hphase hbarrier =>
    refine carriesActive_event (carriesActive_barrier ?_ hlater)
    rw [hactive, hbarrier.fingerprint_eq]
  | late opening' post _ _ hphase hopening hpost =>
    have hevent : CarriesActive sha256 opening (.event current :: post ++ out) := by
      rcases hpost with ⟨-, rfl⟩ | ⟨-, c, rfl, hc⟩
      · exact carriesActive_event hlater
      · refine carriesActive_event (carriesActive_barrier ?_ hlater)
        rw [hactive, hc.fingerprint_eq]
    rcases hopening with ⟨-, rfl⟩ | ⟨-, b, rfl, hb⟩
    · exact hevent
    · refine carriesActive_barrier ?_ hevent
      rw [activeWith_of_late hread hphase] at hactive
      rw [hactive, hb.fingerprint_eq]

theorem Expansion.carriesActive (h : Expansion sha256 s current rest out)
    (hactive : s.activeSnapshotRefs.fingerprint sha256 = .ok s.activeSnapshotSetFingerprint) :
    CarriesActive sha256 s.activeSnapshotRefs out := by
  induction h with
  | last hread hpre hround =>
    obtain ⟨hrefs, hfingerprint⟩ := hround.active_eq hactive
    rw [hrefs] at hfingerprint
    have hsteps := hround.steps.carriesActive hread hfingerprint carriesActive_nil
    rwa [List.append_nil] at hsteps
  | next hread hpre hround hworth hrest ih =>
    obtain ⟨hrefs, hfingerprint⟩ := hround.active_eq hactive
    have hlater := ih hfingerprint
    rw [hrefs] at hfingerprint hlater
    exact hround.steps.carriesActive hread hfingerprint hlater

/-! ### Keys of the steps -/

theorem RoundSteps.engineStepOrderKey_eq {preEmitted leaving : Bool} (hread : Read sha256 current)
    (h : RoundSteps sha256 fingerprint current preEmitted leaving steps) :
    ∀ step ∈ steps, engineStepOrderKey sha256 step = .ok (stepKey step) := by
  have hevent : engineStepOrderKey sha256 (.event current) = .ok (stepKey (.event current)) :=
    bind_eq_ok.mpr ⟨current, hread.again, rfl⟩
  have hbarrier : ∀ {barrier : DerivedLiquidationBarrier} {kind : EngineBarrierKind},
      BelongsTo sha256 barrier kind current fingerprint →
        engineStepOrderKey sha256 (.barrier barrier) = .ok (stepKey (.barrier barrier)) :=
    fun {barrier _} hb => bind_eq_ok.mpr ⟨barrier, hb.valid,
      bind_eq_ok.mpr ⟨(), raiseIf_eq_ok.mpr (by simp), rfl⟩⟩
  cases h with
  | early hphase => simpa using hevent
  | close barrier hphase hb => simpa using ⟨hevent, hbarrier hb⟩
  | late opening post _ _ hphase hopening hpost =>
    rcases hopening with ⟨-, rfl⟩ | ⟨-, b, rfl, hb⟩ <;>
      rcases hpost with ⟨-, rfl⟩ | ⟨-, c, rfl, hc⟩
    · simpa using hevent
    · simpa using ⟨hevent, hbarrier hc⟩
    · simpa using ⟨hbarrier hb, hevent⟩
    · simpa using ⟨hbarrier hb, hevent, hbarrier hc⟩

theorem Expansion.engineStepOrderKey_eq (h : Expansion sha256 s current rest out) :
    ∀ step ∈ out, engineStepOrderKey sha256 step = .ok (stepKey step) := by
  induction h with
  | last hread hpre hround => exact hround.steps.engineStepOrderKey_eq hread
  | next hread hpre hround hworth hrest ih =>
    intro step hmem
    rcases List.mem_append.mp hmem with hmem | hmem
    · exact hround.steps.engineStepOrderKey_eq hread step hmem
    · exact ih step hmem

def KeysIncrease (sha256 : WireValue → String) (steps : List EngineStep) : Prop :=
  ∃ keys, steps.mapM (engineStepOrderKey sha256) = .ok keys ∧ keys.Pairwise (· < ·)

theorem mapM_engineStepOrderKey
    (h : ∀ step ∈ steps, engineStepOrderKey sha256 step = .ok (stepKey step)) :
    steps.mapM (engineStepOrderKey sha256) = .ok (steps.map stepKey) := by
  induction steps with
  | nil => rfl
  | cons step steps ih =>
    rw [List.mapM_cons, h step List.mem_cons_self, ok_bind,
      ih fun other hmem => h other (List.mem_cons_of_mem _ hmem), ok_bind]
    rfl

theorem Expansion.keysIncrease (h : Expansion sha256 s current rest out) :
    KeysIncrease sha256 out := by
  refine ⟨out.map stepKey, mapM_engineStepOrderKey h.engineStepOrderKey_eq, ?_⟩
  refine List.isChain_iff_pairwise.mp ?_
  rw [List.isChain_map]
  exact h.isChain.imp fun first second hadjacent => hadjacent.key_lt

/-! ### The barrier after a trade -/

theorem rel_of_isChain {α : Type} {r : α → α → Prop} {before after : List α} {first second : α}
    (h : (before ++ first :: second :: after).IsChain r) : r first second :=
  (List.isChain_cons_cons.mp (List.isChain_append.mp h).2.1).1

/-- **The barriers after trades**: each trade is followed by one directly, and each of them
follows a trade directly. -/
structure PostBarriers (steps : List EngineStep) : Prop where
  follows : ∀ before event after, steps = before ++ .event event :: after →
    event.eventClass = .tradable → ∃ barrier later, after = .barrier barrier :: later ∧
      barrier.kind = postFillLiquidation ∧ barrier.triggerSourceKey = eventOrderKey event
  preceded : ∀ before barrier after, steps = before ++ .barrier barrier :: after →
    barrier.kind = postFillLiquidation → ∃ earlier event, before = earlier ++ [.event event] ∧
      event.eventClass = .tradable

theorem Expansion.postBarriers (h : Expansion sha256 s current rest out) : PostBarriers out := by
  constructor
  · rintro before event after rfl htrade
    cases after with
    | nil => exact absurd htrade (h.not_isTrade_last (List.getLast?_append_cons ..))
    | cons next after =>
      have hadjacent : Adjacent _ _ := rel_of_isChain h.isChain
      have hpost : IsPost next := hadjacent.trade_iff.mp htrade
      cases next with
      | event other => exact hpost.elim
      | barrier barrier =>
        exact ⟨barrier, after, rfl, hpost, hadjacent.trigger event barrier rfl rfl hpost⟩
  · rintro before barrier after rfl hkind
    rcases List.eq_nil_or_concat before with rfl | ⟨earlier, first, rfl⟩
    · rcases h.starts rfl with hstart | ⟨-, -, b, fp, hstart, hb⟩
      · cases hstart
      · cases hstart
        exact absurd hkind (not_isPost_of_belongsTo hb)
    · rw [List.concat_eq_append, List.append_assoc] at h
      rw [List.concat_eq_append]
      have hadjacent : Adjacent _ _ := rel_of_isChain h.isChain
      have htrade : IsTrade first := hadjacent.trade_iff.mpr hkind
      cases first with
      | event event => exact ⟨earlier, event, rfl, htrade⟩
      | barrier other => exact htrade.elim

end Rounds

/-! ### The whole pass -/

/-- What a pass gives for the events `events`, from the snapshots `opening`. -/
structure BarriersPlaced (sha256 : WireValue → String) (events : List (ReplayEvent Decimal))
    (opening : DerivativesSnapshotRefs) (out : List EngineStep) : Prop where
  erase : (eventsOf out).map worth = events.map worth
  oneBarrier : ∀ event ∈ eventsOf out, OneBarrier event.header.ts out
  noOther : ∀ step ∈ out, ∃ event ∈ eventsOf out, event.header.ts = keyTs (stepKey step)
  postBarriers : PostBarriers out
  keysIncrease : KeysIncrease sha256 out
  carriesActive : CarriesActive sha256 opening out

/-- **What the pass gives** for every sequence of events that it accepts. -/
theorem expandEngineBarriers_spec (sha256 : WireValue → String)
    (events : List (ReplayEvent Decimal)) (opening : DerivativesSnapshotRefs)
    (h : (expandEngineBarriers sha256 events opening).error = none) :
    BarriersPlaced sha256 events opening (expandEngineBarriers sha256 events opening).emitted := by
  unfold expandEngineBarriers at h ⊢
  cases hopen : openSnapshots sha256 opening with
  | error e => simp only [hopen, reduceCtorEq] at h
  | ok pair =>
    obtain ⟨active, fingerprint⟩ := pair
    simp only [hopen] at h ⊢
    simp only [openSnapshots, bind_eq_ok, raiseIf_eq_ok, pure_eq_ok, not_not, ne_eq] at hopen
    obtain ⟨dict, -, refs, -, _, rfl, fp, hfingerprint, heq⟩ := hopen
    obtain ⟨rfl, rfl⟩ := Prod.mk.inj heq
    cases events with
    | nil =>
      exact ⟨rfl, by simp, by simp, ⟨by simp, by simp⟩, ⟨[], rfl, .nil⟩, carriesActive_nil⟩
    | cons first rest =>
      cases hfirst : revalidateReplayEvent sha256 first with
      | error e => simp only [hfirst, reduceCtorEq] at h
      | ok current =>
        simp only [hfirst] at h ⊢
        obtain ⟨hread, hworth⟩ := read_of_revalidate hfirst
        have hexp := expansion_of_expandLoop hread (by rintro ⟨⟩) h
        obtain ⟨-, hopening, hlater⟩ := hexp.oneBarrier
        refine ⟨by rw [hexp.erase, hworth, List.map_cons], fun event hmem => ?_,
          hexp.exists_event, hexp.postBarriers, hexp.keysIncrease,
          hexp.carriesActive hfingerprint⟩
        by_cases hts : event.header.ts = current.header.ts
        · rw [hts]
          exact hopening rfl
        · exact hlater event hmem hts

/-- A trade at the time of `indexEvent`. -/
def tradeEvent : ReplayEvent Decimal :=
  { header :=
      { eventType := .tradable, ts := indexEvent.header.ts, sourceSequence := 8
        eventId := "4d1718be7c2e47459e6feddc8d6c38dcfae876d80ff3f2e3bb3f7dc638bdc944" }
    body :=
      { sourceRef := { indexEvent.body.sourceRef with streamId := "tradable" }
        payload := .tradable (.finite { negative := false, coefficient := 105, exponent := -1 })
          (.finite { negative := false, coefficient := 2, exponent := 0 }) .taker } }

/-- The digests of the two events, of the two barriers and of the set. -/
def digestOf (value : WireValue) : String :=
  if isStr (value.get "event_type") "index_price" then indexEvent.header.eventId
  else if isStr (value.get "event_type") "tradable" then tradeEvent.header.eventId
  else if isStr (value.get "barrier_type") "pre_fill_liquidation" then
    "19308e4f5daa17ee8e8ac064f07801b71ee8ed37ee5dd3256f88a1fb61163125"
  else if isStr (value.get "barrier_type") "post_fill_liquidation" then
    "6fff83fb4e2aae306a56b3e099a09af852a2b1469042e7ac5f0a22c8a6ebb3fe"
  else newYearFingerprint

theorem tradeEvent_valid : ValidEvent digestOf tradeEvent :=
  validEvent_iff.mpr ⟨by decide +kernel,
    validateHeader_of_digest rfl
      ⟨by decide +kernel, by decide, admits_ofList (by decide),
        { indexSourceRef_valid with streamId := admits_ofList (by decide) }⟩ rfl
        (by decide +kernel),
    rfl⟩

theorem expandStep_indexEvent :
    expandStep digestOf
      { activeSnapshotRefs := newYearRefs, activeSnapshotSetFingerprint := newYearFingerprint }
      (mapDecimals Decimal.trimmed indexEvent) (some (mapDecimals Decimal.trimmed tradeEvent)) =
        .ok ([.event (mapDecimals Decimal.trimmed indexEvent)],
          { activeSnapshotRefs := newYearRefs, activeSnapshotSetFingerprint := newYearFingerprint
            previousKey := some (eventOrderKey indexEvent) }) := by
  have hvalidateAt : newYearRefs.validateAt indexEvent.header.ts = .ok () := by decide +kernel
  refine bind_eq_ok.mpr ⟨(), by decide +kernel,
    bind_eq_ok.mpr ⟨(newYearRefs, newYearFingerprint),
      bind_eq_ok.mpr ⟨(), hvalidateAt, rfl⟩, ?_⟩⟩
  exact bind_eq_ok.mpr ⟨(), rfl, bind_eq_ok.mpr ⟨[], rfl, bind_eq_ok.mpr ⟨(), rfl,
    bind_eq_ok.mpr ⟨[], rfl, bind_eq_ok.mpr ⟨[], rfl, rfl⟩⟩⟩⟩⟩

theorem expandStep_tradeEvent : ∃ steps s', expandStep digestOf
      { activeSnapshotRefs := newYearRefs, activeSnapshotSetFingerprint := newYearFingerprint
        previousKey := some (eventOrderKey indexEvent) }
      (mapDecimals Decimal.trimmed tradeEvent) none = .ok (steps, s') := by
  have hvalidateAt : newYearRefs.validateAt tradeEvent.header.ts = .ok () := by decide +kernel
  have hheader := (headerValid_of_validateHeader (validEvent_iff.mp tradeEvent_valid).2.1).2
  obtain ⟨early, hearly⟩ : ∃ barrier, barrierOf digestOf preFillLiquidation
      (mapDecimals Decimal.trimmed tradeEvent) newYearFingerprint = .ok barrier :=
    barrierOf_of_digest "19308e4f5daa17ee8e8ac064f07801b71ee8ed37ee5dd3256f88a1fb61163125" hheader
      (by rintro ⟨⟩) (admits_ofList (by decide)) (admits_ofList (by decide)) (by decide +kernel)
  obtain ⟨post, hpost⟩ : ∃ barrier, barrierOf digestOf postFillLiquidation
      (mapDecimals Decimal.trimmed tradeEvent) newYearFingerprint = .ok barrier :=
    barrierOf_of_digest "6fff83fb4e2aae306a56b3e099a09af852a2b1469042e7ac5f0a22c8a6ebb3fe" hheader
      (fun _ => rfl) (admits_ofList (by decide)) (admits_ofList (by decide)) (by decide +kernel)
  refine ⟨[.barrier early, .event (mapDecimals Decimal.trimmed tradeEvent), .barrier post],
    { activeSnapshotRefs := newYearRefs, activeSnapshotSetFingerprint := newYearFingerprint
      previousKey := some (eventOrderKey tradeEvent) }, ?_⟩
  refine bind_eq_ok.mpr ⟨(), rfl, bind_eq_ok.mpr ⟨(newYearRefs, newYearFingerprint),
    bind_eq_ok.mpr ⟨(), hvalidateAt, rfl⟩, ?_⟩⟩
  refine bind_eq_ok.mpr ⟨(), rfl, bind_eq_ok.mpr ⟨[.barrier early],
    bind_eq_ok.mpr ⟨early, hearly, rfl⟩, ?_⟩⟩
  refine bind_eq_ok.mpr ⟨(), rfl, bind_eq_ok.mpr ⟨[.barrier post],
    bind_eq_ok.mpr ⟨post, hpost, rfl⟩, ?_⟩⟩
  exact bind_eq_ok.mpr ⟨[], rfl, rfl⟩

theorem expandEngineBarriers_trade :
    (expandEngineBarriers digestOf [indexEvent, tradeEvent] newYearRefs).error = none := by
  have hopen : openSnapshots digestOf newYearRefs = .ok (newYearRefs, newYearFingerprint) :=
    openSnapshots_of_valid newYearRefs_valid (by decide +kernel)
  have hindex : revalidateReplayEvent digestOf indexEvent = .ok _ :=
    revalidateReplayEvent_of_valid (indexEvent_valid (by decide +kernel))
  have htrade := revalidateReplayEvent_of_valid tradeEvent_valid
  obtain ⟨steps, s', hlast⟩ := expandStep_tradeEvent
  rw [expandEngineBarriers_of_ok hopen hindex,
    error_expandLoop_cons rfl htrade expandStep_indexEvent]
  exact error_expandLoop_last (by decide +kernel) hlast

theorem expandEngineBarriers_spec_trade :
    BarriersPlaced digestOf [indexEvent, tradeEvent] newYearRefs
      (expandEngineBarriers digestOf [indexEvent, tradeEvent] newYearRefs).emitted :=
  expandEngineBarriers_spec digestOf [indexEvent, tradeEvent] newYearRefs
    expandEngineBarriers_trade

end Aats.Replay
