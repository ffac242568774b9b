import Aats.Replay.BacktestEquity
import Mathlib.Data.List.Sort

/-!
# The metrics of an equity curve, computed twice

The equity builder computes the drawdown and the return of a point when it records it. The validation
of an artifact does not trust these figures: `recompute_equity_curve_metrics` computes them again from
the equities and the times of the whole curve. Both hand the curve to one computation of the risk
proxy, which is a ratio of floats and a parameter here; before that it refuses times that do not
increase.

## Main results
* `recompute_eq_recorded` — **both compute the same**, on every curve that was recorded.
-/

namespace Aats.Replay.Backtest

open Domain Fallible

variable (contract : InstrumentContract) (fingerprint : InstrumentContract → String)

section RiskProxy

variable {R : Type} [Zero R] (riskProxy : List ℚ → List ℤ → Except ValueError R)

/-! ### The risk proxy -/

/-- `_compute_pnl_increment_sharpe`: the increments of the equity and the sorted spacings. -/
def computePnlIncrementSharpe (curve : List EquityPoint) : Except ValueError R :=
  let steps := curve.zip curve.tail
  let returns := steps.map fun step =>
    InstrumentContract.addSettlementAmounts [step.2.equity, -step.1.equity]
  let spacings : List ℤ := (steps.map fun step => step.2.tsMs - step.1.tsMs).insertionSort (· ≤ ·)
  if curve.length < 3 then .ok 0
  else do
    raiseIf (spacings.head?.getD 0 ≤ 0) { text := "equity_sharpe_invalid_cadence" }
    riskProxy returns spacings

/-! ### The summary of the builder -/

structure BacktestSummary (R : Type) where
  initialEquity : ℚ := Backtest.initialEquity
  finalEquity : ℚ := 0
  cumulativePnl : ℚ := 0
  maxDrawdownBps : ℚ := 0
  sharpeRatio : R
  fillCount : ℕ := 0
  feeTotal : ℚ := 0
  barCount : ℕ := 0
  startTsMs : ℤ := 0
  endTsMs : ℤ := 0
  settlementCurrency : String
  instrumentSymbol : String
  instrumentContractFingerprint : String
  riskMetricPolicyId : String := "calendar-365.25-bar-pnl-increment/v1"

def EquityBuilder.summary (builder : EquityBuilder) : Except ValueError (BacktestSummary R) :=
  match builder.curve.head?, builder.curve.getLast? with
  | some first, some last => do
    let sharpeRatio ← computePnlIncrementSharpe riskProxy builder.curve
    return {
      finalEquity := last.equity
      cumulativePnl := last.cumulativePnl
      maxDrawdownBps := (builder.curve.map (·.drawdownBps)).max?.getD 0
      sharpeRatio
      fillCount := builder.latestFillCount
      feeTotal := builder.latestFees
      barCount := builder.curve.length
      startTsMs := first.tsMs
      endTsMs := last.tsMs
      settlementCurrency := contract.settleCurrency
      instrumentSymbol := symbolText contract
      instrumentContractFingerprint := fingerprint contract }
  | _, _ => .ok {
      sharpeRatio := 0
      settlementCurrency := contract.settleCurrency
      instrumentSymbol := symbolText contract
      instrumentContractFingerprint := fingerprint contract }

/-! ### The second computation -/

/-- The variables of the loop of `recompute_equity_curve_metrics`, with the points before. -/
structure Recomputation where
  prior : List EquityPoint := []
  peak : ℚ := 0
  expected : List (ℚ × ℚ) := []

def Recomputation.step (s : Recomputation) (point : EquityPoint) :
    Except ValueError Recomputation := do
  let current := point.equity
  let candidatePeak := if s.prior = [] ∨ s.peak < current then current else s.peak
  let drawdown := InstrumentContract.addSettlementAmounts [candidatePeak, -current]
  let expectedDrawdown ← (if drawdown ≤ 0 then .ok 0
    else InstrumentContract.settlementBasisPoints drawdown (max |candidatePeak| 1))
  let expectedDaily ← (match s.prior.find? (point.tsMs - dayMs ≤ ·.tsMs) with
    | none => .ok 0
    | some baseline => InstrumentContract.settlementBasisPoints
        (InstrumentContract.addSettlementAmounts [current, -baseline.equity])
        (max |baseline.equity| 1))
  return {
    prior := s.prior ++ [point]
    peak := candidatePeak
    expected := s.expected ++ [(expectedDrawdown, expectedDaily)] }

def recomputation (curve : List EquityPoint) : Except ValueError Recomputation :=
  curve.foldlM Recomputation.step {}

def recomputeEquityCurveMetrics (curve : List EquityPoint) :
    Except ValueError (List (ℚ × ℚ) × R) := do
  let computed ← recomputation curve
  let sharpe ← computePnlIncrementSharpe riskProxy curve
  return (computed.expected, sharpe)

end RiskProxy

/-! ### Recording -/

/-- The builder after a call, which leaves it as it was if it raises. -/
def EquityBuilder.recorded (builder : EquityBuilder) (snapshot : PositionSnapshot) :
    EquityBuilder :=
  match builder.record contract fingerprint snapshot with
  | .ok (_, next) => next
  | .error _ => builder

def recordAll (snapshots : List PositionSnapshot) : EquityBuilder :=
  snapshots.foldl (EquityBuilder.recorded contract fingerprint) {}

/-- The drawdown and the return that the builder gave a point. -/
def EquityPoint.metrics (point : EquityPoint) : ℚ × ℚ := (point.drawdownBps, point.dailyReturnBps)

/-- What the second computation has after the points of a builder. -/
def EquityBuilder.asRecomputation (builder : EquityBuilder) : Recomputation where
  prior := builder.curve
  peak := builder.peak
  expected := builder.curve.map (·.metrics)

variable {contract fingerprint} {builder next : EquityBuilder} {snapshot : PositionSnapshot}
  {point : EquityPoint}

theorem step_asRecomputation
    (h : builder.record contract fingerprint snapshot = .ok (point, next)) :
    next.curve = builder.curve ++ [point] ∧
      builder.asRecomputation.step point = .ok next.asRecomputation := by
  obtain ⟨-, -, h⟩ := bind_eq_ok.mp h
  obtain ⟨-, -, h⟩ := bind_eq_ok.mp h
  obtain ⟨-, -, h⟩ := bind_eq_ok.mp h
  obtain ⟨drawdown, hdrawdown, h⟩ := bind_eq_ok.mp h
  obtain ⟨daily, hdaily, h⟩ := bind_eq_ok.mp h
  obtain ⟨rfl, rfl⟩ := Prod.mk.inj (Except.ok.inj h)
  refine ⟨rfl, ?_⟩
  unfold computeDrawdownBps at hdrawdown
  unfold EquityBuilder.computeDailyReturnBps at hdaily
  unfold Recomputation.step EquityBuilder.asRecomputation
  dsimp only at hdrawdown hdaily ⊢
  refine bind_eq_ok.mpr ⟨drawdown, hdrawdown, bind_eq_ok.mpr ⟨daily, hdaily, ?_⟩⟩
  simp only [List.map_append, List.map_cons, List.map_nil]
  rfl

theorem recorded_asRecomputation (builder : EquityBuilder) (snapshot : PositionSnapshot)
    (h : recomputation builder.curve = .ok builder.asRecomputation) :
    recomputation (builder.recorded contract fingerprint snapshot).curve =
      .ok (builder.recorded contract fingerprint snapshot).asRecomputation := by
  unfold EquityBuilder.recorded
  cases hrecord : builder.record contract fingerprint snapshot with
  | error e => exact h
  | ok result =>
    obtain ⟨point, next⟩ := result
    obtain ⟨hcurve, hstep⟩ := step_asRecomputation hrecord
    show recomputation next.curve = .ok next.asRecomputation
    unfold recomputation at h ⊢
    rw [hcurve, List.foldlM_append, h, ok_bind, List.foldlM_cons, hstep, ok_bind]
    rfl

theorem recomputation_recordAll (snapshots : List PositionSnapshot) :
    recomputation (recordAll contract fingerprint snapshots).curve =
      .ok (recordAll contract fingerprint snapshots).asRecomputation := by
  unfold recordAll
  induction snapshots using List.reverseRecOn with
  | nil => rfl
  | append_singleton snapshots snapshot ih =>
    rw [List.foldl_append]
    exact recorded_asRecomputation _ snapshot ih

theorem curve_prefix_recorded (builder : EquityBuilder) (snapshot : PositionSnapshot) :
    builder.curve <+: (builder.recorded contract fingerprint snapshot).curve := by
  unfold EquityBuilder.recorded
  cases hrecord : builder.record contract fingerprint snapshot with
  | error e => exact List.prefix_refl _
  | ok result =>
    obtain ⟨point, next⟩ := result
    show builder.curve <+: next.curve
    rw [(step_asRecomputation hrecord).1]
    exact List.prefix_append _ _

theorem curve_prefix_recordAll (before after : List PositionSnapshot) :
    (recordAll contract fingerprint before).curve <+:
      (recordAll contract fingerprint (before ++ after)).curve := by
  unfold recordAll
  rw [List.foldl_append]
  generalize before.foldl (EquityBuilder.recorded contract fingerprint) {} = builder
  induction after generalizing builder with
  | nil => exact List.prefix_refl _
  | cons snapshot after ih => exact (curve_prefix_recorded builder snapshot).trans (ih _)

/-- **The metrics that are computed again are those that were recorded.**  At every point of a
sequence of calls the loop has the peak of the builder. At the end it gives the drawdown and the
return of every point, and the risk proxy and the largest drawdown are those of the summary; or both
raise what the risk proxy raises. -/
theorem recompute_eq_recorded {R : Type} [Zero R]
    (riskProxy : List ℚ → List ℤ → Except ValueError R) (before after : List PositionSnapshot) :
    let atPoint := recordAll contract fingerprint before
    let builder := recordAll contract fingerprint (before ++ after)
    (atPoint.curve <+: builder.curve ∧
      ∃ loop, recomputation atPoint.curve = .ok loop ∧ loop.peak = atPoint.peak) ∧
    (∀ e, computePnlIncrementSharpe riskProxy builder.curve = .error e →
      recomputeEquityCurveMetrics riskProxy builder.curve = .error e ∧
      (builder.curve ≠ [] → builder.summary contract fingerprint riskProxy = .error e)) ∧
    ∀ sharpe, computePnlIncrementSharpe riskProxy builder.curve = .ok sharpe →
      ∃ metrics summary,
        recomputeEquityCurveMetrics riskProxy builder.curve = .ok (metrics, sharpe) ∧
        metrics = builder.curve.map (fun point => (point.drawdownBps, point.dailyReturnBps)) ∧
        builder.summary contract fingerprint riskProxy = .ok summary ∧
        (builder.curve ≠ [] → summary.sharpeRatio = sharpe) ∧
        (metrics.map Prod.fst).max?.getD 0 = summary.maxDrawdownBps := by
  intro atPoint builder
  have hloop : recomputation builder.curve = .ok builder.asRecomputation :=
    recomputation_recordAll (before ++ after)
  refine ⟨⟨curve_prefix_recordAll before after, _, recomputation_recordAll before, rfl⟩, ?_, ?_⟩
  · intro e he
    refine ⟨?_, fun hne => ?_⟩
    · unfold recomputeEquityCurveMetrics
      rw [hloop, ok_bind, he, error_bind]
    · obtain ⟨first, rest, hcurve⟩ := List.exists_cons_of_ne_nil hne
      unfold EquityBuilder.summary
      rw [he, hcurve, List.head?_cons, List.getLast?_cons]
      rfl
  · intro sharpe hsharpe
    have hmetrics : recomputeEquityCurveMetrics riskProxy builder.curve =
        .ok (builder.curve.map (·.metrics), sharpe) := by
      unfold recomputeEquityCurveMetrics
      rw [hloop, ok_bind, hsharpe, ok_bind]
      rfl
    have hdrawdowns : (builder.curve.map (·.metrics)).map Prod.fst =
        builder.curve.map (·.drawdownBps) := by
      rw [List.map_map]
      rfl
    unfold EquityBuilder.summary
    rw [hsharpe]
    cases hcurve : builder.curve with
    | nil =>
      rw [hcurve] at hmetrics
      exact ⟨_, _, hmetrics, rfl, rfl, fun hne => absurd rfl hne, rfl⟩
    | cons first rest =>
      rw [hcurve] at hmetrics hdrawdowns
      rw [List.head?_cons, List.getLast?_cons]
      refine ⟨_, _, hmetrics, rfl, rfl, fun _ => rfl, ?_⟩
      rw [hdrawdowns]

theorem recompute_eq_recorded_marked :
    let builder := recordAll btcUsdtSpot (fun _ => btcUsdtSpotFingerprint) ([] ++ [markedSnapshot])
    ∃ metrics summary,
      recomputeEquityCurveMetrics (fun _ _ => .ok (1 : ℚ)) builder.curve = .ok (metrics, 0) ∧
      metrics = builder.curve.map (fun point => (point.drawdownBps, point.dailyReturnBps)) ∧
      builder.summary btcUsdtSpot (fun _ => btcUsdtSpotFingerprint) (fun _ _ => .ok (1 : ℚ)) =
        .ok summary ∧
      (builder.curve ≠ [] → summary.sharpeRatio = 0) ∧
      (metrics.map Prod.fst).max?.getD 0 = summary.maxDrawdownBps :=
  (recompute_eq_recorded (fun _ _ => .ok (1 : ℚ)) [] [markedSnapshot]).2.2 0 (by decide +kernel)

/-- **Snapshots of one time are recorded, and their metrics are not computed again**: the times of
three points do not increase. -/
theorem recompute_refuses_markedThreeTimes :
    ¬ ∀ (contract : InstrumentContract) (fingerprint : InstrumentContract → String)
      (riskProxy : List ℚ → List ℤ → Except ValueError ℚ) (snapshots : List PositionSnapshot),
      (recordAll contract fingerprint snapshots).curve.length = snapshots.length →
      (∀ returns spacings, ∃ ratio, riskProxy returns spacings = .ok ratio) →
      ∃ metrics sharpe, recomputeEquityCurveMetrics riskProxy
          (recordAll contract fingerprint snapshots).curve = .ok (metrics, sharpe) ∧
        metrics = (recordAll contract fingerprint snapshots).curve.map
          fun point => (point.drawdownBps, point.dailyReturnBps) := by
  intro h
  obtain ⟨metrics, sharpe, hmetrics, -⟩ := h btcUsdtSpot (fun _ => btcUsdtSpotFingerprint)
    (fun _ _ => .ok 1) [markedSnapshot, markedSnapshot, markedSnapshot] (by decide +kernel)
    (fun _ _ => ⟨1, rfl⟩)
  have hrefused : recomputeEquityCurveMetrics (fun _ _ => .ok (1 : ℚ))
      (recordAll btcUsdtSpot (fun _ => btcUsdtSpotFingerprint)
        [markedSnapshot, markedSnapshot, markedSnapshot]).curve =
      .error { text := "equity_sharpe_invalid_cadence" } := by
    decide +kernel
  rw [hrefused] at hmetrics
  cases hmetrics

end Aats.Replay.Backtest
