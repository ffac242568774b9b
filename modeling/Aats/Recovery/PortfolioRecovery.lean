import Aats.Portfolio.FifoAndAverage
import Aats.Portfolio.Snapshots

/-!
# Restoring the portfolio

The portfolio part of `ExecutionRecoveryService.recover` (`execution_engine/recovery.py`) and the
rebuild of `portfolio_service/reconstruction.py`. The latest snapshot is loaded with all fills
marked as applied, then compared with a rebuild from the fills, at the prices of the recovery,
and replaced by it if they differ.

## Main results
* `divergenceCount_eq_zero` — nothing diverges exactly when holdings and valuation agree.
-/

namespace Aats.Recovery

open Portfolio
open Execution (Timestamp)

/-! ### Inputs -/

/-- What a backfilled or stored outcome says about a fill: `FillOutcomeRecord`. -/
structure FillOutcome where
  fillId : String
  startingPositionQty : ℚ
  startingAvgEntryPrice : ℚ
  endingPositionQty : ℚ
  endingAvgEntryPrice : ℚ
  realizedPnlDelta : ℚ
  feeDelta : ℚ
  balancesBefore : Balances
  balancesAfter : Balances
  deriving DecidableEq

/-- What the portfolio part reads: the settings, the prices and the clock, and what is stored for
the scope.  `history` holds the snapshots in the order they were saved; fill ids are unique. -/
structure PortfolioInputs where
  productType : ProductType := .derivatives
  marginMode : MarginMode := .cross
  bootstrapPortfolioFromExchange : Bool := true
  reconstructionInitialBalance : ℚ := 0
  effectiveInitialBalance : ℚ := 0
  livePrice : PriceProvider
  now : Timestamp
  fills : List FillRecord
  nodup_fillId : (fills.map (·.fillId)).Nodup
  history : List PortfolioSnapshot
  outcomes : Option (List FillOutcome) := none
  hasOutboxPublisher : Bool := true
  memory : PortfolioState := {}

/-- `latest_snapshot_for_scope`. -/
def PortfolioInputs.latestSnapshot (inputs : PortfolioInputs) : Option PortfolioSnapshot :=
  inputs.history.getLast?

/-- The later of two snapshots by `(snapshot_ts, created_at)`, the first one if neither is. -/
def laterSnapshot (best snapshot : PortfolioSnapshot) : PortfolioSnapshot :=
  if best.snapshotTs < snapshot.snapshotTs ∨
      best.snapshotTs = snapshot.snapshotTs ∧ best.createdAt < snapshot.createdAt then snapshot
  else best

/-- `_trusted_baseline_snapshot`: `max` over the snapshots with a trusted origin. -/
def PortfolioInputs.trustedBaseline (inputs : PortfolioInputs) : Option PortfolioSnapshot :=
  match inputs.history.filter (·.snapshotOrigin.isTrustedBaseline) with
  | [] => none
  | candidate :: candidates => some (candidates.foldl laterSnapshot candidate)

/-! ### Prices -/

/-- The mark that `_recovery_price_provider` reads off a position. -/
def snapshotMark (position : Position) : Option ℚ :=
  if |position.unrealizedPnl| ≤ 1 / 10 ^ 8 ∧ 0 < position.avgEntryPrice then
    some position.avgEntryPrice
  else if 1 / 10 ^ 8 < |position.positionQty| then
    some (position.positionNotional / position.positionQty)
  else if 0 < position.avgEntryPrice then some position.avgEntryPrice
  else none

/-- The mark of a symbol: the last one that a position of the snapshot has set. -/
def snapshotMarkOf (snapshot : PortfolioSnapshot) (symbol : String) : Option ℚ :=
  snapshot.positions.entries.foldl
    (fun mark entry => if entry.2.symbol = symbol then (snapshotMark entry.2).or mark else mark) none

/-- `_recovery_price_provider`: the live price, else the mark of the snapshot. -/
def recoveryPrices (inputs : PortfolioInputs) (snapshot : PortfolioSnapshot) : PriceProvider :=
  fun symbol =>
    if 0 < inputs.livePrice symbol then inputs.livePrice symbol
    else (snapshotMarkOf snapshot symbol).getD 0

/-! ### The rebuild -/

def initialState (usdt : ℚ) : PortfolioState where
  balances := AList.insert "USDT" usdt ∅

def orderedFills (fills : List FillRecord) : List FillEvent :=
  (sortedFills fills).map FillRecord.toFillEvent

def rebuildState (usdt : ℚ) (fills : List FillRecord) :
    Except UnsupportedFeeCurrencyError PortfolioState :=
  replay (initialState usdt) (orderedFills fills)

/-- The fills that are applied to a baseline: those taken in at its time or later. -/
def fillsSince (fills : List FillRecord) (baseline : PortfolioSnapshot) : List FillRecord :=
  (sortedFills fills).filter (fun fill => baseline.snapshotTs ≤ fill.ingestionTimestamp)

def rebuildFromBaseline (fills : List FillRecord) (baseline : PortfolioSnapshot) :
    Except UnsupportedFeeCurrencyError PortfolioState :=
  replay (loadPortfolioSnapshot baseline ∅ 0)
    ((fillsSince fills baseline).map FillRecord.toFillEvent)

/-- The baseline a rebuild starts from: none unless the portfolio comes from the exchange. -/
def PortfolioInputs.baseline (inputs : PortfolioInputs) : Option PortfolioSnapshot :=
  if inputs.bootstrapPortfolioFromExchange = true then inputs.trustedBaseline else none

def rebuiltState (inputs : PortfolioInputs) (fills : List FillRecord) :
    Except UnsupportedFeeCurrencyError PortfolioState :=
  match inputs.baseline with
  | none => rebuildState inputs.reconstructionInitialBalance fills
  | some baseline => rebuildFromBaseline fills baseline

def PortfolioInputs.baselineStart (inputs : PortfolioInputs) : PortfolioState :=
  match inputs.baseline with
  | none => initialState inputs.reconstructionInitialBalance
  | some baseline => loadPortfolioSnapshot baseline ∅ 0

/-- The fills that a rebuild applies, in the order they are processed. -/
def PortfolioInputs.baselineFills (inputs : PortfolioInputs) (fills : List FillRecord) :
    List FillRecord :=
  match inputs.baseline with
  | none => sortedFills fills
  | some baseline => fillsSince fills baseline

theorem rebuiltState_eq (inputs : PortfolioInputs) (fills : List FillRecord) :
    rebuiltState inputs fills =
      replay inputs.baselineStart ((inputs.baselineFills fills).map FillRecord.toFillEvent) := by
  unfold rebuiltState PortfolioInputs.baselineStart PortfolioInputs.baselineFills
  cases inputs.baseline with
  | none => rfl
  | some baseline => rfl

theorem mem_baselineFills {inputs : PortfolioInputs} {fills : List FillRecord} {fill : FillRecord}
    (h : fill ∈ inputs.baselineFills fills) : fill ∈ fills := by
  unfold PortfolioInputs.baselineFills at h
  split at h
  · exact mem_sortedFills.mp h
  · exact mem_sortedFills.mp (List.mem_of_mem_filter h)

def rebuiltSnapshot (inputs : PortfolioInputs) (latest : PortfolioSnapshot)
    (state : PortfolioState) : PortfolioSnapshot :=
  buildSnapshot (recoveryPrices inputs latest) .manualRebuild none inputs.now inputs.productType
    inputs.marginMode state

def rebuildSnapshotForValidation (inputs : PortfolioInputs) (latest : PortfolioSnapshot) :
    Except UnsupportedFeeCurrencyError PortfolioSnapshot :=
  (rebuiltState inputs inputs.fills).map (rebuiltSnapshot inputs latest)

/-! ### The comparison -/

/-- `_RECOVERY_COMPARISON_EPSILON`. -/
def comparisonEpsilon : ℚ := 1 / 10 ^ 8

/-- Two figures differ by more than the tolerance. -/
def differs (left right : ℚ) : Bool := decide (comparisonEpsilon < |left - right|)

/-- `_dict_diverges`. -/
def balancesDiverge (left right : Balances) : Bool :=
  (left.keys ++ right.keys).any
    (fun currency => differs (left.balance currency) (right.balance currency))

/-- `_position_diverges`. -/
def positionsDiverge (left right : PortfolioSnapshot) : Bool :=
  (left.positions.keys ++ right.positions.keys).any fun key =>
    differs (left.quantityOf key) (right.quantityOf key) ||
      differs (left.avgEntryPriceOf key) (right.avgEntryPriceOf key)

/-- The figures that `_divergence_count` compares one by one; all but the first depend on
prices. -/
def comparedFigures (left right : PortfolioSnapshot) : List (ℚ × ℚ) :=
  [(left.realizedPnl, right.realizedPnl), (left.unrealizedPnl, right.unrealizedPnl),
    (left.totalEquity, right.totalEquity), (left.grossExposure, right.grossExposure),
    (left.netExposure, right.netExposure)]

def divergenceCount (left right : PortfolioSnapshot) : ℕ :=
  (if balancesDiverge left.balances right.balances then 1 else 0) +
    (if positionsDiverge left right then 1 else 0) +
    (comparedFigures left right).countP (fun pair => differs pair.1 pair.2)

/-! ### Restoring -/

def totalFeeDeltaInQuote : List FillRecord → Except UnsupportedFeeCurrencyError ℚ
  | [] => .ok 0
  | fill :: fills =>
    match fillFeeDeltaInQuote fill.toFillEvent none none with
    | .error e => .error e
    | .ok fee => (totalFeeDeltaInQuote fills).map (fee + ·)

/-- The ids of the fills, all of which count as applied after a load. -/
def appliedIds (fills : List FillRecord) : Finset String := (fills.map (·.fillId)).toFinset

/-- What the portfolio part leaves: the state in memory, the reported divergence, and the
snapshots it saves. -/
structure Restored where
  memory : PortfolioState
  divergenceCount : ℕ := 0
  saved : List PortfolioSnapshot := []
  snapshotMissing : Bool := false
  deriving DecidableEq

/-- The branch for a stored snapshot: it is adopted, or healed by the rebuild. -/
def validateSnapshot (inputs : PortfolioInputs) (latest : PortfolioSnapshot) :
    Except UnsupportedFeeCurrencyError Restored :=
  match totalFeeDeltaInQuote inputs.fills with
  | .error e => .error e
  | .ok fees =>
    match rebuildSnapshotForValidation inputs latest with
    | .error e => .error e
    | .ok rebuilt =>
      let count := divergenceCount latest rebuilt
      if count = 0 then
        .ok { memory := loadPortfolioSnapshot latest (appliedIds inputs.fills) fees }
      else
        -- the fills are the more authoritative source
        let healed := { rebuilt with snapshotOrigin := .recoveryAutoHealed }
        .ok
          { memory := loadPortfolioSnapshot healed (appliedIds inputs.fills) fees
            divergenceCount := count
            saved := [healed] }

/-- The branch without a snapshot: a rebuild, unless the portfolio comes from the exchange. -/
def rebuildMissing (inputs : PortfolioInputs) : Except UnsupportedFeeCurrencyError Restored :=
  if inputs.fills = [] then .ok { memory := inputs.memory }
  else if inputs.bootstrapPortfolioFromExchange = true then
    .ok { memory := inputs.memory, snapshotMissing := true }
  else
    match rebuildState inputs.reconstructionInitialBalance inputs.fills with
    | .error e => .error e
    | .ok state =>
      let rebuilt := buildSnapshot inputs.livePrice .recoveryRebuild none inputs.now
        inputs.productType inputs.marginMode state
      match totalFeeDeltaInQuote inputs.fills with
      | .error e => .error e
      | .ok fees =>
        .ok
          { memory := loadPortfolioSnapshot rebuilt (appliedIds inputs.fills) fees
            saved := [rebuilt] }

/-- The portfolio part of `recover`, up to the fill gaps. -/
def restorePortfolio (inputs : PortfolioInputs) : Except UnsupportedFeeCurrencyError Restored :=
  match inputs.latestSnapshot with
  | some latest => validateSnapshot inputs latest
  | none => rebuildMissing inputs

/-! ### Restoring from a stored snapshot -/

/-- The snapshot that the portfolio is loaded from: the latest one, or the rebuild if that
diverges. -/
def adopted (inputs : PortfolioInputs) (latest : PortfolioSnapshot) (state : PortfolioState) :
    PortfolioSnapshot :=
  if divergenceCount latest (rebuiltSnapshot inputs latest state) = 0 then latest
  else { rebuiltSnapshot inputs latest state with snapshotOrigin := .recoveryAutoHealed }

/-- The branch for a stored snapshot raises, or it leaves the adopted snapshot loaded and stored. -/
theorem validateSnapshot_eq_ok {inputs : PortfolioInputs} {latest : PortfolioSnapshot}
    {restored : Restored} :
    validateSnapshot inputs latest = .ok restored ↔ ∃ fees state,
      totalFeeDeltaInQuote inputs.fills = .ok fees ∧
      rebuiltState inputs inputs.fills = .ok state ∧
      restored =
        { memory :=
            loadPortfolioSnapshot (adopted inputs latest state) (appliedIds inputs.fills) fees
          divergenceCount := divergenceCount latest (rebuiltSnapshot inputs latest state)
          saved := if divergenceCount latest (rebuiltSnapshot inputs latest state) = 0 then []
            else [adopted inputs latest state] } := by
  unfold validateSnapshot rebuildSnapshotForValidation
  cases hfees : totalFeeDeltaInQuote inputs.fills with
  | error e => simp
  | ok fees =>
    cases hstate : rebuiltState inputs inputs.fills with
    | error e => simp [Except.map]
    | ok state =>
      simp only [Except.map, Except.ok.injEq]
      constructor
      · intro h
        refine ⟨fees, state, rfl, rfl, ?_⟩
        unfold adopted
        by_cases hzero : divergenceCount latest (rebuiltSnapshot inputs latest state) = 0
        · simpa [hzero] using h.symm
        · simpa [hzero] using h.symm
      · rintro ⟨_, _, rfl, rfl, rfl⟩
        unfold adopted
        by_cases hzero : divergenceCount latest (rebuiltSnapshot inputs latest state) = 0
        · simp [hzero]
        · simp [hzero]

/-! ### Which replays raise -/

theorem totalFeeDeltaInQuote_isOk {fills : List FillRecord} :
    (∃ fees, totalFeeDeltaInQuote fills = .ok fees) ↔
      ∀ fill ∈ fills, FeeSupported fill.toFillEvent := by
  induction fills with
  | nil => simp [totalFeeDeltaInQuote]
  | cons fill fills ih =>
    rw [List.forall_mem_cons, ← ih, FeeSupported, ← fillFeeDeltaInQuote_none, totalFeeDeltaInQuote]
    cases fillFeeDeltaInQuote fill.toFillEvent none none with
    | error e => simp
    | ok fee =>
      cases totalFeeDeltaInQuote fills with
      | error e => simp [Except.map]
      | ok fees => simp [Except.map]

theorem applyFill_isOk (state : PortfolioState) {fill : FillEvent} (h : FeeSupported fill) :
    ∃ result next, state.applyFill fill = .ok (result, next) := by
  by_cases hid : fill.fillId ∈ state.appliedFillIds
  · exact ⟨_, _, by rw [PortfolioState.applyFill, if_pos (by simpa using hid)]⟩
  · obtain ⟨fee, hfee⟩ := h
    exact ⟨_, _, by rw [PortfolioState.applyFill_of_new hid, hfee]; rfl⟩

theorem replay_isOk (state : PortfolioState) {fills : List FillEvent}
    (h : ∀ fill ∈ fills, FeeSupported fill) : ∃ final, replay state fills = .ok final := by
  induction fills generalizing state with
  | nil => exact ⟨state, rfl⟩
  | cons fill fills ih =>
    obtain ⟨hfill, hfills⟩ := List.forall_mem_cons.mp h
    obtain ⟨result, next, happly⟩ := applyFill_isOk state hfill
    obtain ⟨final, hfinal⟩ := ih next hfills
    exact ⟨final, by rw [replay, happly]; exact hfinal⟩

theorem rebuiltState_isOk {inputs : PortfolioInputs} {fills : List FillRecord}
    (h : ∀ fill ∈ fills, FeeSupported fill.toFillEvent) :
    ∃ state, rebuiltState inputs fills = .ok state := by
  rw [rebuiltState_eq]
  apply replay_isOk
  intro fill hmem
  obtain ⟨record, hrecord, rfl⟩ := List.mem_map.mp hmem
  exact h record (mem_baselineFills hrecord)

/-! ### When nothing diverges -/

theorem comparisonEpsilon_pos : 0 < comparisonEpsilon := by norm_num [comparisonEpsilon]

/-- Two figures agree up to the tolerance. -/
def Close (left right : ℚ) : Prop := |left - right| ≤ comparisonEpsilon

instance (left right : ℚ) : Decidable (Close left right) :=
  inferInstanceAs (Decidable (_ ≤ _))

theorem close_self (x : ℚ) : Close x x := by
  unfold Close
  rw [sub_self, abs_zero]
  exact comparisonEpsilon_pos.le

@[simp] theorem differs_eq_false {left right : ℚ} : differs left right = false ↔ Close left right := by
  simp [differs, Close]

/-- The same balances, positions and realized PnL up to the tolerance. -/
structure SameHoldings (left right : PortfolioSnapshot) : Prop where
  balances : ∀ currency, Close (left.balances.balance currency) (right.balances.balance currency)
  quantities : ∀ key, Close (left.quantityOf key) (right.quantityOf key)
  entryPrices : ∀ key, Close (left.avgEntryPriceOf key) (right.avgEntryPriceOf key)
  realizedPnl : Close left.realizedPnl right.realizedPnl

/-- The same figures of those that depend on prices. -/
structure SameValuation (left right : PortfolioSnapshot) : Prop where
  unrealizedPnl : Close left.unrealizedPnl right.unrealizedPnl
  totalEquity : Close left.totalEquity right.totalEquity
  grossExposure : Close left.grossExposure right.grossExposure
  netExposure : Close left.netExposure right.netExposure

theorem lookup_eq_none_of_not_mem {β : Type*} {dict : AList fun _ : String => β} {key : String}
    (h : key ∉ dict.keys) : dict.lookup key = none :=
  AList.lookup_eq_none.mpr h

theorem balancesDiverge_eq_false {left right : Balances} :
    balancesDiverge left right = false ↔
      ∀ currency, Close (left.balance currency) (right.balance currency) := by
  unfold balancesDiverge
  rw [List.any_eq_false]
  constructor
  · intro h currency
    by_cases hmem : currency ∈ left.keys ++ right.keys
    · exact differs_eq_false.mp (by simpa using h currency hmem)
    · rw [List.mem_append, not_or] at hmem
      unfold Balances.balance
      rw [lookup_eq_none_of_not_mem hmem.1, lookup_eq_none_of_not_mem hmem.2]
      exact close_self _
  · intro h currency _
    rw [differs_eq_false.mpr (h currency)]
    simp

theorem positionsDiverge_eq_false {left right : PortfolioSnapshot} :
    positionsDiverge left right = false ↔
      (∀ key, Close (left.quantityOf key) (right.quantityOf key)) ∧
        ∀ key, Close (left.avgEntryPriceOf key) (right.avgEntryPriceOf key) := by
  unfold positionsDiverge
  rw [List.any_eq_false]
  constructor
  · intro h
    have hkey : ∀ key, Close (left.quantityOf key) (right.quantityOf key) ∧
        Close (left.avgEntryPriceOf key) (right.avgEntryPriceOf key) := by
      intro key
      by_cases hmem : key ∈ left.positions.keys ++ right.positions.keys
      · simpa using h key hmem
      · rw [List.mem_append, not_or] at hmem
        unfold PortfolioSnapshot.quantityOf PortfolioSnapshot.avgEntryPriceOf
        rw [lookup_eq_none_of_not_mem hmem.1, lookup_eq_none_of_not_mem hmem.2]
        exact ⟨close_self _, close_self _⟩
    exact ⟨fun key => (hkey key).1, fun key => (hkey key).2⟩
  · rintro ⟨hqty, havg⟩ key _
    simp [hqty key, havg key]

theorem divergenceCount_eq_zero {left right : PortfolioSnapshot} :
    divergenceCount left right = 0 ↔ SameHoldings left right ∧ SameValuation left right := by
  have hcount : (comparedFigures left right).countP (fun pair => differs pair.1 pair.2) = 0 ↔
      Close left.realizedPnl right.realizedPnl ∧ SameValuation left right := by
    rw [List.countP_eq_zero]
    constructor
    · intro h
      have hclose : ∀ pair ∈ comparedFigures left right, Close pair.1 pair.2 := by
        intro pair hpair
        exact differs_eq_false.mp (by simpa using h pair hpair)
      simp only [comparedFigures, List.forall_mem_cons] at hclose
      obtain ⟨hrealized, hunrealized, hequity, hgross, hnet, -⟩ := hclose
      exact ⟨hrealized, hunrealized, hequity, hgross, hnet⟩
    · rintro ⟨hrealized, hunrealized, hequity, hgross, hnet⟩
      simp [comparedFigures, hrealized, hunrealized, hequity, hgross, hnet]
  unfold divergenceCount
  rw [Nat.add_eq_zero_iff, Nat.add_eq_zero_iff, hcount]
  constructor
  · rintro ⟨⟨hbalances, hpositions⟩, hrealized, hvaluation⟩
    have hb : balancesDiverge left.balances right.balances = false := by simpa using hbalances
    have hp : positionsDiverge left right = false := by simpa using hpositions
    obtain ⟨hqty, havg⟩ := positionsDiverge_eq_false.mp hp
    exact ⟨⟨balancesDiverge_eq_false.mp hb, hqty, havg, hrealized⟩, hvaluation⟩
  · rintro ⟨hsame, hvaluation⟩
    have hb := balancesDiverge_eq_false.mpr hsame.balances
    have hp := positionsDiverge_eq_false.mpr ⟨hsame.quantities, hsame.entryPrices⟩
    simp [hb, hp, hsame.realizedPnl, hvaluation]

end Aats.Recovery
