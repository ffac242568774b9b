import Aats.Execution.Obligations
import Mathlib.Algebra.BigOperators.Group.List.Basic

/-!
# What the risk engine reads of the account

The exchange snapshot, the providers and the settings of `RiskEngine`
(`governance_engine/risk.py`), and the figures an evaluation computes from them before it looks
at an order: equity, margin, pending and held notional, the realized loss of the day and the
exposure of a symbol. What a provider answers during one evaluation is a field of the engine,
so an evaluation is a function.
-/

namespace Aats.Governance

open Execution (OrderObligation remainingObligationAmount)

/-! ### Texts of the exchange -/

/-- Python's `str.strip`. -/
def strip (text : List Char) : List Char :=
  ((text.dropWhile Char.isWhitespace).reverse.dropWhile Char.isWhitespace).reverse

/-- A text that `str(item).strip()` leaves empty. -/
def blank (text : String) : Bool := text.toList.all Char.isWhitespace

/-- `str(value).strip().lower()`. -/
def normalizedText (text : String) : List Char := strip (text.toList.map Char.toLower)

def normalizePositionMode (value : Option String) : Option PositionMode :=
  match value with
  | none => none
  | some text =>
    if normalizedText text = "long_short_mode".toList then some .longShortMode
    else if normalizedText text = "net_mode".toList then some .netMode
    else none

/-- The side a text names, before the position mode is looked at. -/
def positionSideOfText (text : String) : Option PositionSide :=
  if normalizedText text = "net".toList then some .net
  else if normalizedText text = "long".toList then some .long
  else if normalizedText text = "short".toList then some .short
  else none

/-! ### The account snapshot -/

structure ExchangeBalance where
  currency : String
  available : ℚ

structure ExchangePosition where
  symbol : String
  quantity : ℚ
  averageEntryPrice : Option ℚ := none
  markPrice : Option ℚ := none
  notionalUsd : Option ℚ := none
  side : String := "net"
  marginAllocated : Option ℚ := none

structure ExchangeOpenOrder where
  instrumentId : String
  clientOrderId : Option String := none
  quantity : ℚ
  filledQuantity : ℚ := 0
  price : Option ℚ := none

structure ExchangeAccountRiskSnapshot where
  adjustedEquity : Option ℚ := none
  totalEquity : Option ℚ := none
  availableEquity : Option ℚ := none
  initialMarginRequirement : Option ℚ := none

/-- `ExchangeAccountSnapshot`; of the account configuration only the position mode is read. -/
structure ExchangeAccountSnapshot where
  balances : List ExchangeBalance := []
  positions : List ExchangePosition := []
  openOrders : List ExchangeOpenOrder := []
  positionMode : Option String := none
  accountConfigurationPositionMode : Option String := none
  riskSnapshot : Option ExchangeAccountRiskSnapshot := none

/-- `AccountService.status()`. -/
structure AccountStatus where
  lastError : Bool := false
  ready : Bool := true

structure InstrumentMetadata where
  baseCurrency : String := ""
  quoteCurrency : String := ""
  settleCurrency : String := ""

/-- A row of `latest_recent_bills`: the UTC day of `_bill_timestamp` and the `pnl` when it is not
empty. -/
structure Bill where
  day : Option ℤ
  pnl : Option ℚ

/-! ### Providers -/

/-- What the engine reads of a reconciliation report. A missing or malformed list of reasons is
`none`. -/
structure ReconciliationReport where
  onlyReduceRequired : Bool
  onlyReduceReasons : Option (List String)

structure RuntimeGuardState where
  onlyReduceRequired : Bool
  onlyReduceReasons : List String

structure BundleSummary where
  bundleId : String
  recoverable : Bool
  recoveryState : String

structure RecoveryStatusPayload where
  onlyReduceRequired : Bool
  onlyReduceReasons : List String
  unbundledOpenOrderCount : ℤ := 0
  bundleSummaries : List BundleSummary := []

/-- What an evaluation uses of an adaptive control: a multiplier, which `adaptive_controls` clamps
between a floor of at least 0.1 and 1, and the automatic halt. -/
structure AdaptiveControlState where
  multiplier : ℚ
  autoHaltRequired : Bool
  multiplier_pos : 0 < multiplier
  multiplier_le_one : multiplier ≤ 1

theorem full_multiplier_pos : (0 : ℚ) < 1 := one_pos

theorem full_multiplier_le_one : (1 : ℚ) ≤ 1 := le_rfl

def AdaptiveControlState.full : AdaptiveControlState where
  multiplier := 1
  autoHaltRequired := false
  multiplier_pos := full_multiplier_pos
  multiplier_le_one := full_multiplier_le_one

/-! ### Settings and profile -/

/-- The limits of `AATSSettings` with their defaults. -/
structure RiskSettings where
  maxAbsPositionQty : ℚ := 1 / 100
  maxNotionalPerSymbol : ℚ := 1000
  maxOpenOrders : ℤ := 5
  maxGrossNotionalPerSymbol : ℚ := 2500
  maxPendingNotionalPerSymbol : ℚ := 1250
  maxTotalOpenNotional : ℚ := 5000
  riskMaxLongNotional : ℚ := 0
  riskMaxShortNotional : ℚ := 0
  riskMaxGrossNotional : ℚ := 0
  riskMaxNetNotional : ℚ := 0
  maxDailyRealizedLossUsdt : ℚ := 100
  derivativesOnlyReduceTriggerMarginFraction : ℚ := 7 / 10
  maxMarginUsageFraction : ℚ := 85 / 100
  smartArbitrageMarginShortEnabled : Bool := false
  smartArbitrageMarginShortExecutionReady : Bool := false
  smartArbitrageMarginShortSpotMarginMode : MarginMode := .cross

structure PolicyProfile where
  enforceHealthBlockers : Bool := true
  balanceChecksRequired : Bool := true
  maxTargetLeverage : ℚ := 1

inductive AccountStateSourceKind
  | exchange
  | disabled
  deriving DecidableEq, Repr, Inhabited

/-- `RiskEngine`: its settings and what its providers answer during one evaluation. -/
structure RiskEngine where
  settings : RiskSettings := {}
  policyProfile : PolicyProfile := {}
  accountStateSourceKind : AccountStateSourceKind := .exchange
  /-- `account_service.status()`; `none` when it raises. -/
  accountStatus : Option AccountStatus := some {}
  latestSnapshot : Option ExchangeAccountSnapshot
  /-- `price_provider`; `none` when it raises. -/
  priceProvider : String → Option ℚ
  instrumentMetadata : String → Option InstrumentMetadata := fun _ => none
  takerFeeBps : String → ℚ := fun _ => 0
  /-- What the obligation cache or the repository lists; empty without a repository. -/
  activeObligations : List OrderObligation := []
  /-- The list of the last second, when there is one. -/
  localObligationsCache : Option (List OrderObligation) := none
  executionBlockers : List String := []
  submissionBlockers : List String := []
  latestReconciliation : Option ReconciliationReport := none
  runtimeGuard : Option RuntimeGuardState := none
  recoveryStatus : Option RecoveryStatusPayload := none
  recentBills : List Bill := []
  todayUtc : ℤ := 0
  riskBudget : AdaptiveControlState := .full
  executionAggressiveness : AdaptiveControlState := .full

/-! ### Prices and the snapshot -/

def RiskEngine.safePrice (engine : RiskEngine) (symbol : String) : ℚ :=
  max ((engine.priceProvider symbol).getD 0) 0

def RiskEngine.safeReferencePrice (engine : RiskEngine) (symbol : String) : ℚ :=
  let price := engine.safePrice symbol
  if 0 < price then price else 0

/-- `_snapshot`: an account that is not ready, or whose status raises, has none. -/
def RiskEngine.snapshot (engine : RiskEngine) : Option ExchangeAccountSnapshot :=
  match engine.accountStateSourceKind, engine.accountStatus with
  | .exchange, none => none
  | .exchange, some status =>
    if status.lastError ∨ ¬ status.ready then none else engine.latestSnapshot
  | .disabled, _ => engine.latestSnapshot

/-- `_active_local_obligations`: the obligations whose order the exchange does not list yet. -/
def RiskEngine.activeLocalObligations (engine : RiskEngine) : List OrderObligation :=
  match engine.localObligationsCache with
  | some cached => cached
  | none =>
    let visible :=
      (((engine.snapshot.map (·.openOrders)).getD []).filterMap (·.clientOrderId)).filter (· ≠ "")
    engine.activeObligations.filter (·.clientOrderId ∉ visible)

/-- `_current_open_order_count`: the open orders of the latest snapshot, ready or not, and the
local obligations. -/
def RiskEngine.currentOpenOrderCount (engine : RiskEngine) (symbol : String) : ℕ :=
  ((engine.latestSnapshot.map (·.openOrders)).getD []).countP (·.instrumentId = symbol) +
    engine.activeLocalObligations.countP (·.symbol = symbol)

/-! ### Currencies and equity -/

def RiskEngine.symbolCurrencies (engine : RiskEngine) (symbol : String) :
    Option String × Option String :=
  match engine.instrumentMetadata symbol with
  | some instrument =>
    if strip instrument.baseCurrency.toList ≠ [] ∧ strip instrument.quoteCurrency.toList ≠ [] then
      (some (String.ofList (strip instrument.baseCurrency.toList)),
        some (String.ofList (strip instrument.quoteCurrency.toList)))
    else resolveSymbolCurrencies symbol
  | none => resolveSymbolCurrencies symbol

def RiskEngine.settleOrQuoteCurrency (engine : RiskEngine) (symbol : String) : Option String :=
  match (engine.instrumentMetadata symbol).map (strip ·.settleCurrency.toList) with
  | some (c :: text) => some (String.ofList (c :: text))
  | _ => (engine.symbolCurrencies symbol).2

def RiskEngine.localReserved (engine : RiskEngine) (currency : String) : ℚ :=
  ((engine.activeLocalObligations.filter (·.reserveCurrency = currency)).map
    remainingObligationAmount).sum

def RiskEngine.availableBalance (engine : RiskEngine) (currency : Option String) : ℚ :=
  match currency, engine.snapshot with
  | some currency, some snapshot =>
    max (((snapshot.balances.filter (·.currency = currency)).map (·.available)).sum -
      engine.localReserved currency) 0
  | _, _ => 0

def RiskEngine.availableDerivativesEquity (engine : RiskEngine) (settleCurrency : Option String) :
    ℚ :=
  match (engine.snapshot.bind (·.riskSnapshot)).bind (·.availableEquity) with
  | some value =>
    if 0 < value then
      max (value - (settleCurrency.map engine.localReserved).getD 0) 0
    else max (engine.availableBalance settleCurrency) 0
  | none => max (engine.availableBalance settleCurrency) 0

/-- `_equity_base`: the first positive equity of the risk snapshot. -/
def RiskEngine.equityBase (engine : RiskEngine) (settleCurrency : Option String)
    (availableEquity : ℚ) : ℚ :=
  let reported := match engine.snapshot.bind (·.riskSnapshot) with
    | some risk => [risk.adjustedEquity, risk.totalEquity, risk.availableEquity].filterMap id
    | none => []
  match reported.find? (0 < ·) with
  | some value => value
  | none =>
    if 0 < availableEquity then availableEquity else engine.availableBalance settleCurrency

/-- The initial margin the risk snapshot reports, zero without one. -/
def RiskEngine.currentInitialMargin (engine : RiskEngine) : ℚ :=
  ((engine.snapshot.bind (·.riskSnapshot)).bind (·.initialMarginRequirement)).getD 0

/-! ### Pending and held notional -/

/-- The price of an order or a position: its own when positive, the engine's otherwise. -/
def RiskEngine.priceOr (engine : RiskEngine) (own : Option ℚ) (symbol : String) : ℚ :=
  match own with
  | some price => if 0 < price then price else engine.safePrice symbol
  | none => engine.safePrice symbol

def RiskEngine.openOrderRemainingNotional (engine : RiskEngine) (order : ExchangeOpenOrder) : ℚ :=
  let remaining := max (order.quantity - order.filledQuantity) 0
  if remaining ≤ epsilon12 then 0
  else remaining * max (engine.priceOr order.price order.instrumentId) 0

/-- `_obligation_remaining_notional`: a reserve in the quote currency is its own notional. -/
def RiskEngine.obligationRemainingNotional (engine : RiskEngine) (obligation : OrderObligation) :
    ℚ :=
  let remaining := remainingObligationAmount obligation
  if remaining ≤ epsilon12 then 0
  else if (resolveSymbolCurrencies obligation.symbol).2 = some obligation.reserveCurrency then
    remaining
  else remaining * max (engine.priceOr obligation.referencePrice obligation.symbol) 0

/-- `_total_pending_notional` over the orders and obligations that `keep` selects by symbol. -/
def RiskEngine.pendingNotional (engine : RiskEngine) (keep : String → Bool) : ℚ :=
  ((((engine.snapshot.map (·.openOrders)).getD []).filter (keep ·.instrumentId)).map
      engine.openOrderRemainingNotional).sum +
    ((engine.activeLocalObligations.filter (keep ·.symbol)).map
      engine.obligationRemainingNotional).sum

def RiskEngine.pendingNotionalForSymbol (engine : RiskEngine) (symbol : String) : ℚ :=
  engine.pendingNotional (· = symbol)

def RiskEngine.totalPendingNotional (engine : RiskEngine) : ℚ :=
  engine.pendingNotional fun _ => true

def RiskEngine.positionNotional (engine : RiskEngine) (position : ExchangePosition) : ℚ :=
  match position.notionalUsd with
  | some notional => |notional|
  | none => |position.quantity| * max (engine.priceOr position.markPrice position.symbol) 0

def RiskEngine.currentTotalPositionNotional (engine : RiskEngine) : ℚ :=
  (((engine.snapshot.map (·.positions)).getD []).map engine.positionNotional).sum

def RiskEngine.dailyRealizedLossUsdt (engine : RiskEngine) : ℚ :=
  (((engine.recentBills.filter (·.day = some engine.todayUtc)).filterMap (·.pnl)).map
    fun pnl => if pnl < 0 then |pnl| else 0).sum

/-! ### Exposure -/

/-- `PositionLegState`, as far as an exposure reads it. -/
structure PositionLegState where
  positionQty : ℚ
  positionNotional : ℚ
  posSide : Option PositionSide
  marginAllocated : ℚ

/-- `signed_quantity_for_position_side` for a side that is already normalized. -/
def signedQuantityForPositionSide (quantity : ℚ) (posSide : Option PositionSide) : ℚ :=
  if posSide = some .short ∧ epsilon12 < quantity then -quantity else quantity

def signedNotionalForExchangePosition (position : ExchangePosition) (signedQuantity : ℚ) : ℚ :=
  match position.notionalUsd with
  | some notional =>
    match exposureSideFromQuantity signedQuantity with
    | .short => -|notional|
    | .long => |notional|
    | .flat => notional
  | none => signedQuantity * position.averageEntryPrice.getD 0

def positionLegStateFromExchangePosition (position : ExchangePosition)
    (positionMode : Option PositionMode) : PositionLegState :=
  let posSide := normalizePositionSide (positionSideOfText position.side) positionMode
  let quantity := signedQuantityForPositionSide position.quantity posSide
  { positionQty := quantity
    positionNotional := signedNotionalForExchangePosition position quantity
    posSide := posSide
    marginAllocated := position.marginAllocated.getD 0 }

/-- `_leg_side_from_position_qty`; `instrument_position_state_from_legs` sorts a leg of an exchange
position the same way, since its exposure side comes from its quantity. -/
def PositionLegState.side (leg : PositionLegState) : ExposureSide :=
  match leg.posSide with
  | some .long => .long
  | some .short => .short
  | _ => exposureSideFromQuantity leg.positionQty

/-- `InstrumentPositionState`, as far as an exposure reads it. -/
structure InstrumentPositionState where
  longPositionQty : ℚ
  shortPositionQty : ℚ
  longPositionNotional : ℚ
  shortPositionNotional : ℚ
  longMargin : ℚ
  shortMargin : ℚ

def sumOnSide (legs : List PositionLegState) (side : ExposureSide) (amount : PositionLegState → ℚ) :
    ℚ :=
  ((legs.filter (·.side = side)).map fun leg => |amount leg|).sum

/-- `instrument_position_state_from_legs`, with the margins the exposure adds up per side. -/
def instrumentPositionStateFromLegs (legs : List PositionLegState) : InstrumentPositionState where
  longPositionQty := sumOnSide legs .long (·.positionQty)
  shortPositionQty := sumOnSide legs .short (·.positionQty)
  longPositionNotional := sumOnSide legs .long (·.positionNotional)
  shortPositionNotional := sumOnSide legs .short (·.positionNotional)
  longMargin := sumOnSide legs .long (·.marginAllocated)
  shortMargin := sumOnSide legs .short (·.marginAllocated)

/-- `_snapshot_position_mode`, normalized as the legs read it. -/
def ExchangeAccountSnapshot.snapshotPositionMode (snapshot : ExchangeAccountSnapshot) :
    Option PositionMode :=
  normalizePositionMode <|
    match snapshot.accountConfigurationPositionMode with
    | some mode => if mode = "" then snapshot.positionMode else some mode
    | none => snapshot.positionMode

/-- `_current_derivatives_instrument_state`: the positions of a symbol, in one state. -/
def RiskEngine.currentDerivativesInstrumentState (engine : RiskEngine) (symbol : String) :
    Option InstrumentPositionState :=
  match engine.snapshot with
  | none => none
  | some snapshot =>
    match snapshot.positions.filter (·.symbol = symbol) with
    | [] => none
    | positions => some (instrumentPositionStateFromLegs (positions.map
        (positionLegStateFromExchangePosition · snapshot.snapshotPositionMode)))

structure DerivativesExposureMetrics where
  longPositionQty : ℚ := 0
  shortPositionQty : ℚ := 0
  netPositionQty : ℚ := 0
  grossPositionQty : ℚ := 0
  longNotional : ℚ := 0
  shortNotional : ℚ := 0
  netNotional : ℚ := 0
  grossNotional : ℚ := 0
  netExposureSide : ExposureSide := .flat
  longInitialMargin : Option ℚ := none
  shortInitialMargin : Option ℚ := none
  totalInitialMargin : Option ℚ := none
  grossLeverage : Option ℚ := none
  netLeverage : Option ℚ := none
  deriving DecidableEq, Repr

def unlessZero (value : Option ℚ) : Option ℚ := (value.map (|·|)).filter (epsilon12 < ·)

/-- `_build_derivatives_exposure_metrics`: a notional that is not given is the quantity at the mark
price. -/
def buildDerivativesExposureMetrics (longQty shortQty markPrice equityBase : ℚ)
    (longNotional shortNotional longInitialMargin shortInitialMargin totalInitialMargin :
      Option ℚ) : DerivativesExposureMetrics :=
  let long := (longNotional.map (|·|)).getD (|longQty| * markPrice)
  let short := (shortNotional.map (|·|)).getD (|shortQty| * markPrice)
  { longPositionQty := |longQty|
    shortPositionQty := |shortQty|
    netPositionQty := longQty - shortQty
    grossPositionQty := |longQty| + |shortQty|
    longNotional := long
    shortNotional := short
    netNotional := |long - short|
    grossNotional := long + short
    netExposureSide := exposureSideFromQuantity (longQty - shortQty)
    longInitialMargin := unlessZero longInitialMargin
    shortInitialMargin := unlessZero shortInitialMargin
    totalInitialMargin := unlessZero totalInitialMargin
    grossLeverage := if epsilon12 < equityBase then some ((long + short) / equityBase) else none
    netLeverage := if epsilon12 < equityBase then some (|long - short| / equityBase) else none }

/-- `_derivatives_exposure_metrics_from_state`: notionals as reported, when they are. -/
def derivativesExposureMetricsFromState (state : Option InstrumentPositionState)
    (markPrice equityBase : ℚ) (totalInitialMarginHint : ℚ) : DerivativesExposureMetrics :=
  match state with
  | none =>
    buildDerivativesExposureMetrics 0 0 markPrice equityBase none none none none
      (some totalInitialMarginHint)
  | some state =>
    let total := state.longMargin + state.shortMargin
    buildDerivativesExposureMetrics |state.longPositionQty| |state.shortPositionQty| markPrice
      equityBase (unlessZero (some state.longPositionNotional))
      (unlessZero (some state.shortPositionNotional)) (unlessZero (some state.longMargin))
      (unlessZero (some state.shortMargin))
      (if epsilon12 < total then some total
        else (some totalInitialMarginHint).filter (epsilon12 < ·))

def RiskEngine.currentDerivativesExposureMetrics (engine : RiskEngine) (symbol : String)
    (markPrice equityBase totalInitialMarginHint : ℚ) : DerivativesExposureMetrics :=
  derivativesExposureMetricsFromState (engine.currentDerivativesInstrumentState symbol) markPrice
    equityBase totalInitialMarginHint

/-! ### Exposure limits -/

structure DerivativesExposureLimits where
  riskMaxLongNotional : ℚ := 0
  riskMaxShortNotional : ℚ := 0
  riskMaxGrossNotional : ℚ := 0
  riskMaxNetNotional : ℚ := 0
  deriving DecidableEq, Repr

/-- A configured limit, or the legacy one where it is not positive, under the risk budget. -/
def configuredOr (configured legacy multiplier : ℚ) : ℚ :=
  (if 0 < configured then configured else legacy) * multiplier

def RiskSettings.derivativesExposureLimits (settings : RiskSettings) (riskBudgetMultiplier : ℚ) :
    DerivativesExposureLimits where
  riskMaxLongNotional := configuredOr settings.riskMaxLongNotional
    settings.maxGrossNotionalPerSymbol riskBudgetMultiplier
  riskMaxShortNotional := configuredOr settings.riskMaxShortNotional
    settings.maxGrossNotionalPerSymbol riskBudgetMultiplier
  riskMaxGrossNotional := configuredOr settings.riskMaxGrossNotional
    settings.maxGrossNotionalPerSymbol riskBudgetMultiplier
  riskMaxNetNotional := configuredOr settings.riskMaxNetNotional
    settings.maxNotionalPerSymbol riskBudgetMultiplier

/-! ### The figures of one symbol -/

/-- What each evaluation computes from the account before it looks at the order. -/
structure AccountFigures where
  markPrice : ℚ
  availableEquity : ℚ
  equityBase : ℚ
  currentInitialMargin : ℚ
  totalPendingNotional : ℚ
  symbolPendingNotional : ℚ
  currentTotalPositionNotional : ℚ
  dailyRealizedLoss : ℚ
  currentOpenOrderCount : ℕ
  feeMultiplier : ℚ
  currentExposure : DerivativesExposureMetrics
  exposureLimits : DerivativesExposureLimits

def RiskEngine.accountFigures (engine : RiskEngine) (symbol : String) : AccountFigures :=
  let markPrice := engine.safeReferencePrice symbol
  let settleCurrency := engine.settleOrQuoteCurrency symbol
  let availableEquity := engine.availableDerivativesEquity settleCurrency
  let equityBase := engine.equityBase settleCurrency availableEquity
  { markPrice := markPrice
    availableEquity := availableEquity
    equityBase := equityBase
    currentInitialMargin := engine.currentInitialMargin
    totalPendingNotional := engine.totalPendingNotional
    symbolPendingNotional := engine.pendingNotionalForSymbol symbol
    currentTotalPositionNotional := engine.currentTotalPositionNotional
    dailyRealizedLoss := engine.dailyRealizedLossUsdt
    currentOpenOrderCount := engine.currentOpenOrderCount symbol
    feeMultiplier := 1 + engine.takerFeeBps symbol / 10000
    currentExposure := engine.currentDerivativesExposureMetrics symbol markPrice equityBase
      engine.currentInitialMargin
    exposureLimits := engine.settings.derivativesExposureLimits engine.riskBudget.multiplier }

/-- The margin usage of an order that adds `addedNotional` and requires `requiredMargin`, with the
pending orders counted at `leverage`. -/
def AccountFigures.projectedMarginUsage (account : AccountFigures)
    (leverage addedNotional requiredMargin : ℚ) : ℚ :=
  if epsilon12 < account.equityBase then
    (account.currentInitialMargin + account.totalPendingNotional / leverage + requiredMargin) /
      account.equityBase
  else if epsilon12 < addedNotional then 1
  else 0

/-! ### Reading lemmas -/

theorem availableDerivativesEquity_nonneg (engine : RiskEngine) (currency : Option String) :
    0 ≤ engine.availableDerivativesEquity currency := by
  unfold RiskEngine.availableDerivativesEquity
  split
  · split
    · exact le_max_right _ _
    · exact le_max_right _ _
  · exact le_max_right _ _

end Aats.Governance
