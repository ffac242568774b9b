import Aats.Governance.AccountExposure
import Aats.Lib.Checks

/-!
# The pre-trade risk engine

`RiskEngine` of `governance_engine/risk.py`: what all evaluations share, and the decision on a net
position target. The checks are a list of conditions with the reasons they give, in the order of
the source.

## Main definitions
* `RiskEngine.evaluatePretrade`, `RiskEngine.evaluate` — a target is capped twice, checked, and
  reduced to a position reduction when a check or a provider asks for it.
-/

namespace Aats.Governance

open Checks

/-! ### Requests and decisions -/

inductive Leg
  | long
  | short
  deriving DecidableEq, Repr, Inhabited

inductive LegOrderAction
  | opening
  | reduce
  | close
  deriving DecidableEq, Repr, Inhabited

structure PositionTarget where
  decisionId : String := ""
  symbol : String
  currentPositionQty : ℚ
  targetPositionQty : ℚ
  productType : ProductType := .spot
  targetLeverage : ℚ := 1
  marginMode : MarginMode := .cash
  maxSlippageToleranceBps : ℤ := 0
  strategyFamily : String := "directional"
  strategyExecutionMode : Option String := none
  strategyBundleId : Option String := none

structure LegOrderIntent where
  decisionId : String := ""
  symbol : String
  posSide : Leg
  action : LegOrderAction
  quantity : ℚ
  targetLeverage : ℚ := 1
  positionMode : PositionMode := .longShortMode
  productType : ProductType := .derivatives
  strategyBundleId : Option String := none

structure LegRiskConstraint where
  leg : Leg
  onlyReduceRequired : Bool
  reasons : List String
  deriving DecidableEq, Repr

structure RiskDecision where
  decisionId : String
  approved : Bool
  modified : Bool
  cappedTargetPositionQty : ℚ
  cappedTargetNotional : Option ℚ := none
  requiredInitialMargin : Option ℚ := none
  projectedMarginUsage : Option ℚ := none
  projectedNotional : Option ℚ := none
  currentOpenOrderCount : ℕ := 0
  riskBudgetMultiplier : ℚ := 1
  executionAggressivenessMultiplier : ℚ := 1
  constraintsApplied : List String := []
  riskScore : ℚ
  flattenRequired : Bool := false
  haltRequired : Bool := false
  onlyReduceRequired : Bool := false
  legOnlyReduceConstraints : List LegRiskConstraint := []
  riskLimitBreached : Bool := false
  liquidationBufferRemaining : Option ℚ := none
  currentDerivativesExposure : Option DerivativesExposureMetrics := none
  projectedDerivativesExposure : Option DerivativesExposureMetrics := none
  derivativesExposureLimits : Option DerivativesExposureLimits := none
  rejectionReasons : List String := []
  deriving DecidableEq, Repr

/-! ### Limits -/

def exceeds (limit value : ℚ) : Bool := decide (0 < limit ∧ limit + epsilon12 < value)

/-- The margin usage from which positions may only be reduced; it never lies above the hard
cap. -/
def RiskSettings.onlyReduceTrigger (settings : RiskSettings) : ℚ :=
  min settings.derivativesOnlyReduceTriggerMarginFraction settings.maxMarginUsageFraction

def RiskSettings.onlyReduceTriggered (settings : RiskSettings) (marginUsage : ℚ) : Bool :=
  decide (0 < settings.onlyReduceTrigger ∧ settings.onlyReduceTrigger - epsilon12 ≤ marginUsage)

/-- `max_pending_notional_per_symbol` under the risk budget. -/
def RiskEngine.maxPendingNotionalPerSymbol (engine : RiskEngine) : ℚ :=
  engine.settings.maxPendingNotionalPerSymbol * engine.riskBudget.multiplier

/-- `max_total_open_notional` under the risk budget. -/
def RiskEngine.maxTotalOpenNotional (engine : RiskEngine) : ℚ :=
  engine.settings.maxTotalOpenNotional * engine.riskBudget.multiplier

/-- `max_gross_notional_per_symbol` under the risk budget. -/
def RiskEngine.maxGrossNotionalPerSymbol (engine : RiskEngine) : ℚ :=
  engine.settings.maxGrossNotionalPerSymbol * engine.riskBudget.multiplier

def RiskEngine.enforceExchangeMarginChecks (engine : RiskEngine) : Bool :=
  decide (engine.accountStateSourceKind = .exchange)

/-! ### Reasons to only reduce -/

def RiskEngine.reconciliationOnlyReduceReasons (engine : RiskEngine) : List String :=
  match engine.latestReconciliation with
  | none => []
  | some report =>
    if report.onlyReduceRequired then
      match report.onlyReduceReasons with
      | some reasons => reasons.filter (¬ blank ·)
      | none => ["derivatives_exchange_position_without_local_execution_chain"]
    else []

def RiskEngine.runtimeGuardOnlyReduceReasons (engine : RiskEngine) : List String :=
  match engine.runtimeGuard with
  | none => []
  | some guard => if guard.onlyReduceRequired then guard.onlyReduceReasons.filter (¬ blank ·) else []

/-- `_structured_open_orders_belong_to_current_bundle`: every bundle under recovery is the bundle
of the order, and recoverable. -/
def RecoveryStatusPayload.belongsToBundle (payload : RecoveryStatusPayload)
    (strategyBundleId : Option String) : Bool :=
  let bundleId := strip (strategyBundleId.getD "").toList
  decide (bundleId ≠ []) && decide (payload.unbundledOpenOrderCount = 0) &&
    !payload.bundleSummaries.isEmpty &&
    payload.bundleSummaries.all fun summary =>
      decide (strip summary.bundleId.toList = bundleId) && summary.recoverable &&
        decide (strip summary.recoveryState.toList ∈
          ["structured_open_orders".toList, "partial_fill_recovery".toList])

/-- `_recovery_status_only_reduce_reasons`: the recovery of the order's own bundle is no reason. -/
def RiskEngine.recoveryStatusOnlyReduceReasons (engine : RiskEngine)
    (strategyBundleId : Option String) : List String :=
  match engine.recoveryStatus with
  | none => []
  | some payload =>
    if payload.onlyReduceRequired then
      let reasons := payload.onlyReduceReasons.filter (¬ blank ·)
      if payload.belongsToBundle strategyBundleId then
        reasons.filter (· ≠ "strategy_bundle_recovery_in_progress")
      else reasons
    else []

/-- The reasons of the three providers, in the order they are asked. -/
def RiskEngine.providerOnlyReduceReasons (engine : RiskEngine) (strategyBundleId : Option String) :
    List String :=
  engine.reconciliationOnlyReduceReasons ++ engine.runtimeGuardOnlyReduceReasons ++
    engine.recoveryStatusOnlyReduceReasons strategyBundleId

structure LegReasons where
  long : List String := []
  short : List String := []

def LegReasons.get (reasons : LegReasons) : Leg → List String
  | .long => reasons.long
  | .short => reasons.short

/-- `_append_reasons_to_legs`. -/
def LegReasons.append (map : LegReasons) (legs : List Leg) (reasons : List String) : LegReasons :=
  let cleaned := reasons.filter (¬ blank ·)
  { long := if .long ∈ legs then map.long ++ cleaned else map.long
    short := if .short ∈ legs then map.short ++ cleaned else map.short }

def LegReasons.appendIf (map : LegReasons) (condition : Bool) (legs : List Leg) (reason : String) :
    LegReasons :=
  if condition then map.append legs [reason] else map

/-- Each reason once, as `dict.fromkeys` keeps them. -/
def LegReasons.unique (map : LegReasons) : LegReasons where
  long := map.long.eraseDups
  short := map.short.eraseDups

/-- `_leg_constraints_from_reason_map`. -/
def LegReasons.constraints (map : LegReasons) : List LegRiskConstraint :=
  [Leg.long, Leg.short].filterMap fun leg =>
    match (map.get leg).filter (¬ blank ·) with
    | [] => none
    | reasons => some ⟨leg, true, reasons.eraseDups⟩

def heldOrAllLegs (current : DerivativesExposureMetrics) : List Leg :=
  match raised [(decide (epsilon12 < current.longPositionQty), Leg.long),
    (decide (epsilon12 < current.shortPositionQty), Leg.short)] with
  | [] => [.long, .short]
  | legs => legs

def legOfSide : ExposureSide → Option Leg
  | .long => some .long
  | .short => some .short
  | .flat => none

def netSideOrAllLegs (current : DerivativesExposureMetrics) : List Leg :=
  match legOfSide current.netExposureSide with
  | some leg => [leg]
  | none => [.long, .short]

/-- `_base_leg_only_reduce_constraints`: the providers and the daily loss bind the legs that are
held, a limit that the standing position exceeds binds the legs it is about. -/
def RiskEngine.baseLegOnlyReduceConstraints (engine : RiskEngine) (account : AccountFigures)
    (strategyBundleId : Option String) : LegReasons :=
  let current := account.currentExposure
  let limits := account.exposureLimits
  let held := heldOrAllLegs current
  let map : LegReasons := {}
  let map := map.append held engine.reconciliationOnlyReduceReasons
  let map := map.append held engine.runtimeGuardOnlyReduceReasons
  let map := map.append held (engine.recoveryStatusOnlyReduceReasons strategyBundleId)
  let map := map.appendIf (exceeds limits.riskMaxLongNotional current.longNotional) [.long]
    "risk_max_long_notional_exceeded"
  let map := map.appendIf (exceeds limits.riskMaxShortNotional current.shortNotional) [.short]
    "risk_max_short_notional_exceeded"
  let map := map.appendIf (exceeds limits.riskMaxGrossNotional current.grossNotional)
    [.long, .short] "risk_max_gross_notional_exceeded"
  let map := map.appendIf (exceeds limits.riskMaxNetNotional current.netNotional)
    (netSideOrAllLegs current) "risk_max_net_notional_exceeded"
  let map := map.appendIf
    (exceeds engine.settings.maxDailyRealizedLossUsdt account.dailyRealizedLoss) held
    "max_daily_realized_loss_usdt_exceeded"
  map.unique

/-! ### Parts every decision shares -/

def RiskEngine.riskScore (engine : RiskEngine) (cappedQty cappedTargetNotional : ℚ)
    (projectedMarginUsage : Option ℚ) : ℚ :=
  let maxAbsQty := engine.settings.maxAbsPositionQty * engine.riskBudget.multiplier
  let qtyRatio := if epsilon12 < maxAbsQty then min (|cappedQty| / maxAbsQty) 1 else 0
  let maxGross := engine.settings.maxGrossNotionalPerSymbol
  let notionalRatio := if epsilon12 < maxGross then min (cappedTargetNotional / maxGross) 1 else 0
  let maxUsage := engine.settings.maxMarginUsageFraction
  let marginRatio := match projectedMarginUsage with
    | some usage => if epsilon12 < maxUsage then min (usage / maxUsage) 1 else 0
    | none => 0
  max (max qtyRatio notionalRatio) marginRatio

/-- The non-empty texts of a list, each once. -/
def uniqueTexts (texts : List String) : List String := (texts.filter (· ≠ "")).eraseDups

/-- A reason that ends in `_halt_required` or `_auto_halt`. -/
def asksForHalt (reason : String) : Bool :=
  "_halt_required".toList.isSuffixOf reason.toList || "_auto_halt".toList.isSuffixOf reason.toList

/-- `halt_required` of a decision. -/
def RiskEngine.haltRequired (engine : RiskEngine) (rejectionReasons : List String) : Bool :=
  rejectionReasons.any asksForHalt || engine.riskBudget.autoHaltRequired ||
    engine.executionAggressiveness.autoHaltRequired

/-- The constraints that name a contracted adaptive control. -/
def RiskEngine.contractions (engine : RiskEngine) : List String :=
  raised
    [(decide (engine.riskBudget.multiplier < 999999 / 1000000), "risk_budget_multiplier_applied"),
      (decide (engine.executionAggressiveness.multiplier < 999999 / 1000000),
        "execution_aggressiveness_contracted")]

/-! ### A derivatives target -/

def derivativesAddedExposureQty (currentQty targetQty : ℚ) : ℚ :=
  if |currentQty| ≤ epsilon12 then |targetQty|
  else if |targetQty| ≤ epsilon12 then 0
  else if 0 < currentQty ∧ 0 < targetQty then max (|targetQty| - |currentQty|) 0
  else if currentQty < 0 ∧ targetQty < 0 then max (|targetQty| - |currentQty|) 0
  else |targetQty|

def reduceOnlyTargetQty (currentQty targetQty : ℚ) : ℚ :=
  if |currentQty| ≤ epsilon12 then 0
  else if 0 < currentQty then min (max targetQty 0) currentQty
  else max (min targetQty 0) currentQty

def projectDerivativesExposureForTarget (targetQty : ℚ) (account : AccountFigures) :
    DerivativesExposureMetrics :=
  buildDerivativesExposureMetrics (max targetQty 0) (max (-targetQty) 0) account.markPrice
    account.equityBase none none account.currentExposure.longInitialMargin
    account.currentExposure.shortInitialMargin account.currentExposure.totalInitialMargin

def RiskEngine.cappedTargetLeverage (engine : RiskEngine) (leverage : ℚ) : ℚ :=
  max 1 (min leverage engine.policyProfile.maxTargetLeverage)

/-- The figures of a capped target that the checks of `_evaluate_derivatives_pretrade` read. -/
structure PretradeFigures where
  account : AccountFigures
  leverage : ℚ
  projectedNotional : ℚ
  addedExposureNotional : ℚ
  requiredInitialMargin : ℚ
  projectedMarginUsage : ℚ
  projectedExposure : DerivativesExposureMetrics

/-- The figures of a target capped to `cappedQty`. -/
def RiskEngine.pretradeFigures (engine : RiskEngine) (target : PositionTarget) (cappedQty : ℚ) :
    PretradeFigures :=
  let account := engine.accountFigures target.symbol
  let added := |derivativesAddedExposureQty target.currentPositionQty cappedQty| * account.markPrice
  let leverage := max (engine.cappedTargetLeverage target.targetLeverage) 1
  let required := added * account.feeMultiplier / leverage
  { account := account
    leverage := leverage
    projectedNotional := |cappedQty| * account.markPrice
    addedExposureNotional := added
    requiredInitialMargin := required
    projectedMarginUsage := account.projectedMarginUsage leverage added required
    projectedExposure := projectDerivativesExposureForTarget cappedQty account }

/-- The limits that a target which adds exposure must meet, with the reason each one gives. -/
def RiskEngine.pretradeLimitChecks (engine : RiskEngine) (target : PositionTarget)
    (figures : PretradeFigures) : List (Bool × String) :=
  let account := figures.account
  let projected := figures.projectedExposure
  let limits := account.exposureLimits
  let added := figures.addedExposureNotional
  [(decide (engine.settings.maxOpenOrders ≤ account.currentOpenOrderCount),
      "max_open_orders_reached"),
    (decide (engine.policyProfile.maxTargetLeverage + epsilon12 < target.targetLeverage),
      "max_target_leverage_exceeded"),
    (decide (account.availableEquity + epsilon12 < figures.requiredInitialMargin),
      "insufficient_initial_margin"),
    (exceeds engine.settings.maxMarginUsageFraction figures.projectedMarginUsage,
      "liquidation_buffer_breached"),
    (exceeds limits.riskMaxLongNotional projected.longNotional,
      "risk_max_long_notional_exceeded"),
    (exceeds limits.riskMaxShortNotional projected.shortNotional,
      "risk_max_short_notional_exceeded"),
    (exceeds limits.riskMaxGrossNotional projected.grossNotional,
      "risk_max_gross_notional_exceeded"),
    (exceeds limits.riskMaxNetNotional projected.netNotional,
      "risk_max_net_notional_exceeded"),
    (exceeds engine.maxGrossNotionalPerSymbol figures.projectedNotional,
      "max_gross_notional_per_symbol_exceeded"),
    (exceeds engine.maxPendingNotionalPerSymbol (account.symbolPendingNotional + added),
      "max_pending_notional_per_symbol_exceeded"),
    (exceeds engine.maxTotalOpenNotional
        (account.currentTotalPositionNotional + account.totalPendingNotional + added),
      "max_total_open_notional_exceeded"),
    (exceeds engine.settings.maxDailyRealizedLossUsdt account.dailyRealizedLoss,
      "max_daily_realized_loss_usdt_exceeded")]

/-- `only_reduce_causes`: nothing is checked unless the added notional counts as positive, and the
margin trigger only when no limit is breached. -/
def RiskEngine.onlyReduceCauses (engine : RiskEngine) (target : PositionTarget)
    (figures : PretradeFigures) : List String :=
  if epsilon12 < figures.addedExposureNotional then
    let breaches := raised (engine.pretradeLimitChecks target figures)
    breaches ++ raised
      [(breaches.isEmpty && engine.settings.onlyReduceTriggered figures.projectedMarginUsage,
        "derivatives_margin_usage_requires_only_reduce")]
  else []

/-- What `_evaluate_derivatives_pretrade` returns. -/
structure PretradeResult where
  approved : Bool
  cappedQty : ℚ
  projectedNotional : ℚ
  requiredInitialMargin : ℚ
  projectedMarginUsage : ℚ
  onlyReduceRequired : Bool
  legOnlyReduceConstraints : List LegRiskConstraint
  riskLimitBreached : Bool
  liquidationBufferRemaining : ℚ
  flattenRequired : Bool
  currentExposure : DerivativesExposureMetrics
  projectedExposure : DerivativesExposureMetrics
  exposureLimits : DerivativesExposureLimits
  constraintsApplied : List String
  rejectionReasons : List String

/-- `_evaluate_derivatives_pretrade`. -/
def RiskEngine.evaluatePretrade (engine : RiskEngine) (target : PositionTarget) (cappedQty : ℚ) :
    PretradeResult :=
  let current := target.currentPositionQty
  let figures := engine.pretradeFigures target cappedQty
  let account := figures.account
  let causes := engine.onlyReduceCauses target figures
  let breached := decide (epsilon12 < figures.addedExposureNotional) &&
    !(raised (engine.pretradeLimitChecks target figures)).isEmpty
  let providers := engine.providerOnlyReduceReasons target.strategyBundleId
  let legs := (engine.baseLegOnlyReduceConstraints account target.strategyBundleId).append
    (heldOrAllLegs account.currentExposure) causes
  -- a reason of this path turns the target into a reduction, and a reduction that moves nothing
  -- into a refusal; then a reason of a provider does the same to what is left
  let reduced := if causes = [] then cappedQty else reduceOnlyTargetQty current cappedQty
  let refusedByCauses := decide (causes ≠ []) && decide (|reduced - current| ≤ epsilon12)
  let flattened := if providers = [] then reduced else reduceOnlyTargetQty current reduced
  let refusedByProviders := decide (providers ≠ []) && decide (|flattened - current| ≤ epsilon12)
  let required := |derivativesAddedExposureQty current flattened| * account.markPrice *
    account.feeMultiplier / figures.leverage
  let projected := projectDerivativesExposureForTarget flattened account
  { approved := !refusedByCauses && !refusedByProviders
    cappedQty := flattened
    projectedNotional := figures.projectedNotional
    requiredInitialMargin := required
    projectedMarginUsage := figures.projectedMarginUsage
    onlyReduceRequired := decide (causes ≠ []) || decide (providers ≠ [])
    legOnlyReduceConstraints := legs.constraints
    riskLimitBreached := breached || decide (providers ≠ [])
    liquidationBufferRemaining :=
      max (engine.settings.maxMarginUsageFraction - figures.projectedMarginUsage) 0
    flattenRequired :=
      if providers = [] then
        decide (causes ≠ []) && decide (epsilon12 < |current|) && decide (|reduced| ≤ epsilon12)
      else decide (epsilon12 < |current|) && decide (|flattened| ≤ epsilon12)
    currentExposure := account.currentExposure
    projectedExposure := { projected with
      totalInitialMargin :=
        if epsilon12 < account.currentInitialMargin + required then
          some (account.currentInitialMargin + required)
        else projected.totalInitialMargin }
    exposureLimits := account.exposureLimits
    constraintsApplied := uniqueTexts
      ((if causes = [] then [] else "only_reduce_required" :: causes) ++
        if providers = [] then [] else "only_reduce_required" :: providers)
    rejectionReasons := uniqueTexts
      ((if refusedByCauses then causes ++ ["only_reduce_mode_active"] else []) ++
        if refusedByProviders then providers ++ ["only_reduce_mode_active"] else []) }

/-! ### A spot target -/

/-- `spot_buy_quote_requirement`, where no price requires nothing. -/
def spotBuyQuoteRequirement (quantity referencePrice : ℚ) (maxSlippageToleranceBps : ℤ)
    (takerFeeBps : ℚ) : ℚ :=
  let worst := if maxSlippageToleranceBps ≤ 0 then referencePrice
    else referencePrice * (1 + maxSlippageToleranceBps / 10000)
  if referencePrice ≤ 0 ∨ worst ≤ 0 then 0 else quantity * worst * (1 + takerFeeBps / 10000)

/-- `_is_smart_arbitrage_margin_short_open`. -/
def PositionTarget.isMarginShortOpen (target : PositionTarget) (deltaQty : ℚ) : Bool :=
  decide (target.strategyFamily = "smart_arbitrage" ∧ target.productType = .spot ∧
    target.strategyExecutionMode = some "margin_reverse_carry" ∧ deltaQty < -epsilon12)

/-- `_smart_arbitrage_margin_short_reasons`. -/
def RiskEngine.marginShortReasons (engine : RiskEngine) (target : PositionTarget) (deltaQty : ℚ) :
    List String :=
  if target.isMarginShortOpen deltaQty then
    if ¬ engine.settings.smartArbitrageMarginShortEnabled then
      ["smart_arbitrage_margin_short_disabled"]
    else if ¬ engine.settings.smartArbitrageMarginShortExecutionReady then
      ["smart_arbitrage_margin_short_execution_not_ready"]
    else if target.marginMode ≠ engine.settings.smartArbitrageMarginShortSpotMarginMode then
      ["smart_arbitrage_margin_short_margin_mode_mismatch"]
    else []
  else []

/-- `_evaluate_spot_balance_constraints`. -/
def RiskEngine.spotRejectionReasons (engine : RiskEngine) (target : PositionTarget)
    (cappedQty : ℚ) : List String :=
  let deltaQty := cappedQty - target.currentPositionQty
  let currencies := engine.symbolCurrencies target.symbol
  let marginShort := engine.marginShortReasons target deltaQty
  if marginShort ≠ [] then marginShort
  else if epsilon12 < deltaQty ∧ currencies.2 ≠ none ∧
      engine.availableBalance currencies.2 + epsilon12 <
        spotBuyQuoteRequirement |deltaQty| (engine.safeReferencePrice target.symbol)
          target.maxSlippageToleranceBps (engine.takerFeeBps target.symbol) then
    ["insufficient_quote_balance"]
  else if ¬ target.isMarginShortOpen deltaQty ∧ deltaQty < -epsilon12 ∧ currencies.1 ≠ none ∧
      engine.availableBalance currencies.1 + epsilon12 < |deltaQty| then
    ["insufficient_base_balance"]
  else []

/-! ### A target -/

/-- The target clamped to `max_abs_position_qty`. -/
def RiskEngine.clampedQty (engine : RiskEngine) (target : PositionTarget) : ℚ :=
  let maxAbsQty := engine.settings.maxAbsPositionQty * engine.riskBudget.multiplier
  max (min target.targetPositionQty maxAbsQty) (-maxAbsQty)

def RiskEngine.scales (engine : RiskEngine) (target : PositionTarget) : Bool :=
  decide (engine.settings.maxNotionalPerSymbol * engine.riskBudget.multiplier <
      |engine.clampedQty target| * engine.safeReferencePrice target.symbol ∧
    epsilon12 < |target.targetPositionQty|)

/-- The target after both caps; `none` where the notional cap divides by a zero notional and
raises. -/
def RiskEngine.cappedQty (engine : RiskEngine) (target : PositionTarget) : Option ℚ :=
  let clamped := engine.clampedQty target
  let projected := |clamped| * engine.safeReferencePrice target.symbol
  if engine.scales target then
    if projected = 0 then none
    else some (clamped *
      (engine.settings.maxNotionalPerSymbol * engine.riskBudget.multiplier / projected))
  else some clamped

def RiskEngine.healthBlockers (engine : RiskEngine) : List String :=
  if engine.policyProfile.enforceHealthBlockers then
    engine.executionBlockers ++ engine.submissionBlockers
  else []

def RiskEngine.exchangeBalanceChecks (engine : RiskEngine) : Bool :=
  engine.policyProfile.balanceChecksRequired && engine.enforceExchangeMarginChecks

/-- The decision of `evaluate` on a target capped to `capped`. -/
def RiskEngine.decisionFor (engine : RiskEngine) (target : PositionTarget) (capped : ℚ) :
    RiskDecision :=
  let markPrice := engine.safeReferencePrice target.symbol
  let caps := raised
    [(decide (engine.clampedQty target ≠ target.targetPositionQty), "max_abs_qty"),
      (engine.scales target, "max_notional_per_symbol"),
      (decide (epsilon12 <
        |engine.cappedTargetLeverage target.targetLeverage - target.targetLeverage|),
        "max_target_leverage")]
  let openOrders := engine.currentOpenOrderCount target.symbol
  let pretrade :=
    if engine.exchangeBalanceChecks ∧ target.productType = .derivatives then
      some (engine.evaluatePretrade target capped)
    else none
  let balanceReasons :=
    if engine.exchangeBalanceChecks ∧ target.productType ≠ .derivatives then
      engine.spotRejectionReasons target capped ++ raised
        [(decide (engine.settings.maxOpenOrders ≤ openOrders), "max_open_orders_reached")]
    else []
  let finalQty := (pretrade.map (·.cappedQty)).getD capped
  let rejectionReasons := uniqueTexts
    ((pretrade.map (·.rejectionReasons)).getD balanceReasons ++ engine.healthBlockers)
  let constraints := uniqueTexts
    (caps ++ (pretrade.map (·.constraintsApplied)).getD [] ++ engine.contractions)
  { decisionId := target.decisionId
    approved := (pretrade.map (·.approved)).getD true && balanceReasons.isEmpty &&
      engine.healthBlockers.isEmpty
    modified := !constraints.isEmpty ||
      decide (epsilon12 < |finalQty - target.targetPositionQty|)
    cappedTargetPositionQty := finalQty
    cappedTargetNotional := some (|finalQty| * markPrice)
    requiredInitialMargin := pretrade.map (·.requiredInitialMargin)
    projectedMarginUsage := pretrade.map (·.projectedMarginUsage)
    projectedNotional := some ((pretrade.map (·.projectedNotional)).getD (|capped| * markPrice))
    currentOpenOrderCount := openOrders
    riskBudgetMultiplier := engine.riskBudget.multiplier
    executionAggressivenessMultiplier := engine.executionAggressiveness.multiplier
    constraintsApplied := constraints
    riskScore := engine.riskScore finalQty (|finalQty| * markPrice)
      (pretrade.map (·.projectedMarginUsage))
    flattenRequired := (pretrade.map (·.flattenRequired)).getD false
    haltRequired := engine.haltRequired rejectionReasons
    onlyReduceRequired := (pretrade.map (·.onlyReduceRequired)).getD false
    legOnlyReduceConstraints := (pretrade.map (·.legOnlyReduceConstraints)).getD []
    riskLimitBreached := (pretrade.map (·.riskLimitBreached)).getD false
    liquidationBufferRemaining := pretrade.map (·.liquidationBufferRemaining)
    currentDerivativesExposure := pretrade.map (·.currentExposure)
    projectedDerivativesExposure := pretrade.map (·.projectedExposure)
    derivativesExposureLimits := pretrade.map (·.exposureLimits)
    rejectionReasons := rejectionReasons }

/-- `evaluate`; `none` where it raises. -/
def RiskEngine.evaluate (engine : RiskEngine) (target : PositionTarget) : Option RiskDecision :=
  (engine.cappedQty target).map (engine.decisionFor target)

end Aats.Governance
