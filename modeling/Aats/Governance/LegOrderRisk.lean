import Aats.Governance.RiskEngine

/-!
# Leg orders and bundles of them

The two long/short-mode paths of `RiskEngine`: `evaluate_leg_order`, which the decision handler
asks for every leg and the order manager asks again at submission, and
`evaluate_leg_order_bundle`, which the handler asks for the legs that passed.

## Main definitions
* `RiskEngine.evaluateLegOrder` — a leg is refused when its side has a reason to only reduce.
-/

namespace Aats.Governance

open Checks

/-! ### Projections -/

def DerivativesExposureMetrics.legQty (exposure : DerivativesExposureMetrics) : Leg → ℚ
  | .long => exposure.longPositionQty
  | .short => exposure.shortPositionQty

def DerivativesExposureMetrics.legNotional (exposure : DerivativesExposureMetrics) : Leg → ℚ
  | .long => exposure.longNotional
  | .short => exposure.shortNotional

def DerivativesExposureLimits.legLimit (limits : DerivativesExposureLimits) : Leg → ℚ
  | .long => limits.riskMaxLongNotional
  | .short => limits.riskMaxShortNotional

/-- The quantity of the side `leg` after an order. -/
def LegOrderIntent.projectedQty (intent : LegOrderIntent) (current : DerivativesExposureMetrics)
    (leg : Leg) : ℚ :=
  if intent.posSide = leg then
    if intent.action = .opening then current.legQty leg + |intent.quantity|
    else max (current.legQty leg - |intent.quantity|) 0
  else current.legQty leg

/-- `_project_derivatives_exposure_for_leg_order`: both legs at the mark price. -/
def projectDerivativesExposureForLegOrder (current : DerivativesExposureMetrics)
    (intent : LegOrderIntent) (markPrice equityBase : ℚ) : DerivativesExposureMetrics :=
  buildDerivativesExposureMetrics (intent.projectedQty current .long)
    (intent.projectedQty current .short) markPrice equityBase none none
    current.longInitialMargin current.shortInitialMargin current.totalInitialMargin

def legAddedNotional (current projected : DerivativesExposureMetrics) (leg : Leg) : ℚ :=
  max (projected.legNotional leg - current.legNotional leg) 0

def applyProjectedMarginToExposure (exposure current : DerivativesExposureMetrics)
    (intent : LegOrderIntent) (requiredInitialMargin : ℚ) : DerivativesExposureMetrics :=
  if intent.action ≠ .opening ∨ requiredInitialMargin ≤ epsilon12 then exposure
  else
    let long := current.longInitialMargin.getD 0 +
      if intent.posSide = .long then requiredInitialMargin else 0
    let short := current.shortInitialMargin.getD 0 +
      if intent.posSide = .short then requiredInitialMargin else 0
    { exposure with
      longInitialMargin := (some long).filter (epsilon12 < ·)
      shortInitialMargin := (some short).filter (epsilon12 < ·)
      totalInitialMargin := (some (long + short)).filter (epsilon12 < ·) }

/-! ### One leg -/

structure LegFigures where
  account : AccountFigures
  leverage : ℚ
  projectedExposure : DerivativesExposureMetrics
  addedNotional : ℚ
  requiredInitialMargin : ℚ
  projectedMarginUsage : ℚ

def RiskEngine.legFigures (engine : RiskEngine) (intent : LegOrderIntent) : LegFigures :=
  let account := engine.accountFigures intent.symbol
  let projected := projectDerivativesExposureForLegOrder account.currentExposure intent
    account.markPrice account.equityBase
  let leverage := max intent.targetLeverage 1
  let added := legAddedNotional account.currentExposure projected intent.posSide
  let required := added * account.feeMultiplier / leverage
  { account := account
    leverage := leverage
    projectedExposure := projected
    addedNotional := added
    requiredInitialMargin := required
    projectedMarginUsage := account.projectedMarginUsage leverage added required }

/-- The projected net notional lies above the current one. -/
def LegFigures.raisesNet (figures : LegFigures) : Bool :=
  decide (figures.account.currentExposure.netNotional + epsilon12 <
    figures.projectedExposure.netNotional)

/-- The limits of an opening leg, with the reason each one gives. -/
def RiskEngine.legLimitChecks (engine : RiskEngine) (intent : LegOrderIntent)
    (figures : LegFigures) : List (Bool × String) :=
  let account := figures.account
  let projected := figures.projectedExposure
  let limits := account.exposureLimits
  [(decide (engine.settings.maxOpenOrders ≤ account.currentOpenOrderCount),
      "max_open_orders_reached"),
    (decide (engine.policyProfile.maxTargetLeverage + epsilon12 < intent.targetLeverage),
      "max_target_leverage_exceeded"),
    (engine.enforceExchangeMarginChecks &&
        decide (account.availableEquity + epsilon12 < figures.requiredInitialMargin),
      "insufficient_initial_margin"),
    (engine.enforceExchangeMarginChecks &&
        exceeds engine.settings.maxMarginUsageFraction figures.projectedMarginUsage,
      "liquidation_buffer_breached"),
    (decide (intent.posSide = .long) &&
        exceeds limits.riskMaxLongNotional projected.longNotional,
      "risk_max_long_notional_exceeded"),
    (decide (intent.posSide = .short) &&
        exceeds limits.riskMaxShortNotional projected.shortNotional,
      "risk_max_short_notional_exceeded"),
    (exceeds limits.riskMaxGrossNotional projected.grossNotional,
      "risk_max_gross_notional_exceeded"),
    (exceeds limits.riskMaxNetNotional projected.netNotional && figures.raisesNet &&
        decide (legOfSide projected.netExposureSide = some intent.posSide),
      "risk_max_net_notional_exceeded"),
    (exceeds engine.maxPendingNotionalPerSymbol
        (account.symbolPendingNotional + figures.addedNotional),
      "max_pending_notional_per_symbol_exceeded"),
    (exceeds engine.maxTotalOpenNotional
        (account.currentTotalPositionNotional + account.totalPendingNotional +
          figures.addedNotional),
      "max_total_open_notional_exceeded"),
    (exceeds engine.settings.maxDailyRealizedLossUsdt account.dailyRealizedLoss &&
        figures.raisesNet,
      "max_daily_realized_loss_usdt_exceeded")]

/-- `_limit_breaches_for_leg_order`: the reasons for the side of the order. -/
def RiskEngine.limitBreachesForLegOrder (engine : RiskEngine) (intent : LegOrderIntent)
    (figures : LegFigures) : List String :=
  if intent.action = .opening then
    let breaches := raised (engine.legLimitChecks intent figures)
    breaches ++ raised
      [(breaches.isEmpty && engine.enforceExchangeMarginChecks &&
          engine.settings.onlyReduceTriggered figures.projectedMarginUsage && figures.raisesNet,
        "derivatives_margin_usage_requires_only_reduce")]
  else []

/-- All reasons by leg: those of the account, and on the side of the order those of the order. -/
def RiskEngine.legOnlyReduceConstraints (engine : RiskEngine) (intent : LegOrderIntent) :
    LegReasons :=
  let figures := engine.legFigures intent
  ((engine.baseLegOnlyReduceConstraints figures.account intent.strategyBundleId).append
    [intent.posSide] (engine.limitBreachesForLegOrder intent figures)).unique

def RiskEngine.evaluateLegOrder (engine : RiskEngine) (intent : LegOrderIntent) : RiskDecision :=
  let figures := engine.legFigures intent
  let account := figures.account
  let reasons := engine.legOnlyReduceConstraints intent
  let refused := decide (intent.action = .opening) && !(reasons.get intent.posSide).isEmpty
  let rejectionReasons := uniqueTexts
    (if refused then reasons.get intent.posSide ++ ["leg_only_reduce_mode_active"] else [])
  let constraints := uniqueTexts
    ((if refused then "only_reduce_required" :: reasons.get intent.posSide else []) ++
      engine.contractions)
  let projected := applyProjectedMarginToExposure figures.projectedExposure
    account.currentExposure intent figures.requiredInitialMargin
  { decisionId := intent.decisionId
    approved := !refused
    modified := !constraints.isEmpty
    cappedTargetPositionQty := projected.netPositionQty
    cappedTargetNotional := some projected.netNotional
    requiredInitialMargin := some figures.requiredInitialMargin
    projectedMarginUsage := some figures.projectedMarginUsage
    projectedNotional := some figures.projectedExposure.grossNotional
    currentOpenOrderCount := account.currentOpenOrderCount
    riskBudgetMultiplier := engine.riskBudget.multiplier
    executionAggressivenessMultiplier := engine.executionAggressiveness.multiplier
    constraintsApplied := constraints
    riskScore := engine.riskScore projected.netPositionQty projected.netNotional
      (some figures.projectedMarginUsage)
    haltRequired := engine.haltRequired rejectionReasons
    onlyReduceRequired := !reasons.constraints.isEmpty
    legOnlyReduceConstraints := reasons.constraints
    riskLimitBreached := refused
    liquidationBufferRemaining := some
      (max (engine.settings.maxMarginUsageFraction - figures.projectedMarginUsage) 0)
    currentDerivativesExposure := some account.currentExposure
    projectedDerivativesExposure := some projected
    derivativesExposureLimits := some account.exposureLimits
    rejectionReasons := rejectionReasons }

/-! ### A bundle -/

def LegOrderIntent.bundled (intent : LegOrderIntent) : Bool :=
  decide (intent.productType = .derivatives ∧ intent.positionMode = .longShortMode)

/-- What the loop over the legs of a bundle accumulates. -/
structure BundleTotals where
  projectedExposure : DerivativesExposureMetrics
  requiredInitialMargin : ℚ := 0
  addedNotional : ℚ := 0
  maxTargetLeverage : ℚ := 1
  openingLegCount : ℕ := 0

def RiskEngine.addLeg (engine : RiskEngine) (account : AccountFigures) (totals : BundleTotals)
    (intent : LegOrderIntent) : BundleTotals :=
  let projected := projectDerivativesExposureForLegOrder totals.projectedExposure intent
    account.markPrice account.equityBase
  let leverage := max intent.targetLeverage 1
  let added := legAddedNotional totals.projectedExposure projected intent.posSide
  if intent.action = .opening then
    { projectedExposure := projected
      requiredInitialMargin := totals.requiredInitialMargin +
        added * (1 + engine.takerFeeBps intent.symbol / 10000) / leverage
      addedNotional := totals.addedNotional + added
      maxTargetLeverage := max totals.maxTargetLeverage leverage
      openingLegCount := totals.openingLegCount + 1 }
  else
    { totals with
      projectedExposure := projected
      maxTargetLeverage := max totals.maxTargetLeverage leverage }

def RiskEngine.bundleTotals (engine : RiskEngine) (account : AccountFigures)
    (intents : List LegOrderIntent) : BundleTotals :=
  intents.foldl (engine.addLeg account) { projectedExposure := account.currentExposure }

def AccountFigures.bundleMarginUsage (account : AccountFigures) (totals : BundleTotals) : ℚ :=
  account.projectedMarginUsage totals.maxTargetLeverage totals.addedNotional
    totals.requiredInitialMargin

def RiskEngine.bundleChecks (engine : RiskEngine) (account : AccountFigures)
    (totals : BundleTotals) : List (Bool × String) :=
  let current := account.currentExposure
  let projected := totals.projectedExposure
  let limits := account.exposureLimits
  let usage := account.bundleMarginUsage totals
  let raises (before after : ℚ) : Bool := decide (before + epsilon12 < after)
  [(decide (engine.settings.maxOpenOrders <
        (account.currentOpenOrderCount + totals.openingLegCount : ℕ)),
      "max_open_orders_reached"),
    (engine.enforceExchangeMarginChecks &&
        decide (account.availableEquity + epsilon12 < totals.requiredInitialMargin),
      "insufficient_initial_margin"),
    (engine.enforceExchangeMarginChecks && exceeds engine.settings.maxMarginUsageFraction usage,
      "liquidation_buffer_breached"),
    (exceeds limits.riskMaxLongNotional projected.longNotional &&
        raises current.longNotional projected.longNotional,
      "risk_max_long_notional_exceeded"),
    (exceeds limits.riskMaxShortNotional projected.shortNotional &&
        raises current.shortNotional projected.shortNotional,
      "risk_max_short_notional_exceeded"),
    (exceeds limits.riskMaxGrossNotional projected.grossNotional &&
        raises current.grossNotional projected.grossNotional,
      "risk_max_gross_notional_exceeded"),
    (exceeds limits.riskMaxNetNotional projected.netNotional &&
        raises current.netNotional projected.netNotional,
      "risk_max_net_notional_exceeded"),
    (exceeds engine.maxPendingNotionalPerSymbol
        (account.symbolPendingNotional + totals.addedNotional),
      "max_pending_notional_per_symbol_exceeded"),
    (exceeds engine.maxTotalOpenNotional
        (account.currentTotalPositionNotional + account.totalPendingNotional +
          totals.addedNotional),
      "max_total_open_notional_exceeded"),
    (exceeds engine.settings.maxDailyRealizedLossUsdt account.dailyRealizedLoss &&
        raises current.netNotional projected.netNotional,
      "max_daily_realized_loss_usdt_exceeded"),
    (engine.enforceExchangeMarginChecks && engine.settings.onlyReduceTriggered usage &&
        raises current.netNotional projected.netNotional,
      "derivatives_margin_usage_requires_only_reduce")]

/-- The reasons a bundle reports for its legs: those of the account and those of its own limits.
They do not decide the approval. -/
def RiskEngine.bundleLegReasons (engine : RiskEngine) (account : AccountFigures)
    (totals : BundleTotals) (intents : List LegOrderIntent) : LegReasons :=
  let raisedReasons := raised (engine.bundleChecks account totals)
  let involved := [Leg.long, Leg.short].filter (· ∈ intents.map (·.posSide))
  let net := match legOfSide totals.projectedExposure.netExposureSide with
    | some leg => [leg]
    | none => involved
  let bundleId := (intents.filterMap (·.strategyBundleId)).find? (¬ blank ·)
  let map := engine.baseLegOnlyReduceConstraints account bundleId
  let add (map : LegReasons) (legs : List Leg) (reason : String) : LegReasons :=
    map.appendIf (decide (reason ∈ raisedReasons)) legs reason
  let map := add map [.long] "risk_max_long_notional_exceeded"
  let map := add map [.short] "risk_max_short_notional_exceeded"
  let map := add map involved "risk_max_gross_notional_exceeded"
  let map := add map net "risk_max_net_notional_exceeded"
  add map net "derivatives_margin_usage_requires_only_reduce"

def refusedBundle (decisionId reason : String) : RiskDecision where
  decisionId := decisionId
  approved := false
  modified := false
  cappedTargetPositionQty := 0
  riskScore := 0
  riskLimitBreached := true
  rejectionReasons := [reason]

/-- `evaluate_leg_order_bundle` on the legs of one symbol. -/
def RiskEngine.decideBundle (engine : RiskEngine) (decisionId symbol : String)
    (intents : List LegOrderIntent) : RiskDecision :=
  let account := engine.accountFigures symbol
  let totals := engine.bundleTotals account intents
  let projected := totals.projectedExposure
  let usage := account.bundleMarginUsage totals
  let rejectionReasons := uniqueTexts (raised (engine.bundleChecks account totals))
  let approved := rejectionReasons.isEmpty
  let legs := engine.bundleLegReasons account totals intents
  let constraints := uniqueTexts
    ((if approved then [] else ["bundle_leg_risk_constraints_applied"]) ++ engine.contractions)
  { decisionId := decisionId
    approved := approved
    modified := !constraints.isEmpty
    cappedTargetPositionQty := projected.netPositionQty
    cappedTargetNotional := some projected.netNotional
    requiredInitialMargin := some totals.requiredInitialMargin
    projectedMarginUsage := some usage
    projectedNotional := some projected.grossNotional
    currentOpenOrderCount := account.currentOpenOrderCount
    riskBudgetMultiplier := engine.riskBudget.multiplier
    executionAggressivenessMultiplier := engine.executionAggressiveness.multiplier
    constraintsApplied := constraints
    riskScore := engine.riskScore projected.netPositionQty projected.netNotional (some usage)
    haltRequired := engine.haltRequired rejectionReasons
    onlyReduceRequired := !legs.constraints.isEmpty
    legOnlyReduceConstraints := legs.constraints
    riskLimitBreached := !approved
    liquidationBufferRemaining := some (max (engine.settings.maxMarginUsageFraction - usage) 0)
    currentDerivativesExposure := some account.currentExposure
    projectedDerivativesExposure := some projected
    derivativesExposureLimits := some account.exposureLimits
    rejectionReasons := rejectionReasons }

def RiskEngine.evaluateLegOrderBundle (engine : RiskEngine) (legIntents : List LegOrderIntent) :
    RiskDecision :=
  let intents := legIntents.filter (·.bundled)
  let decisionId := ((intents.map (·.decisionId)).find? (¬ blank ·)).getD "bundle"
  if intents = [] then refusedBundle decisionId "empty_leg_order_bundle"
  else
    match ((intents.map (·.symbol)).filter (¬ blank ·)).eraseDups with
    | [symbol] => engine.decideBundle decisionId symbol intents
    | _ => refusedBundle decisionId "multi_symbol_leg_bundle_not_supported"

end Aats.Governance
