import Aats.Recovery.RecoveryStatus
import Aats.Reconciliation.Comparator

/-!
# The findings of a comparison

`StateComparator.compare` (`reconciliation_service/comparator.py`): from the four diffs to mismatch
categories and reasons, the assessment of derivatives and of unknown writes, the findings and the
severity of the report. What a finding only describes (symbols, sleeves, details) and the advice to
the operator are left out.

## Main definitions
* `mismatchCategories`, `mismatchReasons`, `buildFindings`, `severityOf` — the stages of `compare`.
-/

namespace Aats.Reconciliation

open Execution (Timestamp)
open Governance (normalizedText)
open KeyedList
open Portfolio (PortfolioSnapshot)
open Recovery (Severity)

/-! ### Unknown writes -/

inductive UnknownWriteOperation
  | submit
  | cancel
  deriving DecidableEq, Repr

def errorIs (code : String) (error : List Char) : Bool :=
  error = code.toList || (code.toList ++ [':']).isPrefixOf error

def unknownWriteOperation (order : LocalOrder) : Option UnknownWriteOperation :=
  let error := normalizedText (order.executionError.getD "")
  if errorIs "submission_unknown_check_exchange" error then some .submit
  else if errorIs "cancel_unknown_check_exchange" error then some .cancel
  else none

def unknownWriteAgeSeconds (order : LocalOrder) (operation : UnknownWriteOperation)
    (now : Timestamp) : ℚ :=
  let lastKnown := (order.lastUpdateTs.or order.submittedTs).getD order.createdAt
  let reference :=
    match operation, order.cancellationRequestedTs with
    | .cancel, some requested => requested
    | _, _ => lastKnown
  max (((now - reference : ℤ) : ℚ) / 10 ^ 6) 0

def unknownWriteReviewAfterSeconds (settings : Option UnknownWriteSettings) :
    UnknownWriteOperation → ℚ
  | .submit => max ((settings.map (·.executionUnknownSubmitReviewAfterSeconds)).getD 30) 0
  | .cancel => max ((settings.map (·.executionUnknownCancelReviewAfterSeconds)).getD 300) 0

def requiresUnknownWriteReview (order : LocalOrder) (operation : UnknownWriteOperation)
    (now : Timestamp) (settings : Option UnknownWriteSettings) : Bool :=
  let threshold := unknownWriteReviewAfterSeconds settings operation
  decide (threshold ≤ 0) || decide (threshold ≤ unknownWriteAgeSeconds order operation now)

/-- A row of `_unknown_write_details`. -/
structure UnknownWriteDetail where
  operation : UnknownWriteOperation
  clientOrderId : String
  exchangeOrderId : Option String
  operatorReviewRequired : Bool

def unknownWriteDetails (orders : List LocalOrder) (now : Timestamp)
    (settings : Option UnknownWriteSettings) : List UnknownWriteDetail :=
  orders.filterMap fun order =>
    (unknownWriteOperation order).map fun operation =>
      { operation := operation
        clientOrderId := order.clientOrderId
        exchangeOrderId := order.exchangeOrderId
        operatorReviewRequired := requiresUnknownWriteReview order operation now settings }

/-! ### The assessment of derivatives -/

inductive MismatchCategory
  | historicalStateOnly
  | externalManualActivityDetected
  | exchangeBillsActivityAvailable
  | localFillMissing
  | localBalanceDivergence
  | localPositionDivergence
  | localPositionMarginDivergence
  | localPositionMarginProfileDivergence
  | localOpenOrderDivergence
  | unsafeUnknownState
  | derivativesOrderStateUnknownOnExchange
  | derivativesFillObservedNotBooked
  | derivativesPositionModeMismatch
  | derivativesPosSideMismatch
  | derivativesLegPositionMismatch
  | derivativesExchangePositionWithoutLocalExecutionChain
  deriving DecidableEq, Repr

inductive StateDetailKind
  | orderStateUnknownOnExchange
  | orderStatusMismatch
  | exchangeFillWithoutLocalBooking
  | positionModeMismatch
  | posSideMismatch
  | exchangePositionWithoutLocalExecutionChain
  deriving DecidableEq, Repr

/-- An entry of `unknown_state_details`, with what a finding refers to. -/
structure UnknownStateDetail where
  kind : StateDetailKind
  symbol : Option String := none
  orderKey : Option String := none
  positionKey : Option String := none

/-- `DerivativesUnknownStateAssessment`. -/
structure DerivativesAssessment where
  mismatchCategories : List MismatchCategory := []
  mismatchReasons : List String := []
  onlyReduceReasons : List String := []
  unknownStateDetails : List UnknownStateDetail := []

/-- Two parts of an assessment, one after the other. -/
def DerivativesAssessment.append (left right : DerivativesAssessment) : DerivativesAssessment where
  mismatchCategories := left.mismatchCategories ++ right.mismatchCategories
  mismatchReasons := left.mismatchReasons ++ right.mismatchReasons
  onlyReduceReasons := left.onlyReduceReasons ++ right.onlyReduceReasons
  unknownStateDetails := left.unknownStateDetails ++ right.unknownStateDetails

/-- `only_reduce_required`, which is set together with its reason. -/
def DerivativesAssessment.onlyReduceRequired (assessment : DerivativesAssessment) : Bool :=
  !assessment.onlyReduceReasons.isEmpty

def openDerivativesOrders (orders : List LocalOrder) : List LocalOrder :=
  (localOpenOrders orders).filter (·.productType = .derivatives)

def symbolOfOrder (orders : List LocalOrder) (key : String) : Option String :=
  (orders.find? (fun order => orderKey order = key)).map (·.symbol)

/-- The open orders whose state on the exchange is unknown. -/
def assessOrders (orders : List LocalOrder) (view : Option OpenOrderView) : DerivativesAssessment :=
  match view with
  | none => {}
  | some view =>
    if view.missingOnExchange = [] ∧ view.statusMismatches.isEmpty then {}
    else
      { mismatchCategories := [.derivativesOrderStateUnknownOnExchange]
        mismatchReasons :=
          (if view.missingOnExchange = [] then []
            else ["derivatives_local_order_missing_from_exchange_open_order_view"]) ++
          (if view.statusMismatches.isEmpty then []
            else ["derivatives_exchange_order_status_conflicts_with_local_open_state"])
        unknownStateDetails :=
          view.missingOnExchange.map (fun key =>
            { kind := .orderStateUnknownOnExchange, symbol := symbolOfOrder orders key,
              orderKey := some key }) ++
          view.statusMismatches.map (fun mismatch =>
            { kind := .orderStatusMismatch, symbol := symbolOfOrder orders mismatch.key,
              orderKey := some mismatch.key }) }

def assessFills (view : Option FillView) : DerivativesAssessment :=
  match view with
  | none => {}
  | some view =>
    if view.unexpectedOnExchange = [] then {}
    else
      { mismatchCategories := [.derivativesFillObservedNotBooked]
        mismatchReasons := ["derivatives_exchange_fill_observed_without_local_booking"]
        unknownStateDetails := [{ kind := .exchangeFillWithoutLocalBooking }] }

/-- The open orders in another position mode than the account. -/
def positionModeConflicts (orders : List LocalOrder) (mode : String) : List LocalOrder :=
  orders.filter fun order =>
    match order.positionMode with
    | some own => decide (positionModeText own ≠ mode)
    | none => false

/-- The open orders with a side that the position mode of the account does not have. -/
def posSideConflicts (orders : List LocalOrder) (mode : String) : List LocalOrder :=
  if mode = "net_mode" then
    orders.filter (fun order => order.posSide ≠ none ∧ order.posSide ≠ some .net)
  else if mode = "long_short_mode" then
    orders.filter (fun order => order.posSide ≠ some .long ∧ order.posSide ≠ some .short)
  else []

/-- What is added for orders that conflict with the account configuration. -/
def assessConflicts (category : MismatchCategory) (reason : String) (kind : StateDetailKind)
    (conflicts : List LocalOrder) : DerivativesAssessment :=
  if conflicts.isEmpty then {}
  else
    { mismatchCategories := [category]
      mismatchReasons := [reason]
      unknownStateDetails :=
        conflicts.map (fun order => { kind := kind, symbol := some order.symbol }) }

def assessModes (orders : List LocalOrder) (mode : Option String) : DerivativesAssessment :=
  match mode with
  | none => {}
  | some mode =>
    (assessConflicts .derivativesPositionModeMismatch
      "derivatives_local_position_mode_differs_from_exchange_account_configuration"
      .positionModeMismatch (positionModeConflicts orders mode)).append
    (assessConflicts .derivativesPosSideMismatch
      "derivatives_local_pos_side_conflicts_with_exchange_position_mode" .posSideMismatch
      (posSideConflicts orders mode))

def assessLegs (position : PositionDiff) : DerivativesAssessment :=
  if position.exchangeLegMismatches.isEmpty then {}
  else
    { mismatchCategories := [.derivativesLegPositionMismatch]
      mismatchReasons := ["derivatives_leg_position_differs_from_exchange"] }

/-- `_local_execution_position_scope`: the position keys of local execution. -/
def localExecutionPositionKeys (orders : List LocalOrder) (fills : List FillRecord) : List String :=
  (orders.filter (·.productType = .derivatives)).map (fun order =>
    buildPositionKey order.symbol order.productType order.marginMode order.positionMode
      order.posSide) ++
  (fills.filter (·.productType = .derivatives)).map (fun fill => positionKeyForFill fill.toFillEvent)

/-- `_local_execution_position_scope`: the symbols of local execution. -/
def localExecutionSymbols (orders : List LocalOrder) (fills : List FillRecord) : List String :=
  (orders.filter (·.productType = .derivatives)).map (·.symbol) ++
  (fills.filter (·.productType = .derivatives)).map (·.symbol)

def withoutLocalExecution (orders : List LocalOrder) (fills : List FillRecord)
    (position : PositionDiff) (exchangePositions : QuantityMap) (key : String) : Bool :=
  decide (epsilon12 < |quantityAt exchangePositions key|) &&
  decide (|quantityAt position.stored key| ≤ epsilon12) &&
  decide (|quantityAt position.reconstructed key| ≤ epsilon12) &&
  decide (key ∉ localExecutionPositionKeys orders fills) &&
  !(legSideFromPositionKey key = none &&
    decide (symbolFromPositionKey key ∈ localExecutionSymbols orders fills))

/-- The positions of the exchange that no local order or fill accounts for. -/
def assessChains (orders : List LocalOrder) (fills : List FillRecord) (position : PositionDiff)
    (exchangePositions : QuantityMap) : DerivativesAssessment :=
  let missing := (position.exchangeMismatches.map (·.key)).filter
    (withoutLocalExecution orders fills position exchangePositions)
  if missing.isEmpty then {}
  else
    { mismatchCategories := [.derivativesExchangePositionWithoutLocalExecutionChain]
      mismatchReasons := ["derivatives_exchange_position_not_replayed_locally"]
      onlyReduceReasons := ["derivatives_exchange_position_without_local_execution_chain"]
      unknownStateDetails := missing.map fun key =>
        { kind := .exchangePositionWithoutLocalExecutionChain
          symbol := some (symbolFromPositionKey key), positionKey := some key } }

/-- `_derivatives_unknown_state_assessment`; duplicates are dropped by the caller. -/
def derivativesAssessment (productType : Option ProductType) (orders : List LocalOrder)
    (fills : List FillRecord) (order : OrderDiff) (fill : FillDiff) (position : PositionDiff)
    (exchangeSnapshot : Option ExchangeAccountSnapshot) : DerivativesAssessment :=
  match productType, exchangeSnapshot with
  | some .derivatives, some snapshot =>
    let openOrders := openDerivativesOrders orders
    ((((assessOrders openOrders order.exchange).append (assessFills fill.exchange)).append
      (assessModes openOrders (exchangePositionMode snapshot))).append (assessLegs position)).append
      (assessChains orders fills position (exchangePositionQuantityMap snapshot))
  | _, _ => {}

/-! ### Categories and reasons -/

def okxBillSemanticGroup (billType subType : String) : String :=
  if subType ∈ ["173", "174"] ∨ billType = "8" then "funding_fee"
  else if billType = "7" ∨ subType ∈ ["9", "210", "211", "212", "213"] then "interest_or_borrow"
  else if billType ∈ ["1", "6", "11", "12"] ∨ subType ∈ ["11", "12", "118", "119", "160", "161",
      "162", "200", "201", "202", "203", "220", "221"] then "transfer_or_margin_movement"
  else if billType ∈ ["5", "9", "10"] ∨ subType ∈ ["100", "101", "102", "103", "104", "105", "106",
      "107", "110", "111", "117", "125", "126", "127", "128"] then "liquidation_or_adl"
  else if billType = "3" ∨ subType ∈ ["112", "113", "170", "171", "172"] then
    "delivery_or_exercise"
  else if billType ∈ ["2", "13"] ∨ subType ∈ ["1", "2", "3", "4", "5", "6", "131", "132", "204",
      "205", "206", "207", "208", "209", "224", "225", "236", "237"] then "trade_execution"
  else "other"

/-- The semantic group of a category: the given one, or that of its type. -/
def semanticGroupOf (row : BillCategory) : String :=
  let given := String.ofList (Governance.strip row.semanticGroup.toList)
  if given ≠ "" then given
  else if row.billType ≠ "" ∨ row.subType ≠ "" then okxBillSemanticGroup row.billType row.subType
  else ""

/-- `_exchange_bills_indicate_cash_side_manual_activity`. -/
def billsIndicateManualActivity (summary : ExchangeBillsSummary) : Bool :=
  summary.topCategories.any fun row => semanticGroupOf row ∈
    ["transfer_or_margin_movement", "liquidation_or_adl", "delivery_or_exercise", "other"]

structure Diffs where
  order : OrderDiff
  fill : FillDiff
  balance : BalanceDiff
  position : PositionDiff

namespace Diffs

variable (diffs : Diffs)

def unexpectedFills : Bool :=
  match diffs.fill.exchange with
  | some view => !view.unexpectedOnExchange.isEmpty
  | none => false

/-- Orders or fills differ from what the fills reconstruct. -/
def localExecution : Bool := !diffs.order.reconstructed.isEmpty || !diffs.fill.replayed.isEmpty

/-- Balances or positions differ from what the fills reconstruct. -/
def localPortfolio : Bool :=
  !diffs.balance.reconstructed.isEmpty || !diffs.position.reconstructedMismatches.isEmpty

/-- The account on the exchange differs, besides its fills and orders. -/
def exchangeAccount : Bool :=
  !diffs.balance.exchange.isEmpty || !diffs.position.exchangeMismatches.isEmpty ||
    !diffs.position.exchangeMarginMismatches.isEmpty ||
    !diffs.position.exchangeMarginModeMismatches.isEmpty

end Diffs

def balanceUnexplained (diffs : Diffs) (bills : ExchangeBillsSummary) : Bool :=
  !diffs.balance.exchange.isEmpty && (!bills.available || billsIndicateManualActivity bills)

def mismatchCategories (inputs : CompareInputs) (diffs : Diffs) : List MismatchCategory :=
  let bills := inputs.exchangeBillsSummary
  if (inputs.orderStates.isEmpty && inputs.fills.isEmpty) &&
      (diffs.fill.exchange.isSome || diffs.exchangeAccount) &&
      !inputs.trustedExchangePortfolioBaseline then [.historicalStateOnly]
  else
    (if (diffs.unexpectedFills || !diffs.position.exchangeMismatches.isEmpty ||
          balanceUnexplained diffs bills) && !diffs.order.exchange.isSome && !diffs.localExecution &&
          !diffs.localPortfolio then [.externalManualActivityDetected] else []) ++
    (if bills.available && (diffs.unexpectedFills || diffs.exchangeAccount ||
        diffs.order.exchange.isSome) then [.exchangeBillsActivityAvailable] else []) ++
    (if diffs.fill.replayed.isEmpty then [] else [.localFillMissing]) ++
    (if diffs.balance.exchange.isEmpty then [] else [.localBalanceDivergence]) ++
    (if diffs.position.exchangeMismatches.isEmpty then [] else [.localPositionDivergence]) ++
    (if diffs.position.exchangeMarginMismatches.isEmpty then []
      else [.localPositionMarginDivergence]) ++
    (if diffs.position.exchangeMarginModeMismatches.isEmpty then []
      else [.localPositionMarginProfileDivergence]) ++
    (if diffs.order.exchange.isSome then [.localOpenOrderDivergence] else []) ++
    (if diffs.localExecution || diffs.localPortfolio then [.unsafeUnknownState] else [])

def mismatchReasons (diffs : Diffs) (categories : List MismatchCategory)
    (bills : ExchangeBillsSummary) : List String :=
  ([(!diffs.order.reconstructed.isEmpty, "local_order_state_differs_from_fill_reconstruction"),
    (diffs.order.exchange.isSome, "local_open_orders_diverge_from_exchange_open_orders"),
    (!diffs.fill.replayed.isEmpty, "orphan_or_incomplete_local_fill_chain_detected"),
    (diffs.fill.exchange.isSome, "local_exchange_fill_set_diverges_from_exchange_fill_set"),
    (!diffs.balance.reconstructed.isEmpty, "stored_balance_differs_from_replayed_balance"),
    (!diffs.balance.exchange.isEmpty, "local_balance_differs_from_exchange_balance"),
    (!diffs.position.reconstructedMismatches.isEmpty,
      "stored_position_differs_from_replayed_position"),
    (!diffs.position.exchangeMismatches.isEmpty, "local_position_differs_from_exchange_position"),
    (!diffs.position.exchangeLegMismatches.isEmpty,
      "derivatives_leg_position_differs_from_exchange"),
    (!diffs.position.exchangeMarginMismatches.isEmpty,
      "local_position_margin_differs_from_exchange_position_margin"),
    (!diffs.position.exchangeMarginModeMismatches.isEmpty,
      "local_position_margin_mode_differs_from_exchange_position_margin_mode"),
    (decide (.exchangeBillsActivityAvailable ∈ categories) && decide (bills.count ≠ 0),
      "recent_exchange_bills_may_explain_exchange_side_balance_activity")].filter (·.1)).map (·.2)

/-! ### Findings -/

/-- `ReconciliationFindingLayer`. -/
inductive FindingLayer
  | structural
  | financial
  | observational
  deriving DecidableEq, Repr

/-- `ReconciliationFindingSeverity`. -/
inductive FindingSeverity
  | info
  | soft
  | review
  | halt
  deriving DecidableEq, Repr

def FindingSeverity.needsReview : FindingSeverity → Bool
  | .review | .halt => true
  | .info | .soft => false

inductive FindingScope
  | account
  | position
  | order
  | fill
  deriving DecidableEq, Repr

/-- The types of findings. Those of the hard categories and of the details carry the name of
the category or the kind. -/
inductive FindingType
  | historicalStateOnly
  | localExecutionReconstructionMismatch
  | exchangeOpenOrderMissing
  | unexpectedExchangeOpenOrder
  | exchangeOpenOrderStatusMismatch
  | orphanOrIncompleteLocalFill
  | historicOrphanFill
  | localFillMissingOnExchange
  | unexpectedExchangeFill
  | reconstructedBalanceMismatch
  | exchangeBalanceMismatch
  | reconstructedPositionMismatch
  | exchangePositionLegMismatch
  | exchangePositionQuantityMismatch
  | exchangePositionMarginDrift
  | exchangePositionMarginModeMismatch
  | externalManualActivityDetected
  | exchangeBillsActivityAvailable
  | category (category : MismatchCategory)
  | unknownWrite (operation : UnknownWriteOperation)
  | stateDetail (kind : StateDetailKind)
  | genericMismatchReason
  deriving DecidableEq, Repr

/-- `ReconciliationFinding`. -/
structure Finding where
  layer : FindingLayer
  findingType : FindingType
  severityClass : FindingSeverity
  reasonCode : String
  scopeKind : FindingScope := .account
  scopeRef : Option String := none
  reviewRequired : Bool := severityClass.needsReview
  onlyReduceRequired : Bool := false
  haltRequired : Bool := severityClass = .halt
  blocksResume : Bool := severityClass.needsReview
  deriving DecidableEq

def orderFindings (diff : OrderDiff) : List Finding :=
  let diverge := "local_open_orders_diverge_from_exchange_open_orders"
  diff.reconstructed.map (fun entry =>
    { layer := .structural, findingType := .localExecutionReconstructionMismatch,
      severityClass := .soft, reasonCode := "local_order_state_differs_from_fill_reconstruction",
      scopeKind := .order, scopeRef := some entry.key, blocksResume := false }) ++
  match diff.exchange with
  | none => []
  | some view =>
    view.missingOnExchange.map (fun key =>
      { layer := .structural, findingType := .exchangeOpenOrderMissing, severityClass := .review,
        reasonCode := diverge, scopeKind := .order, scopeRef := some key }) ++
    view.unexpectedOnExchange.map (fun key =>
      { layer := .structural, findingType := .unexpectedExchangeOpenOrder, severityClass := .review,
        reasonCode := diverge, scopeKind := .order, scopeRef := some key }) ++
    view.statusMismatches.map (fun mismatch =>
      { layer := .structural, findingType := .exchangeOpenOrderStatusMismatch,
        severityClass := .review, reasonCode := diverge, scopeKind := .order,
        scopeRef := some mismatch.key })

/-- The lookback window of the exchange for fills: 72 hours, in microseconds. -/
def historicOrphanCutoff : ℤ := 72 * 3600 * 10 ^ 6

/-- The finding about a local fill that the exchange does not show. -/
def missingFillFinding (fills : List FillRecord) (now : Timestamp) (fillId : String) : Finding :=
  match fills.reverse.find? (fun fill => fill.fillId = fillId) with
  | some fill =>
    if fill.exchangeTimestamp < now - historicOrphanCutoff then
      { layer := .structural, findingType := .historicOrphanFill, severityClass := .info,
        reasonCode := "local_fill_older_than_exchange_lookback_window", scopeKind := .fill,
        scopeRef := some fillId, blocksResume := false }
    else
      { layer := .structural, findingType := .localFillMissingOnExchange, severityClass := .soft,
        reasonCode := "local_exchange_fill_set_diverges_from_exchange_fill_set",
        scopeKind := .fill, scopeRef := some fillId, blocksResume := false }
  | none =>
    { layer := .structural, findingType := .localFillMissingOnExchange, severityClass := .soft,
      reasonCode := "local_exchange_fill_set_diverges_from_exchange_fill_set",
      scopeKind := .fill, scopeRef := some fillId, blocksResume := false }

def fillFindings (fills : List FillRecord) (now : Timestamp) (diff : FillDiff) : List Finding :=
  diff.replayed.map (fun orphan =>
    { layer := .structural, findingType := .orphanOrIncompleteLocalFill, severityClass := .soft,
      reasonCode := "orphan_or_incomplete_local_fill_chain_detected", scopeKind := .fill,
      scopeRef := some orphan.fillId, blocksResume := false }) ++
  match diff.exchange with
  | none => []
  | some view =>
    view.missingOnExchange.map (missingFillFinding fills now) ++
    view.unexpectedOnExchange.map (fun fillId =>
      { layer := .structural, findingType := .unexpectedExchangeFill, severityClass := .review,
        reasonCode := "local_exchange_fill_set_diverges_from_exchange_fill_set",
        scopeKind := .fill, scopeRef := some fillId })

def balanceFindings (diff : BalanceDiff) : List Finding :=
  diff.reconstructed.map (fun entry =>
    { layer := .financial, findingType := .reconstructedBalanceMismatch, severityClass := .soft,
      reasonCode := "stored_balance_differs_from_replayed_balance", scopeRef := some entry.key,
      blocksResume := false }) ++
  diff.exchange.map (fun entry =>
    { layer := .financial, findingType := .exchangeBalanceMismatch, severityClass := .soft,
      reasonCode := "local_balance_differs_from_exchange_balance", scopeRef := some entry.key,
      blocksResume := false })

/-- The finding about a position that differs on the exchange: it does not block if the report
only asks for reductions. -/
def exchangePositionFinding (diff : PositionDiff) (onlyReduceRequired : Bool)
    (entry : Discrepancy) : Finding :=
  let leg := decide (entry.key ∈ diff.exchangeLegMismatches.map (·.key))
  { layer := .structural
    findingType :=
      if leg then .exchangePositionLegMismatch else .exchangePositionQuantityMismatch
    severityClass := if onlyReduceRequired then .soft else .review
    reasonCode := if leg then "derivatives_leg_position_differs_from_exchange"
      else "local_position_differs_from_exchange_position"
    scopeKind := .position
    scopeRef := some entry.key
    blocksResume := !onlyReduceRequired }

def positionFindings (diff : PositionDiff) (onlyReduceRequired : Bool) : List Finding :=
  diff.reconstructedMismatches.map (fun entry =>
    { layer := .structural, findingType := .reconstructedPositionMismatch, severityClass := .soft,
      reasonCode := "stored_position_differs_from_replayed_position", scopeKind := .position,
      scopeRef := some entry.key, blocksResume := false }) ++
  diff.exchangeMismatches.map (exchangePositionFinding diff onlyReduceRequired) ++
  diff.exchangeMarginMismatches.map (fun key =>
    { layer := .observational, findingType := .exchangePositionMarginDrift, severityClass := .soft,
      reasonCode := "local_position_margin_differs_from_exchange_position_margin",
      scopeKind := .position, scopeRef := some key, blocksResume := false }) ++
  diff.exchangeMarginModeMismatches.map (fun key =>
    { layer := .structural, findingType := .exchangePositionMarginModeMismatch,
      severityClass := .halt,
      reasonCode := "local_position_margin_mode_differs_from_exchange_position_margin_mode",
      scopeKind := .position, scopeRef := some key })

def activityFindings (categories : List MismatchCategory) (bills : ExchangeBillsSummary)
    (onlyReduceRequired : Bool) : List Finding :=
  (if .externalManualActivityDetected ∈ categories then
    [{ layer := .structural, findingType := .externalManualActivityDetected,
       severityClass := if onlyReduceRequired then .soft else .review,
       reasonCode := "external_manual_activity_detected", blocksResume := !onlyReduceRequired }]
  else []) ++
  (if .exchangeBillsActivityAvailable ∈ categories ∧ bills.count ≠ 0 then
    [{ layer := .financial, findingType := .exchangeBillsActivityAvailable, severityClass := .soft,
       reasonCode := "recent_exchange_bills_may_explain_exchange_side_balance_activity",
       blocksResume := false }]
  else [])

def hardCategories : List (MismatchCategory × String) :=
  [(.unsafeUnknownState, "unsafe_unknown_state"),
    (.derivativesOrderStateUnknownOnExchange, "derivatives_order_state_unknown_on_exchange"),
    (.derivativesFillObservedNotBooked, "derivatives_fill_observed_not_booked"),
    (.derivativesPositionModeMismatch, "derivatives_position_mode_mismatch"),
    (.derivativesPosSideMismatch, "derivatives_pos_side_mismatch")]

def hardFindings (categories : List MismatchCategory) : List Finding :=
  (hardCategories.filter (fun hard => hard.1 ∈ categories)).map fun hard =>
    { layer := .structural, findingType := .category hard.1, severityClass := .halt,
      reasonCode := hard.2 }

/-- The finding about positions without local execution. -/
def chainFindings (categories : List MismatchCategory) (onlyReduceRequired : Bool) : List Finding :=
  if .derivativesExchangePositionWithoutLocalExecutionChain ∈ categories then
    [{ layer := .structural
       findingType := .category .derivativesExchangePositionWithoutLocalExecutionChain
       severityClass := .review
       reasonCode := "derivatives_exchange_position_not_replayed_locally"
       onlyReduceRequired := onlyReduceRequired }]
  else []

def unknownWriteFinding (detail : UnknownWriteDetail) : Finding where
  layer := .structural
  findingType := .unknownWrite detail.operation
  severityClass := if detail.operatorReviewRequired then .review else .soft
  reasonCode :=
    match detail.operation with
    | .submit => "unknown_submit_requires_exchange_reconciliation"
    | .cancel => "unknown_cancel_requires_exchange_reconciliation"
  scopeKind := .order
  scopeRef := some (textOr (some detail.clientOrderId) (detail.exchangeOrderId.getD ""))
  reviewRequired := detail.operatorReviewRequired
  blocksResume := detail.operatorReviewRequired

def kindText : StateDetailKind → String
  | .orderStateUnknownOnExchange => "order_state_unknown_on_exchange"
  | .orderStatusMismatch => "order_status_mismatch"
  | .exchangeFillWithoutLocalBooking => "exchange_fill_without_local_booking"
  | .positionModeMismatch => "position_mode_mismatch"
  | .posSideMismatch => "pos_side_mismatch"
  | .exchangePositionWithoutLocalExecutionChain => "exchange_position_without_local_execution_chain"

def stateDetailFinding (onlyReduceRequired : Bool) (detail : UnknownStateDetail) : Finding where
  layer := .structural
  findingType := .stateDetail detail.kind
  severityClass :=
    if detail.kind = .exchangePositionWithoutLocalExecutionChain then .review else .halt
  reasonCode := kindText detail.kind
  scopeKind :=
    if detail.kind = .positionModeMismatch ∨
      detail.kind = .exchangePositionWithoutLocalExecutionChain then .position else .order
  scopeRef := some (textOr detail.orderKey (textOr detail.positionKey (detail.symbol.getD "")))
  onlyReduceRequired := onlyReduceRequired
  blocksResume := true

/-- A detail gets a finding unless there is one of its kind about the same order or position. -/
def addStateDetail (onlyReduceRequired : Bool) (findings : List Finding)
    (detail : UnknownStateDetail) : List Finding :=
  if findings.any (fun finding => finding.findingType = .stateDetail detail.kind &&
      finding.scopeRef = some (textOr detail.orderKey (detail.positionKey.getD ""))) then findings
  else findings ++ [stateDetailFinding onlyReduceRequired detail]

def directFindings (inputs : CompareInputs) (diffs : Diffs) (categories : List MismatchCategory)
    (assessment : DerivativesAssessment) (writes : List UnknownWriteDetail) : List Finding :=
  orderFindings diffs.order ++ fillFindings inputs.fills inputs.now diffs.fill ++
  balanceFindings diffs.balance ++ positionFindings diffs.position assessment.onlyReduceRequired ++
  activityFindings categories inputs.exchangeBillsSummary assessment.onlyReduceRequired ++
  hardFindings categories ++ chainFindings categories assessment.onlyReduceRequired ++
  writes.map unknownWriteFinding

def buildFindings (inputs : CompareInputs) (diffs : Diffs) (categories : List MismatchCategory)
    (reasons : List String) (assessment : DerivativesAssessment)
    (writes : List UnknownWriteDetail) : List Finding :=
  if categories = [.historicalStateOnly] then
    [{ layer := .structural, findingType := .historicalStateOnly, severityClass := .info,
       reasonCode := "historical_state_only", blocksResume := false }]
  else
    let findings := assessment.unknownStateDetails.foldl
      (addStateDetail assessment.onlyReduceRequired)
      (directFindings inputs diffs categories assessment writes)
    if findings.isEmpty then
      reasons.map fun reason =>
        { layer := .observational, findingType := .genericMismatchReason, severityClass := .soft,
          reasonCode := reason, blocksResume := false }
    else findings

/-- `_severity`. -/
def severityOf (findings : List Finding) (categories : List MismatchCategory)
    (onlyReduceRequired : Bool) : Severity :=
  if categories = [.historicalStateOnly] then .info
  else if findings.any (fun finding => finding.haltRequired || finding.severityClass = .halt) then
    .hardMismatch
  else if findings.any (fun finding => finding.reviewRequired || finding.severityClass = .review)
    then .reviewRequired
  else if onlyReduceRequired then .softMismatch
  else if !findings.isEmpty && categories.isEmpty &&
      findings.all (fun finding => finding.severityClass = .info) then .info
  else if categories.isEmpty && findings.isEmpty then .clean
  else .softMismatch

/-! ### The report -/

structure ReconciliationReport where
  exchangeComparisonEnabled : Bool
  diffs : Diffs
  findings : List Finding
  mismatchCategories : List MismatchCategory
  mismatchReasons : List String
  severity : Severity
  reviewRequired : Bool
  haltRequired : Bool
  onlyReduceRequired : Bool
  onlyReduceReasons : List String
  unknownStateDetails : List UnknownStateDetail
  unknownWriteDetails : List UnknownWriteDetail

namespace CompareInputs

variable (inputs : CompareInputs)

/-- The snapshot is not older than any local execution. -/
def snapshotCovers : Bool :=
  snapshotCoversLocalExecution inputs.orderStates inputs.fills inputs.exchangeSnapshot

/-- The four diffs, against the exchange only if its snapshot is current. -/
def diffs : Diffs where
  order := orderDiff inputs.orderStates inputs.fills inputs.exchangeSnapshot
    (inputs.exchangeComparisonEnabled && inputs.snapshotCovers)
  fill := fillDiff inputs.orderStates inputs.fills inputs.exchangeSnapshot
    (inputs.exchangeComparisonEnabled && inputs.snapshotCovers) inputs.acceptedExchangeFillIds
  balance := balanceDiff inputs.storedSnapshot.balances inputs.reconstructedSnapshot.balances
    inputs.exchangeSnapshot (inputs.compareExchangePortfolio && inputs.snapshotCovers)
  position := positionDiff inputs.storedSnapshot inputs.reconstructedSnapshot
    inputs.exchangeSnapshot (inputs.compareExchangePortfolio && inputs.snapshotCovers)

def assessment : DerivativesAssessment :=
  derivativesAssessment inputs.productType inputs.orderStates inputs.fills inputs.diffs.order
    inputs.diffs.fill inputs.diffs.position inputs.exchangeSnapshot

def categories : List MismatchCategory :=
  (mismatchCategories inputs inputs.diffs ++ inputs.assessment.mismatchCategories).eraseDups

def reasons : List String :=
  (mismatchReasons inputs.diffs inputs.categories inputs.exchangeBillsSummary ++
    inputs.assessment.mismatchReasons).eraseDups

def writes : List UnknownWriteDetail :=
  unknownWriteDetails inputs.orderStates inputs.now inputs.settings

def findings : List Finding :=
  buildFindings inputs inputs.diffs inputs.categories inputs.reasons inputs.assessment inputs.writes

end CompareInputs

def compare (inputs : CompareInputs) : ReconciliationReport where
  exchangeComparisonEnabled := inputs.exchangeComparisonEnabled && inputs.snapshotCovers
  diffs := inputs.diffs
  findings := inputs.findings
  mismatchCategories := inputs.categories
  mismatchReasons := inputs.reasons
  severity := severityOf inputs.findings inputs.categories inputs.assessment.onlyReduceRequired
  reviewRequired := inputs.findings.any (·.reviewRequired)
  haltRequired := inputs.findings.any (·.haltRequired)
  onlyReduceRequired := inputs.assessment.onlyReduceRequired
  onlyReduceReasons := inputs.assessment.onlyReduceReasons
  unknownStateDetails := inputs.assessment.unknownStateDetails
  unknownWriteDetails := inputs.writes

/-! ### Findings and the severity -/

theorem severityOf_of_reviewRequired {findings : List Finding} {categories : List MismatchCategory}
    {onlyReduceRequired : Bool} {finding : Finding} (hmem : finding ∈ findings)
    (hreview : finding.reviewRequired = true) (hhistory : categories ≠ [.historicalStateOnly]) :
    severityOf findings categories onlyReduceRequired = .reviewRequired ∨
      severityOf findings categories onlyReduceRequired = .hardMismatch := by
  unfold severityOf
  rw [if_neg hhistory]
  split
  · exact Or.inr rfl
  · have hany : findings.any
        (fun finding => finding.reviewRequired || finding.severityClass = .review) = true := by
      rw [List.any_eq_true]
      exact ⟨finding, hmem, by rw [hreview]; rfl⟩
    rw [if_pos hany]
    exact Or.inl rfl

theorem mem_foldl_addStateDetail {onlyReduceRequired : Bool} {details : List UnknownStateDetail}
    {findings : List Finding} {finding : Finding} (hmem : finding ∈ findings) :
    finding ∈ details.foldl (addStateDetail onlyReduceRequired) findings := by
  induction details generalizing findings with
  | nil => exact hmem
  | cons detail details ih =>
    rw [List.foldl_cons]
    apply ih
    unfold addStateDetail
    split
    · exact hmem
    · exact List.mem_append_left _ hmem

theorem of_mem_foldl_addStateDetail {onlyReduceRequired : Bool} {details : List UnknownStateDetail}
    {findings : List Finding} {finding : Finding}
    (hmem : finding ∈ details.foldl (addStateDetail onlyReduceRequired) findings) :
    finding ∈ findings ∨ ∃ detail ∈ details, finding = stateDetailFinding onlyReduceRequired detail := by
  induction details generalizing findings with
  | nil => exact Or.inl hmem
  | cons detail details ih =>
    rw [List.foldl_cons] at hmem
    rcases ih hmem with hin | ⟨other, hother, heq⟩
    · unfold addStateDetail at hin
      split at hin
      · exact Or.inl hin
      · rcases List.mem_append.mp hin with hold | hnew
        · exact Or.inl hold
        · exact Or.inr ⟨detail, List.mem_cons_self, List.mem_singleton.mp hnew⟩
    · exact Or.inr ⟨other, List.mem_cons_of_mem _ hother, heq⟩

/-! ### What blocks the resumption -/

/-- What a comparison acts on: each of these blocks the resumption. -/
inductive Blocking (inputs : CompareInputs) : Prop
  | openOrders (h : inputs.diffs.order.exchange.isSome = true)
  | unexpectedFill (h : inputs.diffs.unexpectedFills = true)
  | position (h : inputs.diffs.position.exchangeMismatches ≠ [])
  | marginMode (h : inputs.diffs.position.exchangeMarginModeMismatches ≠ [])
  | balance (h : balanceUnexplained inputs.diffs inputs.exchangeBillsSummary = true)
  | execution (h : inputs.diffs.localExecution = true)
  | portfolio (h : inputs.diffs.localPortfolio = true)
  | positionMode (snapshot : ExchangeAccountSnapshot) (mode : String)
      (hproduct : inputs.productType = some .derivatives)
      (hsnapshot : inputs.exchangeSnapshot = some snapshot)
      (hmode : exchangePositionMode snapshot = some mode)
      (h : positionModeConflicts (openDerivativesOrders inputs.orderStates) mode ≠ [])
  | posSide (snapshot : ExchangeAccountSnapshot) (mode : String)
      (hproduct : inputs.productType = some .derivatives)
      (hsnapshot : inputs.exchangeSnapshot = some snapshot)
      (hmode : exchangePositionMode snapshot = some mode)
      (h : posSideConflicts (openDerivativesOrders inputs.orderStates) mode ≠ [])
  | unknownWrite (order : LocalOrder) (operation : UnknownWriteOperation)
      (hmem : order ∈ inputs.orderStates) (hwrite : unknownWriteOperation order = some operation)
      (h : requiresUnknownWriteReview order operation inputs.now inputs.settings = true)

theorem exchangeLegMismatches_eq (stored reconstructed : PortfolioSnapshot)
    (exchangeSnapshot : Option ExchangeAccountSnapshot) (compareExchangePortfolio : Bool) :
    (positionDiff stored reconstructed exchangeSnapshot
        compareExchangePortfolio).exchangeLegMismatches =
      (positionDiff stored reconstructed exchangeSnapshot
        compareExchangePortfolio).exchangeMismatches.filter
          (fun entry => (legSideFromPositionKey entry.key).isSome) := by
  unfold positionDiff
  simp only []
  split
  · split
    · rfl
    · rfl
  · rfl

theorem assessConflicts_nil (category : MismatchCategory) (reason : String)
    (kind : StateDetailKind) : assessConflicts category reason kind [] = {} := rfl

structure NothingBlocks (inputs : CompareInputs) : Prop where
  openOrders : inputs.diffs.order.exchange = none
  unexpectedFills : inputs.diffs.unexpectedFills = false
  positions : inputs.diffs.position.exchangeMismatches = []
  marginModes : inputs.diffs.position.exchangeMarginModeMismatches = []

theorem nothingBlocks_of_not_blocking {inputs : CompareInputs} (h : ¬ Blocking inputs) :
    NothingBlocks inputs where
  openOrders := by
    rw [← Option.not_isSome_iff_eq_none]
    exact fun hsome => h (.openOrders hsome)
  unexpectedFills := Bool.eq_false_iff.mpr fun htrue => h (.unexpectedFill htrue)
  positions := by
    by_contra hne
    exact h (.position hne)
  marginModes := by
    by_contra hne
    exact h (.marginMode hne)

theorem NothingBlocks.assessFills {inputs : CompareInputs} (h : NothingBlocks inputs) :
    assessFills inputs.diffs.fill.exchange = {} := by
  have hnone := h.unexpectedFills
  unfold Diffs.unexpectedFills at hnone
  unfold Reconciliation.assessFills
  split
  · rfl
  · next view hview =>
    rw [hview] at hnone
    rw [if_pos (by simpa using hnone)]

theorem NothingBlocks.assessLegs {inputs : CompareInputs} (h : NothingBlocks inputs) :
    assessLegs inputs.diffs.position = {} := by
  have hpositions := h.positions
  have hnone : inputs.diffs.position.exchangeLegMismatches = [] := by
    unfold CompareInputs.diffs at hpositions ⊢
    rw [exchangeLegMismatches_eq, hpositions]
    rfl
  unfold Reconciliation.assessLegs
  rw [hnone]
  rfl

theorem NothingBlocks.assessChains {inputs : CompareInputs} (h : NothingBlocks inputs)
    (quantities : QuantityMap) :
    assessChains inputs.orderStates inputs.fills inputs.diffs.position quantities = {} := by
  unfold Reconciliation.assessChains
  rw [h.positions]
  rfl

theorem assessModes_of_not_blocking {inputs : CompareInputs} {snapshot : ExchangeAccountSnapshot}
    (h : ¬ Blocking inputs) (hproduct : inputs.productType = some .derivatives)
    (hsnapshot : inputs.exchangeSnapshot = some snapshot) :
    assessModes (openDerivativesOrders inputs.orderStates) (exchangePositionMode snapshot) = {} := by
  unfold assessModes
  split
  · rfl
  · next mode hmode =>
    have hmodeConflicts :
        positionModeConflicts (openDerivativesOrders inputs.orderStates) mode = [] := by
      by_contra hne
      exact h (.positionMode snapshot mode hproduct hsnapshot hmode hne)
    have hsideConflicts :
        posSideConflicts (openDerivativesOrders inputs.orderStates) mode = [] := by
      by_contra hne
      exact h (.posSide snapshot mode hproduct hsnapshot hmode hne)
    rw [hmodeConflicts, hsideConflicts, assessConflicts_nil, assessConflicts_nil]
    rfl

theorem assessment_of_not_blocking {inputs : CompareInputs} (h : ¬ Blocking inputs) :
    inputs.assessment = {} := by
  have hnothing := nothingBlocks_of_not_blocking h
  unfold CompareInputs.assessment derivativesAssessment
  split
  · next snapshot hproduct hsnapshot =>
    simp only [hnothing.openOrders, hnothing.assessFills, hnothing.assessLegs,
      hnothing.assessChains, assessModes_of_not_blocking h hproduct hsnapshot]
    rfl
  · rfl

theorem mem_categories {inputs : CompareInputs} {category : MismatchCategory} :
    category ∈ inputs.categories ↔ category ∈ mismatchCategories inputs inputs.diffs ∨
      category ∈ inputs.assessment.mismatchCategories := by
  unfold CompareInputs.categories
  rw [List.mem_eraseDups, List.mem_append]

section Categories

variable {inputs : CompareInputs} (horders : inputs.orderStates ≠ []) (diffs : Diffs)

include horders

theorem historicalStateOnly_notMem :
    .historicalStateOnly ∉ mismatchCategories inputs diffs := by
  have hsome : inputs.orderStates.isEmpty = false := by simpa using horders
  unfold mismatchCategories
  simp [hsome]

theorem mem_categories_local :
    .unsafeUnknownState ∈ mismatchCategories inputs diffs ↔
      diffs.localExecution = true ∨ diffs.localPortfolio = true := by
  have hsome : inputs.orderStates.isEmpty = false := by simpa using horders
  unfold mismatchCategories
  simp [hsome]

theorem mem_categories_external :
    .externalManualActivityDetected ∈ mismatchCategories inputs diffs ↔
      (diffs.unexpectedFills = true ∨ diffs.position.exchangeMismatches ≠ [] ∨
        balanceUnexplained diffs inputs.exchangeBillsSummary = true) ∧
      diffs.order.exchange.isSome = false ∧ diffs.localExecution = false ∧
      diffs.localPortfolio = false := by
  have hsome : inputs.orderStates.isEmpty = false := by simpa using horders
  unfold mismatchCategories
  simp [hsome, or_assoc, and_assoc]

end Categories

theorem notMem_mismatchCategories {inputs : CompareInputs} {diffs : Diffs}
    {category : MismatchCategory}
    (h : category ∈ [.derivativesOrderStateUnknownOnExchange, .derivativesFillObservedNotBooked,
      .derivativesPositionModeMismatch, .derivativesPosSideMismatch,
      .derivativesExchangePositionWithoutLocalExecutionChain]) :
    category ∉ mismatchCategories inputs diffs := by
  unfold mismatchCategories
  simp only [List.mem_cons, List.not_mem_nil, or_false] at h
  rcases h with rfl | rfl | rfl | rfl | rfl <;> split <;> simp

section Findings

variable {inputs : CompareInputs}

theorem categories_ne_history (horders : inputs.orderStates ≠ []) :
    inputs.categories ≠ [.historicalStateOnly] := by
  intro heq
  have hmem : MismatchCategory.historicalStateOnly ∈ inputs.categories := by
    rw [heq]
    exact List.mem_cons_self
  rcases mem_categories.mp hmem with hdiffs | hassessed
  · exact historicalStateOnly_notMem horders inputs.diffs hdiffs
  · unfold CompareInputs.assessment derivativesAssessment at hassessed
    split at hassessed
    · simp only [DerivativesAssessment.append, assessOrders, assessFills, assessModes,
        assessConflicts, assessLegs, assessChains, List.mem_append] at hassessed
      rcases hassessed with (((h | h) | h) | h) | h
      all_goals
        repeat' split at h
        all_goals simp at h
    · cases hassessed

theorem of_mem_findings {finding : Finding} (hmem : finding ∈ inputs.findings) :
    finding ∈ directFindings inputs inputs.diffs inputs.categories inputs.assessment
        inputs.writes ∨
      (∃ detail ∈ inputs.assessment.unknownStateDetails,
        finding = stateDetailFinding inputs.assessment.onlyReduceRequired detail) ∨
      ((finding.findingType = .historicalStateOnly ∨
        finding.findingType = .genericMismatchReason) ∧ finding.blocksResume = false) := by
  unfold CompareInputs.findings buildFindings at hmem
  by_cases hhistory : inputs.categories = [.historicalStateOnly]
  · rw [if_pos hhistory] at hmem
    rw [List.mem_singleton.mp hmem]
    exact Or.inr (Or.inr ⟨Or.inl rfl, rfl⟩)
  · rw [if_neg hhistory] at hmem
    by_cases hempty : (inputs.assessment.unknownStateDetails.foldl
        (addStateDetail inputs.assessment.onlyReduceRequired) (directFindings inputs inputs.diffs
          inputs.categories inputs.assessment inputs.writes)).isEmpty = true
    · rw [if_pos hempty] at hmem
      obtain ⟨reason, _, rfl⟩ := List.mem_map.mp hmem
      exact Or.inr (Or.inr ⟨Or.inr rfl, rfl⟩)
    · rw [if_neg hempty] at hmem
      rcases of_mem_foldl_addStateDetail hmem with hdirect | hdetail
      · exact Or.inl hdirect
      · exact Or.inr (Or.inl hdetail)

theorem blocksResume_orderFindings {diff : OrderDiff} (h : diff.exchange = none) {finding : Finding}
    (hmem : finding ∈ orderFindings diff) : finding.blocksResume = false := by
  unfold orderFindings at hmem
  rw [h] at hmem
  simp only [List.append_nil, List.mem_map] at hmem
  obtain ⟨entry, _, rfl⟩ := hmem
  rfl

theorem blocksResume_fillFindings {fills : List FillRecord} {now : Timestamp} {diffs : Diffs}
    (h : diffs.unexpectedFills = false) {finding : Finding}
    (hmem : finding ∈ fillFindings fills now diffs.fill) : finding.blocksResume = false := by
  unfold fillFindings at hmem
  rcases List.mem_append.mp hmem with hreplayed | hexchange
  · obtain ⟨orphan, _, rfl⟩ := List.mem_map.mp hreplayed
    rfl
  · unfold Diffs.unexpectedFills at h
    split at hexchange
    · cases hexchange
    · next view hview =>
      rw [hview] at h
      have hnil : view.unexpectedOnExchange = [] := by simpa using h
      rw [hnil, List.map_nil, List.append_nil] at hexchange
      obtain ⟨fillId, _, rfl⟩ := List.mem_map.mp hexchange
      unfold missingFillFinding
      split
      · split
        · rfl
        · rfl
      · rfl

theorem blocksResume_balanceFindings {diff : BalanceDiff} {finding : Finding}
    (hmem : finding ∈ balanceFindings diff) : finding.blocksResume = false := by
  unfold balanceFindings at hmem
  rcases List.mem_append.mp hmem with hin | hin
  · obtain ⟨entry, _, rfl⟩ := List.mem_map.mp hin
    rfl
  · obtain ⟨entry, _, rfl⟩ := List.mem_map.mp hin
    rfl

theorem blocksResume_positionFindings {diff : PositionDiff} {onlyReduceRequired : Bool}
    (hpositions : diff.exchangeMismatches = []) (hmodes : diff.exchangeMarginModeMismatches = [])
    {finding : Finding} (hmem : finding ∈ positionFindings diff onlyReduceRequired) :
    finding.blocksResume = false := by
  unfold positionFindings at hmem
  rw [hpositions, hmodes] at hmem
  simp only [List.map_nil, List.append_nil, List.mem_append, List.mem_map] at hmem
  rcases hmem with ⟨entry, _, rfl⟩ | ⟨key, _, rfl⟩
  · rfl
  · rfl

theorem blocksResume_activityFindings {categories : List MismatchCategory}
    {bills : ExchangeBillsSummary} {onlyReduceRequired : Bool}
    (h : .externalManualActivityDetected ∉ categories) {finding : Finding}
    (hmem : finding ∈ activityFindings categories bills onlyReduceRequired) :
    finding.blocksResume = false := by
  unfold activityFindings at hmem
  rw [if_neg h, List.nil_append] at hmem
  split at hmem
  · rw [List.mem_singleton.mp hmem]
  · cases hmem

theorem mem_mismatchCategories_of_not_blocking (h : ¬ Blocking inputs) {category : MismatchCategory}
    (hmem : category ∈ inputs.categories) : category ∈ mismatchCategories inputs inputs.diffs := by
  rcases mem_categories.mp hmem with hdiffs | hassessed
  · exact hdiffs
  · rw [assessment_of_not_blocking h] at hassessed
    cases hassessed

theorem unsafeUnknownState_notMem (horders : inputs.orderStates ≠ []) (h : ¬ Blocking inputs) :
    .unsafeUnknownState ∉ inputs.categories := by
  intro hmem
  have hdiffs := mem_mismatchCategories_of_not_blocking h hmem
  rcases (mem_categories_local horders inputs.diffs).mp hdiffs with hlocal | hlocal
  · exact h (.execution hlocal)
  · exact h (.portfolio hlocal)

theorem externalManualActivityDetected_notMem (horders : inputs.orderStates ≠ [])
    (h : ¬ Blocking inputs) : .externalManualActivityDetected ∉ inputs.categories := by
  intro hmem
  have hdiffs := mem_mismatchCategories_of_not_blocking h hmem
  rcases ((mem_categories_external horders inputs.diffs).mp hdiffs).1 with
    hfill | hposition | hbalance
  · exact h (.unexpectedFill hfill)
  · exact h (.position hposition)
  · exact h (.balance hbalance)

theorem notMem_hardFindings (horders : inputs.orderStates ≠ []) (h : ¬ Blocking inputs)
    (finding : Finding) : finding ∉ hardFindings inputs.categories := by
  intro hmem
  unfold hardFindings at hmem
  obtain ⟨hard, hfilter, _⟩ := List.mem_map.mp hmem
  obtain ⟨hhard, hcategory⟩ := List.mem_filter.mp hfilter
  have hcategory := of_decide_eq_true hcategory
  simp only [hardCategories, List.mem_cons, List.not_mem_nil, or_false] at hhard
  -- the first hard category is that of a local difference, the others are those of the assessment
  rcases hhard with rfl | rfl | rfl | rfl | rfl
  · exact unsafeUnknownState_notMem horders h hcategory
  all_goals
    exact notMem_mismatchCategories (by simp) (mem_mismatchCategories_of_not_blocking h hcategory)

theorem notMem_chainFindings (h : ¬ Blocking inputs) {onlyReduceRequired : Bool}
    (finding : Finding) : finding ∉ chainFindings inputs.categories onlyReduceRequired := by
  intro hmem
  unfold chainFindings at hmem
  split at hmem
  · next hcategory =>
    exact notMem_mismatchCategories (by simp) (mem_mismatchCategories_of_not_blocking h hcategory)
  · cases hmem

theorem blocksResume_unknownWriteFindings (h : ¬ Blocking inputs) {finding : Finding}
    (hmem : finding ∈ inputs.writes.map unknownWriteFinding) : finding.blocksResume = false := by
  obtain ⟨detail, hdetail, rfl⟩ := List.mem_map.mp hmem
  unfold CompareInputs.writes unknownWriteDetails at hdetail
  obtain ⟨order, horder, hsome⟩ := List.mem_filterMap.mp hdetail
  obtain ⟨operation, hoperation, rfl⟩ := Option.map_eq_some_iff.mp hsome
  by_contra hblocks
  exact h (.unknownWrite order operation horder hoperation
    (by simpa [unknownWriteFinding] using hblocks))

theorem blocksResume_of_not_blocking (horders : inputs.orderStates ≠ []) (h : ¬ Blocking inputs)
    {finding : Finding} (hmem : finding ∈ inputs.findings) : finding.blocksResume = false := by
  have hnothing := nothingBlocks_of_not_blocking h
  rcases of_mem_findings hmem with hdirect | ⟨detail, hdetail, _⟩ | ⟨_, hremark⟩
  · unfold directFindings at hdirect
    simp only [List.mem_append] at hdirect
    rcases hdirect with ((((((hin | hin) | hin) | hin) | hin) | hin) | hin) | hin
    · exact blocksResume_orderFindings hnothing.openOrders hin
    · exact blocksResume_fillFindings hnothing.unexpectedFills hin
    · exact blocksResume_balanceFindings hin
    · exact blocksResume_positionFindings hnothing.positions hnothing.marginModes hin
    · exact blocksResume_activityFindings (externalManualActivityDetected_notMem horders h) hin
    · exact absurd hin (notMem_hardFindings horders h finding)
    · exact absurd hin (notMem_chainFindings h finding)
    · exact blocksResume_unknownWriteFindings h hin
  · rw [assessment_of_not_blocking h] at hdetail
    cases hdetail
  · exact hremark

def ShowsBlocking (findings : List Finding) : Prop :=
  ∃ finding ∈ findings, finding.blocksResume = true ∧ finding.reviewRequired = true

theorem ShowsBlocking.mono {findings others : List Finding} (h : ShowsBlocking findings)
    (hsub : findings ⊆ others) : ShowsBlocking others := by
  obtain ⟨finding, hmem, hblocks⟩ := h
  exact ⟨finding, hsub hmem, hblocks⟩

theorem ShowsBlocking.append_right {findings : List Finding} (h : ShowsBlocking findings)
    (others : List Finding) : ShowsBlocking (findings ++ others) :=
  h.mono (List.subset_append_left _ _)

theorem ShowsBlocking.append_left {findings : List Finding} (h : ShowsBlocking findings)
    (others : List Finding) : ShowsBlocking (others ++ findings) :=
  h.mono (List.subset_append_right _ _)

theorem ShowsBlocking.of_map {α : Type} {items : List α} {build : α → Finding} (hne : items ≠ [])
    (h : ∀ item ∈ items, (build item).blocksResume = true ∧ (build item).reviewRequired = true) :
    ShowsBlocking (items.map build) := by
  obtain ⟨item, hitem⟩ := List.exists_mem_of_ne_nil items hne
  exact ⟨build item, List.mem_map_of_mem hitem, h item hitem⟩

theorem directFindings_subset (horders : inputs.orderStates ≠ []) :
    directFindings inputs inputs.diffs inputs.categories inputs.assessment inputs.writes ⊆
      inputs.findings := by
  intro finding hmem
  unfold CompareInputs.findings buildFindings
  rw [if_neg (categories_ne_history horders)]
  have hin : finding ∈ inputs.assessment.unknownStateDetails.foldl
      (addStateDetail inputs.assessment.onlyReduceRequired) (directFindings inputs inputs.diffs
        inputs.categories inputs.assessment inputs.writes) := mem_foldl_addStateDetail hmem
  have hempty : ¬ (inputs.assessment.unknownStateDetails.foldl
      (addStateDetail inputs.assessment.onlyReduceRequired) (directFindings inputs inputs.diffs
        inputs.categories inputs.assessment inputs.writes)).isEmpty = true := by
    rw [List.isEmpty_iff]
    intro hnil
    rw [hnil] at hin
    cases hin
  rw [if_neg hempty]
  exact hin

theorem showsBlocking_orderFindings {orders : List LocalOrder} {fills : List FillRecord}
    {snapshot : Option ExchangeAccountSnapshot} {enabled : Bool}
    (h : (orderDiff orders fills snapshot enabled).exchange.isSome = true) :
    ShowsBlocking (orderFindings (orderDiff orders fills snapshot enabled)) := by
  obtain ⟨view, hview⟩ := Option.isSome_iff_exists.mp h
  have hparts : view.missingOnExchange ≠ [] ∨ view.unexpectedOnExchange ≠ [] ∨
      view.statusMismatches ≠ [] := by
    unfold orderDiff at hview
    simp only [] at hview
    split at hview
    · unfold openOrderView at hview
      simp only [] at hview
      split at hview
      · cases hview
      · next hne =>
        obtain rfl := Option.some.inj hview
        by_contra hnil
        push Not at hnil
        exact hne ⟨hnil.1, hnil.2.1, List.isEmpty_iff.mpr hnil.2.2⟩
    · cases hview
  unfold orderFindings
  rw [hview]
  simp only []
  apply ShowsBlocking.append_left
  rcases hparts with hne | hne | hne
  · exact ((ShowsBlocking.of_map hne fun _ _ => ⟨rfl, rfl⟩).append_right _).append_right _
  · exact ((ShowsBlocking.of_map hne fun _ _ => ⟨rfl, rfl⟩).append_left _).append_right _
  · exact (ShowsBlocking.of_map hne fun _ _ => ⟨rfl, rfl⟩).append_left _

theorem showsBlocking_fillFindings {fills : List FillRecord} {now : Timestamp} {diffs : Diffs}
    (h : diffs.unexpectedFills = true) : ShowsBlocking (fillFindings fills now diffs.fill) := by
  unfold Diffs.unexpectedFills at h
  split at h
  · next view hview =>
    have hne : view.unexpectedOnExchange ≠ [] := by simpa using h
    unfold fillFindings
    rw [hview]
    exact ((ShowsBlocking.of_map hne fun _ _ => ⟨rfl, rfl⟩).append_left _).append_left _
  · cases h

theorem showsBlocking_hardFindings {categories : List MismatchCategory}
    {hard : MismatchCategory × String} (hhard : hard ∈ hardCategories) (h : hard.1 ∈ categories) :
    ShowsBlocking (hardFindings categories) := by
  have hne : hardCategories.filter (fun hard => hard.1 ∈ categories) ≠ [] :=
    List.ne_nil_of_mem (List.mem_filter.mpr ⟨hhard, decide_eq_true h⟩)
  exact ShowsBlocking.of_map hne (fun _ _ => ⟨rfl, rfl⟩)

theorem onlyReduceReasons_append (left right : DerivativesAssessment) :
    (left.append right).onlyReduceReasons = left.onlyReduceReasons ++ right.onlyReduceReasons := rfl

theorem onlyReduceReasons_assessOrders (orders : List LocalOrder) (view : Option OpenOrderView) :
    (assessOrders orders view).onlyReduceReasons = [] := by
  unfold assessOrders
  cases view with
  | none => rfl
  | some view =>
    simp only []
    split <;> rfl

theorem onlyReduceReasons_assessFills (view : Option FillView) :
    (assessFills view).onlyReduceReasons = [] := by
  unfold assessFills
  cases view with
  | none => rfl
  | some view =>
    simp only []
    split <;> rfl

theorem onlyReduceReasons_assessConflicts (category : MismatchCategory) (reason : String)
    (kind : StateDetailKind) (conflicts : List LocalOrder) :
    (assessConflicts category reason kind conflicts).onlyReduceReasons = [] := by
  unfold assessConflicts
  split <;> rfl

theorem onlyReduceReasons_assessModes (orders : List LocalOrder) (mode : Option String) :
    (assessModes orders mode).onlyReduceReasons = [] := by
  unfold assessModes
  cases mode with
  | none => rfl
  | some mode =>
    simp only []
    rw [onlyReduceReasons_append, onlyReduceReasons_assessConflicts,
      onlyReduceReasons_assessConflicts, List.append_nil]

theorem onlyReduceReasons_assessLegs (position : PositionDiff) :
    (assessLegs position).onlyReduceReasons = [] := by
  unfold assessLegs
  split <;> rfl

theorem mem_categories_of_onlyReduceRequired (h : inputs.assessment.onlyReduceRequired = true) :
    .derivativesExchangePositionWithoutLocalExecutionChain ∈ inputs.categories := by
  rw [mem_categories]
  right
  unfold CompareInputs.assessment derivativesAssessment at h ⊢
  split at h
  · next snapshot hproduct hsnapshot =>
    have hreasons : (assessChains inputs.orderStates inputs.fills inputs.diffs.position
        (exchangePositionQuantityMap snapshot)).onlyReduceReasons ≠ [] := by
      intro hnil
      simp only [DerivativesAssessment.onlyReduceRequired, onlyReduceReasons_append,
        onlyReduceReasons_assessOrders, onlyReduceReasons_assessFills,
        onlyReduceReasons_assessModes, onlyReduceReasons_assessLegs, hnil, List.append_nil] at h
      cases h
    apply List.mem_append_right
    unfold assessChains at hreasons ⊢
    simp only [] at hreasons ⊢
    split at hreasons
    · exact absurd rfl hreasons
    · next hne =>
      rw [if_neg hne]
      exact List.mem_singleton_self _
  · cases h

theorem showsBlocking_chainFindings (h : inputs.assessment.onlyReduceRequired = true) :
    ShowsBlocking (chainFindings inputs.categories inputs.assessment.onlyReduceRequired) := by
  unfold chainFindings
  rw [if_pos (mem_categories_of_onlyReduceRequired h)]
  exact ⟨_, List.mem_singleton_self _, rfl, rfl⟩

theorem mem_categories_of_conflict {snapshot : ExchangeAccountSnapshot} {mode : String}
    (hproduct : inputs.productType = some .derivatives)
    (hsnapshot : inputs.exchangeSnapshot = some snapshot)
    (hmode : exchangePositionMode snapshot = some mode) :
    (positionModeConflicts (openDerivativesOrders inputs.orderStates) mode ≠ [] →
      .derivativesPositionModeMismatch ∈ inputs.categories) ∧
    (posSideConflicts (openDerivativesOrders inputs.orderStates) mode ≠ [] →
      .derivativesPosSideMismatch ∈ inputs.categories) := by
  have hassessed : ∀ category,
      category ∈ (assessModes (openDerivativesOrders inputs.orderStates) (some mode)).mismatchCategories →
      category ∈ inputs.categories := by
    intro category hcategory
    rw [mem_categories]
    right
    unfold CompareInputs.assessment derivativesAssessment
    rw [hproduct, hsnapshot]
    simp only [DerivativesAssessment.append, hmode, List.mem_append]
    exact Or.inl (Or.inl (Or.inr hcategory))
  unfold assessModes at hassessed
  constructor
  · intro hne
    apply hassessed
    apply List.mem_append_left
    unfold assessConflicts
    rw [if_neg (by simpa using hne)]
    exact List.mem_singleton_self _
  · intro hne
    apply hassessed
    apply List.mem_append_right
    unfold assessConflicts
    rw [if_neg (by simpa using hne)]
    exact List.mem_singleton_self _

theorem ShowsBlocking.of_direct (horders : inputs.orderStates ≠ [])
    (h : ShowsBlocking (directFindings inputs inputs.diffs inputs.categories inputs.assessment
      inputs.writes)) : ShowsBlocking inputs.findings :=
  h.mono (directFindings_subset horders)

theorem showsBlocking_of_openOrders (horders : inputs.orderStates ≠ [])
    (h : inputs.diffs.order.exchange.isSome = true) : ShowsBlocking inputs.findings := by
  apply ShowsBlocking.of_direct horders
  unfold directFindings
  iterate 7 apply ShowsBlocking.append_right
  exact showsBlocking_orderFindings h

theorem showsBlocking_of_hard (horders : inputs.orderStates ≠ [])
    {hard : MismatchCategory × String} (hmem : hard ∈ hardCategories)
    (h : hard.1 ∈ inputs.categories) : ShowsBlocking inputs.findings := by
  apply ShowsBlocking.of_direct horders
  unfold directFindings
  apply ShowsBlocking.append_right
  apply ShowsBlocking.append_right
  apply ShowsBlocking.append_left
  exact showsBlocking_hardFindings hmem h

theorem showsBlocking_of_onlyReduce (horders : inputs.orderStates ≠ [])
    (h : inputs.assessment.onlyReduceRequired = true) : ShowsBlocking inputs.findings := by
  apply ShowsBlocking.of_direct horders
  unfold directFindings
  apply ShowsBlocking.append_right
  apply ShowsBlocking.append_left
  exact showsBlocking_chainFindings h

theorem showsBlocking_of_local (horders : inputs.orderStates ≠ [])
    (h : inputs.diffs.localExecution = true ∨ inputs.diffs.localPortfolio = true) :
    ShowsBlocking inputs.findings := by
  have hmem : (.unsafeUnknownState, "unsafe_unknown_state") ∈ hardCategories := by
    simp [hardCategories]
  apply showsBlocking_of_hard horders hmem
  rw [mem_categories]
  exact Or.inl ((mem_categories_local horders inputs.diffs).mpr h)

theorem showsBlocking_of_position (horders : inputs.orderStates ≠ [])
    (h : inputs.diffs.position.exchangeMismatches ≠ []) : ShowsBlocking inputs.findings := by
  cases hreduce : inputs.assessment.onlyReduceRequired with
  | true => exact showsBlocking_of_onlyReduce horders hreduce
  | false =>
    apply ShowsBlocking.of_direct horders
    unfold directFindings
    iterate 4 apply ShowsBlocking.append_right
    apply ShowsBlocking.append_left
    unfold positionFindings
    apply ShowsBlocking.append_right
    apply ShowsBlocking.append_right
    apply ShowsBlocking.append_left
    rw [hreduce]
    exact ShowsBlocking.of_map h fun _ _ => ⟨rfl, rfl⟩

theorem showsBlocking_of_balance (horders : inputs.orderStates ≠ [])
    (h : balanceUnexplained inputs.diffs inputs.exchangeBillsSummary = true) :
    ShowsBlocking inputs.findings := by
  by_cases hopen : inputs.diffs.order.exchange.isSome = true
  · exact showsBlocking_of_openOrders horders hopen
  by_cases hlocal : inputs.diffs.localExecution = true ∨ inputs.diffs.localPortfolio = true
  · exact showsBlocking_of_local horders hlocal
  push Not at hlocal
  cases hreduce : inputs.assessment.onlyReduceRequired with
  | true => exact showsBlocking_of_onlyReduce horders hreduce
  | false =>
    have hmem : MismatchCategory.externalManualActivityDetected ∈ inputs.categories := by
      rw [mem_categories, mem_categories_external horders]
      exact Or.inl ⟨Or.inr (Or.inr h), by simpa using hopen, by simpa using hlocal.1,
        by simpa using hlocal.2⟩
    apply ShowsBlocking.of_direct horders
    unfold directFindings
    iterate 3 apply ShowsBlocking.append_right
    apply ShowsBlocking.append_left
    unfold activityFindings
    apply ShowsBlocking.append_right
    rw [if_pos hmem, hreduce]
    exact ⟨_, List.mem_singleton_self _, rfl, rfl⟩

theorem showsBlocking_of_unknownWrite (horders : inputs.orderStates ≠ []) {order : LocalOrder}
    {operation : UnknownWriteOperation} (hmem : order ∈ inputs.orderStates)
    (hwrite : unknownWriteOperation order = some operation)
    (h : requiresUnknownWriteReview order operation inputs.now inputs.settings = true) :
    ShowsBlocking inputs.findings := by
  apply ShowsBlocking.of_direct horders
  unfold directFindings
  apply ShowsBlocking.append_left
  refine ⟨unknownWriteFinding
    { operation := operation, clientOrderId := order.clientOrderId,
      exchangeOrderId := order.exchangeOrderId,
      operatorReviewRequired :=
        requiresUnknownWriteReview order operation inputs.now inputs.settings }, ?_, h, h⟩
  refine List.mem_map_of_mem (List.mem_filterMap.mpr ⟨order, hmem, ?_⟩)
  rw [hwrite]
  rfl

/-- **What a comparison acts on** shows in a finding that blocks the resumption and needs a
review. -/
theorem showsBlocking_of_blocking (horders : inputs.orderStates ≠ []) (h : Blocking inputs) :
    ShowsBlocking inputs.findings := by
  cases h with
  | openOrders h => exact showsBlocking_of_openOrders horders h
  | unexpectedFill h =>
    apply ShowsBlocking.of_direct horders
    unfold directFindings
    iterate 6 apply ShowsBlocking.append_right
    apply ShowsBlocking.append_left
    exact showsBlocking_fillFindings h
  | position h => exact showsBlocking_of_position horders h
  | marginMode h =>
    apply ShowsBlocking.of_direct horders
    unfold directFindings
    iterate 4 apply ShowsBlocking.append_right
    apply ShowsBlocking.append_left
    unfold positionFindings
    apply ShowsBlocking.append_left
    exact ShowsBlocking.of_map h fun _ _ => ⟨rfl, rfl⟩
  | balance h => exact showsBlocking_of_balance horders h
  | execution h => exact showsBlocking_of_local horders (Or.inl h)
  | portfolio h => exact showsBlocking_of_local horders (Or.inr h)
  | positionMode snapshot mode hproduct hsnapshot hmode h =>
    have hmem : (.derivativesPositionModeMismatch, "derivatives_position_mode_mismatch") ∈
        hardCategories := by simp [hardCategories]
    exact showsBlocking_of_hard horders hmem
      ((mem_categories_of_conflict hproduct hsnapshot hmode).1 h)
  | posSide snapshot mode hproduct hsnapshot hmode h =>
    have hmem : (.derivativesPosSideMismatch, "derivatives_pos_side_mismatch") ∈
        hardCategories := by simp [hardCategories]
    exact showsBlocking_of_hard horders hmem
      ((mem_categories_of_conflict hproduct hsnapshot hmode).2 h)
  | unknownWrite order operation hmem hwrite h =>
    exact showsBlocking_of_unknownWrite horders hmem hwrite h

theorem severity_of_blocking (horders : inputs.orderStates ≠ []) (h : Blocking inputs) :
    (compare inputs).severity = .reviewRequired ∨ (compare inputs).severity = .hardMismatch := by
  obtain ⟨finding, hmem, _, hreview⟩ := showsBlocking_of_blocking horders h
  exact severityOf_of_reviewRequired hmem hreview (categories_ne_history horders)

end Findings

end Aats.Reconciliation
