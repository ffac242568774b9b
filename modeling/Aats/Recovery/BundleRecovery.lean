import Aats.Lib.Checks
import Aats.Recovery.OrderLedger

/-!
# Open orders that belong to a strategy bundle

`execution_engine/bundle_recovery.py`: a restart may go on with open orders if every one of them
belongs to a bundle whose state it can account for. Of a bundle's summary the fields a recovery
decides by are kept, not the descriptive ones (families, sleeves, symbols, legs).
-/

namespace Aats.Recovery

open Execution KeyedList

/-- `StrategyExecutionBundleStatus`. -/
inductive StrategyBundleStatus
  | blocked
  | planned
  | submitted
  | partialFillRecovery
  | reviewRequired
  | recovered
  deriving DecidableEq, Repr

/-- `StrategyExecutionBundle`. -/
structure StrategyBundle where
  bundleId : String
  productType : ProductType
  marginMode : MarginMode
  selectedSymbol : String
  status : StrategyBundleStatus := .planned
  reasonCodes : List String := []
  deriving DecidableEq, Repr

/-- The `recovery_state` of a bundle. -/
inductive BundleState
  | structuredOpenOrders
  | partialFillRecovery
  | reviewRequired
  | unknownBundleState
  deriving DecidableEq, Repr

/-- `RecoveryBundleSummary`. -/
structure BundleSummary where
  bundleId : String
  openOrderCount : ℕ
  totalOrderCount : ℕ
  activeObligationCount : ℕ
  recoveryState : BundleState
  recoverable : Bool
  reasonCodes : List String
  deriving DecidableEq, Repr

structure BundleRecoveryAssessment where
  openOrderCount : ℕ
  openBundleCount : ℕ
  recoverableBundleCount : ℕ
  unbundledOpenOrderCount : ℕ
  bundleRecoveryRequired : Bool
  recoveryBlocking : Bool
  bundleSummaries : List BundleSummary
  deriving DecidableEq, Repr

/-! ### One bundle -/

/-- A text without content, `not str(text or "").strip()`. -/
def isBlank (text : String) : Bool := decide (strip text = "")

def isOpenOrder (order : LedgerOrder) : Bool := !order.orderState.status.isTerminal

def orderedUnique (values : List String) : List String :=
  ((values.map strip).filter (· ≠ "")).eraseDups

def unrecoverableReasons : List String :=
  ["bundle_missing_strategy_sleeve_id", "bundle_missing_allocation_id",
    "bundle_inconsistent_allocation_id", "bundle_leg_failure_present"]

/-- The reason codes of `_build_bundle_summary`. -/
def bundleReasonCodes (orders : List LedgerOrder) (obligations : List LedgerObligation) :
    List String :=
  let openOrders := orders.filter isOpenOrder
  let allocationIds := ((orders.map (·.refs.allocationId) ++
    obligations.map (·.refs.allocationId)).filter (fun id => !isBlank id)).eraseDups
  Checks.raised
    [(openOrders.isEmpty, "bundle_no_open_orders_visible"),
      (openOrders.any (fun order => isBlank order.refs.sleeveId),
        "bundle_missing_strategy_sleeve_id"),
      (openOrders.any (fun order => isBlank order.refs.allocationId),
        "bundle_missing_allocation_id"),
      (decide (1 < allocationIds.length), "bundle_inconsistent_allocation_id"),
      (decide (openOrders.length < orders.length), "bundle_partial_fill_recovery"),
      (!obligations.isEmpty, "bundle_active_obligations_present"),
      (orders.any (fun order => decide (order.orderState.status = .failed ∨
        order.orderState.status = .rejected ∨ order.orderState.status = .blocked)),
        "bundle_leg_failure_present")]

def buildBundleSummary (bundleId : String) (orders : List LedgerOrder)
    (obligations : List LedgerObligation) : BundleSummary :=
  let reasonCodes := bundleReasonCodes orders obligations
  let recoverable := !reasonCodes.any (fun code => decide (code ∈ unrecoverableReasons))
  { bundleId := bundleId
    openOrderCount := (orders.filter isOpenOrder).length
    totalOrderCount := orders.length
    activeObligationCount := obligations.length
    recoveryState :=
      if recoverable = false then .unknownBundleState
      else if "bundle_partial_fill_recovery" ∈ reasonCodes then .partialFillRecovery
      else .structuredOpenOrders
    recoverable := recoverable
    reasonCodes := reasonCodes }

/-- `_strategy_bundle_requires_recovery`. -/
def StrategyBundle.requiresRecovery (bundle : StrategyBundle) : Bool :=
  decide (bundle.status = .partialFillRecovery ∨ bundle.status = .reviewRequired)

def applyStrategyBundleStatus (summary : BundleSummary) (bundle : StrategyBundle) :
    BundleSummary :=
  let reasonCodes := orderedUnique (summary.reasonCodes ++ bundle.reasonCodes)
  match bundle.status with
  | .reviewRequired =>
    { summary with
      recoverable := false
      recoveryState := .reviewRequired
      reasonCodes := orderedUnique (reasonCodes ++ ["bundle_review_required"]) }
  | .partialFillRecovery =>
    { summary with
      recoveryState := .partialFillRecovery
      reasonCodes := orderedUnique (reasonCodes ++ ["bundle_partial_fill_recovery"]) }
  | .blocked | .planned | .submitted | .recovered => summary

/-! ### The scope -/

def strategyBundleMatchesScope (scope : RuntimeStateScope) (bundle : StrategyBundle) : Bool :=
  decide (bundle.productType = scope.productType ∧ bundle.marginMode = scope.marginMode) &&
    scope.symbolAllowed bundle.selectedSymbol

def summaryOfBundle (orders : List LedgerOrder) (obligations : List LedgerObligation)
    (bundleId : String) : BundleSummary :=
  buildBundleSummary bundleId (orders.filter (fun order => order.refs.bundleId = bundleId))
    (obligations.filter (fun item => item.refs.bundleId = bundleId))

/-- The loop body over the strategy bundles: the status of a bundle that is being recovered is
laid over its summary. -/
def overlayStrategyBundle (scope : RuntimeStateScope) (orders : List LedgerOrder)
    (obligations : List LedgerObligation) (summaries : List BundleSummary)
    (bundle : StrategyBundle) : List BundleSummary :=
  if strategyBundleMatchesScope scope bundle = false ∨ bundle.requiresRecovery = false ∨
      strip bundle.bundleId = "" then summaries
  else
    let bundleId := strip bundle.bundleId
    let summary := (lookup BundleSummary.bundleId summaries bundleId).getD
      (buildBundleSummary bundleId
        (orders.filter (fun order => strip order.refs.bundleId = bundleId))
        (obligations.filter (fun item => strip item.refs.bundleId = bundleId)))
    upsert BundleSummary.bundleId summaries (applyStrategyBundleStatus summary bundle)

/-- `scoped_bundle_recovery_assessment`; the summaries stand in the order they are made, not in
that of their ids. -/
def scopedBundleRecoveryAssessment (scope : RuntimeStateScope) (orderStates : List LedgerOrder)
    (obligations : List LedgerObligation) (strategyBundles : List StrategyBundle) :
    BundleRecoveryAssessment :=
  let orders := orderStates.filter (orderStateMatchesScope scope)
  let scopedObligations := obligations.filter (obligationMatchesScope scope)
  let openOrders := orders.filter isOpenOrder
  let bundleIds := ((openOrders.map (·.refs.bundleId) ++
    scopedObligations.map (·.refs.bundleId)).filter (fun id => !isBlank id)).eraseDups
  let summaries := strategyBundles.foldl (overlayStrategyBundle scope orders scopedObligations)
    (bundleIds.map (summaryOfBundle orders scopedObligations))
  let unbundled := openOrders.countP (fun order => isBlank order.refs.bundleId)
  { openOrderCount := openOrders.length
    openBundleCount := summaries.length
    recoverableBundleCount := summaries.countP BundleSummary.recoverable
    unbundledOpenOrderCount := unbundled
    bundleRecoveryRequired := !summaries.isEmpty
    recoveryBlocking :=
      decide (unbundled ≠ 0) || summaries.any (fun summary => !summary.recoverable)
    bundleSummaries := summaries }

end Aats.Recovery
