import Aats.Governance.SwitchTasks
import Aats.Recovery.BundleRecovery

/-!
# What the base recovery decides

The part of `ExecutionRecoveryService.recover` (`execution_engine/recovery.py`) that decides whether
trading may start: the imported baseline, the missing snapshot, the latest reconciliation and the
open orders, each of which may halt the kill switch. Whether there are fills and snapshots is
what the portfolio part of `recover` reports. The notes of a status are left out.

## Main results
* `halted_recoverBase` — **when the kill switch is halted after it**.
-/

namespace Aats.Recovery

open Execution
open Governance (KillSwitch)

/-! ### Records -/

/-- `BaselineImportStatus`. -/
inductive BaselineStatus
  | baselineImported
  | baselineImportRequiresReview
  | rebaselineCompleted
  deriving DecidableEq, Repr

/-- `AccountBaselineSnapshot`. -/
structure AccountBaseline where
  baselineStatus : BaselineStatus
  operatorRebaseline : Bool := false
  requiresOperatorReview : Bool := false
  deriving DecidableEq, Repr

inductive Severity
  | clean
  | info
  | softMismatch
  | reviewRequired
  | hardMismatch
  deriving DecidableEq, Repr

/-- The `recovery_classification` of a report. -/
inductive Classification
  | haltRequired
  | projectionRebuildRequired
  | manualReviewRequired
  | derivativesOnlyReduce
  | observationalDrift
  | softDivergenceContinue
  | clean
  deriving DecidableEq, Repr

/-- `metadata["resume_issue"]` of an exit parent, without its time; an absent text is empty. -/
structure ResumeIssue where
  kind : String
  error : String := ""
  priorKind : String := ""
  deriving DecidableEq, Repr

inductive DetailValue
  | null
  | text (value : String)
  | number (value : ℚ)
  | flag (value : Bool)
  | texts (values : List String)
  | issue (value : ResumeIssue)
  deriving DecidableEq, Repr

/-- An entry of `unknown_state_details`, a dictionary. -/
abbrev StateDetail := List (String × DetailValue)

/-- `ReconciliationReport`; `localProjectionDiff` and `exchangeOrExecutionDiff` tell whether the
differences that `_local_projection_only` looks at are there. -/
structure ReconciliationReport where
  asOfTs : Timestamp
  severity : Severity := .clean
  haltRequired : Bool := false
  reviewRequired : Bool := false
  onlyReduceRequired : Bool := false
  onlyReduceReasons : List String := []
  resumeBlocking : Bool := false
  observationalOnly : Bool := false
  localProjectionDiff : Bool := false
  exchangeOrExecutionDiff : Bool := false
  recoveryClassification : Option Classification := none
  unknownStateDetails : List StateDetail := []
  deriving DecidableEq, Repr

/-- The `status` of a recovery. -/
inductive RecoveryOutcome
  | baseline (status : BaselineStatus)
  | recoveredHalted
  | recovered
  | coldStart
  deriving DecidableEq, Repr

/-- The `recovery_state` of a recovery. -/
inductive RecoveryState
  | normalOperation
  | onlyReduce
  | bundleRecovery
  | reviewRequired
  | resumeBlocked
  | rebaselineCompleted
  deriving DecidableEq, Repr

/-- The `recovery_action` of a recovery. -/
inductive RecoveryAction
  | haltedImportedBaselineRequiresReview
  | haltedMissingBootstrapSnapshot
  | haltedMissingReconciliationContext
  | haltedStaleReconciliationContext
  | haltedReconciliationRequiresReview
  | trackingStrategyBundleRecovery
  | haltedOpenOrdersRequireReview
  | haltedPhase4ReconciliationHaltRequired
  | haltedStuckSentSubmitCommands
  | haltedClaimedSubmitCommandsRequireExchangeReconciliation
  | haltedPendingExecutionCommands
  | haltedCreatedOrdersMissingSubmitCommands
  deriving DecidableEq, Repr

/-- The six counts of `command_counts`. -/
structure CommandCounts where
  pendingTotal : ℕ := 0
  pendingSubmit : ℕ := 0
  pendingCancel : ℕ := 0
  sentStaleTotal : ℕ := 0
  sentStaleSubmit : ℕ := 0
  sentStaleCancel : ℕ := 0
  deriving DecidableEq, Repr

/-- `RecoveryStatus`, without its notes and descriptive fields. -/
structure RecoveryStatus where
  status : RecoveryOutcome
  recoveryState : RecoveryState
  recoveredOrderCount : ℕ
  openOrderCount : ℕ
  commandCounts : CommandCounts := {}
  stuckSentSubmitOrderCount : ℕ := 0
  claimedSubmitCommandCount : ℕ := 0
  reconciliationClassification : Option Classification := none
  safeStartup : Bool
  safeToTrade : Bool
  resumeEligible : Bool
  reviewRequired : Bool
  onlyReduceRequired : Bool
  onlyReduceReasons : List String
  unknownStateDetails : List StateDetail := []
  rebaselineAvailable : Bool
  halted : Bool
  recoveryAction : Option RecoveryAction
  bundleRecovery : BundleRecoveryAssessment
  resumeBlockedReasons : List String
  deriving DecidableEq, Repr

/-- What the base recovery reads besides the orders: its settings, the clock, and what is stored.
`hasSnapshotAfter` is `latest_snapshot or latest_snapshot_for_scope(...)` after the portfolio
part. -/
structure RecoveryInputs where
  scope : RuntimeStateScope
  bootstrapPortfolioFromExchange : Bool := true
  reconciliationRequired : Bool := true
  reconciliationStaleAfter : Timestamp
  now : Timestamp
  haltGeneration : String := "ksgen"
  obligations : List LedgerObligation := []
  strategyBundles : List StrategyBundle := []
  hasFills : Bool := false
  hasSnapshot : Bool := true
  hasSnapshotAfter : Bool := true
  reconciliation : Option ReconciliationReport := none
  accountBaseline : Option AccountBaseline := none

/-! ### Orphan obligations -/

def terminalizedObligation (obligation : OrderObligation) (target : ObligationStatus) :
    Option OrderObligation :=
  let remaining := remainingObligationAmount obligation
  if remaining ≤ epsilon12 ∧ obligation.status = target then none
  else
    some
      { obligation with
        releasedAmount := obligation.releasedAmount + max remaining 0
        status := target }

def resolvedObligation (obligation : OrderObligation) (orderState : Option OrderState) :
    Option OrderObligation :=
  match orderState with
  | none => terminalizedObligation obligation .failed
  | some orderState =>
    if orderState.status.isTerminal = false then none
    else
      terminalizedObligation obligation
        (if orderState.status = .canceled then .canceled
        else if orderState.status = .filled then .released
        else .failed)

/-- `active_obligations`. -/
def isActive (item : LedgerObligation) : Bool :=
  decide (item.obligation.status = .active ∨ item.obligation.status = .partiallyConsumed)

def scopedActiveObligations (scope : RuntimeStateScope) (obligations : List LedgerObligation) :
    List LedgerObligation :=
  obligations.filter (fun item => isActive item && obligationMatchesScope scope item)

/-- `_cleanup_orphan_obligations`: the obligations of the scope whose order is gone or terminal are
released. -/
def cleanupOrphanObligations (scope : RuntimeStateScope) (orders : List LedgerOrder)
    (obligations : List LedgerObligation) : List LedgerObligation :=
  let orderStates := orderStatesForScope scope orders
  obligations.map fun item =>
    if isActive item && obligationMatchesScope scope item then
      let orderState := (orderStates.find? fun order =>
        order.orderState.clientOrderId = item.obligation.clientOrderId).map LedgerOrder.orderState
      { item with
        obligation := (resolvedObligation item.obligation orderState).getD item.obligation }
    else item

/-! ### The steps -/

/-- `kill_switch.halt(reason)`: what it changes at once; the announcement runs later. -/
def haltSwitch (inputs : RecoveryInputs) (reason : String) (ks : KillSwitch) : KillSwitch :=
  ks.beginHalt reason none inputs.now inputs.haltGeneration

@[simp] theorem halted_haltSwitch (inputs : RecoveryInputs) (reason : String) (ks : KillSwitch) :
    (haltSwitch inputs reason ks).halted = true :=
  Governance.halted_beginHalt ks reason none inputs.now inputs.haltGeneration

/-- The local variables of `recover` that its steps write. -/
structure Progress where
  killSwitch : KillSwitch
  safeStartup : Bool := true
  recoveryAction : Option RecoveryAction := none
  deriving DecidableEq, Repr

/-- A step that halts: `_halt_for_recovery`, and the startup is not safe. -/
def Progress.blocked (progress : Progress) (inputs : RecoveryInputs) (reason : String)
    (recoveryAction : Option RecoveryAction) : Progress where
  killSwitch := haltSwitch inputs reason progress.killSwitch
  safeStartup := false
  recoveryAction := recoveryAction

def importBaseline (inputs : RecoveryInputs) (progress : Progress) : Progress :=
  match inputs.accountBaseline with
  | none => progress
  | some baseline =>
    if baseline.requiresOperatorReview = true then
      progress.blocked inputs "baseline_import_requires_review"
        (some .haltedImportedBaselineRequiresReview)
    else progress

/-- Fills without a snapshot, in a runtime whose portfolio comes from the exchange. -/
def requireSnapshot (inputs : RecoveryInputs) (progress : Progress) : Progress :=
  if inputs.hasSnapshot = false ∧ inputs.hasFills = true ∧
      inputs.bootstrapPortfolioFromExchange = true then
    progress.blocked inputs "recovery_snapshot_missing" (some .haltedMissingBootstrapSnapshot)
  else progress

def applyReconciliationSafety (inputs : RecoveryInputs) (openOrders : List LedgerOrder)
    (progress : Progress) : Progress :=
  match inputs.reconciliation with
  | none =>
    if inputs.reconciliationRequired = true ∧ (inputs.hasFills = true ∨ openOrders ≠ []) ∧
        inputs.hasSnapshotAfter = true then
      progress.blocked inputs "recovery_reconciliation_missing"
        (progress.recoveryAction.or (some .haltedMissingReconciliationContext))
    else progress
  | some report =>
    if inputs.reconciliationRequired = true ∧
        inputs.reconciliationStaleAfter < inputs.now - report.asOfTs then
      progress.blocked inputs "recovery_reconciliation_stale"
        (progress.recoveryAction.or (some .haltedStaleReconciliationContext))
    else if report.haltRequired = true then
      progress.blocked inputs "recovery_reconciliation_halt_required"
        (progress.recoveryAction.or (some .haltedReconciliationRequiresReview))
    else progress

/-- The open orders: those of recoverable bundles are tracked, any other halts. -/
def reviewOpenOrders (inputs : RecoveryInputs) (openOrders : List LedgerOrder)
    (bundles : BundleRecoveryAssessment) (progress : Progress) : Progress :=
  if openOrders = [] then progress
  else if bundles.bundleRecoveryRequired = true ∧ bundles.recoveryBlocking = false then
    { progress with
      recoveryAction := progress.recoveryAction.or (some .trackingStrategyBundleRecovery) }
  else
    progress.blocked inputs "recovery_open_orders_present"
      (progress.recoveryAction.or (some .haltedOpenOrdersRequireReview))

def initialRecoveryState (inputs : RecoveryInputs) (halted : Bool)
    (bundles : BundleRecoveryAssessment) : RecoveryState :=
  let afterReconciliation : RecoveryState :=
    if bundles.recoveryBlocking = true then .reviewRequired
    else if bundles.bundleRecoveryRequired = true then .bundleRecovery
    else if inputs.reconciliation.any (·.onlyReduceRequired) = true then .onlyReduce
    else if halted = true then .resumeBlocked
    else .normalOperation
  let afterBaseline : RecoveryState :=
    if inputs.reconciliation.any (·.haltRequired) = true then .resumeBlocked
    else if inputs.reconciliation.any (·.reviewRequired) = true then .reviewRequired
    else afterReconciliation
  match inputs.accountBaseline with
  | none => afterBaseline
  | some baseline =>
    if baseline.operatorRebaseline = true then
      if halted = true then .resumeBlocked else .rebaselineCompleted
    else if baseline.requiresOperatorReview = true then .reviewRequired
    else afterBaseline

/-! ### The base recovery -/

def openOrdersOf (inputs : RecoveryInputs) (orders : List LedgerOrder) : List LedgerOrder :=
  (orderStatesForScope inputs.scope orders).filter isOpenOrder

def bundlesOf (inputs : RecoveryInputs) (orders : List LedgerOrder) : BundleRecoveryAssessment :=
  scopedBundleRecoveryAssessment inputs.scope (orderStatesForScope inputs.scope orders)
    (scopedActiveObligations inputs.scope
      (cleanupOrphanObligations inputs.scope orders inputs.obligations))
    inputs.strategyBundles

/-- The steps of `recover`, in their order. -/
def runSteps (inputs : RecoveryInputs) (orders : List LedgerOrder) (ks : KillSwitch) : Progress :=
  reviewOpenOrders inputs (openOrdersOf inputs orders) (bundlesOf inputs orders)
    (applyReconciliationSafety inputs (openOrdersOf inputs orders)
      (requireSnapshot inputs (importBaseline inputs { killSwitch := ks })))

/-- The status at the end of `recover`. -/
def statusOf (inputs : RecoveryInputs) (orders : List LedgerOrder) (progress : Progress) :
    RecoveryStatus :=
  let bundles := bundlesOf inputs orders
  let halted := progress.killSwitch.halted
  let onlyReduce := inputs.reconciliation.any (·.onlyReduceRequired)
  let review := inputs.reconciliation.any (·.reviewRequired)
  let baselineReview := inputs.accountBaseline.any (·.requiresOperatorReview)
  let reportedReasons := (inputs.reconciliation.map (·.onlyReduceReasons)).getD []
  let tradable := progress.safeStartup && !halted && !bundles.bundleRecoveryRequired &&
    !onlyReduce && !review
  { status :=
      match inputs.accountBaseline with
      | some baseline => .baseline baseline.baselineStatus
      | none =>
        if halted = true then .recoveredHalted
        else if inputs.hasSnapshot = true ∨ inputs.hasFills = true then .recovered
        else .coldStart
    recoveryState := initialRecoveryState inputs halted bundles
    recoveredOrderCount := (orderStatesForScope inputs.scope orders).length
    openOrderCount := (openOrdersOf inputs orders).length
    reconciliationClassification :=
      inputs.reconciliation.bind (·.recoveryClassification)
    safeStartup := progress.safeStartup && !halted
    safeToTrade := tradable
    resumeEligible := tradable
    reviewRequired := baselineReview || review || bundles.recoveryBlocking
    onlyReduceRequired := onlyReduce || bundles.bundleRecoveryRequired
    onlyReduceReasons :=
      (reportedReasons ++ if bundles.bundleRecoveryRequired = true then
        ["strategy_bundle_recovery_in_progress"] else []).eraseDups
    unknownStateDetails := (inputs.reconciliation.map (·.unknownStateDetails)).getD []
    rebaselineAvailable := baselineReview || review || halted || bundles.recoveryBlocking
    halted := halted
    recoveryAction := progress.recoveryAction
    bundleRecovery := bundles
    resumeBlockedReasons :=
      ((if review = true then ["operator_rebaseline_required"] else []) ++
        (if onlyReduce = true then
          if reportedReasons = [] then ["only_reduce_required"] else reportedReasons else []) ++
        if bundles.bundleRecoveryRequired = true then
          [if bundles.recoveryBlocking = true then "strategy_bundle_recovery_requires_review"
            else "strategy_bundle_recovery_in_progress"] else []).eraseDups }

/-- The deciding part of `ExecutionRecoveryService.recover`. -/
def recoverBase (inputs : RecoveryInputs) (orders : List LedgerOrder) (ks : KillSwitch) :
    RecoveryStatus × KillSwitch :=
  let progress := runSteps inputs orders ks
  (statusOf inputs orders progress, progress.killSwitch)

/-! ### When it halts -/

/-- `_apply_reconciliation_safety` halts. -/
def reconciliationHalts (inputs : RecoveryInputs) (openOrders : List LedgerOrder) : Prop :=
  match inputs.reconciliation with
  | none =>
    inputs.reconciliationRequired = true ∧ (inputs.hasFills = true ∨ openOrders ≠ []) ∧
      inputs.hasSnapshotAfter = true
  | some report =>
    (inputs.reconciliationRequired = true ∧
      inputs.reconciliationStaleAfter < inputs.now - report.asOfTs) ∨ report.haltRequired = true

inductive BaseHalts (inputs : RecoveryInputs) (orders : List LedgerOrder) : Prop
  /-- An imported baseline waits for a review. -/
  | baseline (baseline : AccountBaseline) (h : inputs.accountBaseline = some baseline)
      (review : baseline.requiresOperatorReview = true)
  /-- There are fills and no snapshot to put them on. -/
  | snapshot (missing : inputs.hasSnapshot = false) (fills : inputs.hasFills = true)
      (bootstrap : inputs.bootstrapPortfolioFromExchange = true)
  /-- The latest reconciliation is missing, stale, or asks for a halt. -/
  | reconciliation (h : reconciliationHalts inputs (openOrdersOf inputs orders))
  /-- An open order is not accounted for by a recoverable bundle. -/
  | openOrders (h : openOrdersOf inputs orders ≠ [])
      (unaccounted : (bundlesOf inputs orders).bundleRecoveryRequired = false ∨
        (bundlesOf inputs orders).recoveryBlocking = true)

section Halts

variable (inputs : RecoveryInputs) (orders : List LedgerOrder) (progress : Progress)

theorem halted_importBaseline :
    (importBaseline inputs progress).killSwitch.halted = true ↔
      progress.killSwitch.halted = true ∨
        ∃ baseline, inputs.accountBaseline = some baseline ∧
          baseline.requiresOperatorReview = true := by
  unfold importBaseline
  cases hbase : inputs.accountBaseline with
  | none => simp
  | some baseline =>
    by_cases hreview : baseline.requiresOperatorReview = true
    · simp [hreview, Progress.blocked]
    · simp [hreview]

theorem halted_requireSnapshot :
    (requireSnapshot inputs progress).killSwitch.halted = true ↔
      progress.killSwitch.halted = true ∨
        (inputs.hasSnapshot = false ∧ inputs.hasFills = true ∧
          inputs.bootstrapPortfolioFromExchange = true) := by
  unfold requireSnapshot
  split
  · next h => simp [h, Progress.blocked]
  · next h => simp [h]

theorem halted_applyReconciliationSafety (openOrders : List LedgerOrder) :
    (applyReconciliationSafety inputs openOrders progress).killSwitch.halted = true ↔
      progress.killSwitch.halted = true ∨ reconciliationHalts inputs openOrders := by
  unfold applyReconciliationSafety reconciliationHalts
  cases hreport : inputs.reconciliation with
  | none =>
    simp only []
    split
    · next h => simp [h, Progress.blocked]
    · next h => simp [h]
  | some report =>
    simp only []
    split
    · next h => simp [h, Progress.blocked]
    · next hfresh =>
      split
      · next h => simp [h, Progress.blocked]
      · next h => simp [h, hfresh]

theorem halted_reviewOpenOrders (openOrders : List LedgerOrder)
    (bundles : BundleRecoveryAssessment) :
    (reviewOpenOrders inputs openOrders bundles progress).killSwitch.halted = true ↔
      progress.killSwitch.halted = true ∨
        (openOrders ≠ [] ∧
          (bundles.bundleRecoveryRequired = false ∨ bundles.recoveryBlocking = true)) := by
  unfold reviewOpenOrders
  split
  · next h => simp [h]
  · next hopen =>
    split
    · next h => simp [h.1, h.2]
    · next h =>
      have hblock : bundles.bundleRecoveryRequired = false ∨ bundles.recoveryBlocking = true := by
        rw [not_and_or, Bool.not_eq_true, Bool.not_eq_false] at h
        exact h
      simp [hopen, hblock, Progress.blocked]

theorem halted_recoverBase (ks : KillSwitch) :
    (recoverBase inputs orders ks).2.halted = true ↔
      ks.halted = true ∨ BaseHalts inputs orders := by
  show (runSteps inputs orders ks).killSwitch.halted = true ↔ _
  unfold runSteps
  rw [halted_reviewOpenOrders, halted_applyReconciliationSafety, halted_requireSnapshot,
    halted_importBaseline]
  constructor
  · rintro ((((h | ⟨baseline, hb, hreview⟩) | ⟨hm, hf, hboot⟩) | h) | ⟨hopen, hblock⟩)
    · exact .inl h
    · exact .inr (.baseline baseline hb hreview)
    · exact .inr (.snapshot hm hf hboot)
    · exact .inr (.reconciliation h)
    · exact .inr (.openOrders hopen hblock)
  · rintro (h | ⟨baseline, hb, hreview⟩ | ⟨hm, hf, hboot⟩ | h | ⟨hopen, hblock⟩)
    · exact .inl (.inl (.inl (.inl h)))
    · exact .inl (.inl (.inl (.inr ⟨baseline, hb, hreview⟩)))
    · exact .inl (.inl (.inr ⟨hm, hf, hboot⟩))
    · exact .inl (.inr h)
    · exact .inr ⟨hopen, hblock⟩

end Halts

end Aats.Recovery
