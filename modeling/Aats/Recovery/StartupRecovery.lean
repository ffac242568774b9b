import Aats.Recovery.ExchangeOrderReconciler
import Aats.Recovery.RecoveryStatus

/-!
# Startup recovery over the execution ledger

`recovery_control/startup_recovery.py`: the exchange is asked about the stuck orders first, then the
base recovery runs, and `_phase4_status` halts for what the ledger and the command table still show.
It counts the orders that are stuck after the exchange was asked, and subtracts from that the
number of orders the exchange has resolved; those are not among the counted ones any more.

## Main definitions
* `submitFinding` — what the command table says about a stuck order.
* `phase4Status` — the steps of `_phase4_status`, each of which may halt.
* `Startup` — everything a start reads; `preRecover` and `recover` are its two stages.
-/

namespace Aats.Recovery

open Execution
open Governance (KillSwitch)

/-! ### The reconciliation report -/

/-- `ReconciliationClassification`, without the texts for the operator. -/
structure ReportClass where
  classification : Classification
  resumeBlocking : Bool := false
  reviewRequired : Bool := false
  haltRequired : Bool := false
  deriving DecidableEq, Repr

def classify (report : ReconciliationReport) : ReportClass :=
  if report.haltRequired = true ∨ report.severity = .hardMismatch then
    { classification := .haltRequired
      resumeBlocking := true
      reviewRequired := true
      haltRequired := true }
  else if report.localProjectionDiff = true ∧ report.exchangeOrExecutionDiff = false then
    { classification := .projectionRebuildRequired }
  else if report.reviewRequired = true ∨ report.severity = .reviewRequired then
    { classification := .manualReviewRequired
      resumeBlocking := true
      reviewRequired := true }
  else if report.onlyReduceRequired = true then { classification := .derivativesOnlyReduce }
  else if report.severity = .softMismatch then
    { classification :=
        if report.observationalOnly = true then .observationalDrift
        else .softDivergenceContinue }
  else { classification := .clean }

def annotate (report : ReconciliationReport) : ReconciliationReport :=
  let classified := classify report
  { report with
    recoveryClassification := some classified.classification
    resumeBlocking := classified.resumeBlocking
    reviewRequired := classified.reviewRequired
    haltRequired := classified.haltRequired }

/-! ### Commands -/

def commandCounts (commands : CommandTable) (sentStaleBefore : Timestamp) : CommandCounts :=
  let pending := commands.filter (fun c => c.state = .pending ∨ c.state = .claimed)
  let stale := commands.filter (fun c => c.state = .sent ∧ c.updatedAt ≤ sentStaleBefore)
  { pendingTotal := pending.length
    pendingSubmit := pending.countP (·.commandType = .submit)
    pendingCancel := pending.countP (·.commandType = .cancel)
    sentStaleTotal := stale.length
    sentStaleSubmit := stale.countP (·.commandType = .submit)
    sentStaleCancel := stale.countP (·.commandType = .cancel) }

/-- The submit commands of an order, under its current and its legacy key. -/
def submitCommandsOf (commands : CommandTable) (order : LedgerOrder) : List Command :=
  (submitCommandLookupKeys order.clientOrderId order.row.intentId).filterMap
    commands.getByIdempotencyKey

/-- What `_submit_command_order_recovery_counts` finds for a stuck order. -/
inductive SubmitFinding
  | stranded
  | stuckSent
  | claimedSubmit
  | other
  deriving DecidableEq, Repr

/-- The loop body of `_submit_command_order_recovery_counts`; an order without keys has no
commands either. -/
def submitFinding (commands : CommandTable) (order : LedgerOrder) : SubmitFinding :=
  let found := submitCommandsOf commands order
  if found.isEmpty = true then .stranded
  else if found.any (fun c => decide (c.state = .sent)) = true then .stuckSent
  else if found.any (fun c => decide (c.state = .claimed ∧ c.commandType = .submit)) = true then
    .claimedSubmit
  else .other

structure SubmitCounts where
  stranded : ℕ
  stuckSent : ℕ
  claimedSubmit : ℕ
  deriving DecidableEq, Repr

def submitCommandOrderRecoveryCounts (commands : CommandTable) (openOrders : List LedgerOrder) :
    SubmitCounts :=
  let stuck := openOrders.filter LedgerOrder.isStuck
  { stranded := stuck.countP (fun order => submitFinding commands order = .stranded)
    stuckSent := stuck.countP (fun order => submitFinding commands order = .stuckSent)
    claimedSubmit := stuck.countP (fun order => submitFinding commands order = .claimedSubmit) }

/-! ### The steps of `_phase4_status` -/

/-- The local variables of `_phase4_status`. -/
structure Phase4 where
  status : RecoveryStatus
  killSwitch : KillSwitch
  deriving DecidableEq, Repr

def addReason (reasons : List String) (reason : String) : List String :=
  if reason ∈ reasons then reasons else reasons ++ [reason]

def haltAndBlock (inputs : RecoveryInputs) (haltReason blockedReason : String) (phase : Phase4) :
    Phase4 where
  killSwitch := haltSwitch inputs haltReason phase.killSwitch
  status :=
    { phase.status with
      safeStartup := false
      safeToTrade := false
      resumeEligible := false
      rebaselineAvailable := true
      recoveryState := .resumeBlocked
      resumeBlockedReasons := addReason phase.status.resumeBlockedReasons blockedReason }

def applyOnlyReduce (report : ReconciliationReport) (status : RecoveryStatus) : RecoveryStatus :=
  let reduced : RecoveryStatus :=
    if report.onlyReduceRequired = true ∧ report.resumeBlocking = false then
      { status with
        recoveryState := .onlyReduce
        safeToTrade := false
        resumeEligible := false
        resumeBlockedReasons :=
          (if report.onlyReduceReasons = [] then ["only_reduce_required"]
            else report.onlyReduceReasons).foldl addReason status.resumeBlockedReasons }
    else status
  { reduced with
    reconciliationClassification := report.recoveryClassification
    onlyReduceRequired := status.onlyReduceRequired || report.onlyReduceRequired
    onlyReduceReasons := (status.onlyReduceReasons ++ report.onlyReduceReasons).eraseDups }

def applyResumeBlocking (inputs : RecoveryInputs) (report : ReconciliationReport)
    (phase : Phase4) : Phase4 :=
  if report.resumeBlocking = true then
    let blocked : RecoveryStatus :=
      { phase.status with
        safeStartup := false
        safeToTrade := false
        resumeEligible := false
        reviewRequired := report.reviewRequired
        rebaselineAvailable := phase.status.rebaselineAvailable || report.reviewRequired ||
          report.haltRequired
        recoveryState := if report.haltRequired = true then .resumeBlocked else .reviewRequired }
    if report.haltRequired = true then
      { killSwitch := haltSwitch inputs "phase4_reconciliation_halt_required" phase.killSwitch
        status :=
          { blocked with
            recoveryAction :=
              blocked.recoveryAction.or (some .haltedPhase4ReconciliationHaltRequired)
            resumeBlockedReasons :=
              addReason blocked.resumeBlockedReasons "reconciliation_halt_required" } }
    else
      { phase with
        status :=
          { blocked with
            resumeBlockedReasons :=
              addReason blocked.resumeBlockedReasons "operator_rebaseline_required" } }
  else phase

/-- The part of `_phase4_status` about the latest reconciliation. -/
def applyReconciliation (inputs : RecoveryInputs) (phase : Phase4) : Phase4 :=
  match inputs.reconciliation.map annotate with
  | none =>
    { phase with status := { phase.status with reconciliationClassification := none } }
  | some report =>
    applyResumeBlocking inputs report
      { phase with status := applyOnlyReduce report phase.status }

theorem commandCounts_applyReconciliation (inputs : RecoveryInputs) (phase : Phase4) :
    (applyReconciliation inputs phase).status.commandCounts = phase.status.commandCounts := by
  have honly : ∀ report : ReconciliationReport,
      (applyOnlyReduce report phase.status).commandCounts = phase.status.commandCounts := by
    intro report
    unfold applyOnlyReduce
    split <;> rfl
  unfold applyReconciliation
  cases inputs.reconciliation.map annotate with
  | none => rfl
  | some report =>
    rw [← honly report]
    simp only [applyResumeBlocking]
    split
    · split <;> rfl
    · rfl

/-- `if stuck_sent_submit_order_count`. -/
def blockStuckSent (inputs : RecoveryInputs) (stuckSent resolved : ℕ) (phase : Phase4) : Phase4 :=
  if resolved < stuckSent then
    let blocked := haltAndBlock inputs "phase4_stuck_sent_submit_commands"
      "stuck_sent_submit_commands" phase
    { blocked with
      status := { blocked.status with recoveryAction := some .haltedStuckSentSubmitCommands } }
  else phase

/-- `if claimed_submit_command_count`: they are not counted as pending again. -/
def blockClaimed (inputs : RecoveryInputs) (claimed : ℕ) (phase : Phase4) : Phase4 :=
  if claimed ≠ 0 then
    let blocked := haltAndBlock inputs
      "phase4_claimed_submit_commands_require_exchange_reconciliation"
      "claimed_submit_commands_require_exchange_reconciliation" phase
    { blocked with
      status :=
        { blocked.status with
          commandCounts :=
            { blocked.status.commandCounts with
              pendingTotal := blocked.status.commandCounts.pendingTotal - claimed
              pendingSubmit := blocked.status.commandCounts.pendingSubmit - claimed }
          recoveryAction :=
            if phase.status.recoveryAction = some .haltedStuckSentSubmitCommands then
              phase.status.recoveryAction
            else some .haltedClaimedSubmitCommandsRequireExchangeReconciliation } }
  else phase

/-- `if pending_command_count`. -/
def blockPending (inputs : RecoveryInputs) (phase : Phase4) : Phase4 :=
  if phase.status.commandCounts.pendingTotal ≠ 0 then
    let blocked := haltAndBlock inputs "phase4_pending_execution_commands"
      "pending_execution_commands" phase
    { blocked with
      status :=
        { blocked.status with
          recoveryAction :=
            if phase.status.recoveryAction = some .haltedStuckSentSubmitCommands ∨
                phase.status.recoveryAction =
                  some .haltedClaimedSubmitCommandsRequireExchangeReconciliation then
              phase.status.recoveryAction
            else some .haltedPendingExecutionCommands } }
  else phase

/-- `if stranded_submit_order_count`. -/
def blockStranded (inputs : RecoveryInputs) (stranded resolved : ℕ) (phase : Phase4) : Phase4 :=
  if resolved < stranded then
    let blocked := haltAndBlock inputs "phase4_created_orders_missing_submit_commands"
      "created_orders_missing_submit_commands" phase
    { blocked with
      status :=
        { blocked.status with
          recoveryAction :=
            if phase.status.recoveryAction = none ∨
                phase.status.recoveryAction = some .haltedOpenOrdersRequireReview then
              some .haltedCreatedOrdersMissingSubmitCommands
            else phase.status.recoveryAction } }
  else phase

/-! ### A start -/

/-- Everything a start reads; `client_order_id` is unique in the ledger. -/
structure Startup where
  inputs : RecoveryInputs
  orders : List LedgerOrder
  nodup_clientOrderId : (orders.map LedgerOrder.clientOrderId).Nodup
  commands : CommandTable
  sentRetryAfter : Timestamp := 0
  exchange : Option Exchange
  killSwitch : KillSwitch

namespace Startup

variable (startup : Startup)

/-- `pre_recover_exchange_reconciliation`. -/
def preRecover : Reconciliation :=
  reconcileStuckOrders startup.exchange startup.orders
    (listOrdersForScope startup.inputs.scope startup.orders true)

/-- The open orders of the scope as `_phase4_status` reads them. -/
def openOrders : List LedgerOrder :=
  listOrdersForScope startup.inputs.scope startup.preRecover.orders true

/-- The counts that `_phase4_status` takes. -/
def submitCounts : SubmitCounts :=
  submitCommandOrderRecoveryCounts startup.commands startup.openOrders

/-- The locals of `_phase4_status` before its steps. -/
def phase4Start (base : RecoveryStatus) (ks : KillSwitch) : Phase4 where
  killSwitch := ks
  status :=
    { base with
      recoveredOrderCount := max base.recoveredOrderCount
        (listOrdersForScope startup.inputs.scope startup.preRecover.orders false).length
      openOrderCount := max base.openOrderCount startup.openOrders.length
      commandCounts := commandCounts startup.commands
        (startup.inputs.now - max startup.sentRetryAfter 0)
      stuckSentSubmitOrderCount := startup.submitCounts.stuckSent
      claimedSubmitCommandCount := startup.submitCounts.claimedSubmit }

/-- The steps of `_phase4_status`, in their order. -/
def phase4Steps (base : RecoveryStatus) (ks : KillSwitch) : Phase4 :=
  let inputs := startup.inputs
  let resolved := startup.preRecover.resolved
  let counts := startup.submitCounts
  blockStranded inputs counts.stranded resolved (blockPending inputs
    (blockClaimed inputs counts.claimedSubmit (blockStuckSent inputs counts.stuckSent resolved
      (applyReconciliation inputs (startup.phase4Start base ks)))))

def phase4Status (base : RecoveryStatus) (ks : KillSwitch) : RecoveryStatus × KillSwitch :=
  let phase := startup.phase4Steps base ks
  let halted := phase.killSwitch.halted
  ({ phase.status with
      status := if halted = true then .recoveredHalted else base.status
      safeStartup := phase.status.safeStartup && !halted
      safeToTrade := phase.status.safeToTrade && !halted
      resumeEligible := phase.status.resumeEligible && !halted
      unknownStateDetails :=
        match startup.inputs.reconciliation with
        | some report => report.unknownStateDetails
        | none => base.unknownStateDetails
      halted := halted
      resumeBlockedReasons := phase.status.resumeBlockedReasons.eraseDups },
    phase.killSwitch)

/-- `recover`, after `pre_recover_exchange_reconciliation`. -/
def recover : RecoveryStatus × KillSwitch :=
  let (base, ks) := recoverBase startup.inputs startup.preRecover.orders startup.killSwitch
  startup.phase4Status base ks

end Startup

end Aats.Recovery
