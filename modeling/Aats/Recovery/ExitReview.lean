import Aats.Recovery.RecoveryStatus

/-!
# Exit parents at a start

The second overlay of a recovery status, `apply_startup_exit_execution_review_overlay` of
`recovery_control/startup_recovery.py`: exit executions that cannot simply go on, as
`execution_engine/exit_intent_aggregator.py` lists them, and a failed refresh of their truth keep
the resume blocked. It never writes over what the status says already.
-/

namespace Aats.Recovery

open Execution

/-! ### Exit parents -/

inductive ParentAggregateStatus
  | created
  | dispatching
  | working
  | partiallyFilled
  | cancelPending
  | completed
  | canceled
  | reviewRequired
  | failedSafe
  deriving DecidableEq, Repr

namespace ParentAggregateStatus

/-- `_TERMINAL_PARENT_STATUSES`. -/
def isTerminal : ParentAggregateStatus → Bool
  | completed | canceled | failedSafe => true
  | created | dispatching | working | partiallyFilled | cancelPending | reviewRequired => false

def text : ParentAggregateStatus → String
  | created => "CREATED"
  | dispatching => "DISPATCHING"
  | working => "WORKING"
  | partiallyFilled => "PARTIALLY_FILLED"
  | cancelPending => "CANCEL_PENDING"
  | completed => "COMPLETED"
  | canceled => "CANCELED"
  | reviewRequired => "REVIEW_REQUIRED"
  | failedSafe => "FAILED_SAFE"

end ParentAggregateStatus

inductive ParentReconciliationState
  | clean
  | truthPending
  | reviewRequired
  deriving DecidableEq, Repr

def ParentReconciliationState.text : ParentReconciliationState → String
  | clean => "clean"
  | truthPending => "truth_pending"
  | reviewRequired => "review_required"

/-- `ExitExecutionIntent`, with what the review reads; of its metadata, the resume issue and
whether there is a dispatch template. -/
structure ExitExecutionIntent where
  parentIntentId : String
  executionChainId : String
  symbol : String
  targetExitQuantity : ℚ
  aggregatedFilledQuantity : ℚ := 0
  openChildWorkingQuantity : ℚ := 0
  openChildUnknownQuantity : ℚ := 0
  remainingDispatchableQuantity : ℚ := 0
  remainingUnresolvedQuantity : ℚ := 0
  aggregateStatus : ParentAggregateStatus := .created
  reconciliationState : ParentReconciliationState := .clean
  childOrderIds : List String := []
  cancelRequested : Bool := false
  operatorReviewRequired : Bool := false
  operatorReviewReason : Option String := none
  resumeIssue : Option ResumeIssue := none
  hasDispatchTemplate : Bool := false
  deriving DecidableEq, Repr

def resumeIssueKind (parent : ExitExecutionIntent) : Option String :=
  (parent.resumeIssue.map fun issue => strip issue.kind).filter (· ≠ "")

def resumeBlockReason (parent : ExitExecutionIntent) : Option String :=
  if parent.aggregateStatus.isTerminal = true then some "parent_terminal"
  else if parent.cancelRequested = true ∨ parent.aggregateStatus = .cancelPending then
    some "cancel_requested"
  else if parent.operatorReviewRequired = true ∨ parent.aggregateStatus = .reviewRequired then
    some "review_required"
  else if resumeIssueKind parent = some "missing_child_refs_for_parent" then
    some "missing_child_refs_for_parent"
  else if epsilon12 < parent.openChildUnknownQuantity then some "unknown_child_truth_pending"
  else if epsilon12 < parent.openChildWorkingQuantity then some "working_child_outstanding"
  else if parent.remainingDispatchableQuantity ≤ epsilon12 then
    some "no_remaining_dispatchable_quantity"
  else if parent.hasDispatchTemplate = false then some "dispatch_template_missing"
  else none

def parentHasPendingResume (parent : ExitExecutionIntent) : Bool :=
  decide (parent.aggregateStatus.isTerminal = false ∧ parent.cancelRequested = false ∧
    epsilon12 < parent.remainingDispatchableQuantity ∧
    parent.openChildWorkingQuantity ≤ epsilon12 ∧ parent.openChildUnknownQuantity ≤ epsilon12)

/-! ### Review items -/

def optionalText : Option String → DetailValue
  | none => .null
  | some text => .text text

def parentReviewDetail (parent : ExitExecutionIntent) (kind resumeBlockReason : String)
    (reviewRequired : Bool) (operatorReviewReason : DetailValue) : StateDetail :=
  [("kind", .text kind),
    ("symbol", .text parent.symbol),
    ("parent_intent_id", .text parent.parentIntentId),
    ("execution_chain_id", .text parent.executionChainId),
    ("aggregate_status", .text parent.aggregateStatus.text),
    ("reconciliation_state", .text parent.reconciliationState.text),
    ("target_exit_quantity", .number parent.targetExitQuantity),
    ("aggregated_filled_quantity", .number parent.aggregatedFilledQuantity),
    ("open_child_working_quantity", .number parent.openChildWorkingQuantity),
    ("open_child_unknown_quantity", .number parent.openChildUnknownQuantity),
    ("remaining_dispatchable_quantity", .number parent.remainingDispatchableQuantity),
    ("remaining_unresolved_quantity", .number parent.remainingUnresolvedQuantity),
    ("blocks_resume", .flag true),
    ("operator_review_required", .flag reviewRequired),
    ("operator_review_reason", operatorReviewReason),
    ("cancel_requested", .flag parent.cancelRequested),
    ("child_order_ids", .texts parent.childOrderIds),
    ("resume_block_reason", .text resumeBlockReason),
    ("dispatch_template_available", .flag parent.hasDispatchTemplate),
    ("resume_ready", .flag (Recovery.resumeBlockReason parent).isNone),
    ("resume_issue_kind", optionalText (resumeIssueKind parent)),
    ("available_operator_actions", .texts
      (if kind = "exit_execution_resume_limit_lookup_failed" then
        ["refresh_exchange_state", "retry_limit_lookup", "safe_cancel"]
      else ["refresh_exchange_state", "safe_cancel"]))]

/-- `_parent_resume_issue_detail`: the issue itself is added, and its kind is the reason. -/
def parentResumeIssueDetail (parent : ExitExecutionIntent) (kind resumeBlockReason : String) :
    StateDetail :=
  let issueKind := ((parent.resumeIssue.map (·.kind)).filter (· ≠ "")).or
    parent.operatorReviewReason
  parentReviewDetail parent kind resumeBlockReason true (.text (issueKind.getD "")) ++
    [("resume_issue", .issue (parent.resumeIssue.getD { kind := "" }))]

/-- The item of one parent in `exit_execution_review_items`. -/
def exitExecutionReviewItem (parent : ExitExecutionIntent) : Option StateDetail :=
  let blockReason := resumeBlockReason parent
  let detail := fun kind reason review =>
    parentReviewDetail parent kind reason review (optionalText parent.operatorReviewReason)
  if parent.aggregateStatus.isTerminal = true then none
  else if parent.operatorReviewRequired = true ∨ parent.aggregateStatus = .reviewRequired then
    some (detail "exit_execution_parent_review_required" (blockReason.getD "review_required") true)
  else if blockReason = some "unknown_child_truth_pending" ∨
      parent.reconciliationState = .truthPending then
    some (detail "exit_execution_truth_pending" (blockReason.getD "unknown_child_truth_pending")
      false)
  else if resumeIssueKind parent = some "missing_child_refs_for_parent" then
    some (parentResumeIssueDetail parent "exit_execution_missing_child_refs_for_parent"
      "missing_child_refs_for_parent")
  else if blockReason = some "dispatch_template_missing" then
    some (detail "exit_execution_resume_template_missing" "dispatch_template_missing" true)
  else if resumeIssueKind parent = some "resume_limit_lookup_failed" ∧
      parentHasPendingResume parent = true then
    some (parentResumeIssueDetail parent "exit_execution_resume_limit_lookup_failed"
      "resume_limit_lookup_failed")
  else none

def exitExecutionReviewItems (parents : List ExitExecutionIntent) : List StateDetail :=
  parents.filterMap exitExecutionReviewItem

/-! ### A failed refresh -/

/-- `note.startswith(prefix + ":")`. -/
def hasNotePrefix (notePrefix note : String) : Bool :=
  decide ((notePrefix ++ ":").toList <+: note.toList)

/-- `note.partition(":")[2]`. -/
def noteValue (note : String) : String :=
  String.ofList ((note.toList.dropWhile (· ≠ ':')).drop 1)

/-- `_startup_refresh_note_value`: an empty value counts as absent. -/
def startupRefreshNoteValue (notes : List String) (notePrefix : String) : Option String :=
  match notes.find? (hasNotePrefix notePrefix) with
  | none => none
  | some note => strOr (some (noteValue note)) none

/-- `_startup_exit_execution_refresh_failure_items`. -/
def refreshFailureItems (notes : List String) : List StateDetail :=
  let refreshStage := (startupRefreshNoteValue notes
    "startup_exit_execution_parent_refresh_stage").getD "refresh_exit_execution_intents"
  let scopeSummary := (startupRefreshNoteValue notes
    "startup_exit_execution_parent_refresh_scope").getD "unknown_scope"
  let exceptionMessage := (startupRefreshNoteValue notes
    "startup_exit_execution_parent_refresh_message").getD "no_exception_message"
  (notes.filter (hasNotePrefix "startup_exit_execution_parent_refresh_failed")).map fun note =>
    let exceptionLabel := (strOr (some (noteValue note)) none).getD "UnknownError"
    [("kind", .text "startup_exit_execution_parent_refresh_failed"),
      ("summary", .text ("启动期退出任务真相刷新失败：" ++ exceptionLabel)),
      ("detail", .text ("启动恢复阶段没有成功重建退出任务聚合真相，恢复视图可能不完整。" ++
        "stage=" ++ refreshStage ++ " | scope=" ++ scopeSummary ++ " | message=" ++
        exceptionMessage ++ " | raw=" ++ note)),
      ("blocks_resume", .flag true),
      ("operator_review_required", .flag true),
      ("exception_type", .text exceptionLabel),
      ("refresh_stage", .text refreshStage),
      ("scope_summary", .text scopeSummary),
      ("exception_message", .text exceptionMessage)]

/-! ### The overlay -/

/-- `bool(item.get(key, default))`. -/
def detailFlag (item : StateDetail) (key : String) (default : Bool) : Bool :=
  match item.lookup key with
  | none => default
  | some .null => false
  | some (.text value) => decide (value ≠ "")
  | some (.number value) => decide (value ≠ 0)
  | some (.flag value) => value
  | some (.texts values) => !values.isEmpty
  | some (.issue _) => true

/-- `str(item.get("kind") or "").strip()` of an item, whose kind is a text. -/
def detailKind (item : StateDetail) : String :=
  match item.lookup "kind" with
  | some (.text value) => strip value
  | _ => ""

/-- `apply_startup_exit_execution_review_overlay`. -/
def applyExitReviewOverlay (base : RecoveryStatus) (parents : List ExitExecutionIntent)
    (refreshNotes : List String) : RecoveryStatus :=
  let reviewItems := exitExecutionReviewItems parents ++ refreshFailureItems refreshNotes
  if reviewItems = [] then base
  else
    let reviewCount := reviewItems.countP (detailFlag · "operator_review_required" false)
    let blocksResume := reviewItems.any (detailFlag · "blocks_resume" true)
    let blockerKinds := (reviewItems.map detailKind).filter (· ≠ "")
    let closes := blocksResume || decide (reviewCount ≠ 0)
    { base with
      recoveryState :=
        if base.recoveryState = .resumeBlocked then base.recoveryState
        else if reviewCount ≠ 0 then .reviewRequired
        else .resumeBlocked
      reviewRequired := base.reviewRequired || decide (reviewCount ≠ 0)
      safeStartup := base.safeStartup && !closes
      safeToTrade := base.safeToTrade && !closes
      resumeEligible := base.resumeEligible && !closes
      rebaselineAvailable := base.rebaselineAvailable || decide (reviewCount ≠ 0)
      resumeBlockedReasons :=
        (base.resumeBlockedReasons ++
          blockerKinds.filter (· ∉ base.resumeBlockedReasons)).eraseDups
      unknownStateDetails := base.unknownStateDetails ++ reviewItems }

end Aats.Recovery
