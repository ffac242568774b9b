import Aats.Reconciliation.Findings
import Aats.Recovery.ExitReview

/-!
# Exit parents and their children

`services/execution_engine/exit_intent_aggregator.py`: an exit is a parent with a target
quantity, and its orders are its children. Each child counts in one of five categories, and the
parent holds what the children add up to: how much is filled, how much was given up, how much is
still out, and how much may be sent next.

## Main results
* `recompute_accounts` — **when all planned quantities are accounted for**.
* `recompute_not_stuck_iff` — **when a parent has open children, goes on or ends**.
-/

namespace Aats.Exits

open Execution Recovery Reconciliation

/-! ### Child orders -/

inductive ChildExitOrderCategory
  | pendingDispatch
  | working
  | terminalFilled
  | terminalNonfilled
  | unknownTruth
  deriving DecidableEq, Repr

def ChildExitOrderCategory.isOpen : ChildExitOrderCategory → Bool
  | pendingDispatch | working | unknownTruth => true
  | terminalFilled | terminalNonfilled => false

inductive WriteConfirmationState
  | confirmed
  | unknown
  | notRequired
  deriving DecidableEq, Repr

/-- An order of an exit: an `OrderState` with the fields that tell whether it reduces risk. -/
structure ExitOrder extends LocalOrder where
  executionChainId : Option String := none
  reduceOnly : Bool := false
  closeOnly : Bool := false
  positionIntent : Option String := none
  legAction : Option String := none
  executionAction : Option String := none

/-- A text is one of some words, up to case and surrounding space. -/
def isOneOf (words : List String) (text : Option String) : Bool :=
  text.any fun text => (words.map String.toList).contains (Governance.normalizedText text)

/-- `execution_action_from_position_intent` gives `reduce` or `exit`; these are the intents for
which `reduce_only_from_position_intent` holds too. -/
def reducingPositionIntents : List String :=
  ["reduce_long", "reduce_short", "close_long", "close_short"]

def isRiskReducingOrderState (order : ExitOrder) : Bool :=
  order.reduceOnly || order.closeOnly || isOneOf ["reduce", "close"] order.legAction ||
    isOneOf reducingPositionIntents order.positionIntent ||
    isOneOf ["reduce", "exit"] order.executionAction

structure ChildExitOrderRef where
  parentIntentId : String
  clientOrderId : String
  exchangeOrderId : Option String := none
  executionChainId : Option String := none
  intentId : String := ""
  symbol : String := ""
  plannedQuantity : ℚ
  knownFilledQuantity : ℚ := 0
  remainingQuantityEstimate : ℚ := 0
  childStatus : OrderStatus
  aggregateCategory : ChildExitOrderCategory
  writeConfirmationState : WriteConfirmationState := .notRequired
  exchangeTruthPending : Bool := false
  operatorReviewRequired : Bool := false
  riskReducingInvariant : Bool := true
  updatedAt : Timestamp := 0
  deriving DecidableEq, Repr

def mapChildOrderStateToAggregateCategory (order : ExitOrder) : ChildExitOrderCategory :=
  if (unknownWriteOperation order.toLocalOrder).isSome then .unknownTruth
  else if order.status ∈ [OrderStatus.created, .submitting] then .pendingDispatch
  else if order.status ∈ [OrderStatus.submitted, .partiallyFilled, .cancelPending] then .working
  else if epsilon12 < order.filledQty ∧
      order.status ∈ [OrderStatus.filled, .canceled, .rejected, .failed, .expired] then
    .terminalFilled
  else .terminalNonfilled

def remainingQuantityEstimate (order : OrderState) : ℚ :=
  let plannedRemaining := max (order.requestedQty - order.filledQty) 0
  if epsilon12 < order.remainingQty then max order.remainingQty plannedRemaining
  else plannedRemaining

def childExitOrderRefFromOrderState (parentIntentId : String) (order : ExitOrder)
    (settings : Option UnknownWriteSettings) (now : Timestamp) : ChildExitOrderRef :=
  let unresolved := unknownWriteOperation order.toLocalOrder
  { parentIntentId := parentIntentId
    clientOrderId := order.clientOrderId
    exchangeOrderId := order.exchangeOrderId
    executionChainId := order.executionChainId
    intentId := order.intentId
    symbol := order.symbol
    plannedQuantity := order.requestedQty
    knownFilledQuantity := order.filledQty
    remainingQuantityEstimate := remainingQuantityEstimate order.toOrderState
    childStatus := order.status
    aggregateCategory := mapChildOrderStateToAggregateCategory order
    writeConfirmationState := if unresolved.isSome then .unknown else .confirmed
    exchangeTruthPending := unresolved.isSome
    operatorReviewRequired := unresolved.any fun operation =>
      requiresUnknownWriteReview order.toLocalOrder operation now settings
    riskReducingInvariant := isRiskReducingOrderState order
    updatedAt := order.lastUpdateTs.getD now }

/-! ### Exit parents -/

/-- `metadata["resume_issue"]`, with its time. -/
structure StoredResumeIssue extends ResumeIssue where
  updatedAt : Timestamp
  deriving DecidableEq, Repr

/-- `metadata["dispatch_template"]`: the intent that further orders are made from. -/
structure DispatchTemplate where
  intentId : String
  idempotencyKey : String
  quantity : ℚ
  deriving DecidableEq, Repr

/-- `metadata` of an exit parent; its other entries are only carried along. -/
structure ExitMetadata where
  resumeIssue : Option StoredResumeIssue := none
  dispatchTemplate : Option DispatchTemplate := none
  entries : List (String × String) := []
  deriving DecidableEq, Repr

/-- `ExitExecutionIntent`, with all that the aggregation and the writer work on. -/
structure ExitParent where
  parentIntentId : String
  executionChainId : String := ""
  symbol : String := ""
  targetExitQuantity : ℚ
  aggregatedFilledQuantity : ℚ := 0
  aggregatedCanceledQuantity : ℚ := 0
  aggregatedRejectedQuantity : ℚ := 0
  openChildWorkingQuantity : ℚ := 0
  openChildUnknownQuantity : ℚ := 0
  remainingDispatchableQuantity : ℚ := 0
  remainingUnresolvedQuantity : ℚ := 0
  aggregateStatus : ParentAggregateStatus := .created
  reconciliationState : ParentReconciliationState := .clean
  riskReducingInvariant : Bool := true
  aggregateVersion : ℕ := 0
  childOrderIds : List String := []
  cancelRequested : Bool := false
  cancelRequestedTs : Option Timestamp := none
  updatedAt : Timestamp := 0
  completedAt : Option Timestamp := none
  operatorReviewRequired : Bool := false
  operatorReviewReason : Option String := none
  metadata : ExitMetadata := {}
  deriving DecidableEq, Repr

def ExitParent.reviewed (parent : ExitParent) : ExitExecutionIntent where
  parentIntentId := parent.parentIntentId
  executionChainId := parent.executionChainId
  symbol := parent.symbol
  targetExitQuantity := parent.targetExitQuantity
  aggregatedFilledQuantity := parent.aggregatedFilledQuantity
  openChildWorkingQuantity := parent.openChildWorkingQuantity
  openChildUnknownQuantity := parent.openChildUnknownQuantity
  remainingDispatchableQuantity := parent.remainingDispatchableQuantity
  remainingUnresolvedQuantity := parent.remainingUnresolvedQuantity
  aggregateStatus := parent.aggregateStatus
  reconciliationState := parent.reconciliationState
  childOrderIds := parent.childOrderIds
  cancelRequested := parent.cancelRequested
  operatorReviewRequired := parent.operatorReviewRequired
  operatorReviewReason := parent.operatorReviewReason
  resumeIssue := parent.metadata.resumeIssue.map StoredResumeIssue.toResumeIssue
  hasDispatchTemplate := parent.metadata.dispatchTemplate.isSome

def resumeBlockReason (parent : ExitParent) : Option String :=
  Recovery.resumeBlockReason parent.reviewed

def sumOver (refs : List ChildExitOrderRef) (counts : ChildExitOrderRef → Bool)
    (quantity : ChildExitOrderRef → ℚ) : ℚ :=
  ((refs.filter counts).map quantity).sum

/-- `max(planned_quantity - known_filled_quantity, 0)`. -/
def ChildExitOrderRef.unfilled (ref : ChildExitOrderRef) : ℚ :=
  max (ref.plannedQuantity - ref.knownFilledQuantity) 0

/-- `aggregated_filled_quantity` of children. -/
def filledOf (refs : List ChildExitOrderRef) : ℚ :=
  (refs.map ChildExitOrderRef.knownFilledQuantity).sum

/-- `aggregated_canceled_quantity` of children. -/
def canceledOf (refs : List ChildExitOrderRef) : ℚ :=
  sumOver refs (fun ref => ref.aggregateCategory = .terminalNonfilled ∧ ref.childStatus = .canceled)
    ChildExitOrderRef.unfilled

/-- `aggregated_rejected_quantity` of children. -/
def rejectedOf (refs : List ChildExitOrderRef) : ℚ :=
  sumOver refs (fun ref => ref.aggregateCategory = .terminalNonfilled ∧ ref.childStatus ≠ .canceled)
    ChildExitOrderRef.unfilled

/-- `open_child_working_quantity` of children. -/
def workingOf (refs : List ChildExitOrderRef) : ℚ :=
  sumOver refs (fun ref => ref.aggregateCategory = .pendingDispatch ∨
    ref.aggregateCategory = .working) ChildExitOrderRef.remainingQuantityEstimate

/-- `open_child_unknown_quantity` of children. -/
def unknownOf (refs : List ChildExitOrderRef) : ℚ :=
  sumOver refs (fun ref => ref.aggregateCategory = .unknownTruth)
    ChildExitOrderRef.remainingQuantityEstimate

def reviewRequiredOf (refs : List ChildExitOrderRef) : Bool :=
  refs.any (·.operatorReviewRequired) || !refs.all (·.riskReducingInvariant)

def deriveParentStatus (parent : ExitParent) (refs : List ChildExitOrderRef)
    (aggregatedFilledQuantity : ℚ) (operatorReviewRequired : Bool) : ParentAggregateStatus :=
  let hasUnknown := refs.any (·.aggregateCategory = .unknownTruth)
  let hasPendingDispatch := refs.any (·.aggregateCategory = .pendingDispatch)
  let hasWorking := refs.any (·.aggregateCategory = .working)
  if refs = [] then .created
  else if operatorReviewRequired then .reviewRequired
  else if parent.cancelRequested then
    if hasUnknown || hasPendingDispatch || hasWorking then .cancelPending
    else if parent.targetExitQuantity ≤ aggregatedFilledQuantity then .completed
    else .canceled
  else if hasUnknown then
    if epsilon12 < aggregatedFilledQuantity then .partiallyFilled else .working
  else if hasPendingDispatch && !hasWorking then
    if epsilon12 < aggregatedFilledQuantity then .partiallyFilled else .dispatching
  else if hasWorking then
    if epsilon12 < aggregatedFilledQuantity then .partiallyFilled else .working
  else if parent.targetExitQuantity ≤ aggregatedFilledQuantity then .completed
  else if epsilon12 < aggregatedFilledQuantity then .partiallyFilled
  else .failedSafe

def recomputeExitExecutionIntent (parent : ExitParent) (refs : List ChildExitOrderRef)
    (now : Timestamp) : ExitParent :=
  let riskReducing := refs.all (·.riskReducingInvariant)
  let review := reviewRequiredOf refs
  let status := deriveParentStatus parent refs (filledOf refs) review
  { parent with
    aggregatedFilledQuantity := filledOf refs
    aggregatedCanceledQuantity := canceledOf refs
    aggregatedRejectedQuantity := rejectedOf refs
    openChildWorkingQuantity := workingOf refs
    openChildUnknownQuantity := unknownOf refs
    remainingDispatchableQuantity :=
      max (parent.targetExitQuantity - filledOf refs - workingOf refs - unknownOf refs) 0
    remainingUnresolvedQuantity := max (parent.targetExitQuantity - filledOf refs) 0
    aggregateStatus := status
    reconciliationState :=
      if review then .reviewRequired
      else if refs.any (·.exchangeTruthPending) then .truthPending
      else .clean
    riskReducingInvariant := riskReducing
    aggregateVersion := parent.aggregateVersion + 1
    childOrderIds := refs.map ChildExitOrderRef.clientOrderId
    operatorReviewRequired := review
    operatorReviewReason :=
      if !riskReducing then some "child_risk_reducing_invariant_breached"
      else if review then some "child_unknown_truth_requires_review"
      else none
    updatedAt := now
    completedAt :=
      if status.isTerminal then some (parent.completedAt.getD now) else none }

/-! ### Sums over children -/

section Sums

variable {refs : List ChildExitOrderRef} {counts : ChildExitOrderRef → Bool}
  {quantity : ChildExitOrderRef → ℚ}

theorem sumOver_eq (refs : List ChildExitOrderRef) (counts : ChildExitOrderRef → Bool)
    (quantity : ChildExitOrderRef → ℚ) :
    sumOver refs counts quantity = (refs.map fun ref => if counts ref then quantity ref else 0).sum := by
  unfold sumOver
  induction refs with
  | nil => rfl
  | cons ref refs ih =>
    rw [List.map_cons, List.sum_cons, ← ih]
    by_cases h : counts ref = true
    · rw [List.filter_cons_of_pos h, List.map_cons, List.sum_cons, if_pos h]
    · rw [List.filter_cons_of_neg h, if_neg h, zero_add]

theorem sumOver_eq_zero (h : ∀ ref ∈ refs, counts ref = false) :
    sumOver refs counts quantity = 0 := by
  unfold sumOver
  rw [List.filter_eq_nil_iff.mpr (by simpa using h)]
  rfl

theorem sumOver_perm {others : List ChildExitOrderRef} (h : refs.Perm others) :
    sumOver refs counts quantity = sumOver others counts quantity :=
  ((h.filter counts).map quantity).sum_eq

/-- The five quantities of a parent, added up. -/
def accountedQuantity (parent : ExitParent) : ℚ :=
  parent.aggregatedFilledQuantity + parent.aggregatedCanceledQuantity +
    parent.aggregatedRejectedQuantity + parent.openChildWorkingQuantity +
    parent.openChildUnknownQuantity

def ChildExitOrderRef.accounted (ref : ChildExitOrderRef) : ℚ :=
  match ref.aggregateCategory with
  | .terminalFilled => ref.knownFilledQuantity
  | .terminalNonfilled => ref.knownFilledQuantity + ref.unfilled
  | .pendingDispatch | .working | .unknownTruth =>
    ref.knownFilledQuantity + ref.remainingQuantityEstimate

theorem accountedQuantity_recompute (parent : ExitParent) (refs : List ChildExitOrderRef)
    (now : Timestamp) :
    accountedQuantity (recomputeExitExecutionIntent parent refs now) =
      (refs.map ChildExitOrderRef.accounted).sum := by
  show filledOf refs + canceledOf refs + rejectedOf refs + workingOf refs + unknownOf refs = _
  unfold filledOf canceledOf rejectedOf workingOf unknownOf
  simp only [sumOver_eq, ← List.sum_map_add]
  congr 1
  refine List.map_congr_left fun ref _ => ?_
  unfold ChildExitOrderRef.accounted
  cases ref.aggregateCategory <;> by_cases hstatus : ref.childStatus = .canceled <;> simp [hstatus]

end Sums

/-! ### Accounting for the planned quantities -/

/-- What an order leaves unfilled without showing up in any quantity: its category is that of the
filled orders. -/
def lostQuantity (order : ExitOrder) : ℚ :=
  if mapChildOrderStateToAggregateCategory order = .terminalFilled then
    order.requestedQty - order.filledQty
  else 0

/-- What an open order reports as remaining beyond what it has not filled. -/
def excessQuantity (order : ExitOrder) : ℚ :=
  if (mapChildOrderStateToAggregateCategory order).isOpen then
    remainingQuantityEstimate order.toOrderState - (order.requestedQty - order.filledQty)
  else 0

theorem accounted_childRef {order : ExitOrder} (parentIntentId : String)
    (settings : Option UnknownWriteSettings) (now : Timestamp)
    (hfilled : order.filledQty ≤ order.requestedQty) :
    (childExitOrderRefFromOrderState parentIntentId order settings now).accounted +
        lostQuantity order = order.requestedQty + excessQuantity order := by
  have hunfilled : max (order.requestedQty - order.filledQty) 0 =
      order.requestedQty - order.filledQty := max_eq_left (by linarith)
  unfold ChildExitOrderRef.accounted lostQuantity excessQuantity ChildExitOrderRef.unfilled
    childExitOrderRefFromOrderState
  simp only
  cases mapChildOrderStateToAggregateCategory order <;>
    simp only [ChildExitOrderCategory.isOpen, hunfilled, reduceCtorEq, if_true, if_false,
      Bool.false_eq_true] <;> ring

theorem excessQuantity_eq_zero {order : ExitOrder} (hfilled : order.filledQty ≤ order.requestedQty)
    (h : order.remainingQty ≤ order.requestedQty - order.filledQty) : excessQuantity order = 0 := by
  have hunfilled : max (order.requestedQty - order.filledQty) 0 =
      order.requestedQty - order.filledQty := max_eq_left (by linarith)
  unfold excessQuantity remainingQuantityEstimate
  simp only [hunfilled, max_eq_right h, ite_self, sub_self]

theorem lostQuantity_nonneg {order : ExitOrder} (hfilled : order.filledQty ≤ order.requestedQty) :
    0 ≤ lostQuantity order := by
  unfold lostQuantity
  split
  · linarith
  · exact le_rfl

theorem lostQuantity_eq_zero_iff {order : ExitOrder} : lostQuantity order = 0 ↔
    (mapChildOrderStateToAggregateCategory order = .terminalFilled →
      order.filledQty = order.requestedQty) := by
  unfold lostQuantity
  split
  · next h => exact ⟨fun heq _ => by linarith, fun heq => by linarith [heq h]⟩
  · next h => exact iff_of_true rfl fun heq => absurd heq h

theorem sum_map_eq_zero_iff {α : Type*} {items : List α} {f : α → ℚ}
    (h : ∀ item ∈ items, 0 ≤ f item) :
    (items.map f).sum = 0 ↔ ∀ item ∈ items, f item = 0 := by
  induction items with
  | nil => simp
  | cons item items ih =>
    rw [List.forall_mem_cons] at h
    have hrest : 0 ≤ (items.map f).sum :=
      List.sum_nonneg (by simpa using h.2)
    rw [List.map_cons, List.sum_cons, List.forall_mem_cons, ← ih h.2]
    constructor
    · intro hsum
      exact ⟨by linarith [h.1], by linarith [h.1]⟩
    · rintro ⟨hitem, hsum⟩
      linarith

theorem recompute_perm (parent : ExitParent) (now : Timestamp) {refs others : List ChildExitOrderRef}
    (h : others.Perm refs) :
    recomputeExitExecutionIntent parent others now =
      { recomputeExitExecutionIntent parent refs now with
        childOrderIds := others.map ChildExitOrderRef.clientOrderId } := by
  have hfilled : filledOf others = filledOf refs := (h.map _).sum_eq
  have hreview : reviewRequiredOf others = reviewRequiredOf refs := by
    unfold reviewRequiredOf
    rw [h.any_eq, h.all_eq]
  have hstatus : ∀ filled review, deriveParentStatus parent others filled review =
      deriveParentStatus parent refs filled review := by
    intro filled review
    have hnil : others = [] ↔ refs = [] := by
      rw [← List.length_eq_zero_iff, ← List.length_eq_zero_iff, h.length_eq]
    unfold deriveParentStatus
    simp only [hnil, h.any_eq]
  have hcanceled : canceledOf others = canceledOf refs := sumOver_perm h
  have hrejected : rejectedOf others = rejectedOf refs := sumOver_perm h
  have hworking : workingOf others = workingOf refs := sumOver_perm h
  have hunknown : unknownOf others = unknownOf refs := sumOver_perm h
  unfold recomputeExitExecutionIntent
  simp only [hfilled, hreview, hstatus, hcanceled, hrejected, hworking, hunknown, h.any_eq, h.all_eq]

/-- **The aggregation of an exit.**  The five quantities of a parent add up to the planned ones
exactly if what the filled orders lack is what the open orders report in excess. Where no order
reports more than it has not filled, that is if no order ended with part of it filled. The order
of the children does not matter. -/
theorem recompute_accounts (parentIntentId : String) (settings : Option UnknownWriteSettings)
    (now : Timestamp) (parent : ExitParent) (orders : List ExitOrder)
    (hfilled : ∀ order ∈ orders, 0 ≤ order.filledQty ∧ order.filledQty ≤ order.requestedQty) :
    let refs := orders.map fun order =>
      childExitOrderRefFromOrderState parentIntentId order settings now
    (accountedQuantity (recomputeExitExecutionIntent parent refs now) =
        (refs.map ChildExitOrderRef.plannedQuantity).sum ↔
      (orders.map lostQuantity).sum = (orders.map excessQuantity).sum) ∧
    ((∀ order ∈ orders, order.remainingQty ≤ order.requestedQty - order.filledQty) →
      (accountedQuantity (recomputeExitExecutionIntent parent refs now) =
          (refs.map ChildExitOrderRef.plannedQuantity).sum ↔
        ∀ order ∈ orders, mapChildOrderStateToAggregateCategory order = .terminalFilled →
          order.filledQty = order.requestedQty)) ∧
    ∀ others, others.Perm refs →
      recomputeExitExecutionIntent parent others now =
        { recomputeExitExecutionIntent parent refs now with
          childOrderIds := others.map ChildExitOrderRef.clientOrderId } := by
  intro refs
  have hsums : accountedQuantity (recomputeExitExecutionIntent parent refs now) +
      (orders.map lostQuantity).sum =
        (refs.map ChildExitOrderRef.plannedQuantity).sum + (orders.map excessQuantity).sum := by
    rw [accountedQuantity_recompute, List.map_map, List.map_map, ← List.sum_map_add,
      ← List.sum_map_add]
    congr 1
    refine List.map_congr_left fun order hmem => ?_
    exact accounted_childRef parentIntentId settings now (hfilled order hmem).2
  have hiff : accountedQuantity (recomputeExitExecutionIntent parent refs now) =
        (refs.map ChildExitOrderRef.plannedQuantity).sum ↔
      (orders.map lostQuantity).sum = (orders.map excessQuantity).sum :=
    ⟨fun h => by linarith, fun h => by linarith⟩
  refine ⟨hiff, fun hremaining => ?_, fun others h => recompute_perm parent now h⟩
  have hexcess : (orders.map excessQuantity).sum = 0 := by
    refine List.sum_eq_zero fun value hvalue => ?_
    obtain ⟨order, hmem, rfl⟩ := List.mem_map.mp hvalue
    exact excessQuantity_eq_zero (hfilled order hmem).2 (hremaining order hmem)
  rw [hiff, hexcess, sum_map_eq_zero_iff fun order hmem => lostQuantity_nonneg (hfilled order hmem).2]
  exact forall₂_congr fun order _ => lostQuantity_eq_zero_iff

/-- An order for ten coins that is canceled after four of them were filled, as it is stored. -/
def canceledAfterFour : ExitOrder where
  toOrderState := merge
    (some { clientOrderId := "c1", status := .submitted, requestedQty := 10, remainingQty := 10 })
    { clientOrderId := "c1", status := .canceled, requestedQty := 10, filledQty := 4,
      remainingQty := 6 }
  reduceOnly := true

def exitOfTen : ExitParent := { parentIntentId := "exit_parent:x", targetExitQuantity := 10 }

theorem recompute_accounts_canceledAfterFour :
    ¬ accountedQuantity (recomputeExitExecutionIntent exitOfTen
        [childExitOrderRefFromOrderState "exit_parent:x" canceledAfterFour none 0] 0) =
      ([childExitOrderRefFromOrderState "exit_parent:x" canceledAfterFour none 0].map
        ChildExitOrderRef.plannedQuantity).sum := by
  have h := (recompute_accounts "exit_parent:x" none 0 exitOfTen [canceledAfterFour]
    (by decide +kernel)).1
  exact fun heq => absurd (h.mp heq) (by decide +kernel)

theorem recompute_loses_remainder :
    accountedQuantity (recomputeExitExecutionIntent exitOfTen
        [childExitOrderRefFromOrderState "exit_parent:x" canceledAfterFour none 0] 0) = 4 ∧
      (childExitOrderRefFromOrderState "exit_parent:x" canceledAfterFour none 0).plannedQuantity =
        10 := by
  decide +kernel

/-! ### Parents without open children -/

section Stuck

variable {refs : List ChildExitOrderRef}

theorem workingOf_unknownOf_eq_zero (h : ∀ ref ∈ refs, ref.aggregateCategory.isOpen = false) :
    workingOf refs = 0 ∧ unknownOf refs = 0 := by
  constructor
  · refine sumOver_eq_zero fun ref hmem => ?_
    have hclosed := h ref hmem
    cases hcategory : ref.aggregateCategory <;> simp_all [ChildExitOrderCategory.isOpen]
  · refine sumOver_eq_zero fun ref hmem => ?_
    have hclosed := h ref hmem
    cases hcategory : ref.aggregateCategory <;> simp_all [ChildExitOrderCategory.isOpen]

theorem deriveParentStatus_of_closed {parent : ExitParent} {filled : ℚ} (hrefs : refs ≠ [])
    (hcancel : parent.cancelRequested = false)
    (h : ∀ ref ∈ refs, ref.aggregateCategory.isOpen = false) :
    deriveParentStatus parent refs filled false =
      if parent.targetExitQuantity ≤ filled then .completed
      else if epsilon12 < filled then .partiallyFilled
      else .failedSafe := by
  have hnone : ∀ category : ChildExitOrderCategory, category.isOpen = true →
      refs.any (fun ref => decide (ref.aggregateCategory = category)) = false := by
    intro category hopen
    rw [List.any_eq_false]
    intro ref hmem heq
    rw [decide_eq_true_eq] at heq
    rw [← heq, h ref hmem] at hopen
    cases hopen
  unfold deriveParentStatus
  simp only [hrefs, hcancel, hnone .unknownTruth rfl, hnone .pendingDispatch rfl,
    hnone .working rfl, if_false, Bool.false_eq_true, Bool.false_and]

end Stuck

theorem resumeBlockReason_eq_none_iff {parent : ExitParent}
    (hstatus : parent.aggregateStatus = .partiallyFilled) (hcancel : parent.cancelRequested = false)
    (hreview : parent.operatorReviewRequired = false) (hissue : parent.metadata.resumeIssue = none)
    (hworking : parent.openChildWorkingQuantity = 0)
    (hunknown : parent.openChildUnknownQuantity = 0)
    (htemplate : parent.metadata.dispatchTemplate.isSome = true) :
    resumeBlockReason parent = none ↔ epsilon12 < parent.remainingDispatchableQuantity := by
  have hpos : ¬ epsilon12 < 0 := by decide +kernel
  unfold resumeBlockReason Recovery.resumeBlockReason resumeIssueKind ExitParent.reviewed
  simp only [hstatus, hcancel, hreview, hissue, hworking, hunknown, htemplate, hpos,
    ParentAggregateStatus.isTerminal, Option.map_none, Option.filter_none, reduceCtorEq,
    Bool.false_eq_true, or_self, if_false]
  split
  · next hle => exact iff_of_false (by rintro ⟨⟩) (not_lt.mpr hle)
  · next hlt => exact iff_of_true rfl (not_le.mp hlt)

theorem resumeBlockReason_of_review {parent : ExitParent}
    (hstatus : parent.aggregateStatus = .reviewRequired) (hcancel : parent.cancelRequested = false)
    (hreview : parent.operatorReviewRequired = true) :
    resumeBlockReason parent = some "review_required" := by
  unfold resumeBlockReason Recovery.resumeBlockReason ExitParent.reviewed
  simp only [hstatus, hcancel, hreview, ParentAggregateStatus.isTerminal, reduceCtorEq,
    Bool.false_eq_true, or_self, if_false, if_true]

/-- A parent without open children whose children all reduce risk goes on or ends, exactly if what is
missing of the target, if anything is filled at all, is more than the tolerance. -/
theorem recompute_not_stuck_of_closed (parent : ExitParent) (refs : List ChildExitOrderRef)
    (now : Timestamp) (htemplate : parent.metadata.dispatchTemplate.isSome = true)
    (hissue : parent.metadata.resumeIssue = none) (hcancel : parent.cancelRequested = false)
    (hrefs : refs ≠ []) (hclosed : ∀ ref ∈ refs, ref.aggregateCategory.isOpen = false)
    (hnoReview : reviewRequiredOf refs = false) :
    (recomputeExitExecutionIntent parent refs now).aggregateStatus.isTerminal = true ∨
        resumeBlockReason (recomputeExitExecutionIntent parent refs now) = none ↔
      ¬ (epsilon12 < filledOf refs ∧ filledOf refs < parent.targetExitQuantity ∧
        parent.targetExitQuantity ≤ filledOf refs + epsilon12) := by
  set after := recomputeExitExecutionIntent parent refs now
  have hstatus : after.aggregateStatus =
      if parent.targetExitQuantity ≤ filledOf refs then .completed
      else if epsilon12 < filledOf refs then .partiallyFilled
      else .failedSafe := by
    rw [← deriveParentStatus_of_closed hrefs hcancel hclosed, ← hnoReview]
    rfl
  split_ifs at hstatus with hfull hsome
  · exact iff_of_true (.inl (by rw [hstatus]; rfl)) fun h => absurd hfull (not_le.mpr h.2.1)
  · -- part of the target is filled: the parent goes on exactly if enough is left of it
    obtain ⟨hworking, hunknown⟩ := workingOf_unknownOf_eq_zero hclosed
    have hleft : after.remainingDispatchableQuantity =
        max (parent.targetExitQuantity - filledOf refs) 0 := by
      show max (parent.targetExitQuantity - filledOf refs - workingOf refs - unknownOf refs) 0 = _
      rw [hworking, hunknown, sub_zero, sub_zero]
    have hblock : resumeBlockReason after = none ↔
        epsilon12 < parent.targetExitQuantity - filledOf refs := by
      rw [resumeBlockReason_eq_none_iff hstatus hcancel hnoReview hissue hworking hunknown
        htemplate, hleft, max_eq_left (sub_nonneg.mpr (not_le.mp hfull).le)]
    have hnot : ¬ after.aggregateStatus.isTerminal = true := by
      rw [hstatus]
      decide
    rw [or_iff_right hnot, hblock]
    constructor
    · intro hlt h
      linarith [h.2.2]
    · intro h
      by_contra hle
      exact h ⟨hsome, not_le.mp hfull, by linarith⟩
  · exact iff_of_true (.inl (by rw [hstatus]; rfl)) fun h => hsome h.1

theorem recompute_stuck_of_review (parent : ExitParent) (refs : List ChildExitOrderRef)
    (now : Timestamp) (hcancel : parent.cancelRequested = false) (hrefs : refs ≠ [])
    (hreviewed : reviewRequiredOf refs = true) :
    ¬ ((recomputeExitExecutionIntent parent refs now).aggregateStatus.isTerminal = true ∨
      resumeBlockReason (recomputeExitExecutionIntent parent refs now) = none) := by
  have hstatus :
      (recomputeExitExecutionIntent parent refs now).aggregateStatus = .reviewRequired := by
    show deriveParentStatus parent refs (filledOf refs) (reviewRequiredOf refs) = _
    unfold deriveParentStatus
    simp only [hrefs, hreviewed, if_false, if_true]
  rintro (hterminal | hblock)
  · rw [hstatus] at hterminal
    cases hterminal
  · rw [resumeBlockReason_of_review hstatus hcancel hreviewed] at hblock
    cases hblock

/-- **A parent has open children, goes on or ends**, exactly if there are open children or all
children reduce risk and what is missing of the target, if anything is filled at all, is more than
the tolerance. -/
theorem recompute_not_stuck_iff (parent : ExitParent) (refs : List ChildExitOrderRef)
    (now : Timestamp) (htemplate : parent.metadata.dispatchTemplate.isSome = true)
    (hissue : parent.metadata.resumeIssue = none) (hcancel : parent.cancelRequested = false)
    (hrefs : refs ≠ []) (hreview : ∀ ref ∈ refs, ref.operatorReviewRequired = false) :
    let after := recomputeExitExecutionIntent parent refs now
    (after.aggregateStatus.isTerminal = true ∨
        (∃ ref ∈ refs, ref.aggregateCategory.isOpen = true) ∨ resumeBlockReason after = none) ↔
      (∃ ref ∈ refs, ref.aggregateCategory.isOpen = true) ∨
        (∀ ref ∈ refs, ref.riskReducingInvariant = true) ∧
          ¬ (epsilon12 < filledOf refs ∧ filledOf refs < parent.targetExitQuantity ∧
            parent.targetExitQuantity ≤ filledOf refs + epsilon12) := by
  intro after
  by_cases hopen : ∃ ref ∈ refs, ref.aggregateCategory.isOpen = true
  · exact iff_of_true (.inr (.inl hopen)) (.inl hopen)
  have hclosed : ∀ ref ∈ refs, ref.aggregateCategory.isOpen = false := by
    intro ref hmem
    by_contra hne
    exact hopen ⟨ref, hmem, by simpa using hne⟩
  rw [or_iff_right hopen, or_iff_right hopen]
  by_cases hrisk : ∀ ref ∈ refs, ref.riskReducingInvariant = true
  · have hnoReview : reviewRequiredOf refs = false := by
      unfold reviewRequiredOf
      rw [List.any_eq_false.mpr (by simpa using hreview), List.all_eq_true.mpr hrisk]
      rfl
    rw [and_iff_right hrisk]
    exact recompute_not_stuck_of_closed parent refs now htemplate hissue hcancel hrefs hclosed
      hnoReview
  · have hreviewed : reviewRequiredOf refs = true := by
      unfold reviewRequiredOf
      rw [Bool.eq_false_iff.mpr (fun h => hrisk (List.all_eq_true.mp h))]
      simp
    exact iff_of_false (recompute_stuck_of_review parent refs now hcancel hrefs hreviewed)
      fun h => hrisk h.1

/-- An exit of ten coins that further orders can be sent for. -/
def resumableExit : ExitParent :=
  { exitOfTen with
    metadata := { dispatchTemplate := some { intentId := "i", idempotencyKey := "c1", quantity := 10 } } }

def childOf (order : ExitOrder) : ChildExitOrderRef :=
  childExitOrderRefFromOrderState "exit_parent:x" order none 0

theorem recompute_not_stuck_canceledAfterFour :
    (recomputeExitExecutionIntent resumableExit [childOf canceledAfterFour]
        0).aggregateStatus.isTerminal = true ∨
      (∃ ref ∈ [childOf canceledAfterFour], ref.aggregateCategory.isOpen = true) ∨
        resumeBlockReason
          (recomputeExitExecutionIntent resumableExit [childOf canceledAfterFour] 0) = none :=
  (recompute_not_stuck_iff resumableExit [childOf canceledAfterFour] 0 rfl rfl rfl (by simp)
    (by decide +kernel)).mpr (.inr (by decide +kernel))

/-- An order for ten coins that counts as filled, less a rest below the tolerance. -/
def filledButForDust : ExitOrder where
  toOrderState := merge
    (some { clientOrderId := "c1", status := .submitted, requestedQty := 10, remainingQty := 10 })
    { clientOrderId := "c1", status := .partiallyFilled, requestedQty := 10,
      filledQty := 10 - epsilon12 / 2, remainingQty := epsilon12 / 2 }
  reduceOnly := true

theorem recompute_stuck_filledButForDust :
    (childOf filledButForDust).childStatus = .filled ∧
      (childOf filledButForDust).operatorReviewRequired = false ∧
      ¬ ((recomputeExitExecutionIntent resumableExit [childOf filledButForDust]
            0).aggregateStatus.isTerminal = true ∨
          (∃ ref ∈ [childOf filledButForDust], ref.aggregateCategory.isOpen = true) ∨
            resumeBlockReason
              (recomputeExitExecutionIntent resumableExit [childOf filledButForDust] 0) = none) ∧
      resumeBlockReason
        (recomputeExitExecutionIntent resumableExit [childOf filledButForDust] 0) =
          some "no_remaining_dispatchable_quantity" := by
  decide +kernel

end Aats.Exits
