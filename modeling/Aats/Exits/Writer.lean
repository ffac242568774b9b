import Aats.Exits.Aggregation

/-!
# Writing exit parents

`services/execution_engine/exit_execution_writer.py`: whoever saves a parent saves the copy it
read, and in between others may have saved it too. A save therefore merges the copy into the
stored parent: a copy whose version is not above the stored one is stale, and does not take back
a cancel request, the end of the exit, a required review or a resume issue.

## Main definitions
* `writerStep` — the writer on all parents; a copy may have been read at any earlier time.

## Main results
* `writer_monotone` — what no write takes back, and **when a stale save leaves a finished parent
  as it is**.
-/

namespace Aats.Exits

open Execution Recovery Runs

/-! ### Changes of a copy -/

def requestCancelExitExecutionIntent (parent : ExitParent) (now : Timestamp) : ExitParent :=
  { parent with
    cancelRequested := true
    cancelRequestedTs := parent.cancelRequestedTs.or (some now)
    updatedAt := now }

def StoredResumeIssue.strippedKind (issue : StoredResumeIssue) : String := strip issue.kind

def recordResumeIssue (parent : ExitParent) (kind error : String) (now : Timestamp) : ExitParent :=
  let priorKind := (parent.metadata.resumeIssue.map StoredResumeIssue.strippedKind).getD ""
  { parent with
    metadata :=
      { parent.metadata with
        resumeIssue := some {
          kind := kind
          error := error
          priorKind := if priorKind ≠ kind then priorKind else ""
          updatedAt := now } }
    updatedAt := now }

def clearResumeIssue (parent : ExitParent) (kind : Option String) (now : Timestamp) : ExitParent :=
  if parent.metadata.resumeIssue = none then parent
  else if kind.isSome ∧ resumeIssueKind parent.reviewed ≠ kind then parent
  else { parent with metadata := { parent.metadata with resumeIssue := none }, updatedAt := now }

/-- The template that `_save_exit_execution_intent_with_template` adds. -/
def addDispatchTemplate (parent : ExitParent) (template : DispatchTemplate) : ExitParent :=
  { parent with metadata := { parent.metadata with dispatchTemplate := some template } }

/-! ### The merge -/

def keepCancelRequest (current incoming merged : ExitParent) : ExitParent :=
  if current.cancelRequested = true ∧ incoming.cancelRequested = false then
    { merged with
      cancelRequested := true
      cancelRequestedTs := current.cancelRequestedTs
      aggregateStatus :=
        if incoming.aggregateStatus.isTerminal = true then merged.aggregateStatus
        else .cancelPending }
  else merged

/-- The snapshot of a finished parent is kept against stale copies and other statuses. -/
def keepTerminalSnapshot (current incoming merged : ExitParent) : ExitParent :=
  if current.aggregateStatus.isTerminal = true ∧
      (incoming.aggregateVersion ≤ current.aggregateVersion ∨
        incoming.aggregateStatus ≠ current.aggregateStatus) then
    { merged with
      aggregatedFilledQuantity := current.aggregatedFilledQuantity
      aggregatedCanceledQuantity := current.aggregatedCanceledQuantity
      aggregatedRejectedQuantity := current.aggregatedRejectedQuantity
      openChildWorkingQuantity := current.openChildWorkingQuantity
      openChildUnknownQuantity := current.openChildUnknownQuantity
      remainingDispatchableQuantity := current.remainingDispatchableQuantity
      remainingUnresolvedQuantity := current.remainingUnresolvedQuantity
      aggregateStatus := current.aggregateStatus
      reconciliationState := current.reconciliationState
      riskReducingInvariant := current.riskReducingInvariant
      childOrderIds := current.childOrderIds
      completedAt := current.completedAt
      operatorReviewRequired := current.operatorReviewRequired
      operatorReviewReason := current.operatorReviewReason
      metadata := current.metadata }
  else merged

/-- Neither the stored parent nor the copy is finished. -/
def bothOpen (current incoming : ExitParent) : Prop :=
  current.aggregateStatus.isTerminal = false ∧ incoming.aggregateStatus.isTerminal = false

instance (current incoming : ExitParent) : Decidable (bothOpen current incoming) :=
  inferInstanceAs (Decidable (_ ∧ _))

def asReviewRequired (merged : ExitParent) : ExitParent :=
  { merged with aggregateStatus := .reviewRequired, reconciliationState := .reviewRequired }

/-- A stale copy does not take back the status of a required review. -/
def keepReviewStatus (current incoming merged : ExitParent) : ExitParent :=
  if current.aggregateStatus = .reviewRequired ∧
      incoming.aggregateStatus ≠ current.aggregateStatus ∧
      incoming.aggregateStatus.isTerminal = false then
    asReviewRequired merged
  else merged

/-- A stale copy does not take back a required review. -/
def keepOperatorReview (current incoming merged : ExitParent) : ExitParent :=
  if current.operatorReviewRequired = true ∧ incoming.operatorReviewRequired = false then
    let kept := { merged with
      operatorReviewRequired := true
      operatorReviewReason := current.operatorReviewReason }
    if bothOpen current incoming then asReviewRequired kept else kept
  else merged

/-- The copy has an issue that names the stored one as the one before it. -/
def replacesIssue (current incoming : StoredResumeIssue) : Prop :=
  strip incoming.priorKind = strip current.kind

instance (current incoming : StoredResumeIssue) : Decidable (replacesIssue current incoming) :=
  inferInstanceAs (Decidable (_ = _))

/-- The stored issue has to be put back into the copy. -/
def losesIssue (current incoming : ExitParent) : Prop :=
  match current.metadata.resumeIssue with
  | none => False
  | some issue =>
    incoming.metadata.resumeIssue ≠ some issue ∧
      ∀ other ∈ incoming.metadata.resumeIssue, ¬ replacesIssue issue other

instance (current incoming : ExitParent) : Decidable (losesIssue current incoming) := by
  unfold losesIssue
  split <;> infer_instance

/-- A stale copy does not take back a resume issue. The issue goes into the metadata that were
chosen before; a stored parent with an issue has metadata, so those are never the empty ones. -/
def keepResumeIssue (current incoming merged : ExitParent) : ExitParent :=
  if losesIssue current incoming then
    let kept := { merged with
      metadata := { merged.metadata with resumeIssue := current.metadata.resumeIssue }
      operatorReviewRequired := true
      operatorReviewReason :=
        if (strOr current.operatorReviewReason none).isSome ∧
            strOr incoming.operatorReviewReason none = none then
          current.operatorReviewReason
        else merged.operatorReviewReason }
    if bothOpen current incoming then asReviewRequired kept else kept
  else merged

/-- The rules that hold against every copy. -/
def keepCancelAndEnd (current incoming : ExitParent) : ExitParent :=
  keepTerminalSnapshot current incoming (keepCancelRequest current incoming incoming)

/-- The rules that hold against stale copies, in their order. -/
def keepReviewAndIssue (current incoming merged : ExitParent) : ExitParent :=
  keepResumeIssue current incoming
    (keepOperatorReview current incoming (keepReviewStatus current incoming merged))

def mergeStickyParentFields (current : Option ExitParent) (incoming : ExitParent) : ExitParent :=
  match current with
  | none => incoming
  | some current =>
    if incoming.aggregateVersion ≤ current.aggregateVersion then
      { keepReviewAndIssue current incoming (keepCancelAndEnd current incoming) with
        aggregateVersion := current.aggregateVersion + 1 }
    else keepCancelAndEnd current incoming

/-! ### The repository -/

/-- What the repository has of one parent: the parent, its children by their client order id, and
all that was stored as the parent so far, which somebody may have read. -/
structure ExitRecord where
  parent : Option ExitParent := none
  children : List ChildExitOrderRef := []
  readable : List ExitParent := []

abbrev ExitRepository := String → ExitRecord

def ExitRecord.store (record : ExitRecord) (parent : ExitParent) : ExitRecord :=
  { record with parent := some parent, readable := record.readable ++ [parent] }

def saveChild (children : List ChildExitOrderRef) (ref : ChildExitOrderRef) :
    List ChildExitOrderRef :=
  KeyedList.upsert ChildExitOrderRef.clientOrderId children ref

/-- The functions that are applied to a parent before it is recomputed. -/
inductive ParentTransform
  | keep
  /-- `clear_resume_issue`. -/
  | clearResumeIssue (kind : Option String)
  /-- `request_cancel_exit_execution_intent`. -/
  | requestCancel
  deriving DecidableEq, Repr

def ParentTransform.apply (parent : ExitParent) (now : Timestamp) : ParentTransform → ExitParent
  | keep => parent
  | clearResumeIssue kind => Exits.clearResumeIssue parent kind now
  | requestCancel => requestCancelExitExecutionIntent parent now

def saveExitExecutionIntent (record : ExitRecord) (intent : ExitParent) : ExitRecord :=
  record.store (mergeStickyParentFields record.parent intent)

/-- The end of the other functions: the parent is transformed, recomputed and merged. -/
def recomputeFrom (record : ExitRecord) (parentBase : ExitParent) (transform : ParentTransform)
    (now : Timestamp) : ExitRecord :=
  let recomputed :=
    recomputeExitExecutionIntent (transform.apply parentBase now) record.children now
  record.store (mergeStickyParentFields (some parentBase) recomputed)

/-- `recompute_parent`; it raises an error if there is no parent. -/
def recomputeParent (record : ExitRecord) (transform : ParentTransform) (now : Timestamp) :
    Option ExitRecord :=
  record.parent.map fun current => recomputeFrom record current transform now

/-- `save_child_refs_and_recompute_parent`; a parent that is not there yet is saved first. -/
def saveChildRefsAndRecomputeParent (record : ExitRecord) (parentIntent : ExitParent)
    (refs : List ChildExitOrderRef) (transform : ParentTransform) (now : Timestamp) : ExitRecord :=
  let record :=
    match record.parent with
    | none => record.store parentIntent
    | some _ => record
  recomputeFrom { record with children := refs.foldl saveChild record.children }
    (record.parent.getD parentIntent) transform now

def saveChildRefAndRecomputeParent (record : ExitRecord) (parentIntent : ExitParent)
    (ref : ChildExitOrderRef) (now : Timestamp) : ExitRecord :=
  saveChildRefsAndRecomputeParent record parentIntent [ref] .keep now

/-- `create_exit_execution_intent_from_order_intent` and `…_from_order_state`: the parent of an
order with a quantity. -/
def createExitExecutionIntent (parentIntentId : String) (quantity : ℚ)
    (entries : List (String × String)) : ExitParent where
  parentIntentId := parentIntentId
  targetExitQuantity := max quantity 0
  remainingDispatchableQuantity := max quantity 0
  remainingUnresolvedQuantity := max quantity 0
  metadata := { entries := entries }

/-! ### The writer at work -/

inductive CopyEdit
  | asRead
  | recordResumeIssue (kind error : String)
  | addDispatchTemplate (template : DispatchTemplate)
  deriving DecidableEq, Repr

def CopyEdit.apply (parent : ExitParent) (now : Timestamp) : CopyEdit → ExitParent
  | asRead => parent
  | recordResumeIssue kind error => Exits.recordResumeIssue parent kind error now
  | addDispatchTemplate template => Exits.addDispatchTemplate parent template

inductive WriterCall
  /-- A new parent is saved. -/
  | create (quantity : ℚ) (entries : List (String × String))
  /-- A copy is saved; `index` tells which of all that was ever stored. -/
  | save (index : ℕ) (edit : CopyEdit)
  | saveChildRef (quantity : ℚ) (ref : ChildExitOrderRef)
  | saveChildRefs (quantity : ℚ) (refs : List ChildExitOrderRef) (transform : ParentTransform)
  | recompute (transform : ParentTransform)

/-- A call for one parent at a time. A new parent is only made where none is stored. -/
def writeRecord (parentIntentId : String) (now : Timestamp) (record : ExitRecord) :
    WriterCall → Option ExitRecord
  | .create quantity entries =>
    if record.parent = none then
      some (saveExitExecutionIntent record
        (createExitExecutionIntent parentIntentId quantity entries))
    else none
  | .save index edit =>
    record.readable[index]?.map fun copy => saveExitExecutionIntent record (edit.apply copy now)
  | .saveChildRef quantity ref =>
    some (saveChildRefAndRecomputeParent record
      (createExitExecutionIntent parentIntentId quantity []) ref now)
  | .saveChildRefs quantity refs transform =>
    some (saveChildRefsAndRecomputeParent record
      (createExitExecutionIntent parentIntentId quantity []) refs transform now)
  | .recompute transform => recomputeParent record transform now

structure WriterLabel where
  parentIntentId : String
  now : Timestamp
  call : WriterCall

def writerStep (repo : ExitRepository) (label : WriterLabel) : Option ExitRepository :=
  (writeRecord label.parentIntentId label.now (repo label.parentIntentId) label.call).map
    (Function.update repo label.parentIntentId)

def emptyRepository : ExitRepository := fun _ => {}

/-! ### What the merge keeps -/

section Merge

variable {current incoming merged : ExitParent}

theorem merge_of_stale (h : incoming.aggregateVersion ≤ current.aggregateVersion) :
    mergeStickyParentFields (some current) incoming =
      { keepReviewAndIssue current incoming (keepCancelAndEnd current incoming) with
        aggregateVersion := current.aggregateVersion + 1 } :=
  if_pos h

theorem merge_of_fresh (h : ¬ incoming.aggregateVersion ≤ current.aggregateVersion) :
    mergeStickyParentFields (some current) incoming = keepCancelAndEnd current incoming :=
  if_neg h

theorem not_bothOpen (h : current.aggregateStatus.isTerminal = true) :
    ¬ bothOpen current incoming := by
  intro hopen
  rw [hopen.1] at h
  cases h

theorem keepReviewStatus_of_terminal (h : current.aggregateStatus.isTerminal = true) :
    keepReviewStatus current incoming merged = merged := by
  unfold keepReviewStatus
  refine if_neg fun hreview => ?_
  rw [hreview.1] at h
  cases h

theorem keepOperatorReview_of_terminal (h : current.aggregateStatus.isTerminal = true) :
    keepOperatorReview current incoming merged =
      if current.operatorReviewRequired = true ∧ incoming.operatorReviewRequired = false then
        { merged with
          operatorReviewRequired := true
          operatorReviewReason := current.operatorReviewReason }
      else merged := by
  unfold keepOperatorReview
  simp only [not_bothOpen h, if_false]

theorem keepResumeIssue_of_terminal (h : current.aggregateStatus.isTerminal = true) :
    keepResumeIssue current incoming merged =
      if losesIssue current incoming then
        { merged with
          metadata := { merged.metadata with resumeIssue := current.metadata.resumeIssue }
          operatorReviewRequired := true
          operatorReviewReason :=
            if (strOr current.operatorReviewReason none).isSome ∧
                strOr incoming.operatorReviewReason none = none then
              current.operatorReviewReason
            else merged.operatorReviewReason }
      else merged := by
  unfold keepResumeIssue
  simp only [not_bothOpen h, if_false]

theorem keepReviewAndIssue_status (h : current.aggregateStatus.isTerminal = true) :
    (keepReviewAndIssue current incoming merged).aggregateStatus = merged.aggregateStatus := by
  unfold keepReviewAndIssue
  rw [keepResumeIssue_of_terminal h, keepOperatorReview_of_terminal h,
    keepReviewStatus_of_terminal h]
  split_ifs <;> rfl

theorem keepCancelAndEnd_status (h : current.aggregateStatus.isTerminal = true) :
    (keepCancelAndEnd current incoming).aggregateStatus = current.aggregateStatus := by
  unfold keepCancelAndEnd keepTerminalSnapshot
  split
  · rfl
  · next hnot =>
    have hsame : incoming.aggregateStatus = current.aggregateStatus := by
      by_contra hne
      exact hnot ⟨h, .inr hne⟩
    have hterminal : incoming.aggregateStatus.isTerminal = true := by rw [hsame, h]
    unfold keepCancelRequest
    simp only [hterminal, if_true]
    split <;> exact hsame

theorem merge_status_of_terminal (h : current.aggregateStatus.isTerminal = true) :
    (mergeStickyParentFields (some current) incoming).aggregateStatus = current.aggregateStatus := by
  by_cases hstale : incoming.aggregateVersion ≤ current.aggregateVersion
  · rw [merge_of_stale hstale]
    exact (keepReviewAndIssue_status h).trans (keepCancelAndEnd_status h)
  · rw [merge_of_fresh hstale]
    exact keepCancelAndEnd_status h

theorem keepReviewAndIssue_cancelRequested :
    (keepReviewAndIssue current incoming merged).cancelRequested = merged.cancelRequested := by
  unfold keepReviewAndIssue keepResumeIssue keepOperatorReview keepReviewStatus
  simp only
  split_ifs <;> rfl

theorem keepCancelRequest_cancelRequested (h : current.cancelRequested = true) :
    (keepCancelRequest current incoming incoming).cancelRequested = true := by
  unfold keepCancelRequest
  split
  · rfl
  · next hnot =>
    cases hincoming : incoming.cancelRequested with
    | true => rfl
    | false => exact absurd ⟨h, hincoming⟩ hnot

theorem keepCancelAndEnd_cancelRequested (h : current.cancelRequested = true) :
    (keepCancelAndEnd current incoming).cancelRequested = true := by
  unfold keepCancelAndEnd keepTerminalSnapshot
  split <;> exact keepCancelRequest_cancelRequested h

theorem merge_cancelRequested (h : current.cancelRequested = true) :
    (mergeStickyParentFields (some current) incoming).cancelRequested = true := by
  by_cases hstale : incoming.aggregateVersion ≤ current.aggregateVersion
  · rw [merge_of_stale hstale]
    exact keepReviewAndIssue_cancelRequested.trans (keepCancelAndEnd_cancelRequested h)
  · rw [merge_of_fresh hstale]
    exact keepCancelAndEnd_cancelRequested h

theorem keepCancelAndEnd_aggregateVersion :
    (keepCancelAndEnd current incoming).aggregateVersion = incoming.aggregateVersion := by
  unfold keepCancelAndEnd keepTerminalSnapshot keepCancelRequest
  split_ifs <;> rfl

theorem lt_merge_aggregateVersion :
    current.aggregateVersion <
      (mergeStickyParentFields (some current) incoming).aggregateVersion := by
  by_cases hstale : incoming.aggregateVersion ≤ current.aggregateVersion
  · rw [merge_of_stale hstale]
    exact Nat.lt_succ_self _
  · rw [merge_of_fresh hstale, keepCancelAndEnd_aggregateVersion]
    exact not_le.mp hstale

theorem keepReviewAndIssue_operatorReviewRequired (h : current.operatorReviewRequired = true)
    (hmerged : incoming.operatorReviewRequired = true → merged.operatorReviewRequired = true) :
    (keepReviewAndIssue current incoming merged).operatorReviewRequired = true := by
  have hstatus : (keepReviewStatus current incoming merged).operatorReviewRequired =
      merged.operatorReviewRequired := by
    unfold keepReviewStatus asReviewRequired
    split <;> rfl
  have hreview : (keepOperatorReview current incoming
      (keepReviewStatus current incoming merged)).operatorReviewRequired = true := by
    unfold keepOperatorReview asReviewRequired
    split
    · simp only
      split <;> rfl
    · next hnot =>
      rw [hstatus]
      refine hmerged ?_
      cases hincoming : incoming.operatorReviewRequired with
      | true => rfl
      | false => exact absurd ⟨h, hincoming⟩ hnot
  unfold keepReviewAndIssue keepResumeIssue asReviewRequired
  split
  · simp only
    split <;> rfl
  · exact hreview

theorem merge_operatorReviewRequired (h : current.operatorReviewRequired = true)
    (hstale : incoming.aggregateVersion ≤ current.aggregateVersion) :
    (mergeStickyParentFields (some current) incoming).operatorReviewRequired = true := by
  rw [merge_of_stale hstale]
  refine keepReviewAndIssue_operatorReviewRequired h fun hincoming => ?_
  unfold keepCancelAndEnd keepTerminalSnapshot keepCancelRequest
  split
  · exact h
  · split <;> exact hincoming

theorem keepCancelAndEnd_of_open (h : current.aggregateStatus.isTerminal = false) :
    keepCancelAndEnd current incoming = keepCancelRequest current incoming incoming := by
  unfold keepCancelAndEnd keepTerminalSnapshot
  refine if_neg fun hend => ?_
  rw [h] at hend
  cases hend.1

theorem keepCancelRequest_metadata :
    (keepCancelRequest current incoming merged).metadata = merged.metadata := by
  unfold keepCancelRequest
  split <;> rfl

theorem keepReviewAndIssue_metadata :
    (keepReviewAndIssue current incoming merged).metadata =
      if losesIssue current incoming then
        { merged.metadata with resumeIssue := current.metadata.resumeIssue }
      else merged.metadata := by
  have hreview : (keepOperatorReview current incoming
      (keepReviewStatus current incoming merged)).metadata = merged.metadata := by
    unfold keepOperatorReview keepReviewStatus asReviewRequired
    simp only
    split_ifs <;> rfl
  unfold keepReviewAndIssue keepResumeIssue asReviewRequired
  split
  · simp only
    split <;> rw [hreview]
  · exact hreview

/-- **A stale copy does not take back a resume issue**: the issue stays, or the copy has one that
names it as the one before. -/
theorem merge_resumeIssue {issue : StoredResumeIssue}
    (hopen : current.aggregateStatus.isTerminal = false)
    (hissue : current.metadata.resumeIssue = some issue)
    (hstale : incoming.aggregateVersion ≤ current.aggregateVersion) :
    ∃ other, (mergeStickyParentFields (some current) incoming).metadata.resumeIssue = some other ∧
      (other = issue ∨ replacesIssue issue other) := by
  rw [merge_of_stale hstale]
  simp only [keepReviewAndIssue_metadata, keepCancelAndEnd_of_open hopen,
    keepCancelRequest_metadata]
  split
  · exact ⟨issue, hissue, .inl rfl⟩
  · next hkept =>
    unfold losesIssue at hkept
    rw [hissue] at hkept
    simp only [not_and, not_forall, not_not] at hkept
    by_cases hsame : incoming.metadata.resumeIssue = some issue
    · exact ⟨issue, hsame, .inl rfl⟩
    · obtain ⟨other, hother, hreplaces⟩ := hkept hsame
      exact ⟨other, hother, .inr hreplaces⟩

/-! ### Stale saves onto a finished parent -/

/-- The quantities, the review, the reconciliation state and the metadata of two parents agree. -/
structure SameSnapshot (before after : ExitParent) : Prop where
  filled : after.aggregatedFilledQuantity = before.aggregatedFilledQuantity
  canceled : after.aggregatedCanceledQuantity = before.aggregatedCanceledQuantity
  rejected : after.aggregatedRejectedQuantity = before.aggregatedRejectedQuantity
  working : after.openChildWorkingQuantity = before.openChildWorkingQuantity
  unknown : after.openChildUnknownQuantity = before.openChildUnknownQuantity
  dispatchable : after.remainingDispatchableQuantity = before.remainingDispatchableQuantity
  unresolved : after.remainingUnresolvedQuantity = before.remainingUnresolvedQuantity
  status : after.aggregateStatus = before.aggregateStatus
  reconciliation : after.reconciliationState = before.reconciliationState
  riskReducing : after.riskReducingInvariant = before.riskReducingInvariant
  review : after.operatorReviewRequired = before.operatorReviewRequired
  reviewReason : after.operatorReviewReason = before.operatorReviewReason
  metadata : after.metadata = before.metadata

/-- The copy lacks the issue of the stored parent, which requires no review. -/
def reopensReview (current incoming : ExitParent) : Prop :=
  losesIssue current incoming ∧ current.operatorReviewRequired = false

instance (current incoming : ExitParent) : Decidable (reopensReview current incoming) :=
  inferInstanceAs (Decidable (_ ∧ _))

theorem sameSnapshot_keepCancelAndEnd (hend : current.aggregateStatus.isTerminal = true)
    (hstale : incoming.aggregateVersion ≤ current.aggregateVersion) :
    SameSnapshot current (keepCancelAndEnd current incoming) := by
  unfold keepCancelAndEnd keepTerminalSnapshot
  rw [if_pos ⟨hend, .inl hstale⟩]
  exact ⟨rfl, rfl, rfl, rfl, rfl, rfl, rfl, rfl, rfl, rfl, rfl, rfl, rfl⟩

theorem SameSnapshot.keepOperatorReview (hend : current.aggregateStatus.isTerminal = true)
    (h : SameSnapshot current merged) :
    SameSnapshot current (keepOperatorReview current incoming merged) := by
  rw [keepOperatorReview_of_terminal hend]
  split
  · next hreview =>
    exact ⟨h.filled, h.canceled, h.rejected, h.working, h.unknown, h.dispatchable, h.unresolved,
      h.status, h.reconciliation, h.riskReducing, hreview.1.symm, rfl, h.metadata⟩
  · exact h

theorem sameSnapshot_keepResumeIssue_iff (hend : current.aggregateStatus.isTerminal = true)
    (h : SameSnapshot current merged) :
    SameSnapshot current (keepResumeIssue current incoming merged) ↔
      ¬ reopensReview current incoming := by
  rw [keepResumeIssue_of_terminal hend]
  unfold reopensReview
  split
  · next hloses =>
    rw [and_iff_right hloses, Bool.not_eq_false]
    refine ⟨fun hafter => hafter.review.symm, fun hreview => ?_⟩
    refine ⟨h.filled, h.canceled, h.rejected, h.working, h.unknown, h.dispatchable, h.unresolved,
      h.status, h.reconciliation, h.riskReducing, hreview.symm, ?_, ?_⟩
    · show (if _ then current.operatorReviewReason else merged.operatorReviewReason) = _
      rw [h.reviewReason, ite_self]
    · show { merged.metadata with resumeIssue := current.metadata.resumeIssue } = current.metadata
      rw [h.metadata]
  · next hkept => exact iff_of_true h fun hreopens => hkept hreopens.1

/-- **A stale save leaves a finished parent as it is**, exactly if it does not reopen a review. -/
theorem sameSnapshot_merge_iff (hend : current.aggregateStatus.isTerminal = true)
    (hstale : incoming.aggregateVersion ≤ current.aggregateVersion) :
    SameSnapshot current (mergeStickyParentFields (some current) incoming) ↔
      ¬ reopensReview current incoming := by
  have hsame : SameSnapshot current
      (keepOperatorReview current incoming (keepCancelAndEnd current incoming)) :=
    (sameSnapshot_keepCancelAndEnd hend hstale).keepOperatorReview hend
  rw [← sameSnapshot_keepResumeIssue_iff hend hsame, merge_of_stale hstale]
  unfold keepReviewAndIssue
  rw [keepReviewStatus_of_terminal hend]
  -- the version is not part of the snapshot
  constructor <;> rintro ⟨h₁, h₂, h₃, h₄, h₅, h₆, h₇, h₈, h₉, h₁₀, h₁₁, h₁₂, h₁₃⟩ <;>
    exact ⟨h₁, h₂, h₃, h₄, h₅, h₆, h₇, h₈, h₉, h₁₀, h₁₁, h₁₂, h₁₃⟩

def Reviewed (parent : ExitParent) : Prop :=
  parent.aggregateStatus = .reviewRequired → parent.operatorReviewRequired = true

theorem reviewed_keepCancelAndEnd (h : Reviewed incoming) :
    Reviewed (keepCancelAndEnd current incoming) := by
  intro hstatus
  unfold keepCancelAndEnd keepTerminalSnapshot at hstatus ⊢
  split at hstatus
  · next hend =>
    rw [hstatus] at hend
    cases hend.1
  · next hopen =>
    rw [if_neg hopen]
    unfold keepCancelRequest at hstatus ⊢
    split at hstatus
    · next hcancel =>
      rw [if_pos hcancel]
      simp only at hstatus
      split at hstatus
      · exact h hstatus
      · cases hstatus
    · next hcancel =>
      rw [if_neg hcancel]
      exact h hstatus

theorem reviewed_merge (hcurrent : Reviewed current) (hincoming : Reviewed incoming) :
    Reviewed (mergeStickyParentFields (some current) incoming) := by
  by_cases hstale : incoming.aggregateVersion ≤ current.aggregateVersion
  · cases hreview : current.operatorReviewRequired with
    | true => exact fun _ => merge_operatorReviewRequired hreview hstale
    | false =>
      -- without a required review, only the rule for resume issues has something to keep
      have hnot : ¬ current.aggregateStatus = .reviewRequired := by
        intro hstatus
        rw [hcurrent hstatus] at hreview
        cases hreview
      rw [merge_of_stale hstale]
      intro hstatus
      unfold keepReviewAndIssue keepResumeIssue keepOperatorReview keepReviewStatus
        at hstatus ⊢
      simp only [hnot, hreview, false_and, if_false, Bool.false_eq_true] at hstatus ⊢
      split at hstatus
      · next hloses =>
        rw [if_pos hloses]
        split <;> rfl
      · next hkept =>
        rw [if_neg hkept]
        exact reviewed_keepCancelAndEnd hincoming hstatus
  · rw [merge_of_fresh hstale]
    exact reviewed_keepCancelAndEnd hincoming

end Merge

/-! ### Runs of the writer -/

section Run

variable {record after : ExitRecord} {parent : ExitParent} {now : Timestamp}
  {parentIntentId : String} {call : WriterCall}

/-- What was stored before is not newer than what is stored now, and what is in review has its
review required. -/
structure RecordInv (record : ExitRecord) : Prop where
  older : ∀ copy ∈ record.readable,
    ∃ parent, record.parent = some parent ∧ copy.aggregateVersion ≤ parent.aggregateVersion
  reviewed : ∀ copy ∈ record.readable, Reviewed copy
  stored : ∀ parent, record.parent = some parent → parent ∈ record.readable

theorem recordInv_empty : RecordInv {} :=
  ⟨by simp, by simp, by simp⟩

theorem RecordInv.reviewed_of_parent (h : RecordInv record) (hparent : record.parent = some parent) :
    Reviewed parent :=
  h.reviewed parent (h.stored parent hparent)

theorem RecordInv.store (h : RecordInv record)
    (holder : ∀ before, record.parent = some before →
      before.aggregateVersion ≤ parent.aggregateVersion)
    (hreviewed : Reviewed parent) : RecordInv (record.store parent) := by
  refine ⟨fun copy hcopy => ⟨parent, rfl, ?_⟩, fun copy hcopy => ?_, ?_⟩
  · rcases List.mem_append.mp hcopy with hcopy | hcopy
    · obtain ⟨before, hbefore, hle⟩ := h.older copy hcopy
      exact hle.trans (holder before hbefore)
    · rw [List.mem_singleton.mp hcopy]
  · rcases List.mem_append.mp hcopy with hcopy | hcopy
    · exact h.reviewed copy hcopy
    · rw [List.mem_singleton.mp hcopy]
      exact hreviewed
  · rintro _ ⟨⟩
    exact List.mem_append_right _ (List.mem_singleton.mpr rfl)

theorem RecordInv.store_merge (h : RecordInv record) (hparent : record.parent = some parent)
    {incoming : ExitParent} (hincoming : Reviewed incoming) :
    RecordInv (record.store (mergeStickyParentFields (some parent) incoming)) := by
  refine h.store (fun before hbefore => ?_) (reviewed_merge (h.reviewed_of_parent hparent) hincoming)
  rw [hparent, Option.some.injEq] at hbefore
  subst hbefore
  exact lt_merge_aggregateVersion.le

theorem reviewed_edit (edit : CopyEdit) (h : Reviewed parent) : Reviewed (edit.apply parent now) := by
  cases edit <;> exact h

theorem reviewed_recompute (parent : ExitParent) (refs : List ChildExitOrderRef) (now : Timestamp) :
    Reviewed (recomputeExitExecutionIntent parent refs now) := by
  intro hstatus
  by_contra hreview
  have hnone : reviewRequiredOf refs = false := Bool.eq_false_of_not_eq_true hreview
  have hstatus : deriveParentStatus parent refs (filledOf refs) (reviewRequiredOf refs) =
      .reviewRequired := hstatus
  rw [hnone] at hstatus
  unfold deriveParentStatus at hstatus
  simp only [Bool.false_eq_true, if_false] at hstatus
  split_ifs at hstatus

theorem RecordInv.recomputeFrom (h : RecordInv record) (hparent : record.parent = some parent)
    (transform : ParentTransform) : RecordInv (recomputeFrom record parent transform now) :=
  h.store_merge hparent (reviewed_recompute _ _ _)

theorem RecordInv.withChildren (h : RecordInv record) (children : List ChildExitOrderRef) :
    RecordInv { record with children := children } :=
  ⟨h.older, h.reviewed, h.stored⟩

theorem reviewed_create (parentIntentId : String) (quantity : ℚ) (entries : List (String × String)) :
    Reviewed (createExitExecutionIntent parentIntentId quantity entries) := by
  rintro ⟨⟩

theorem saveChildRefs_of_parent (hparent : record.parent = some parent) (parentIntent : ExitParent)
    (refs : List ChildExitOrderRef) (transform : ParentTransform) :
    saveChildRefsAndRecomputeParent record parentIntent refs transform now =
      recomputeFrom { record with children := refs.foldl saveChild record.children } parent
        transform now := by
  unfold saveChildRefsAndRecomputeParent
  simp only [hparent, Option.getD_some]

theorem saveChildRefs_of_none (hparent : record.parent = none) (parentIntent : ExitParent)
    (refs : List ChildExitOrderRef) (transform : ParentTransform) :
    saveChildRefsAndRecomputeParent record parentIntent refs transform now =
      recomputeFrom
        { record.store parentIntent with children := refs.foldl saveChild record.children }
        parentIntent transform now := by
  unfold saveChildRefsAndRecomputeParent
  simp only [hparent]
  rfl

theorem RecordInv.saveChildRefs (h : RecordInv record) {parentIntent : ExitParent}
    (hreviewed : Reviewed parentIntent) (refs : List ChildExitOrderRef)
    (transform : ParentTransform) :
    RecordInv (saveChildRefsAndRecomputeParent record parentIntent refs transform now) := by
  cases hparent : record.parent with
  | none =>
    have hstored : RecordInv (record.store parentIntent) :=
      h.store (fun before hbefore => by rw [hparent] at hbefore; cases hbefore) hreviewed
    rw [saveChildRefs_of_none hparent]
    exact (hstored.withChildren _).recomputeFrom rfl transform
  | some current =>
    rw [saveChildRefs_of_parent hparent]
    have hchildren := h.withChildren (refs.foldl saveChild record.children)
    exact hchildren.recomputeFrom hparent transform

theorem RecordInv.writeRecord (h : RecordInv record)
    (hwrite : writeRecord parentIntentId now record call = some after) : RecordInv after := by
  cases call with
  | create quantity entries =>
    rw [Exits.writeRecord] at hwrite
    split at hwrite
    · next hparent =>
      cases hwrite
      unfold saveExitExecutionIntent
      rw [hparent]
      refine h.store (fun before hbefore => ?_) (reviewed_create _ _ _)
      rw [hparent] at hbefore
      cases hbefore
    · cases hwrite
  | save index edit =>
    obtain ⟨copy, hcopy, rfl⟩ := Option.map_eq_some_iff.mp hwrite
    have hmem : copy ∈ record.readable := List.mem_of_getElem? hcopy
    obtain ⟨current, hparent, -⟩ := h.older copy hmem
    unfold saveExitExecutionIntent
    rw [hparent]
    exact h.store_merge hparent (reviewed_edit edit (h.reviewed copy hmem))
  | saveChildRef quantity ref =>
    cases hwrite
    exact h.saveChildRefs (reviewed_create _ _ _) [ref] .keep
  | saveChildRefs quantity refs transform =>
    cases hwrite
    exact h.saveChildRefs (reviewed_create _ _ _) refs transform
  | recompute transform =>
    obtain ⟨current, hparent, rfl⟩ := Option.map_eq_some_iff.mp hwrite
    exact h.recomputeFrom hparent transform

theorem exists_merge_of_writeRecord
    (hwrite : writeRecord parentIntentId now record call = some after)
    (hparent : record.parent = some parent) :
    ∃ incoming, after.parent = some (mergeStickyParentFields (some parent) incoming) := by
  have hrefs : ∀ parentIntent refs transform,
      (saveChildRefsAndRecomputeParent record parentIntent refs transform now).parent =
        some (mergeStickyParentFields (some parent) (recomputeExitExecutionIntent
          (transform.apply parent now) (refs.foldl saveChild record.children) now)) := by
    intro parentIntent refs transform
    rw [saveChildRefs_of_parent hparent]
    rfl
  cases call with
  | create quantity entries =>
    rw [writeRecord, hparent] at hwrite
    cases hwrite
  | save index edit =>
    obtain ⟨copy, -, rfl⟩ := Option.map_eq_some_iff.mp hwrite
    exact ⟨edit.apply copy now, by rw [saveExitExecutionIntent, hparent]; rfl⟩
  | saveChildRef quantity ref =>
    cases hwrite
    exact ⟨_, hrefs _ _ _⟩
  | saveChildRefs quantity refs transform =>
    cases hwrite
    exact ⟨_, hrefs _ _ _⟩
  | recompute transform =>
    obtain ⟨current, hcurrent, rfl⟩ := Option.map_eq_some_iff.mp hwrite
    rw [hparent, Option.some.injEq] at hcurrent
    subst hcurrent
    exact ⟨_, rfl⟩

theorem writerStep_eq_some {repo repo' : ExitRepository} {label : WriterLabel} :
    writerStep repo label = some repo' ↔
      ∃ record, writeRecord label.parentIntentId label.now (repo label.parentIntentId) label.call =
          some record ∧ repo' = Function.update repo label.parentIntentId record := by
  unfold writerStep
  rw [Option.map_eq_some_iff]
  exact exists_congr fun record => and_congr_right' eq_comm

theorem recordInv_run {labels : List WriterLabel} {repo : ExitRepository}
    (hrun : run writerStep emptyRepository labels = some repo) (id : String) :
    RecordInv (repo id) := by
  have hall : ∀ id, RecordInv (repo id) := by
    refine run_invariant (I := fun repo : ExitRepository => ∀ id, RecordInv (repo id)) ?_
      (fun _ => recordInv_empty) hrun
    intro repo label repo' hinv hstep id
    obtain ⟨record, hwrite, rfl⟩ := writerStep_eq_some.mp hstep
    by_cases hid : id = label.parentIntentId
    · subst hid
      rw [Function.update_self]
      exact (hinv _).writeRecord hwrite
    · rw [Function.update_of_ne hid]
      exact hinv id
  exact hall id

def requiresReview (parent : ExitParent) : Prop :=
  parent.operatorReviewRequired = true ∨ parent.aggregateStatus = .reviewRequired

/-- What every write to a parent keeps; `saved` says that the write was to this parent. -/
structure MonotoneWrite (saved : Prop) (before after : ExitParent) : Prop where
  finished : before.aggregateStatus.isTerminal = true →
    after.aggregateStatus = before.aggregateStatus
  cancel : before.cancelRequested = true → after.cancelRequested = true
  version : saved → before.aggregateVersion < after.aggregateVersion

structure KeptByStaleSave (before after : ExitParent) : Prop where
  issue : ∀ issue, before.metadata.resumeIssue = some issue →
    ∃ other, after.metadata.resumeIssue = some other ∧
      (other = issue ∨ replacesIssue issue other)
  review : requiresReview before → requiresReview after

/-- **Writes to exit parents are monotone**, in every run and whatever copies are saved: a finished
parent stays so, a cancel request stays, the version grows, and a stale copy takes neither an issue
nor a required review from an unfinished parent. A stale save leaves a finished parent as it is
exactly if it does not reopen a review: the copy has the issue of the parent, or one that replaces
it, or the parent has none or has its review required. -/
theorem writer_monotone (labels : List WriterLabel) (repo repo' : ExitRepository)
    (label : WriterLabel) (hrun : run writerStep emptyRepository labels = some repo)
    (hstep : writerStep repo label = some repo') :
    (∀ id before, (repo id).parent = some before →
      ∃ after, (repo' id).parent = some after ∧
        MonotoneWrite (id = label.parentIntentId) before after) ∧
    ∀ index edit copy before after, label.call = .save index edit →
      (repo label.parentIntentId).readable[index]? = some copy →
      (repo label.parentIntentId).parent = some before →
      (repo' label.parentIntentId).parent = some after →
        (before.aggregateStatus.isTerminal = false → KeptByStaleSave before after) ∧
        (before.aggregateStatus.isTerminal = true →
          (SameSnapshot before after ↔ ¬ reopensReview before (edit.apply copy label.now))) := by
  have hinv := recordInv_run hrun label.parentIntentId
  obtain ⟨record, hwrite, rfl⟩ := writerStep_eq_some.mp hstep
  refine ⟨fun id before hbefore => ?_, ?_⟩
  · by_cases hid : id = label.parentIntentId
    · subst hid
      rw [Function.update_self]
      obtain ⟨incoming, hafter⟩ := exists_merge_of_writeRecord hwrite hbefore
      exact ⟨_, hafter, merge_status_of_terminal, merge_cancelRequested,
        fun _ => lt_merge_aggregateVersion⟩
    · rw [Function.update_of_ne hid]
      exact ⟨before, hbefore, fun _ => rfl, fun h => h, fun h => absurd h hid⟩
  · intro index edit copy before after hcall hcopy hbefore hafter
    rw [Function.update_self] at hafter
    rw [hcall] at hwrite
    obtain ⟨copy', hcopy', rfl⟩ := Option.map_eq_some_iff.mp hwrite
    rw [hcopy, Option.some.injEq] at hcopy'
    subst hcopy'
    rw [saveExitExecutionIntent, hbefore] at hafter
    cases hafter
    -- the copy was stored before, so it is stale
    have hstale : (edit.apply copy label.now).aggregateVersion ≤ before.aggregateVersion := by
      obtain ⟨stored, hstored, hle⟩ := hinv.older copy (List.mem_of_getElem? hcopy)
      rw [hbefore, Option.some.injEq] at hstored
      subst hstored
      cases edit <;> exact hle
    refine ⟨fun hopen => ⟨fun issue hissue => merge_resumeIssue hopen hissue hstale,
      fun hreview => .inl ?_⟩, fun hend => sameSnapshot_merge_iff hend hstale⟩
    refine merge_operatorReviewRequired ?_ hstale
    exact hreview.elim (fun h => h) (hinv.reviewed_of_parent hbefore)

/-! ### A finished parent with an issue -/

def repositoryAfter (labels : List WriterLabel) : ExitRepository :=
  (run writerStep emptyRepository labels).getD emptyRepository

def exitAfter (labels : List WriterLabel) : ExitParent :=
  (repositoryAfter labels "exit_parent:x").parent.getD exitOfTen

def childWith (clientOrderId : String) (status : OrderStatus) (planned filled : ℚ) :
    ChildExitOrderRef :=
  childExitOrderRefFromOrderState "exit_parent:x"
    { clientOrderId := clientOrderId, status := status, requestedQty := planned,
      filledQty := filled, remainingQty := planned - filled, reduceOnly := true } none 0

def exitCall (now : Timestamp) (call : WriterCall) : WriterLabel :=
  { parentIntentId := "exit_parent:x", now := now, call := call }

/-- The exit is created, its limit could not be looked up, and then it is filled. -/
def finishedWithIssue : List WriterLabel :=
  [exitCall 0 (.create 10 []),
    exitCall 1 (.save 0 (.recordResumeIssue "resume_limit_lookup_failed" "")),
    exitCall 2 (.saveChildRef 10 (childWith "c1" .filled 10 10))]

def saveWithIssue : WriterLabel := exitCall 3 (.save 1 .asRead)

def saveWithoutIssue : WriterLabel :=
  exitCall 3 (.save 0 (.recordResumeIssue "resume_limit_lookup_failed" ""))

theorem writer_monotone_finished :
    SameSnapshot (exitAfter finishedWithIssue) (exitAfter (finishedWithIssue ++ [saveWithIssue])) := by
  have hrun : run writerStep emptyRepository finishedWithIssue =
      some (repositoryAfter finishedWithIssue) :=
    (Option.getD_of_ne_none (by decide +kernel) _).symm
  have hstep : writerStep (repositoryAfter finishedWithIssue) saveWithIssue =
      some (repositoryAfter (finishedWithIssue ++ [saveWithIssue])) := by
    rw [repositoryAfter, repositoryAfter, run_append hrun]
    exact (Option.getD_of_ne_none (by decide +kernel) _).symm
  refine (((writer_monotone _ _ _ _ hrun hstep).2 1 .asRead _ (exitAfter finishedWithIssue)
    (exitAfter (finishedWithIssue ++ [saveWithIssue])) rfl
    (Option.getD_of_ne_none (by decide +kernel) exitOfTen).symm
    (Option.getD_of_ne_none (by decide +kernel) exitOfTen).symm
    (Option.getD_of_ne_none (by decide +kernel) exitOfTen).symm).2 (by decide +kernel)).mpr ?_
  decide +kernel

theorem stale_save_reopens_review :
    (exitAfter finishedWithIssue).aggregateStatus = .completed ∧
      (exitAfter finishedWithIssue).operatorReviewRequired = false ∧
      (exitAfter (finishedWithIssue ++ [saveWithoutIssue])).aggregateStatus = .completed ∧
      (exitAfter (finishedWithIssue ++ [saveWithoutIssue])).operatorReviewRequired = true := by
  decide +kernel

end Run

end Aats.Exits
