import Aats.Exits.Writer

/-!
# The findings of exit parents

`augment_reconciliation_report_with_exit_execution` of `exit_intent_aggregator.py` adds a finding to a
reconciliation report for every exit parent that cannot simply go on. It goes through the same
conditions as `exit_execution_review_items`, which lists these parents for the operator, except that it
does not skip a finished parent.

## Main definitions
* `ClassifiersAgree` — the findings are those of the parents that are listed for a review.

## Main results
* `exitOverlay_of_open` — **an unfinished parent adds a finding exactly if it is listed, and of the
  same kind**.
* `classifiersAgree_iff` — the two agree if and only if no finished parent carries what would make it
  be listed.
-/

namespace Aats.Exits

open Execution Recovery Runs
open Reconciliation (FindingLayer FindingSeverity)

/-! ### Findings -/

/-- `ReconciliationFinding`, with what an exit parent fills in. -/
structure ExitFinding where
  reconciliationId : String
  scopeKind : String := "account"
  scopeRef : Option String := none
  productType : Option ProductType := none
  marginMode : Option MarginMode := none
  primarySymbol : Option String := none
  layer : FindingLayer
  findingType : String
  severityClass : FindingSeverity
  structural : Bool := false
  financial : Bool := false
  observational : Bool := false
  reviewRequired : Bool := false
  haltRequired : Bool := false
  blocksResume : Bool := false
  reasonCode : String
  detailsJson : StateDetail := []
  deriving DecidableEq, Repr

structure FindingSummary where
  totalCount : ℕ := 0
  structuralCount : ℕ := 0
  financialCount : ℕ := 0
  observationalCount : ℕ := 0
  reviewRequiredCount : ℕ := 0
  haltRequiredCount : ℕ := 0
  blocksResumeCount : ℕ := 0
  severityCounts : FindingSeverity → ℕ := fun _ => 0

def findingSummary (findings : List ExitFinding) : FindingSummary where
  totalCount := findings.length
  structuralCount := findings.countP (·.structural)
  financialCount := findings.countP (·.financial)
  observationalCount := findings.countP (·.observational)
  reviewRequiredCount := findings.countP (·.reviewRequired)
  haltRequiredCount := findings.countP (·.haltRequired)
  blocksResumeCount := findings.countP (·.blocksResume)
  severityCounts severity := findings.countP (·.severityClass = severity)

/-- `ReconciliationReport`, with what the overlay reads and writes. -/
structure AugmentedReport where
  reconciliationId : String
  productType : Option ProductType := none
  marginMode : Option MarginMode := none
  findings : List ExitFinding := []
  findingSummary : FindingSummary := {}
  mismatchCategories : List String := []
  mismatchReasons : List String := []
  unknownStateDetails : List StateDetail := []
  safetyImpacts : List String := []
  severity : Severity := .clean
  reviewRequired : Bool := false
  haltRequired : Bool := false
  structuralReviewRequired : Bool := false
  financialReviewRequired : Bool := false
  recommendedOperatorAction : Option String := none
  remediationAction : Option String := none
  observationalOnly : Bool := false

/-! ### What one parent adds -/

structure ExitOverlay where
  detail : StateDetail
  kind : String
  severityClass : FindingSeverity
  reviewRequired : Bool
  reasonCode : String
  safetyImpact : String
  operatorAction : String
  deriving DecidableEq, Repr

/-- `operator_review_required_before_resuming_exit_execution`. -/
def reviewBeforeResuming : String := "operator_review_required_before_resuming_exit_execution"

/-- `review_exit_execution_parent_and_refresh_exchange_state`. -/
def reviewAndRefresh : String := "review_exit_execution_parent_and_refresh_exchange_state"

/-- What one parent adds in `augment_reconciliation_report_with_exit_execution`. -/
def exitOverlay (parent : ExitExecutionIntent) : Option ExitOverlay :=
  let blockReason := Recovery.resumeBlockReason parent
  let detail := fun kind reason review =>
    parentReviewDetail parent kind reason review (optionalText parent.operatorReviewReason)
  if parent.operatorReviewRequired = true ∨ parent.aggregateStatus = .reviewRequired then
    some {
      detail := detail "exit_execution_parent_review_required" (blockReason.getD "review_required")
        true
      kind := "exit_execution_parent_review_required"
      severityClass := .review
      reviewRequired := true
      reasonCode :=
        (strOr parent.operatorReviewReason none).getD "exit_execution_parent_review_required"
      safetyImpact := reviewBeforeResuming
      operatorAction := reviewAndRefresh }
  else if blockReason = some "unknown_child_truth_pending" ∨
      parent.reconciliationState = .truthPending then
    some {
      detail := detail "exit_execution_truth_pending" (blockReason.getD "unknown_child_truth_pending")
        false
      kind := "exit_execution_truth_pending"
      severityClass := .soft
      reviewRequired := false
      reasonCode := blockReason.getD "unknown_child_truth_pending"
      safetyImpact := "resume_blocked_until_exit_execution_truth_converges"
      operatorAction := reviewAndRefresh }
  else if resumeIssueKind parent = some "missing_child_refs_for_parent" then
    some {
      detail := parentResumeIssueDetail parent "exit_execution_missing_child_refs_for_parent"
        "missing_child_refs_for_parent"
      kind := "exit_execution_missing_child_refs_for_parent"
      severityClass := .review
      reviewRequired := true
      reasonCode := "exit_execution_missing_child_refs_for_parent"
      safetyImpact := reviewBeforeResuming
      operatorAction := reviewAndRefresh }
  else if blockReason = some "dispatch_template_missing" then
    some {
      detail := detail "exit_execution_resume_template_missing" "dispatch_template_missing" true
      kind := "exit_execution_resume_template_missing"
      severityClass := .review
      reviewRequired := true
      reasonCode := "exit_execution_resume_template_missing"
      safetyImpact := reviewBeforeResuming
      operatorAction := "review_exit_execution_parent_and_prepare_manual_exit_completion" }
  else if resumeIssueKind parent = some "resume_limit_lookup_failed" ∧
      parentHasPendingResume parent = true then
    some {
      detail := parentResumeIssueDetail parent "exit_execution_resume_limit_lookup_failed"
        "resume_limit_lookup_failed"
      kind := "exit_execution_resume_limit_lookup_failed"
      severityClass := .review
      reviewRequired := true
      reasonCode := "exit_execution_resume_limit_lookup_failed"
      safetyImpact := reviewBeforeResuming
      operatorAction := "review_exit_execution_parent_and_retry_limit_lookup" }
  else none

def overlayFinding (report : AugmentedReport) (parent : ExitExecutionIntent) (overlay : ExitOverlay) :
    ExitFinding where
  reconciliationId := report.reconciliationId
  scopeKind := "order"
  scopeRef := some parent.parentIntentId
  productType := report.productType
  marginMode := report.marginMode
  primarySymbol := some parent.symbol
  layer := .structural
  findingType := overlay.kind
  severityClass := overlay.severityClass
  structural := true
  reviewRequired := overlay.reviewRequired
  blocksResume := true
  reasonCode := overlay.reasonCode
  detailsJson := overlay.detail

/-! ### The report -/

/-- The action that is recommended after an overlay: another one is not written over. -/
def recommendAction (action : Option String) (overlay : ExitOverlay) : Option String :=
  if action = none ∨ action = some "" ∨
      action = some "review_unknown_write_and_refresh_exchange_state" then
    some overlay.operatorAction
  else action

def augmentReconciliationReportWithExitExecution (report : AugmentedReport)
    (parents : List ExitExecutionIntent) : AugmentedReport :=
  let overlays := parents.filterMap exitOverlay
  let overlayFindings := parents.filterMap fun parent =>
    (exitOverlay parent).map (overlayFinding report parent)
  let recommended := overlays.foldl recommendAction report.recommendedOperatorAction
  if overlayFindings = [] ∧ overlays = [] then report
  else
    let findings := report.findings ++ overlayFindings
    let reviewRequired := report.reviewRequired || overlayFindings.any (·.reviewRequired)
    let haltRequired := report.haltRequired || overlayFindings.any (·.haltRequired)
    { report with
      findings := findings
      findingSummary := findingSummary findings
      mismatchCategories := orderedUnique (report.mismatchCategories ++ overlays.map (·.kind))
      mismatchReasons := orderedUnique (report.mismatchReasons ++ overlays.map (·.reasonCode))
      unknownStateDetails := report.unknownStateDetails ++ overlays.map (·.detail)
      safetyImpacts := orderedUnique (report.safetyImpacts ++ overlays.map (·.safetyImpact))
      severity :=
        if haltRequired = true then .hardMismatch
        else if reviewRequired = true then .reviewRequired
        else if report.severity = .clean then .softMismatch
        else report.severity
      reviewRequired := reviewRequired
      haltRequired := haltRequired
      structuralReviewRequired := report.structuralReviewRequired ||
        overlayFindings.any fun finding =>
          finding.structural && (finding.reviewRequired || finding.haltRequired)
      financialReviewRequired := report.financialReviewRequired ||
        overlayFindings.any fun finding =>
          finding.financial && (finding.reviewRequired || finding.haltRequired)
      recommendedOperatorAction := recommended
      remediationAction := recommended
      observationalOnly := false }

/-! ### Agreement -/

def addedFindings (report : AugmentedReport) (parents : List ExitExecutionIntent) :
    List ExitFinding :=
  (augmentReconciliationReportWithExitExecution report parents).findings.drop report.findings.length

def itemPairs (items : List StateDetail) : List (Option DetailValue × Option DetailValue) :=
  items.map fun item => (item.lookup "parent_intent_id", item.lookup "kind")

def findingPairs (findings : List ExitFinding) : List (Option DetailValue × Option DetailValue) :=
  findings.map fun finding => (finding.scopeRef.map .text, some (.text finding.findingType))

/-- The two classifiers agree: on the parents and their kinds, and a parent that needs no review
does not block the resume. -/
structure ClassifiersAgree (report : AugmentedReport) (parents : List ExitExecutionIntent) :
    Prop where
  pairs : itemPairs (exitExecutionReviewItems parents) =
    findingPairs (addedFindings report parents)
  unblocked : ∀ parent ∈ parents, exitExecutionReviewItems [parent] = [] →
    ∀ finding ∈ addedFindings report [parent], finding.blocksResume = false

structure NothingLeft (parent : ExitExecutionIntent) : Prop where
  review : parent.operatorReviewRequired = false
  truth : parent.reconciliationState ≠ .truthPending
  children : resumeIssueKind parent ≠ some "missing_child_refs_for_parent"

section Parent

variable {parent : ExitExecutionIntent} {overlay : ExitOverlay}

/-- **An unfinished parent adds a finding exactly if it is listed**, with the same detail. -/
theorem exitOverlay_of_open (h : parent.aggregateStatus.isTerminal = false) :
    (exitOverlay parent).map ExitOverlay.detail = exitExecutionReviewItem parent := by
  unfold exitOverlay exitExecutionReviewItem
  simp only [h, Bool.false_eq_true, if_false]
  split_ifs <;> rfl

theorem resumeBlockReason_of_terminal (h : parent.aggregateStatus.isTerminal = true) :
    Recovery.resumeBlockReason parent = some "parent_terminal" := by
  unfold Recovery.resumeBlockReason
  rw [if_pos h]

theorem exitExecutionReviewItem_of_terminal (h : parent.aggregateStatus.isTerminal = true) :
    exitExecutionReviewItem parent = none := by
  unfold exitExecutionReviewItem
  rw [if_pos h]

theorem exitOverlay_eq_none_of_terminal (h : parent.aggregateStatus.isTerminal = true) :
    exitOverlay parent = none ↔ NothingLeft parent := by
  have hstatus : parent.aggregateStatus ≠ .reviewRequired := by
    intro heq
    rw [heq] at h
    cases h
  have hpending : parentHasPendingResume parent = false := by
    simp [parentHasPendingResume, h]
  have hreviewIff : (parent.operatorReviewRequired = true ∨
      parent.aggregateStatus = .reviewRequired) ↔ parent.operatorReviewRequired = true :=
    or_iff_left hstatus
  simp only [exitOverlay, resumeBlockReason_of_terminal h, hreviewIff, hpending, Option.some.injEq,
    String.reduceEq, false_or, Bool.false_eq_true, and_false, if_false]
  constructor
  · intro hnone
    split_ifs at hnone with hreview htruth hchildren
    exact ⟨Bool.eq_false_iff.mpr hreview, htruth, hchildren⟩
  · rintro ⟨hreview, htruth, hchildren⟩
    rw [if_neg (Bool.eq_false_iff.mp hreview), if_neg htruth, if_neg hchildren]

theorem exitOverlay_detail (h : exitOverlay parent = some overlay) :
    overlay.detail.lookup "parent_intent_id" = some (.text parent.parentIntentId) ∧
      overlay.detail.lookup "kind" = some (.text overlay.kind) := by
  simp only [exitOverlay] at h
  split_ifs at h <;>
  · cases h
    exact ⟨rfl, rfl⟩

end Parent

theorem addedFindings_eq (report : AugmentedReport) (parents : List ExitExecutionIntent) :
    addedFindings report parents = parents.filterMap fun parent =>
      (exitOverlay parent).map (overlayFinding report parent) := by
  unfold addedFindings augmentReconciliationReportWithExitExecution
  dsimp only
  by_cases h : (parents.filterMap fun parent =>
      (exitOverlay parent).map (overlayFinding report parent)) = [] ∧
        parents.filterMap exitOverlay = []
  · rw [if_pos h, h.1, List.drop_length]
  · rw [if_neg h]
    exact List.drop_left

theorem filterMap_sublist {α β : Type} {f g : α → Option β} {xs : List α}
    (h : ∀ x ∈ xs, f x = none ∨ f x = g x) : (xs.filterMap f).Sublist (xs.filterMap g) := by
  induction xs with
  | nil => exact .slnil
  | cons x xs ih =>
    have ih := ih fun y hy => h y (List.mem_cons_of_mem _ hy)
    rcases h x List.mem_cons_self with hx | hx
    · rw [List.filterMap_cons_none hx]
      refine ih.trans ?_
      cases hg : g x with
      | none => rw [List.filterMap_cons_none hg]
      | some y =>
        rw [List.filterMap_cons_some hg]
        exact List.sublist_cons_self y _
    · cases hg : g x with
      | none => rwa [List.filterMap_cons_none (hx.trans hg), List.filterMap_cons_none hg]
      | some y =>
        rw [List.filterMap_cons_some (hx.trans hg), List.filterMap_cons_some hg]
        exact ih.cons_cons y

theorem filterMap_eq_filterMap_iff {α β : Type} {f g : α → Option β} {xs : List α}
    (h : ∀ x ∈ xs, f x = none ∨ f x = g x) :
    xs.filterMap f = xs.filterMap g ↔ ∀ x ∈ xs, f x = g x := by
  refine ⟨fun heq => ?_, fun hall => List.filterMap_congr hall⟩
  induction xs with
  | nil => exact fun x hx => absurd hx List.not_mem_nil
  | cons x xs ih =>
    have hrest : ∀ y ∈ xs, f y = none ∨ f y = g y := fun y hy => h y (List.mem_cons_of_mem _ hy)
    rw [List.forall_mem_cons]
    cases hg : g x with
    | none =>
      have hf : f x = none := (h x List.mem_cons_self).elim id fun hx => hx.trans hg
      rw [List.filterMap_cons_none hf, List.filterMap_cons_none hg] at heq
      exact ⟨hf, ih hrest heq⟩
    | some y =>
      rcases h x List.mem_cons_self with hf | hf
      · -- one item is missing, so that the other list is longer
        rw [List.filterMap_cons_none hf, List.filterMap_cons_some hg] at heq
        have hle := (filterMap_sublist hrest).length_le
        rw [heq, List.length_cons] at hle
        omega
      · rw [hg] at hf
        rw [List.filterMap_cons_some hf, List.filterMap_cons_some hg] at heq
        exact ⟨hf, ih hrest (List.cons.inj heq).2⟩

def overlayPair (parent : ExitExecutionIntent) : Option (Option DetailValue × Option DetailValue) :=
  (exitOverlay parent).map fun overlay =>
    (some (.text parent.parentIntentId), some (.text overlay.kind))

def itemPair (parent : ExitExecutionIntent) : Option (Option DetailValue × Option DetailValue) :=
  (exitExecutionReviewItem parent).map fun item =>
    (item.lookup "parent_intent_id", item.lookup "kind")

theorem itemPair_of_open {parent : ExitExecutionIntent}
    (h : parent.aggregateStatus.isTerminal = false) : itemPair parent = overlayPair parent := by
  unfold itemPair overlayPair
  rw [← exitOverlay_of_open h]
  cases hoverlay : exitOverlay parent with
  | none => rfl
  | some overlay =>
    obtain ⟨hid, hkind⟩ := exitOverlay_detail hoverlay
    simp only [Option.map_some, hid, hkind]

theorem itemPair_of_terminal {parent : ExitExecutionIntent}
    (h : parent.aggregateStatus.isTerminal = true) : itemPair parent = none := by
  unfold itemPair
  rw [exitExecutionReviewItem_of_terminal h]
  rfl

/-- **When the two classifiers agree**: exactly if nothing is left on any finished parent. -/
theorem classifiersAgree_iff (report : AugmentedReport) (parents : List ExitExecutionIntent) :
    ClassifiersAgree report parents ↔ ∀ parent ∈ parents,
      parent.aggregateStatus.isTerminal = true → NothingLeft parent := by
  have hitems : itemPairs (exitExecutionReviewItems parents) = parents.filterMap itemPair := by
    unfold itemPairs exitExecutionReviewItems
    rw [List.map_filterMap]
    rfl
  have hfindings : findingPairs (addedFindings report parents) =
      parents.filterMap overlayPair := by
    unfold findingPairs
    rw [addedFindings_eq, List.map_filterMap]
    refine List.filterMap_congr fun parent _ => ?_
    rw [Option.map_map]
    rfl
  have hnone : ∀ parent ∈ parents, itemPair parent = none ∨ itemPair parent = overlayPair parent := by
    intro parent _
    cases h : parent.aggregateStatus.isTerminal with
    | true => exact .inl (itemPair_of_terminal h)
    | false => exact .inr (itemPair_of_open h)
  constructor
  · intro h parent hmem hend
    have hpairs := h.pairs
    rw [hitems, hfindings, filterMap_eq_filterMap_iff hnone] at hpairs
    have hpair := (itemPair_of_terminal hend).symm.trans (hpairs parent hmem)
    exact (exitOverlay_eq_none_of_terminal hend).mp (Option.map_eq_none_iff.mp hpair.symm)
  · intro hleft
    have hpairs : ∀ parent ∈ parents, itemPair parent = overlayPair parent := by
      intro parent hmem
      cases hend : parent.aggregateStatus.isTerminal with
      | false => exact itemPair_of_open hend
      | true =>
        have hoverlay := (exitOverlay_eq_none_of_terminal hend).mpr (hleft parent hmem hend)
        rw [itemPair_of_terminal hend, overlayPair, hoverlay]
        rfl
    refine ⟨?_, fun parent hmem hitem finding hfinding => ?_⟩
    · rw [hitems, hfindings, filterMap_eq_filterMap_iff hnone]
      exact hpairs
    · -- a parent without an item has no overlay
      have hlisted : itemPair parent = none := by
        have hitem : exitExecutionReviewItem parent = none := by
          simpa [exitExecutionReviewItems] using hitem
        rw [itemPair, hitem]
        rfl
      have hoverlay : exitOverlay parent = none :=
        Option.map_eq_none_iff.mp ((hpairs parent hmem).symm.trans hlisted)
      rw [addedFindings_eq] at hfinding
      simp [hoverlay] at hfinding

/-- The exit has no orders that could be found, and then it is filled. -/
def finishedWithoutRefs : List WriterLabel :=
  [exitCall 0 (.create 10 []),
    exitCall 1 (.save 0
      (.recordResumeIssue "missing_child_refs_for_parent" "child_refs_not_reconstructable")),
    exitCall 2 (.saveChildRef 10 (childWith "c1" .filled 10 10))]

theorem classifiers_disagree_finished :
    ¬ ∀ (labels : List WriterLabel) (repo : ExitRepository) (report : AugmentedReport)
      (parents : List ExitParent), run writerStep emptyRepository labels = some repo →
      (∀ parent ∈ parents, (repo parent.parentIntentId).parent = some parent) →
      ClassifiersAgree report (parents.map ExitParent.reviewed) := by
  intro hall
  have hrun : run writerStep emptyRepository finishedWithoutRefs =
      some (repositoryAfter finishedWithoutRefs) :=
    (Option.getD_of_ne_none (by decide +kernel) _).symm
  have hagree := hall _ _ { reconciliationId := "reconciliation" } [exitAfter finishedWithoutRefs]
    hrun (List.forall_mem_singleton.mpr
      (Option.getD_of_ne_none (by decide +kernel) exitOfTen).symm)
  exact absurd hagree.pairs (by decide +kernel)

end Aats.Exits
