import Aats.Exits.Writer

/-!
# Stored quantities and stored children

The dispatch loop reads how much may be sent from the stored parent, not from the children. Every
call of the writer that saves children recomputes the parent from them. A call that saves a copy
does not, and of an unfinished parent it stores the quantities of the copy, however old they are.

## Main results
* `aggregates_match_children` — **the quantities match the children** if no call does.
-/

namespace Aats.Exits

open Execution Recovery Runs

/-! ### Quantities -/

structure ExitQuantities where
  filled : ℚ
  working : ℚ
  unknown : ℚ
  dispatchable : ℚ
  unresolved : ℚ
  deriving DecidableEq, Repr

def exitQuantities (parent : ExitParent) : ExitQuantities where
  filled := parent.aggregatedFilledQuantity
  working := parent.openChildWorkingQuantity
  unknown := parent.openChildUnknownQuantity
  dispatchable := parent.remainingDispatchableQuantity
  unresolved := parent.remainingUnresolvedQuantity

def quantitiesOf (target : ℚ) (children : List ChildExitOrderRef) : ExitQuantities where
  filled := filledOf children
  working := workingOf children
  unknown := unknownOf children
  dispatchable := max (target - filledOf children - workingOf children - unknownOf children) 0
  unresolved := max (target - filledOf children) 0

theorem exitQuantities_recompute (parent : ExitParent) (children : List ChildExitOrderRef)
    (now : Timestamp) :
    exitQuantities (recomputeExitExecutionIntent parent children now) =
      quantitiesOf parent.targetExitQuantity children := rfl

theorem exitQuantities_create (parentIntentId : String) (quantity : ℚ)
    (entries : List (String × String)) :
    exitQuantities (createExitExecutionIntent parentIntentId quantity entries) =
      quantitiesOf (createExitExecutionIntent parentIntentId quantity entries).targetExitQuantity
        [] := by
  have hzero : filledOf [] = 0 ∧ workingOf [] = 0 ∧ unknownOf [] = 0 := ⟨rfl, rfl, rfl⟩
  unfold exitQuantities quantitiesOf createExitExecutionIntent
  simp only [hzero.1, hzero.2.1, hzero.2.2, sub_zero, max_eq_left (le_max_right quantity 0)]

section Merge

variable {current incoming merged : ExitParent}

theorem keepCancelRequest_quantities :
    exitQuantities (keepCancelRequest current incoming merged) = exitQuantities merged ∧
      (keepCancelRequest current incoming merged).targetExitQuantity = merged.targetExitQuantity := by
  unfold keepCancelRequest
  split <;> exact ⟨rfl, rfl⟩

theorem keepTerminalSnapshot_target :
    (keepTerminalSnapshot current incoming merged).targetExitQuantity =
      merged.targetExitQuantity := by
  unfold keepTerminalSnapshot
  split <;> rfl

theorem keepReviewAndIssue_quantities :
    exitQuantities (keepReviewAndIssue current incoming merged) = exitQuantities merged ∧
      (keepReviewAndIssue current incoming merged).targetExitQuantity =
        merged.targetExitQuantity := by
  have hstatus : exitQuantities (keepReviewStatus current incoming merged) = exitQuantities merged ∧
      (keepReviewStatus current incoming merged).targetExitQuantity = merged.targetExitQuantity := by
    unfold keepReviewStatus asReviewRequired
    split <;> exact ⟨rfl, rfl⟩
  have hreview : ∀ kept, exitQuantities (keepOperatorReview current incoming kept) =
        exitQuantities kept ∧
      (keepOperatorReview current incoming kept).targetExitQuantity = kept.targetExitQuantity := by
    intro kept
    unfold keepOperatorReview asReviewRequired
    simp only
    split_ifs <;> exact ⟨rfl, rfl⟩
  have hissue : ∀ kept, exitQuantities (keepResumeIssue current incoming kept) =
        exitQuantities kept ∧
      (keepResumeIssue current incoming kept).targetExitQuantity = kept.targetExitQuantity := by
    intro kept
    unfold keepResumeIssue asReviewRequired
    split
    · simp only
      split <;> exact ⟨rfl, rfl⟩
    · exact ⟨rfl, rfl⟩
  unfold keepReviewAndIssue
  exact ⟨(hissue _).1.trans ((hreview _).1.trans hstatus.1),
    (hissue _).2.trans ((hreview _).2.trans hstatus.2)⟩

theorem merge_target :
    (mergeStickyParentFields (some current) incoming).targetExitQuantity =
      incoming.targetExitQuantity := by
  have hend : (keepCancelAndEnd current incoming).targetExitQuantity =
      incoming.targetExitQuantity :=
    keepTerminalSnapshot_target.trans keepCancelRequest_quantities.2
  by_cases hstale : incoming.aggregateVersion ≤ current.aggregateVersion
  · rw [merge_of_stale hstale]
    exact keepReviewAndIssue_quantities.2.trans hend
  · rw [merge_of_fresh hstale]
    exact hend

theorem merge_quantities (hopen : current.aggregateStatus.isTerminal = false) :
    exitQuantities (mergeStickyParentFields (some current) incoming) = exitQuantities incoming := by
  have hend : exitQuantities (keepCancelAndEnd current incoming) = exitQuantities incoming := by
    rw [keepCancelAndEnd_of_open hopen]
    exact keepCancelRequest_quantities.1
  by_cases hstale : incoming.aggregateVersion ≤ current.aggregateVersion
  · rw [merge_of_stale hstale]
    exact keepReviewAndIssue_quantities.1.trans hend
  · rw [merge_of_fresh hstale]
    exact hend

end Merge

/-! ### Runs -/

section Run

variable {record after : ExitRecord} {parent : ExitParent} {now : Timestamp}
  {parentIntentId : String} {call : WriterCall}

/-- The quantities of an unfinished parent are those of its children. -/
def MatchesChildren (record : ExitRecord) : Prop :=
  ∀ parent, record.parent = some parent → parent.aggregateStatus.isTerminal = false →
    exitQuantities parent = quantitiesOf parent.targetExitQuantity record.children

/-- The quantities match, all copies have the same target, and there are no children without a
parent. -/
structure AggregatesInv (record : ExitRecord) : Prop where
  matching : MatchesChildren record
  target : ∀ copy ∈ record.readable, ∀ parent, record.parent = some parent →
    copy.targetExitQuantity = parent.targetExitQuantity
  childless : record.parent = none → record.children = []

/-- A call does not save a copy of an unfinished parent whose quantities are no longer the stored
ones. -/
def savesCurrentQuantities (repo : ExitRepository) (label : WriterLabel) : Prop :=
  match label.call with
  | .save index _ =>
    ∀ copy, (repo label.parentIntentId).readable[index]? = some copy →
      ∀ current, (repo label.parentIntentId).parent = some current →
        current.aggregateStatus.isTerminal = false →
          exitQuantities copy = exitQuantities current
  | _ => True

theorem exitQuantities_edit (edit : CopyEdit) :
    exitQuantities (edit.apply parent now) = exitQuantities parent ∧
      (edit.apply parent now).targetExitQuantity = parent.targetExitQuantity := by
  cases edit <;> exact ⟨rfl, rfl⟩

theorem transform_target (transform : ParentTransform) :
    (transform.apply parent now).targetExitQuantity = parent.targetExitQuantity := by
  cases transform with
  | keep => rfl
  | requestCancel => rfl
  | clearResumeIssue kind =>
    show (clearResumeIssue parent kind now).targetExitQuantity = parent.targetExitQuantity
    unfold clearResumeIssue
    split_ifs <;> rfl

theorem open_of_merge_open {current incoming : ExitParent}
    (h : (mergeStickyParentFields (some current) incoming).aggregateStatus.isTerminal = false) :
    current.aggregateStatus.isTerminal = false := by
  cases hend : current.aggregateStatus.isTerminal with
  | false => rfl
  | true =>
    rw [merge_status_of_terminal hend, hend] at h
    cases h

theorem matches_recomputeFrom (transform : ParentTransform) :
    MatchesChildren (recomputeFrom record parent transform now) := by
  rintro _ ⟨⟩ hopen
  rw [merge_quantities (open_of_merge_open hopen), exitQuantities_recompute, merge_target]
  rfl

theorem target_recomputeFrom (transform : ParentTransform)
    (htarget : ∀ copy ∈ record.readable, copy.targetExitQuantity = parent.targetExitQuantity) :
    ∀ copy ∈ (recomputeFrom record parent transform now).readable, ∀ stored,
      (recomputeFrom record parent transform now).parent = some stored →
        copy.targetExitQuantity = stored.targetExitQuantity := by
  rintro copy hcopy _ ⟨⟩
  rcases List.mem_append.mp hcopy with hcopy | hcopy
  · rw [merge_target, htarget copy hcopy]
    exact (transform_target transform).symm
  · rw [List.mem_singleton.mp hcopy]

theorem AggregatesInv.saveChildRefs (h : AggregatesInv record) (hrecord : RecordInv record)
    (parentIntent : ExitParent) (refs : List ChildExitOrderRef) (transform : ParentTransform) :
    AggregatesInv (saveChildRefsAndRecomputeParent record parentIntent refs transform now) := by
  cases hparent : record.parent with
  | none =>
    rw [saveChildRefs_of_none hparent]
    refine ⟨matches_recomputeFrom transform, target_recomputeFrom transform ?_, by rintro ⟨⟩⟩
    intro copy hcopy
    rcases List.mem_append.mp hcopy with hcopy | hcopy
    · obtain ⟨stored, hstored, -⟩ := hrecord.older copy hcopy
      rw [hparent] at hstored
      cases hstored
    · rw [List.mem_singleton.mp hcopy]
  | some current =>
    rw [saveChildRefs_of_parent hparent]
    exact ⟨matches_recomputeFrom transform,
      target_recomputeFrom transform fun copy hcopy => h.target copy hcopy current hparent,
      by rintro ⟨⟩⟩

theorem AggregatesInv.create (h : AggregatesInv record) (hrecord : RecordInv record)
    (hparent : record.parent = none) (quantity : ℚ) (entries : List (String × String)) :
    AggregatesInv (saveExitExecutionIntent record
      (createExitExecutionIntent parentIntentId quantity entries)) := by
  unfold saveExitExecutionIntent
  rw [hparent]
  refine ⟨?_, ?_, by rintro ⟨⟩⟩
  · rintro _ ⟨⟩ -
    show _ = quantitiesOf _ record.children
    rw [h.childless hparent]
    exact exitQuantities_create parentIntentId quantity entries
  · rintro copy hcopy _ ⟨⟩
    rcases List.mem_append.mp hcopy with hcopy | hcopy
    · obtain ⟨stored, hstored, -⟩ := hrecord.older copy hcopy
      rw [hparent] at hstored
      cases hstored
    · rw [List.mem_singleton.mp hcopy]

theorem AggregatesInv.saveCopy (h : AggregatesInv record) (hrecord : RecordInv record)
    {copy : ExitParent} (hmem : copy ∈ record.readable) (edit : CopyEdit)
    (hok : ∀ current, record.parent = some current →
      current.aggregateStatus.isTerminal = false → exitQuantities copy = exitQuantities current) :
    AggregatesInv (saveExitExecutionIntent record (edit.apply copy now)) := by
  obtain ⟨current, hparent, -⟩ := hrecord.older copy hmem
  have hcurrent := h.target copy hmem current hparent
  unfold saveExitExecutionIntent
  rw [hparent]
  refine ⟨?_, ?_, by rintro ⟨⟩⟩
  · rintro _ ⟨⟩ hopen
    have hopen := open_of_merge_open hopen
    rw [merge_quantities hopen, merge_target, (exitQuantities_edit edit).1,
      (exitQuantities_edit edit).2, hok current hparent hopen, hcurrent]
    exact h.matching current hparent hopen
  · rintro other hother _ ⟨⟩
    rw [merge_target, (exitQuantities_edit edit).2, hcurrent]
    rcases List.mem_append.mp hother with hother | hother
    · exact h.target other hother current hparent
    · rw [List.mem_singleton.mp hother, merge_target, (exitQuantities_edit edit).2, hcurrent]

theorem AggregatesInv.writeRecord (h : AggregatesInv record) (hrecord : RecordInv record)
    (hok : ∀ index edit, call = .save index edit →
      ∀ copy, record.readable[index]? = some copy → ∀ current, record.parent = some current →
        current.aggregateStatus.isTerminal = false → exitQuantities copy = exitQuantities current)
    (hwrite : writeRecord parentIntentId now record call = some after) : AggregatesInv after := by
  cases call with
  | create quantity entries =>
    rw [Exits.writeRecord] at hwrite
    split at hwrite
    · next hparent =>
      cases hwrite
      exact h.create hrecord hparent quantity entries
    · cases hwrite
  | save index edit =>
    obtain ⟨copy, hcopy, rfl⟩ := Option.map_eq_some_iff.mp hwrite
    exact h.saveCopy hrecord (List.mem_of_getElem? hcopy) edit (hok index edit rfl copy hcopy)
  | saveChildRef quantity ref =>
    cases hwrite
    exact h.saveChildRefs hrecord _ [ref] .keep
  | saveChildRefs quantity refs transform =>
    cases hwrite
    exact h.saveChildRefs hrecord _ refs transform
  | recompute transform =>
    obtain ⟨current, hparent, rfl⟩ := Option.map_eq_some_iff.mp hwrite
    exact ⟨matches_recomputeFrom transform,
      target_recomputeFrom transform fun copy hcopy => h.target copy hcopy current hparent,
      by rintro ⟨⟩⟩

theorem aggregatesInv_run {labels : List WriterLabel} {repo : ExitRepository}
    (hmeets : Meets writerStep savesCurrentQuantities emptyRepository labels)
    (hrun : run writerStep emptyRepository labels = some repo) (id : String) :
    AggregatesInv (repo id) ∧ RecordInv (repo id) := by
  have hempty : AggregatesInv {} :=
    ⟨by rintro _ ⟨⟩, by simp, fun _ => rfl⟩
  have hall : ∀ id, AggregatesInv (repo id) ∧ RecordInv (repo id) := by
    refine run_invariant_of_meets
      (I := fun repo : ExitRepository => ∀ id, AggregatesInv (repo id) ∧ RecordInv (repo id)) ?_
      (fun _ => ⟨hempty, recordInv_empty⟩) hmeets hrun
    intro repo label repo' hinv hok hstep id
    obtain ⟨record, hwrite, rfl⟩ := writerStep_eq_some.mp hstep
    by_cases hid : id = label.parentIntentId
    · subst hid
      rw [Function.update_self]
      obtain ⟨hmatch, hrecord⟩ := hinv label.parentIntentId
      refine ⟨hmatch.writeRecord hrecord (fun index edit hcall => ?_) hwrite,
        hrecord.writeRecord hwrite⟩
      unfold savesCurrentQuantities at hok
      rw [hcall] at hok
      exact hok
    · rw [Function.update_of_ne hid]
      exact hinv id
  exact hall id

/-- **Stored quantities match the stored children**, in every run in which no copy of an unfinished
parent is saved whose quantities are no longer the stored ones. -/
theorem aggregates_match_children (labels : List WriterLabel) (repo : ExitRepository)
    (hmeets : Meets writerStep savesCurrentQuantities emptyRepository labels)
    (hrun : run writerStep emptyRepository labels = some repo) (id : String) (parent : ExitParent)
    (hparent : (repo id).parent = some parent)
    (hopen : parent.aggregateStatus.isTerminal = false) (now : Timestamp) :
    exitQuantities parent =
      exitQuantities (recomputeExitExecutionIntent parent (repo id).children now) :=
  (aggregatesInv_run hmeets hrun id).1.matching parent hparent hopen

/-! ### A copy from before the first child -/

def firstChildSent : List WriterLabel :=
  [exitCall 0 (.create 10 []), exitCall 1 (.saveChildRef 10 (childWith "c1" .submitted 6 0))]

/-- The copy from before the child is saved, as its limit could not be looked up. -/
def saveFromBeforeChild : WriterLabel :=
  exitCall 2 (.save 0 (.recordResumeIssue "resume_limit_lookup_failed" ""))

theorem aggregates_match_firstChildSent :
    exitQuantities (exitAfter firstChildSent) =
      exitQuantities (recomputeExitExecutionIntent (exitAfter firstChildSent)
        (repositoryAfter firstChildSent "exit_parent:x").children 0) :=
  aggregates_match_children firstChildSent (repositoryAfter firstChildSent)
    ⟨trivial, trivial, trivial⟩
    (Option.getD_of_ne_none (by decide +kernel) _).symm "exit_parent:x" _
    (Option.getD_of_ne_none (by decide +kernel) exitOfTen).symm (by decide +kernel) 0

theorem stale_save_restores_quantities :
    (exitAfter (firstChildSent ++ [saveFromBeforeChild])).aggregateStatus.isTerminal = false ∧
      (exitAfter (firstChildSent ++ [saveFromBeforeChild])).remainingDispatchableQuantity = 10 ∧
      (recomputeExitExecutionIntent (exitAfter (firstChildSent ++ [saveFromBeforeChild]))
        (repositoryAfter (firstChildSent ++ [saveFromBeforeChild]) "exit_parent:x").children
        0).remainingDispatchableQuantity = 4 := by
  decide +kernel

end Run

end Aats.Exits
