import Aats.Recovery.ExitReview
import Aats.Recovery.StartupRecovery

/-!
# Overlays of a recovery status only tighten

Two overlays are laid over the status of the base recovery. The one for exit parents keeps
whatever the status says and adds to it.  `_phase4_status` keeps every flag and every reason,
but assigns two things: the recovery state, so that a report that only asks for reducing, or for a
review, replaces a blocked resume; and the details of the unknown state, which are those of the
latest report alone.

## Main definitions
* `WeakensState` — the latest report puts a weaker state in the place of a blocked resume.

## Main results
* `overlays_tighten_iff` — **when both overlays do**.
-/

namespace Aats.Recovery

open Execution
open Governance (KillSwitch)

/-! ### Stricter statuses -/

structure KeepsFlags (base after : RecoveryStatus) : Prop where
  safeStartup : after.safeStartup = true → base.safeStartup = true
  safeToTrade : after.safeToTrade = true → base.safeToTrade = true
  resumeEligible : after.resumeEligible = true → base.resumeEligible = true
  reviewRequired : base.reviewRequired = true → after.reviewRequired = true
  onlyReduceRequired : base.onlyReduceRequired = true → after.onlyReduceRequired = true
  rebaselineAvailable : base.rebaselineAvailable = true → after.rebaselineAvailable = true
  resumeBlockedReasons : base.resumeBlockedReasons ⊆ after.resumeBlockedReasons

/-- The status is at least as strict: nor does a blocked resume get a weaker state, and no detail
of the unknown state is dropped. -/
structure Tightens (base after : RecoveryStatus) : Prop extends KeepsFlags base after where
  recoveryState : base.recoveryState = .resumeBlocked → after.recoveryState = .resumeBlocked
  unknownStateDetails : base.unknownStateDetails ⊆ after.unknownStateDetails

theorem KeepsFlags.refl (status : RecoveryStatus) : KeepsFlags status status :=
  ⟨id, id, id, id, id, id, List.Subset.refl _⟩

theorem KeepsFlags.trans {a b c : RecoveryStatus} (hab : KeepsFlags a b) (hbc : KeepsFlags b c) :
    KeepsFlags a c where
  safeStartup := hab.safeStartup ∘ hbc.safeStartup
  safeToTrade := hab.safeToTrade ∘ hbc.safeToTrade
  resumeEligible := hab.resumeEligible ∘ hbc.resumeEligible
  reviewRequired := hbc.reviewRequired ∘ hab.reviewRequired
  onlyReduceRequired := hbc.onlyReduceRequired ∘ hab.onlyReduceRequired
  rebaselineAvailable := hbc.rebaselineAvailable ∘ hab.rebaselineAvailable
  resumeBlockedReasons := List.Subset.trans hab.resumeBlockedReasons hbc.resumeBlockedReasons

theorem Tightens.refl (status : RecoveryStatus) : Tightens status status :=
  ⟨KeepsFlags.refl status, id, List.Subset.refl _⟩

/-! ### The overlay for exit parents -/

theorem tightens_exitReviewOverlay (base : RecoveryStatus) (parents : List ExitExecutionIntent)
    (refreshNotes : List String) : Tightens base (applyExitReviewOverlay base parents refreshNotes) := by
  unfold applyExitReviewOverlay
  simp only []
  split
  · exact Tightens.refl base
  · refine ⟨⟨?_, ?_, ?_, ?_, ?_, ?_, ?_⟩, ?_, ?_⟩
    · intro h
      exact (Bool.and_eq_true_iff.mp h).1
    · intro h
      exact (Bool.and_eq_true_iff.mp h).1
    · intro h
      exact (Bool.and_eq_true_iff.mp h).1
    · intro h
      exact Bool.or_eq_true_iff.mpr (.inl h)
    · exact id
    · intro h
      exact Bool.or_eq_true_iff.mpr (.inl h)
    · intro reason hreason
      exact List.mem_eraseDups.mpr (List.mem_append_left _ hreason)
    · intro h
      show (if base.recoveryState = .resumeBlocked then base.recoveryState else _) = _
      rw [if_pos h, h]
    · exact List.subset_append_left _ _

/-! ### The steps of the ledger recovery -/

theorem subset_addReason (reasons : List String) (reason : String) :
    reasons ⊆ addReason reasons reason := by
  unfold addReason
  split
  · exact List.Subset.refl _
  · exact List.subset_append_left _ _

theorem subset_foldl_addReason (added reasons : List String) :
    reasons ⊆ added.foldl addReason reasons := by
  induction added generalizing reasons with
  | nil => exact List.Subset.refl _
  | cons reason added ih => exact List.Subset.trans (subset_addReason reasons reason) (ih _)

theorem keepsFlags_applyOnlyReduce (report : ReconciliationReport) (status : RecoveryStatus) :
    KeepsFlags status (applyOnlyReduce report status) := by
  unfold applyOnlyReduce
  simp only []
  split
  · exact ⟨id, nofun, nofun, id,
      fun h => Bool.or_eq_true_iff.mpr (.inl h), id, subset_foldl_addReason _ _⟩
  · exact ⟨id, id, id, id, fun h => Bool.or_eq_true_iff.mpr (.inl h), id, List.Subset.refl _⟩

theorem reviewRequired_annotate (report : ReconciliationReport)
    (h : (annotate report).resumeBlocking = true) : (annotate report).reviewRequired = true := by
  revert h
  show (classify report).resumeBlocking = true → (classify report).reviewRequired = true
  unfold classify
  split
  · exact fun _ => rfl
  · split
    · exact nofun
    · split
      · exact fun _ => rfl
      · split
        · exact nofun
        · split <;> exact nofun

theorem keepsFlags_applyResumeBlocking (inputs : RecoveryInputs) {report : ReconciliationReport}
    (hreport : report.resumeBlocking = true → report.reviewRequired = true) (phase : Phase4) :
    KeepsFlags phase.status (applyResumeBlocking inputs report phase).status := by
  unfold applyResumeBlocking
  simp only []
  split
  · next hblocking =>
    have hreview := hreport hblocking
    split
    · exact ⟨nofun, nofun, nofun, fun _ => hreview, id, fun h => by simp [h],
        subset_addReason _ _⟩
    · exact ⟨nofun, nofun, nofun, fun _ => hreview, id, fun h => by simp [h],
        subset_addReason _ _⟩
  · exact KeepsFlags.refl _

theorem keepsFlags_applyReconciliation (inputs : RecoveryInputs) (phase : Phase4) :
    KeepsFlags phase.status (applyReconciliation inputs phase).status := by
  unfold applyReconciliation
  cases inputs.reconciliation with
  | none => exact ⟨id, id, id, id, id, id, List.Subset.refl _⟩
  | some report =>
    have hblocking := keepsFlags_applyResumeBlocking inputs
      (reviewRequired_annotate report) { phase with status := applyOnlyReduce (annotate report) phase.status }
    exact (keepsFlags_applyOnlyReduce (annotate report) phase.status).trans hblocking

/-- What one blocking step does to a status: nothing, unless it fires; then it blocks. -/
structure BlocksIf (fires : Prop) (before after : Phase4) : Prop where
  keeps : KeepsFlags before.status after.status
  blocked : fires → after.status.recoveryState = .resumeBlocked
  same : ¬ fires → after = before

theorem blocksIf_of_halt {fires : Prop} [Decidable fires] {before blocked : Phase4}
    (h : KeepsFlags before.status blocked.status)
    (hstate : blocked.status.recoveryState = .resumeBlocked) :
    BlocksIf fires before (if fires then blocked else before) := by
  by_cases hf : fires
  · rw [if_pos hf]
    exact ⟨h, fun _ => hstate, fun hn => absurd hf hn⟩
  · rw [if_neg hf]
    exact ⟨KeepsFlags.refl _, fun hp => absurd hp hf, fun _ => rfl⟩

section Steps

variable (inputs : RecoveryInputs) (resolved : ℕ) (phase : Phase4)

theorem blocksIf_blockStuckSent (stuckSent : ℕ) :
    BlocksIf (resolved < stuckSent) phase (blockStuckSent inputs stuckSent resolved phase) :=
  blocksIf_of_halt ⟨nofun, nofun, nofun, id, id, fun _ => rfl, subset_addReason _ _⟩ rfl

theorem blocksIf_blockClaimed (claimed : ℕ) :
    BlocksIf (claimed ≠ 0) phase (blockClaimed inputs claimed phase) :=
  blocksIf_of_halt ⟨nofun, nofun, nofun, id, id, fun _ => rfl, subset_addReason _ _⟩ rfl

theorem blocksIf_blockPending :
    BlocksIf (phase.status.commandCounts.pendingTotal ≠ 0) phase (blockPending inputs phase) :=
  blocksIf_of_halt ⟨nofun, nofun, nofun, id, id, fun _ => rfl, subset_addReason _ _⟩ rfl

theorem blocksIf_blockStranded (stranded : ℕ) :
    BlocksIf (resolved < stranded) phase (blockStranded inputs stranded resolved phase) :=
  blocksIf_of_halt ⟨nofun, nofun, nofun, id, id, fun _ => rfl, subset_addReason _ _⟩ rfl

end Steps

theorem BlocksIf.stays {fires : Prop} {before after : Phase4} (h : BlocksIf fires before after)
    (hb : before.status.recoveryState = .resumeBlocked) :
    after.status.recoveryState = .resumeBlocked := by
  by_cases hf : fires
  · exact h.blocked hf
  · rw [h.same hf, hb]

/-! ### The recovery state -/

/-- The latest report puts a weaker state in the place of a blocked resume: it blocks the resume
for a review without asking for a halt, or it only asks for reducing. -/
def WeakensState (report : ReconciliationReport) : Prop :=
  ((classify report).resumeBlocking = true ∧ (classify report).haltRequired = false) ∨
    ((classify report).resumeBlocking = false ∧ report.onlyReduceRequired = true)

instance (report : ReconciliationReport) : Decidable (WeakensState report) :=
  inferInstanceAs (Decidable (_ ∨ _))

theorem recoveryState_applyReconciliation (inputs : RecoveryInputs) (phase : Phase4)
    (h : phase.status.recoveryState = .resumeBlocked) :
    (applyReconciliation inputs phase).status.recoveryState = .resumeBlocked ↔
      ∀ report ∈ inputs.reconciliation, ¬ WeakensState report := by
  unfold applyReconciliation
  cases hrec : inputs.reconciliation with
  | none => simpa using h
  | some report =>
    have hblocking : (annotate report).resumeBlocking = (classify report).resumeBlocking := rfl
    have hhalt : (annotate report).haltRequired = (classify report).haltRequired := rfl
    have honly : (annotate report).onlyReduceRequired = report.onlyReduceRequired := rfl
    simp only [Option.map_some, Option.mem_some_iff, forall_eq', WeakensState]
    unfold applyResumeBlocking
    rw [hblocking, hhalt]
    cases hb : (classify report).resumeBlocking with
    | true =>
      cases hh : (classify report).haltRequired <;> simp
    | false =>
      simp only [applyOnlyReduce, hblocking, honly, hb]
      cases report.onlyReduceRequired <;> simp [h]

namespace Startup

variable (startup : Startup) (base : RecoveryStatus) (ks : KillSwitch)

/-- A step after the reconciliation blocks the resume: commands are pending, claimed or sent
without an answer, or orders have lost theirs. -/
def Blocks : Prop :=
  startup.preRecover.resolved < startup.submitCounts.stuckSent ∨
  startup.submitCounts.claimedSubmit ≠ 0 ∨
  (commandCounts startup.commands
    (startup.inputs.now - max startup.sentRetryAfter 0)).pendingTotal ≠ 0 ∨
  startup.preRecover.resolved < startup.submitCounts.stranded

instance : Decidable startup.Blocks := inferInstanceAs (Decidable (_ ∨ _ ∨ _ ∨ _))

theorem keepsFlags_phase4Steps : KeepsFlags base (startup.phase4Steps base ks).status := by
  have hstart : KeepsFlags base (startup.phase4Start base ks).status :=
    ⟨id, id, id, id, id, id, List.Subset.refl _⟩
  have hreport := hstart.trans (keepsFlags_applyReconciliation startup.inputs _)
  have hsent := hreport.trans (blocksIf_blockStuckSent startup.inputs startup.preRecover.resolved _
    startup.submitCounts.stuckSent).keeps
  have hclaimed := hsent.trans
    (blocksIf_blockClaimed startup.inputs _ startup.submitCounts.claimedSubmit).keeps
  have hpending := hclaimed.trans (blocksIf_blockPending startup.inputs _).keeps
  exact hpending.trans (blocksIf_blockStranded startup.inputs startup.preRecover.resolved _
    startup.submitCounts.stranded).keeps

theorem recoveryState_phase4Steps (h : base.recoveryState = .resumeBlocked) :
    (startup.phase4Steps base ks).status.recoveryState = .resumeBlocked ↔
      startup.Blocks ∨ ∀ report ∈ startup.inputs.reconciliation, ¬ WeakensState report := by
  have hreport := recoveryState_applyReconciliation startup.inputs
    (startup.phase4Start base ks) h
  have hcounts := commandCounts_applyReconciliation startup.inputs (startup.phase4Start base ks)
  have hsent := blocksIf_blockStuckSent startup.inputs startup.preRecover.resolved
    (applyReconciliation startup.inputs (startup.phase4Start base ks))
    startup.submitCounts.stuckSent
  have hclaimed := blocksIf_blockClaimed startup.inputs
    (blockStuckSent startup.inputs startup.submitCounts.stuckSent startup.preRecover.resolved
      (applyReconciliation startup.inputs (startup.phase4Start base ks)))
    startup.submitCounts.claimedSubmit
  have hpending := blocksIf_blockPending startup.inputs
    (blockClaimed startup.inputs startup.submitCounts.claimedSubmit
      (blockStuckSent startup.inputs startup.submitCounts.stuckSent startup.preRecover.resolved
        (applyReconciliation startup.inputs (startup.phase4Start base ks))))
  have hstranded := blocksIf_blockStranded startup.inputs startup.preRecover.resolved
    (blockPending startup.inputs (blockClaimed startup.inputs startup.submitCounts.claimedSubmit
      (blockStuckSent startup.inputs startup.submitCounts.stuckSent startup.preRecover.resolved
        (applyReconciliation startup.inputs (startup.phase4Start base ks)))))
    startup.submitCounts.stranded
  by_cases h1 : startup.preRecover.resolved < startup.submitCounts.stuckSent
  · have hb := hstranded.stays (hpending.stays (hclaimed.stays (hsent.blocked h1)))
    exact iff_of_true hb (.inl (.inl h1))
  by_cases h2 : startup.submitCounts.claimedSubmit ≠ 0
  · have hb := hstranded.stays (hpending.stays (hclaimed.blocked h2))
    exact iff_of_true hb (.inl (.inr (.inl h2)))
  -- neither of the first two fires, so the pending commands are counted as they were read
  rw [hclaimed.same h2, hsent.same h1, hcounts] at hpending
  rw [hclaimed.same h2, hsent.same h1] at hstranded
  by_cases h3 : (commandCounts startup.commands
      (startup.inputs.now - max startup.sentRetryAfter 0)).pendingTotal ≠ 0
  · have hb := hstranded.stays (hpending.blocked h3)
    unfold phase4Steps
    simp only []
    rw [hclaimed.same h2, hsent.same h1]
    exact iff_of_true hb (.inl (.inr (.inr (.inl h3))))
  rw [hpending.same h3] at hstranded
  by_cases h4 : startup.preRecover.resolved < startup.submitCounts.stranded
  · have hb := hstranded.blocked h4
    unfold phase4Steps
    simp only []
    rw [hclaimed.same h2, hsent.same h1, hpending.same h3]
    exact iff_of_true hb (.inl (.inr (.inr (.inr h4))))
  · have hnot : ¬ startup.Blocks := by
      rintro (hf | hf | hf | hf)
      · exact h1 hf
      · exact h2 hf
      · exact h3 hf
      · exact h4 hf
    unfold phase4Steps
    simp only []
    rw [hclaimed.same h2, hsent.same h1, hpending.same h3, hstranded.same h4, hreport]
    exact (or_iff_right hnot).symm

/-! ### Both overlays -/

/-- Both overlays only tighten the status of the base recovery. -/
def OverlaysTighten (parents : List ExitExecutionIntent) (refreshNotes : List String) : Prop :=
  Tightens base (startup.phase4Status base ks).1 ∧
    Tightens base (applyExitReviewOverlay base parents refreshNotes)

/-- When they do: a blocked resume is not weakened by the latest report, or is blocked again, and
the details of the unknown state are among those of the latest report. -/
def TightenWhen : Prop :=
  (base.recoveryState = .resumeBlocked →
    startup.Blocks ∨ ∀ report ∈ startup.inputs.reconciliation, ¬ WeakensState report) ∧
  ∀ report ∈ startup.inputs.reconciliation, base.unknownStateDetails ⊆ report.unknownStateDetails

/-- **When both overlays only tighten**, for any status, ledger, report and exit parents. -/
theorem overlays_tighten_iff (parents : List ExitExecutionIntent) (refreshNotes : List String) :
    startup.OverlaysTighten base ks parents refreshNotes ↔ startup.TightenWhen base := by
  have hflags := startup.keepsFlags_phase4Steps base ks
  have hkeeps : KeepsFlags base (startup.phase4Status base ks).1 :=
    { safeStartup := fun h => hflags.safeStartup (Bool.and_eq_true_iff.mp h).1
      safeToTrade := fun h => hflags.safeToTrade (Bool.and_eq_true_iff.mp h).1
      resumeEligible := fun h => hflags.resumeEligible (Bool.and_eq_true_iff.mp h).1
      reviewRequired := hflags.reviewRequired
      onlyReduceRequired := hflags.onlyReduceRequired
      rebaselineAvailable := hflags.rebaselineAvailable
      resumeBlockedReasons := fun _ hr => List.mem_eraseDups.mpr (hflags.resumeBlockedReasons hr) }
  have hdetails : base.unknownStateDetails ⊆
      (startup.phase4Status base ks).1.unknownStateDetails ↔
        ∀ report ∈ startup.inputs.reconciliation,
          base.unknownStateDetails ⊆ report.unknownStateDetails := by
    unfold Startup.phase4Status
    cases startup.inputs.reconciliation with
    | none => simp
    | some report => simp
  constructor
  · rintro ⟨htight, -⟩
    refine ⟨fun h => ?_, hdetails.mp htight.unknownStateDetails⟩
    exact (startup.recoveryState_phase4Steps base ks h).mp (htight.recoveryState h)
  · rintro ⟨hstate, hsub⟩
    refine ⟨⟨hkeeps, fun h => ?_, hdetails.mpr hsub⟩, tightens_exitReviewOverlay base parents _⟩
    exact (startup.recoveryState_phase4Steps base ks h).mpr (hstate h)

/-- A start after an operator's rebaseline with an old report that asks for reducing only. -/
def reduceOnlyReport : Startup where
  inputs :=
    { scope :=
        { productType := .derivatives
          marginMode := .cross
          allowedSymbols := ["BTC-USDT-SWAP"]
          defaultSymbol := "BTC-USDT-SWAP" }
      reconciliationStaleAfter := 60
      now := 100
      reconciliation := some
        { asOfTs := 0
          onlyReduceRequired := true
          onlyReduceReasons := ["derivatives_exchange_position_present"] }
      accountBaseline := some
        { baselineStatus := .rebaselineCompleted
          operatorRebaseline := true } }
  orders := []
  nodup_clientOrderId := by decide
  commands := []
  exchange := none
  killSwitch := KillSwitch.initial "ksgen" 0

/-- **A blocked resume becomes a reduce-only one.**  The base recovery halts over the old report
and blocks the resume; the ledger recovery, laid over it, says that reducing is allowed. -/
theorem reduce_only_replaces_block :
    ¬ ∀ (startup : Startup) (base : RecoveryStatus) (ks : KillSwitch)
      (parents : List ExitExecutionIntent) (refreshNotes : List String),
      startup.OverlaysTighten base ks parents refreshNotes := by
  intro h
  have htight := h reduceOnlyReport
    (recoverBase reduceOnlyReport.inputs [] reduceOnlyReport.killSwitch).1
    (recoverBase reduceOnlyReport.inputs [] reduceOnlyReport.killSwitch).2 [] []
  have hstate := htight.1.recoveryState (by decide +kernel)
  revert hstate
  decide +kernel

end Startup

end Aats.Recovery
