import Aats.Recovery.BaselineReplay

/-!
# Repairing a missing portfolio snapshot

`repair_missing_portfolio_snapshot` of `reconciliation_service/repair.py`, which runs after the
snapshot of a fill could not be persisted. It gives up if the latest snapshot is stamped with
the fill that is last in exchange order and is not older than it, or if no fill was taken in after
the snapshot. The first of the two looks at one fill only: one that was executed earlier and
taken in later is missed. With the ledger as the truth of the portfolio the repaired snapshot is a
copy of the stored one.

## Main definitions
* `RepairsMissing` — whenever a fill came in after the latest snapshot there is a new one.

## Main results
* `repairsMissing_iff` — **which missing snapshots are repaired**.
-/

namespace Aats.Recovery

open Portfolio
open Execution (Timestamp)

/-! ### The repair -/

/-- What the repair reads besides the portfolio: the switch for the ledger, and the error that
saving a snapshot raises, if it does. -/
structure RepairInputs extends PortfolioInputs where
  portfolioLedgerTruthEnabled : Bool := false
  persistError : Option String := none

inductive RepairError
  | unsupportedFee (error : UnsupportedFeeCurrencyError)
  | snapshotRepair (message : String)

/-- What a repair leaves: its result, and the snapshots that are stored afterwards. -/
structure Repaired where
  returned : Option PortfolioSnapshot := none
  history : List PortfolioSnapshot

/-- `max(fills, key=fill_processing_sort_key)`, nothing without fills. -/
def latestFill : List FillRecord → Option FillRecord
  | [] => none
  | fill :: fills => some (fills.foldl (fun best next =>
      if fillProcessingSortKey best < fillProcessingSortKey next then next else best) fill)

def newerFills (snapshot : PortfolioSnapshot) (fills : List FillRecord) : List FillRecord :=
  fills.filter (fun fill => snapshot.snapshotTs < fill.ingestionTimestamp)

/-- The repair gives up: the snapshot is that of the last fill, or nothing is newer than it. -/
def covered (snapshot : PortfolioSnapshot) (lastFill : FillRecord) (fills : List FillRecord) : Bool :=
  decide (snapshot.sourceFillId = some lastFill.fillId ∧
    lastFill.ingestionTimestamp ≤ snapshot.snapshotTs) ||
  decide (newerFills snapshot fills = [] ∧ lastFill.ingestionTimestamp ≤ snapshot.snapshotTs)

def rebuildSnapshotForComparison (inputs : RepairInputs) (stored : Option PortfolioSnapshot)
    (fills : List FillRecord) : Except UnsupportedFeeCurrencyError PortfolioSnapshot :=
  match inputs.portfolioLedgerTruthEnabled, stored with
  | true, some snapshot => .ok snapshot
  | _, _ =>
    match inputs.baseline with
    | none =>
      (rebuildState inputs.reconstructionInitialBalance fills).map (buildSnapshot inputs.livePrice
        .manualRebuild none inputs.now inputs.productType inputs.marginMode)
    | some baseline =>
      rebuildSnapshotFromBaseline
        { livePrice := inputs.livePrice, now := inputs.now, productType := inputs.productType,
          marginMode := inputs.marginMode } baseline fills

/-- The rebuilt snapshot as it is stored: stamped with the last fill and the scope. -/
def stamped (inputs : RepairInputs) (lastFill : FillRecord) (rebuilt : PortfolioSnapshot) :
    PortfolioSnapshot :=
  { rebuilt with
    sourceFillId := some lastFill.fillId
    snapshotOrigin := .recoveryRebuild
    productType := inputs.productType
    marginMode := inputs.marginMode }

/-- The part of the repair after the early exits. -/
def rebuildAndPersist (inputs : RepairInputs) (reason : String) (lastFill : FillRecord) :
    Except RepairError Repaired :=
  match rebuildSnapshotForComparison inputs inputs.latestSnapshot inputs.fills with
  | .error e => .error (.unsupportedFee e)
  | .ok rebuilt =>
    match inputs.persistError with
    | some e => .error (.snapshotRepair (reason ++ ": " ++ e))
    | none =>
      .ok { returned := some (stamped inputs lastFill rebuilt)
            history := inputs.history ++ [stamped inputs lastFill rebuilt] }

def repairMissingPortfolioSnapshot (inputs : RepairInputs) (reason : String) :
    Except RepairError Repaired :=
  match latestFill inputs.fills with
  | none => .ok { history := inputs.history }
  | some lastFill =>
    match inputs.latestSnapshot with
    | none => rebuildAndPersist inputs reason lastFill
    | some snapshot =>
      if covered snapshot lastFill inputs.fills then .ok { history := inputs.history }
      else rebuildAndPersist inputs reason lastFill

/-! ### The last fill -/

theorem latestFill_mem {fills : List FillRecord} {fill : FillRecord}
    (h : latestFill fills = some fill) : fill ∈ fills := by
  cases fills with
  | nil => cases h
  | cons first rest =>
    have hfold : ∀ (best : FillRecord) (others : List FillRecord), others.foldl (fun best next =>
        if fillProcessingSortKey best < fillProcessingSortKey next then next else best) best ∈
          best :: others := by
      intro best others
      induction others generalizing best with
      | nil => exact List.mem_cons_self
      | cons next others ih =>
        rw [List.foldl_cons]
        split
        · exact List.mem_cons_of_mem _ (ih next)
        · rcases List.mem_cons.mp (ih best) with heq | hmem
          · rw [heq]
            exact List.mem_cons_self
          · exact List.mem_cons_of_mem _ (List.mem_cons_of_mem _ hmem)
    rw [latestFill, Option.some.injEq] at h
    exact h ▸ hfold first rest

theorem exists_latestFill {fills : List FillRecord} {fill : FillRecord} (h : fill ∈ fills) :
    ∃ lastFill, latestFill fills = some lastFill := by
  cases fills with
  | nil => cases h
  | cons first rest => exact ⟨_, rfl⟩

theorem newerFills_eq_nil {snapshot : PortfolioSnapshot} {fills : List FillRecord} :
    newerFills snapshot fills = [] ↔
      ∀ fill ∈ fills, fill.ingestionTimestamp ≤ snapshot.snapshotTs := by
  unfold newerFills
  rw [List.filter_eq_nil_iff]
  simp only [decide_eq_true_iff, not_lt]

/-- **When the repair gives up**: the snapshot is stamped with the last fill and not older, or no
fill is newer than it. -/
theorem covered_eq_true {snapshot : PortfolioSnapshot} {lastFill : FillRecord}
    {fills : List FillRecord} (hlast : lastFill ∈ fills) :
    covered snapshot lastFill fills = true ↔
      (snapshot.sourceFillId = some lastFill.fillId ∧
        lastFill.ingestionTimestamp ≤ snapshot.snapshotTs) ∨
      ∀ fill ∈ fills, fill.ingestionTimestamp ≤ snapshot.snapshotTs := by
  unfold covered
  rw [Bool.or_eq_true, decide_eq_true_iff, decide_eq_true_iff, newerFills_eq_nil]
  constructor
  · rintro (hstamp | ⟨hall, -⟩)
    · exact .inl hstamp
    · exact .inr hall
  · rintro (hstamp | hall)
    · exact .inl hstamp
    · exact .inr ⟨hall, hall lastFill hlast⟩

/-! ### What is rebuilt -/

/-- The snapshot includes the effect of every fill in scope: it shows what the portfolio holds
after a replay that has applied all of them, but for those taken in before the baseline it starts
from. -/
def Includes (inputs : RepairInputs) (snapshot : PortfolioSnapshot) : Prop :=
  ∃ state, rebuiltState inputs.toPortfolioInputs inputs.fills = .ok state ∧ Shows snapshot state ∧
    ∀ fill ∈ inputs.fills, fill.fillId ∈ state.appliedFillIds ∨
      ∃ baseline, inputs.baseline = some baseline ∧ fill.ingestionTimestamp < baseline.snapshotTs

theorem rebuildSnapshotForComparison_eq_ok {inputs : RepairInputs}
    (h : inputs.portfolioLedgerTruthEnabled = false) (stored : Option PortfolioSnapshot)
    {snapshot : PortfolioSnapshot}
    (hok : rebuildSnapshotForComparison inputs stored inputs.fills = .ok snapshot) :
    ∃ state, rebuiltState inputs.toPortfolioInputs inputs.fills = .ok state ∧
      Shows snapshot state := by
  unfold rebuildSnapshotForComparison at hok
  rw [h] at hok
  simp only [] at hok
  unfold rebuiltState
  cases hbaseline : inputs.baseline with
  | none =>
    rw [hbaseline] at hok
    simp only [] at hok
    cases hstate : rebuildState inputs.reconstructionInitialBalance inputs.fills with
    | error e =>
      rw [hstate] at hok
      cases hok
    | ok state =>
      rw [hstate] at hok
      cases hok
      exact ⟨state, rfl, shows_buildSnapshot _ _ _ _ _ _ _⟩
  | some baseline =>
    rw [hbaseline] at hok
    simp only [rebuildSnapshotFromBaseline] at hok
    cases hstate : rebuildFromBaseline inputs.fills baseline with
    | error e =>
      rw [hstate] at hok
      cases hok
    | ok state =>
      rw [hstate] at hok
      cases hok
      exact ⟨state, hstate, shows_buildSnapshot _ _ _ _ _ _ _⟩

theorem rebuildSnapshotForComparison_isOk {inputs : RepairInputs}
    (h : inputs.portfolioLedgerTruthEnabled = false) (stored : Option PortfolioSnapshot)
    {state : PortfolioState}
    (hstate : rebuiltState inputs.toPortfolioInputs inputs.fills = .ok state) :
    ∃ snapshot, rebuildSnapshotForComparison inputs stored inputs.fills = .ok snapshot := by
  unfold rebuildSnapshotForComparison
  rw [h]
  simp only []
  unfold rebuiltState at hstate
  cases hbaseline : inputs.baseline with
  | none =>
    rw [hbaseline] at hstate
    simp only [] at hstate ⊢
    rw [hstate]
    exact ⟨_, rfl⟩
  | some baseline =>
    rw [hbaseline] at hstate
    simp only [] at hstate ⊢
    rw [rebuildSnapshotFromBaseline, hstate]
    exact ⟨_, rfl⟩

theorem replay_isOk_iff {state : PortfolioState} {fills : List FillEvent}
    (hnodup : (fills.map (·.fillId)).Nodup)
    (hfresh : ∀ fill ∈ fills, fill.fillId ∉ state.appliedFillIds) :
    (∃ final, replay state fills = .ok final) ↔ ∀ fill ∈ fills, FeeSupported fill := by
  refine ⟨?_, replay_isOk state⟩
  rintro ⟨final, hfinal⟩
  induction fills generalizing state with
  | nil => exact fun fill hmem => nomatch hmem
  | cons fill fills ih =>
    rw [List.map_cons, List.nodup_cons] at hnodup
    rw [replay, PortfolioState.applyFill_of_new (hfresh fill List.mem_cons_self)] at hfinal
    cases hfee : fillFeeDeltaInQuote fill (baseOf fill) (quoteOf fill) with
    | error e =>
      rw [hfee] at hfinal
      cases hfinal
    | ok fee =>
      rw [hfee] at hfinal
      rw [List.forall_mem_cons]
      have hnext := fresh_bookFill hnodup.1 hfresh fee
      exact ⟨⟨fee, hfee⟩, ih hnodup.2 hnext hfinal⟩

section Rebuilt

variable (inputs : PortfolioInputs)

theorem nodup_baselineFills : ((inputs.baselineFills inputs.fills).map (·.fillId)).Nodup := by
  have hsorted : ((sortedFills inputs.fills).map (·.fillId)).Nodup :=
    ((sortedFills_perm inputs.fills).map _).nodup_iff.mpr inputs.nodup_fillId
  unfold PortfolioInputs.baselineFills
  split
  · exact hsorted
  · exact List.Nodup.sublist (List.Sublist.map _ List.filter_sublist) hsorted

theorem baselineStart_applied : inputs.baselineStart.appliedFillIds = ∅ := by
  unfold PortfolioInputs.baselineStart
  split <;> rfl

theorem rebuiltState_isOk_iff :
    (∃ state, rebuiltState inputs inputs.fills = .ok state) ↔
      ∀ fill ∈ inputs.baselineFills inputs.fills, FeeSupported fill.toFillEvent := by
  rw [rebuiltState_eq, replay_isOk_iff]
  · simp only [List.forall_mem_map]
  · rw [List.map_map]
    exact nodup_baselineFills inputs
  · intro fill _
    rw [baselineStart_applied]
    exact Finset.notMem_empty _

theorem applied_rebuiltState {state : PortfolioState}
    (h : rebuiltState inputs inputs.fills = .ok state) {fill : FillRecord}
    (hmem : fill ∈ inputs.fills) : fill.fillId ∈ state.appliedFillIds ∨
      ∃ baseline, inputs.baseline = some baseline ∧
        fill.ingestionTimestamp < baseline.snapshotTs := by
  rw [rebuiltState_eq] at h
  by_cases hfill : fill ∈ inputs.baselineFills inputs.fills
  · left
    rw [mem_appliedFillIds_of_replay h]
    exact .inr ⟨fill.toFillEvent, List.mem_map_of_mem hfill, rfl⟩
  · right
    unfold PortfolioInputs.baselineFills at hfill
    split at hfill
    · exact absurd (mem_sortedFills.mpr hmem) hfill
    · next baseline hbaseline =>
      refine ⟨baseline, hbaseline, ?_⟩
      by_contra hle
      apply hfill
      unfold fillsSince
      rw [List.mem_filter, mem_sortedFills, decide_eq_true_iff]
      exact ⟨hmem, not_lt.mp hle⟩

end Rebuilt

/-! ### Which missing snapshots are repaired -/

/-- Whenever a fill was taken in after the latest snapshot, the repair stores a snapshot that
includes every fill; and if it gives up, no fill was. -/
structure RepairsMissing (inputs : RepairInputs) (reason : String) : Prop where
  repairs : ∀ snapshot, inputs.latestSnapshot = some snapshot →
    (∃ fill ∈ inputs.fills, snapshot.snapshotTs < fill.ingestionTimestamp) →
    ∃ repaired, repairMissingPortfolioSnapshot inputs reason =
        .ok { returned := some repaired, history := inputs.history ++ [repaired] } ∧
      Includes inputs repaired
  givesUp : ∀ snapshot history, inputs.latestSnapshot = some snapshot →
    repairMissingPortfolioSnapshot inputs reason = .ok { returned := none, history := history } →
    ∀ fill ∈ inputs.fills, fill.ingestionTimestamp ≤ snapshot.snapshotTs

/-- If a fill was taken in after the latest snapshot, then the snapshot is not stamped with the
last fill or that one is newer too, the snapshot can be saved, and the rebuild shows all fills: with
the ledger the stored snapshot must show them already, without it their fees must be supported. -/
def Repairable (inputs : RepairInputs) : Prop :=
  ∀ snapshot, inputs.latestSnapshot = some snapshot →
    (∃ fill ∈ inputs.fills, snapshot.snapshotTs < fill.ingestionTimestamp) →
    (∀ lastFill, latestFill inputs.fills = some lastFill →
      snapshot.sourceFillId = some lastFill.fillId →
      snapshot.snapshotTs < lastFill.ingestionTimestamp) ∧
    inputs.persistError = none ∧
    (inputs.portfolioLedgerTruthEnabled = true → Includes inputs snapshot) ∧
    (inputs.portfolioLedgerTruthEnabled = false →
      ∀ fill ∈ inputs.baselineFills inputs.fills, FeeSupported fill.toFillEvent)

section Repair

variable {inputs : RepairInputs} {reason : String}

theorem includes_stamped {lastFill : FillRecord} {rebuilt : PortfolioSnapshot} :
    Includes inputs (stamped inputs lastFill rebuilt) ↔ Includes inputs rebuilt := by
  constructor
  · rintro ⟨state, hstate, hshows, happlied⟩
    exact ⟨state, hstate, ⟨hshows.quantity, hshows.avgEntryPrice, hshows.balance⟩, happlied⟩
  · rintro ⟨state, hstate, hshows, happlied⟩
    exact ⟨state, hstate, ⟨hshows.quantity, hshows.avgEntryPrice, hshows.balance⟩, happlied⟩

theorem rebuildAndPersist_of_ok {lastFill : FillRecord} {rebuilt : PortfolioSnapshot}
    (h : rebuildSnapshotForComparison inputs inputs.latestSnapshot inputs.fills = .ok rebuilt) :
    rebuildAndPersist inputs reason lastFill =
      match inputs.persistError with
      | some e => .error (.snapshotRepair (reason ++ ": " ++ e))
      | none =>
        .ok { returned := some (stamped inputs lastFill rebuilt)
              history := inputs.history ++ [stamped inputs lastFill rebuilt] } := by
  unfold rebuildAndPersist
  rw [h]

theorem returned_rebuildAndPersist {lastFill : FillRecord} {history : List PortfolioSnapshot} :
    rebuildAndPersist inputs reason lastFill ≠ .ok { returned := none, history := history } := by
  unfold rebuildAndPersist
  split
  · nofun
  · split <;> nofun

/-- After the early exits: what is stored includes all fills exactly if it can be saved and the
rebuild shows them. -/
theorem rebuildAndPersist_includes_iff {snapshot : PortfolioSnapshot} {lastFill : FillRecord}
    (hlatest : inputs.latestSnapshot = some snapshot) :
    (∃ repaired, rebuildAndPersist inputs reason lastFill =
        .ok { returned := some repaired, history := inputs.history ++ [repaired] } ∧
      Includes inputs repaired) ↔
    inputs.persistError = none ∧
    (inputs.portfolioLedgerTruthEnabled = true → Includes inputs snapshot) ∧
    (inputs.portfolioLedgerTruthEnabled = false →
      ∀ fill ∈ inputs.baselineFills inputs.fills, FeeSupported fill.toFillEvent) := by
  -- what is rebuilt includes all fills if there is a rebuild at all and it is not the stored one
  have hrebuild : (∃ rebuilt, rebuildSnapshotForComparison inputs inputs.latestSnapshot inputs.fills =
        .ok rebuilt ∧ Includes inputs rebuilt) ↔
      (inputs.portfolioLedgerTruthEnabled = true → Includes inputs snapshot) ∧
      (inputs.portfolioLedgerTruthEnabled = false →
        ∀ fill ∈ inputs.baselineFills inputs.fills, FeeSupported fill.toFillEvent) := by
    cases hledger : inputs.portfolioLedgerTruthEnabled with
    | true =>
      have hstored : rebuildSnapshotForComparison inputs inputs.latestSnapshot inputs.fills =
          .ok snapshot := by
        unfold rebuildSnapshotForComparison
        rw [hledger, hlatest]
      rw [hstored]
      constructor
      · rintro ⟨rebuilt, heq, hincludes⟩
        cases heq
        exact ⟨fun _ => hincludes, nofun⟩
      · rintro ⟨hincludes, -⟩
        exact ⟨snapshot, rfl, hincludes rfl⟩
    | false =>
      rw [← rebuiltState_isOk_iff]
      constructor
      · rintro ⟨rebuilt, heq, -⟩
        obtain ⟨state, hstate, -⟩ := rebuildSnapshotForComparison_eq_ok hledger _ heq
        exact ⟨nofun, fun _ => ⟨state, hstate⟩⟩
      · rintro ⟨-, hok⟩
        obtain ⟨state, hstate⟩ := hok rfl
        obtain ⟨rebuilt, heq⟩ :=
          rebuildSnapshotForComparison_isOk hledger inputs.latestSnapshot hstate
        obtain ⟨other, hother, hshows⟩ := rebuildSnapshotForComparison_eq_ok hledger _ heq
        exact ⟨rebuilt, heq, other, hother, hshows, fun fill hmem =>
          applied_rebuiltState inputs.toPortfolioInputs hother hmem⟩
  rw [← hrebuild]
  constructor
  · rintro ⟨repaired, heq, hincludes⟩
    cases hrebuilt : rebuildSnapshotForComparison inputs inputs.latestSnapshot inputs.fills with
    | error e =>
      unfold rebuildAndPersist at heq
      rw [hrebuilt] at heq
      cases heq
    | ok rebuilt =>
      rw [rebuildAndPersist_of_ok hrebuilt] at heq
      cases hpersist : inputs.persistError with
      | some e =>
        rw [hpersist] at heq
        cases heq
      | none =>
        rw [hpersist] at heq
        cases heq
        exact ⟨rfl, rebuilt, rfl, includes_stamped.mp hincludes⟩
  · rintro ⟨hpersist, rebuilt, hrebuilt, hincludes⟩
    refine ⟨stamped inputs lastFill rebuilt, ?_, includes_stamped.mpr hincludes⟩
    rw [rebuildAndPersist_of_ok hrebuilt, hpersist]

theorem repairMissingPortfolioSnapshot_of_latest {snapshot : PortfolioSnapshot}
    {lastFill : FillRecord} (hlast : latestFill inputs.fills = some lastFill)
    (hlatest : inputs.latestSnapshot = some snapshot) :
    repairMissingPortfolioSnapshot inputs reason =
      if covered snapshot lastFill inputs.fills then .ok { history := inputs.history }
      else rebuildAndPersist inputs reason lastFill := by
  unfold repairMissingPortfolioSnapshot
  rw [hlast, hlatest]

theorem covered_of_newer {snapshot : PortfolioSnapshot} {lastFill fill : FillRecord}
    (hlast : latestFill inputs.fills = some lastFill) (hmem : fill ∈ inputs.fills)
    (hnewer : snapshot.snapshotTs < fill.ingestionTimestamp) :
    covered snapshot lastFill inputs.fills = true ↔
      snapshot.sourceFillId = some lastFill.fillId ∧
        lastFill.ingestionTimestamp ≤ snapshot.snapshotTs := by
  rw [covered_eq_true (latestFill_mem hlast)]
  constructor
  · rintro (hstamp | hall)
    · exact hstamp
    · exact absurd hnewer (not_lt.mpr (hall fill hmem))
  · exact .inl

end Repair

/-- **Which missing snapshots are repaired.** -/
theorem repairsMissing_iff (inputs : RepairInputs) (reason : String) :
    RepairsMissing inputs reason ↔ Repairable inputs := by
  constructor
  · rintro ⟨hrepairs, -⟩ snapshot hlatest hnewer
    obtain ⟨repaired, heq, hincludes⟩ := hrepairs snapshot hlatest hnewer
    obtain ⟨fill, hmem, hlt⟩ := hnewer
    obtain ⟨lastFill, hlast⟩ := exists_latestFill hmem
    rw [repairMissingPortfolioSnapshot_of_latest hlast hlatest] at heq
    have hcovered : ¬ covered snapshot lastFill inputs.fills = true := by
      intro hc
      rw [if_pos hc] at heq
      cases heq
    rw [if_neg hcovered] at heq
    rw [covered_of_newer hlast hmem hlt] at hcovered
    refine ⟨?_, (rebuildAndPersist_includes_iff hlatest).mp ⟨repaired, heq, hincludes⟩⟩
    intro other hother hstamp
    obtain rfl : lastFill = other := Option.some.inj (hlast.symm.trans hother)
    exact not_le.mp fun hle => hcovered ⟨hstamp, hle⟩
  · intro h
    -- over a newer fill the early exits are not taken
    have hexit : ∀ snapshot lastFill fill, inputs.latestSnapshot = some snapshot →
        latestFill inputs.fills = some lastFill → fill ∈ inputs.fills →
        snapshot.snapshotTs < fill.ingestionTimestamp →
        repairMissingPortfolioSnapshot inputs reason =
          rebuildAndPersist inputs reason lastFill := by
      intro snapshot lastFill fill hlatest hlast hmem hlt
      rw [repairMissingPortfolioSnapshot_of_latest hlast hlatest, if_neg]
      rw [covered_of_newer hlast hmem hlt]
      rintro ⟨hstamp, hle⟩
      obtain ⟨hlastNewer, -⟩ := h snapshot hlatest ⟨fill, hmem, hlt⟩
      exact absurd (hlastNewer lastFill hlast hstamp) (not_lt.mpr hle)
    constructor
    · rintro snapshot hlatest ⟨fill, hmem, hlt⟩
      obtain ⟨lastFill, hlast⟩ := exists_latestFill hmem
      obtain ⟨-, hrest⟩ := h snapshot hlatest ⟨fill, hmem, hlt⟩
      rw [hexit snapshot lastFill fill hlatest hlast hmem hlt]
      exact (rebuildAndPersist_includes_iff hlatest).mpr hrest
    · intro snapshot history hlatest hnone fill hmem
      by_contra hlt
      obtain ⟨lastFill, hlast⟩ := exists_latestFill hmem
      rw [hexit snapshot lastFill fill hlatest hlast hmem (not_le.mp hlt)] at hnone
      exact returned_rebuildAndPersist hnone

/-- Two fills of which the one that was executed first comes in last, after the snapshot that is
stamped with the other. -/
def lateFill : RepairInputs where
  livePrice := fun _ => 1
  now := 30
  bootstrapPortfolioFromExchange := false
  fills := [boughtAt "late" (5, 20), boughtAt "last" (10, 11)]
  nodup_fillId := by decide
  history := [{ baselineAt 12 (initialState 0) with sourceFillId := some "last" }]

theorem late_fill_not_repaired :
    ¬ ∀ (inputs : RepairInputs) (reason : String), RepairsMissing inputs reason := by
  intro h
  have hup := (h lateFill "background_refresh").givesUp _ lateFill.history rfl (by rfl)
    (boughtAt "late" (5, 20)) List.mem_cons_self
  revert hup
  decide

end Aats.Recovery
