import Aats.Recovery.PortfolioRecovery
import Aats.Recovery.RecoveryStatus

/-!
# Fills without an outcome

`_detect_and_compensate_fill_gaps` (`execution_engine/recovery.py`) replays all fills from a fresh
state, with the initial balance and without the baseline, and makes an outcome for every fill that
has none. With the outbox publisher an outcome is saved together with a snapshot of the replay
at that fill. Saving is modelled as it goes when no write fails.

## Main definitions
* `backfill` — the replay, with an entry for every fill that lacks an outcome.
* `recover` — `ExecutionRecoveryService.recover`: the portfolio part, the gaps, the decision.
-/

namespace Aats.Recovery

open Portfolio
open Governance (KillSwitch)

/-! ### The replay -/

structure Backfilled where
  fill : FillRecord
  result : FillApplicationResult
  before : PortfolioState
  after : PortfolioState
  deriving DecidableEq

/-- `get_outcome` finds nothing. -/
def lacksOutcome (outcomes : List FillOutcome) (fill : FillRecord) : Bool :=
  outcomes.all (fun outcome => outcome.fillId ≠ fill.fillId)

/-- The loop of `_detect_and_compensate_fill_gaps`. -/
def backfill (outcomes : List FillOutcome) :
    PortfolioState → List FillRecord → Except UnsupportedFeeCurrencyError (List Backfilled)
  | _, [] => .ok []
  | state, fill :: fills =>
    match state.applyFill fill.toFillEvent with
    | .error e => .error e
    | .ok (result, next) =>
      match backfill outcomes next fills with
      | .error e => .error e
      | .ok entries =>
        .ok (if lacksOutcome outcomes fill && result.applied then
          { fill := fill
            result := result
            before := state
            after := next } :: entries
        else entries)

/-- The outcome of a backfilled fill, `from_fill_and_balance_delta`. -/
def Backfilled.outcome (entry : Backfilled) : FillOutcome where
  fillId := entry.fill.fillId
  startingPositionQty := entry.result.startingQuantity
  startingAvgEntryPrice := entry.result.startingAvgEntryPrice
  endingPositionQty := entry.result.endingQuantity
  endingAvgEntryPrice := entry.result.endingAvgEntryPrice
  realizedPnlDelta := entry.result.realizedPnlDelta
  feeDelta := entry.result.feeDelta
  balancesBefore := entry.before.balances
  balancesAfter := entry.after.balances

/-- The snapshot that is saved with an outcome, at live prices. -/
def Backfilled.snapshot (inputs : PortfolioInputs) (entry : Backfilled) : PortfolioSnapshot :=
  buildSnapshot inputs.livePrice .fillDerived (some entry.fill.fillId) inputs.now
    inputs.productType inputs.marginMode entry.after

/-- `_detect_and_compensate_fill_gaps`: the backfilled fills. -/
def fillGaps (inputs : PortfolioInputs) : Except UnsupportedFeeCurrencyError (List Backfilled) :=
  match inputs.outcomes with
  | none => .ok []
  | some outcomes =>
    backfill outcomes (initialState inputs.effectiveInitialBalance) (sortedFills inputs.fills)

def gapSnapshots (inputs : PortfolioInputs) (gaps : List Backfilled) : List PortfolioSnapshot :=
  if inputs.hasOutboxPublisher = true then gaps.map (Backfilled.snapshot inputs) else []

/-! ### The whole recovery -/

/-- What `recover` leaves: the portfolio in memory, the snapshots and outcomes of the scope, the
status and the kill switch. -/
structure Recovered where
  memory : PortfolioState
  history : List PortfolioSnapshot
  backfilled : List FillOutcome
  divergenceCount : ℕ
  status : RecoveryStatus
  killSwitch : KillSwitch

/-- `latest_snapshot_for_scope` after the recovery. -/
def Recovered.latestSnapshot (recovered : Recovered) : Option PortfolioSnapshot :=
  recovered.history.getLast?

def historyAfter (inputs : PortfolioInputs) (restored : Restored) (gaps : List Backfilled) :
    List PortfolioSnapshot :=
  inputs.history ++ restored.saved ++ gapSnapshots inputs gaps

/-- The inputs of the deciding part: what the portfolio part has found. -/
def withPortfolioFacts (decision : RecoveryInputs) (inputs : PortfolioInputs)
    (history : List PortfolioSnapshot) : RecoveryInputs :=
  { decision with
    bootstrapPortfolioFromExchange := inputs.bootstrapPortfolioFromExchange
    hasFills := !inputs.fills.isEmpty
    hasSnapshot := inputs.latestSnapshot.isSome
    hasSnapshotAfter := inputs.latestSnapshot.isSome || history.getLast?.isSome }

def recover (inputs : PortfolioInputs) (decision : RecoveryInputs) (orders : List LedgerOrder)
    (ks : KillSwitch) : Except UnsupportedFeeCurrencyError Recovered :=
  match restorePortfolio inputs with
  | .error e => .error e
  | .ok restored =>
    match fillGaps inputs with
    | .error e => .error e
    | .ok gaps =>
      let history := historyAfter inputs restored gaps
      let decided := recoverBase (withPortfolioFacts decision inputs history) orders ks
      .ok
        { memory := restored.memory
          history := history
          backfilled := gaps.map Backfilled.outcome
          divergenceCount := restored.divergenceCount
          status := decided.1
          killSwitch := decided.2 }

/-! ### What is backfilled -/

def applications (state : PortfolioState) (fills : List FillRecord) :
    Except UnsupportedFeeCurrencyError (List Backfilled) :=
  backfill [] state fills

theorem lacksOutcome_nil (fill : FillRecord) : lacksOutcome [] fill = true := rfl

theorem backfill_eq_filter (outcomes : List FillOutcome) (state : PortfolioState)
    (fills : List FillRecord) :
    backfill outcomes state fills =
      (applications state fills).map
        (List.filter (fun entry => lacksOutcome outcomes entry.fill)) := by
  unfold applications
  induction fills generalizing state with
  | nil => rfl
  | cons fill fills ih =>
    simp only [backfill]
    cases state.applyFill fill.toFillEvent with
    | error e => rfl
    | ok applied =>
      simp only []
      rw [ih applied.2, lacksOutcome_nil, Bool.true_and]
      cases backfill [] applied.2 fills with
      | error e => rfl
      | ok entries =>
        by_cases happlied : applied.1.applied = true
        · by_cases hlacks : lacksOutcome outcomes fill = true
          · simp [Except.map, happlied, hlacks]
          · simp [Except.map, happlied, hlacks]
        · simp [Except.map, happlied]

theorem applications_cons {state : PortfolioState} {fill : FillRecord} {fills : List FillRecord}
    {entries : List Backfilled} (h : applications state (fill :: fills) = .ok entries) :
    ∃ result next rest, state.applyFill fill.toFillEvent = .ok (result, next) ∧
      applications next fills = .ok rest ∧
      entries = if result.applied = true then
          { fill := fill
            result := result
            before := state
            after := next } :: rest
        else rest := by
  unfold applications at h ⊢
  simp only [backfill] at h
  cases happly : state.applyFill fill.toFillEvent with
  | error e =>
    rw [happly] at h
    cases h
  | ok applied =>
    rw [happly] at h
    simp only [] at h
    cases hrest : backfill [] applied.2 fills with
    | error e =>
      rw [hrest] at h
      cases h
    | ok rest =>
      simp only [hrest, lacksOutcome_nil, Bool.true_and, Except.ok.injEq] at h
      exact ⟨applied.1, applied.2, rest, rfl, hrest, h.symm⟩

theorem fills_applications_sublist {state : PortfolioState} {fills : List FillRecord}
    {entries : List Backfilled} (h : applications state fills = .ok entries) :
    (entries.map (·.fill)).Sublist fills := by
  induction fills generalizing state entries with
  | nil =>
    cases h
    exact List.Sublist.refl _
  | cons fill fills ih =>
    obtain ⟨result, next, rest, -, hrest, rfl⟩ := applications_cons h
    split
    · exact (ih hrest).cons_cons fill
    · exact (ih hrest).cons fill

structure Backfilled.Books (entry : Backfilled) (fee : ℚ) : Prop where
  fee_eq : fillFeeDeltaInQuote entry.fill.toFillEvent (baseOf entry.fill.toFillEvent)
    (quoteOf entry.fill.toFillEvent) = .ok fee
  result_eq : entry.result = (entry.before.bookFill entry.fill.toFillEvent fee).1
  after_eq : entry.after = (entry.before.bookFill entry.fill.toFillEvent fee).2

theorem books_of_applied {state next : PortfolioState} {fill : FillRecord}
    {result : FillApplicationResult} (h : state.applyFill fill.toFillEvent = .ok (result, next))
    (happlied : result.applied = true) :
    ∃ fee, Backfilled.Books { fill := fill, result := result, before := state, after := next } fee := by
  by_cases hid : fill.fillId ∈ state.appliedFillIds
  · rw [PortfolioState.applyFill, if_pos (by simpa using hid)] at h
    cases h
    cases happlied
  · rw [PortfolioState.applyFill_of_new hid] at h
    cases hfee : fillFeeDeltaInQuote fill.toFillEvent (baseOf fill.toFillEvent)
        (quoteOf fill.toFillEvent) with
    | error e =>
      rw [hfee] at h
      cases h
    | ok fee =>
      rw [hfee] at h
      cases h
      exact ⟨fee, hfee, rfl, rfl⟩

theorem books_of_applications {state : PortfolioState} {fills : List FillRecord}
    {entries : List Backfilled} {entry : Backfilled} (h : applications state fills = .ok entries)
    (hmem : entry ∈ entries) : ∃ fee, entry.Books fee := by
  induction fills generalizing state entries with
  | nil =>
    cases h
    cases hmem
  | cons fill fills ih =>
    obtain ⟨result, next, rest, happly, hrest, rfl⟩ := applications_cons h
    split at hmem
    · next happlied =>
      rcases List.mem_cons.mp hmem with rfl | hin
      · exact books_of_applied happly happlied
      · exact ih hrest hin
    · exact ih hrest hmem

theorem backfill_isOk (outcomes : List FillOutcome) (state : PortfolioState)
    {fills : List FillRecord} (h : ∀ fill ∈ fills, FeeSupported fill.toFillEvent) :
    ∃ entries, backfill outcomes state fills = .ok entries := by
  induction fills generalizing state with
  | nil => exact ⟨[], rfl⟩
  | cons fill fills ih =>
    obtain ⟨hfill, hfills⟩ := List.forall_mem_cons.mp h
    obtain ⟨result, next, happly⟩ := applyFill_isOk state hfill
    obtain ⟨entries, hentries⟩ := ih next hfills
    simp only [backfill, happly, hentries]
    exact ⟨_, rfl⟩

theorem fillGaps_isOk {inputs : PortfolioInputs}
    (h : ∀ fill ∈ inputs.fills, FeeSupported fill.toFillEvent) :
    ∃ gaps, fillGaps inputs = .ok gaps := by
  unfold fillGaps
  cases inputs.outcomes with
  | none => exact ⟨[], rfl⟩
  | some outcomes =>
    apply backfill_isOk
    intro fill hmem
    exact h fill (mem_sortedFills.mp hmem)

/-! ### A recovery from a stored snapshot -/

/-- What a recovery leaves that has a latest snapshot, a rebuilt state and gaps. -/
structure RecoveredFrom (inputs : PortfolioInputs) (latest : PortfolioSnapshot)
    (state : PortfolioState) (gaps : List Backfilled) (recovered : Recovered) : Prop where
  memory : ∃ fees, recovered.memory =
    loadPortfolioSnapshot (adopted inputs latest state) (appliedIds inputs.fills) fees
  divergence :
    recovered.divergenceCount = divergenceCount latest (rebuiltSnapshot inputs latest state)
  backfilled : recovered.backfilled = gaps.map Backfilled.outcome
  latestSnapshot :
    recovered.latestSnapshot = (gapSnapshots inputs gaps).getLast?.or (adopted inputs latest state)

section Recover

variable {inputs : PortfolioInputs} {decision : RecoveryInputs} {orders : List LedgerOrder}
  {ks : KillSwitch} {latest : PortfolioSnapshot} {recovered : Recovered}

theorem recover_of_latest (hlatest : inputs.latestSnapshot = some latest)
    (h : recover inputs decision orders ks = .ok recovered) : ∃ state gaps,
      (∀ fill ∈ inputs.fills, FeeSupported fill.toFillEvent) ∧
      rebuiltState inputs inputs.fills = .ok state ∧ fillGaps inputs = .ok gaps ∧
      RecoveredFrom inputs latest state gaps recovered := by
  unfold recover restorePortfolio at h
  rw [hlatest] at h
  simp only [] at h
  cases hrestored : validateSnapshot inputs latest with
  | error e =>
    rw [hrestored] at h
    cases h
  | ok restored =>
    obtain ⟨fees, state, hfees, hstate, hvalue⟩ := validateSnapshot_eq_ok.mp hrestored
    rw [hrestored] at h
    simp only [] at h
    cases hgaps : fillGaps inputs with
    | error e =>
      rw [hgaps] at h
      cases h
    | ok gaps =>
      rw [hgaps] at h
      cases h
      refine ⟨state, gaps, totalFeeDeltaInQuote_isOk.mp ⟨fees, hfees⟩, hstate, rfl, ?_⟩
      refine ⟨⟨fees, by rw [hvalue]⟩, by rw [hvalue], rfl, ?_⟩
      -- a rebuilt snapshot that diverges was saved, otherwise the latest one is still the last
      have hbefore : (inputs.history ++ restored.saved).getLast? =
          some (adopted inputs latest state) := by
        rw [List.getLast?_append, hvalue]
        by_cases hzero : divergenceCount latest (rebuiltSnapshot inputs latest state) = 0
        · have hhistory : inputs.history.getLast? = some latest := hlatest
          simp [adopted, hzero, hhistory]
        · simp [hzero]
      show (historyAfter inputs restored gaps).getLast? = _
      unfold historyAfter
      rw [List.getLast?_append, hbefore]

theorem recover_isOk (hlatest : inputs.latestSnapshot = some latest) :
    (∃ recovered, recover inputs decision orders ks = .ok recovered) ↔
      ∀ fill ∈ inputs.fills, FeeSupported fill.toFillEvent := by
  constructor
  · rintro ⟨recovered, h⟩
    obtain ⟨state, gaps, hfees, -⟩ := recover_of_latest hlatest h
    exact hfees
  · intro hfees
    obtain ⟨fees, htotal⟩ := totalFeeDeltaInQuote_isOk.mpr hfees
    obtain ⟨state, hstate⟩ := rebuiltState_isOk hfees
    obtain ⟨gaps, hgaps⟩ := fillGaps_isOk hfees
    have hrestored : ∃ restored, validateSnapshot inputs latest = .ok restored :=
      ⟨_, validateSnapshot_eq_ok.mpr ⟨fees, state, htotal, hstate, rfl⟩⟩
    obtain ⟨restored, hrestored⟩ := hrestored
    unfold recover restorePortfolio
    rw [hlatest]
    simp only [hrestored, hgaps]
    exact ⟨_, rfl⟩

end Recover

end Aats.Recovery
