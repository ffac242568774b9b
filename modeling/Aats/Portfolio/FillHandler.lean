import Aats.Lib.Runs
import Aats.Portfolio.Outbox

/-!
# Applying fills exactly once

`PortfolioService._handle_fill_event_inner` with the outbox publisher. Deliveries are
serialized by the fill lock, so a run is a list of deliveries, each with the faults the
environment injects into it. A delivery that raises restores the checkpoint taken before
`apply_fill`; a redelivered fill with a recorded outcome is only marked as applied.

These two rules keep memory and record together as long as nothing raises *after* the
commit. A raise after the commit restores memory although the outcome is durable, and the
redelivery then takes the recorded outcome for an effect that memory never got back.

## Main results
* `deliver_keeps_replay` — one delivery that is quiet after its commit keeps memory equal to
  the replay of the record.
-/

namespace Aats.Portfolio

open Runs

/-! ### Checkpoints -/

structure PortfolioStateCheckpoint where
  positions : Positions
  balances : Balances
  realizedPnl : ℚ
  totalFeesPaid : ℚ
  appliedFillIds : Finset String
  loadedFromExchangeSnapshot : Bool

def PortfolioState.checkpoint (state : PortfolioState) : PortfolioStateCheckpoint where
  positions := state.positions
  balances := state.balances
  realizedPnl := state.realizedPnl
  totalFeesPaid := state.totalFeesPaid
  appliedFillIds := state.appliedFillIds
  loadedFromExchangeSnapshot := state.loadedFromExchangeSnapshot

def PortfolioState.restore (state : PortfolioState) (checkpoint : PortfolioStateCheckpoint) :
    PortfolioState :=
  { state with
    positions := checkpoint.positions
    balances := checkpoint.balances
    realizedPnl := checkpoint.realizedPnl
    totalFeesPaid := checkpoint.totalFeesPaid
    appliedFillIds := checkpoint.appliedFillIds
    loadedFromExchangeSnapshot := checkpoint.loadedFromExchangeSnapshot }

@[simp] theorem PortfolioState.restore_checkpoint (state later : PortfolioState) :
    later.restore state.checkpoint = state := rfl

/-! ### One delivery -/

structure PortfolioService where
  state : PortfolioState
  db : Database
  deriving DecidableEq

structure Delivery where
  fill : FillEvent
  /-- The `SELECT` of `get_outcome` raises. -/
  getOutcomeRaises : Bool := false
  /-- Building the snapshot (or reading a price for it) raises. -/
  snapshotRaises : Bool := false
  /-- The fate of the projection transaction, its pre-commit actions included. -/
  fate : TransactionFate := .commits
  flush : FlushFaults := {}

/-- `_handle_fill_event_inner` with an outbox publisher. -/
def handleFillEventInner (svc : PortfolioService) (d : Delivery) : Completion × PortfolioService :=
  if svc.state.hasAppliedFill d.fill.fillId then (.returned, svc)
  else if d.getOutcomeRaises then (.raised, svc)
  else
    match svc.db.getOutcome d.fill.fillId with
    | some _ => (.returned, { svc with state := svc.state.markFillApplied d.fill.fillId })
    | none =>
      let checkpoint := svc.state.checkpoint
      match svc.state.applyFill d.fill with
      | .error _ => (.raised, { svc with state := svc.state.restore checkpoint })
      | .ok (result, applied) =>
        if !result.applied then (.returned, { svc with state := applied })
        else if d.snapshotRaises then
          (.raised, { svc with state := applied.restore checkpoint })
        else
          let delta := balanceDeltaEvent d.fill checkpoint.balances applied.balances
            result.realizedPnlDelta result.feeDelta
          let outcome := FillOutcomeRecord.fromFillAndBalanceDelta delta result
          match persistFillProjection svc.db outcome d.fate d.flush with
          | (.returned, db) => (.returned, { state := applied, db := db })
          | (.raised, db) => (.raised, { state := applied.restore checkpoint, db := db })

def deliver (svc : PortfolioService) (d : Delivery) : Option PortfolioService :=
  some (handleFillEventInner svc d).2

/-- A service with the given memory, before any fill was recorded. -/
def PortfolioService.start (base : PortfolioState) (outbox : Outbox) (nextEventId : ℕ) :
    PortfolioService where
  state := base
  db := { outbox := outbox, nextEventId := nextEventId }

/-! ### Memory against record -/

/-- Two states with the same positions, balances, realized PnL and fees. -/
def SameBooks (a b : PortfolioState) : Prop :=
  a.positions = b.positions ∧ a.balances = b.balances ∧ a.realizedPnl = b.realizedPnl ∧
    a.totalFeesPaid = b.totalFeesPaid

instance (a b : PortfolioState) : Decidable (SameBooks a b) :=
  inferInstanceAs (Decidable (_ ∧ _ ∧ _ ∧ _))

/-- Memory holds the books one gets by applying each durably recorded fill once, in the
order of the commits, to `base`. -/
def BooksMatchRecord (base : PortfolioState) (svc : PortfolioService) : Prop :=
  match replay base svc.db.recordedFills with
  | .ok replayed => SameBooks svc.state replayed
  | .error _ => False

instance (base : PortfolioState) (svc : PortfolioService) : Decidable (BooksMatchRecord base svc) :=
  match h : replay base svc.db.recordedFills with
  | .ok replayed => decidable_of_iff (SameBooks svc.state replayed) (by rw [BooksMatchRecord, h])
  | .error _ => .isFalse (by simp [BooksMatchRecord, h])

/-- The invariant of quiet runs: memory *is* the replay of the record, applied ids included. -/
def MemoryIsReplay (base : PortfolioState) (svc : PortfolioService) : Prop :=
  replay base svc.db.recordedFills = .ok svc.state

theorem MemoryIsReplay.booksMatchRecord {base : PortfolioState} {svc : PortfolioService}
    (h : MemoryIsReplay base svc) : BooksMatchRecord base svc := by
  rw [BooksMatchRecord, h]
  exact ⟨rfl, rfl, rfl, rfl⟩

/-- Nothing raises after the transaction of this delivery has committed. -/
def Delivery.QuietAfterCommit (d : Delivery) : Prop :=
  d.fate ≠ .raisesAfterCommit ∧ d.flush.Quiet

theorem persistFillProjection_cases {db : Database} {outcome : FillOutcomeRecord}
    (hnone : db.getOutcome outcome.fill.fillId = none) (d : Delivery) :
    persistFillProjection db outcome d.fate d.flush = (.raised, db) ∨
    ∃ c db', persistFillProjection db outcome d.fate d.flush = (c, db') ∧
      db'.recordedFills = db.recordedFills ++ [outcome.fill] ∧
      (c = .raised → ¬ d.QuietAfterCommit) := by
  cases hfate : d.fate with
  | raises => exact .inl rfl
  | raisesAfterCommit =>
    refine .inr ⟨_, _, rfl, Database.recordedFills_persist hnone, ?_⟩
    intro _ hq
    exact hq.1 hfate
  | commits =>
    refine .inr ⟨(persistFillProjection db outcome .commits d.flush).1, _, rfl,
      Database.recordedFills_persist hnone, ?_⟩
    intro hc hq
    rw [persistFillProjection_returned hq.2 db outcome] at hc
    cases hc

/-- **What one delivery can do.**  The fill is known to memory and nothing happens; or an
exception leaves memory and database as they were; or the fill is recorded but unknown to
memory and is only marked; or the fill is recorded now, and memory either has its effect or,
after an exception behind the commit, does not. -/
theorem handleFillEventInner_cases (svc : PortfolioService) (d : Delivery) :
    (d.fill.fillId ∈ svc.state.appliedFillIds ∧ handleFillEventInner svc d = (.returned, svc)) ∨
    handleFillEventInner svc d = (.raised, svc) ∨
    (d.fill.fillId ∉ svc.state.appliedFillIds ∧ (∃ f ∈ svc.db.recordedFills,
        f.fillId = d.fill.fillId) ∧
      handleFillEventInner svc d =
        (.returned, { svc with state := svc.state.markFillApplied d.fill.fillId })) ∨
    ∃ result applied db, svc.state.applyFill d.fill = .ok (result, applied) ∧
      db.recordedFills = svc.db.recordedFills ++ [d.fill] ∧
      (handleFillEventInner svc d = (.returned, { state := applied, db := db }) ∨
       handleFillEventInner svc d = (.raised, { state := svc.state, db := db }) ∧
        ¬ d.QuietAfterCommit) := by
  by_cases hid : d.fill.fillId ∈ svc.state.appliedFillIds
  · exact .inl ⟨hid, by simp [handleFillEventInner, hid]⟩
  right
  by_cases hget : d.getOutcomeRaises
  · exact .inl (by simp [handleFillEventInner, hid, hget])
  cases hout : svc.db.getOutcome d.fill.fillId with
  | some o =>
    refine .inr (.inl ⟨hid, ?_, by simp [handleFillEventInner, hid, hget, hout]⟩)
    by_contra hno
    push Not at hno
    rw [Database.getOutcome_eq_none.mpr hno] at hout
    cases hout
  | none =>
    rcases svc.state.applyFill_cases d.fill with ⟨hin, -⟩ | ⟨-, e, ha⟩ | ⟨-, fee, ha⟩
    · exact absurd hin hid
    · exact .inl (by simp [handleFillEventInner, hid, hget, hout, ha])
    by_cases hsnap : d.snapshotRaises
    · exact .inl (by simp [handleFillEventInner, hid, hget, hout, ha, hsnap])
    -- the fill reaches the transaction
    generalize hb : svc.state.bookFill d.fill fee = booked at ha
    obtain ⟨result, applied⟩ := booked
    have happlied : result.applied = true := by
      rw [← PortfolioState.bookFill_applied svc.state d.fill fee, hb]
    generalize ho : FillOutcomeRecord.fromFillAndBalanceDelta (balanceDeltaEvent d.fill
      svc.state.checkpoint.balances applied.balances result.realizedPnlDelta result.feeDelta)
      result = outcome
    have hfill : outcome.fill = d.fill := by
      rw [← ho]
      rfl
    have hnone : svc.db.getOutcome outcome.fill.fillId = none := by rw [hfill, hout]
    rcases persistFillProjection_cases hnone d with hp | ⟨c, db, hp, hrec, hc⟩
    · exact .inl (by simp [handleFillEventInner, hid, hget, hout, ha, happlied, hsnap, ho, hp])
    · rw [hfill] at hrec
      refine .inr (.inr ⟨result, applied, db, ha, hrec, ?_⟩)
      cases c with
      | returned =>
        exact .inl (by simp [handleFillEventInner, hid, hget, hout, ha, happlied, hsnap, ho, hp])
      | raised =>
        exact .inr ⟨by simp [handleFillEventInner, hid, hget, hout, ha, happlied, hsnap, ho, hp],
          hc rfl⟩

/-! ### Quiet runs -/

theorem deliver_keeps_replay {base : PortfolioState} (svc : PortfolioService) (d : Delivery)
    (next : PortfolioService) (hinv : MemoryIsReplay base svc) (hq : d.QuietAfterCommit)
    (hstep : deliver svc d = some next) : MemoryIsReplay base next := by
  rw [deliver, Option.some.injEq] at hstep
  rcases handleFillEventInner_cases svc d with
    ⟨-, h⟩ | h | ⟨hid, hf, -⟩ | ⟨result, applied, db, ha, hrec, h | ⟨-, hnq⟩⟩
  · rw [← hstep, h]
    exact hinv
  · rw [← hstep, h]
    exact hinv
  · -- a recorded fill was replayed, so memory knows its id: this branch is not reached
    exact absurd ((mem_appliedFillIds_of_replay hinv).mpr (.inr hf)) hid
  · rw [← hstep, h]
    show replay base db.recordedFills = .ok applied
    rw [hrec]
    exact replay_concat hinv ha
  · exact absurd hq hnq

/-- **Fills are applied exactly once** in every run in which nothing raises after a commit:
at every normal return memory is the replay, in commit order, of the recorded fills. -/
theorem books_match_record_at_return (base : PortfolioState) (outbox : Outbox) (nextEventId : ℕ)
    (deliveries : List Delivery) (d : Delivery) (before after : PortfolioService)
    (hq : ∀ e ∈ deliveries ++ [d], e.QuietAfterCommit)
    (hrun : run deliver (.start base outbox nextEventId) deliveries = some before)
    (hret : handleFillEventInner before d = (.returned, after)) :
    BooksMatchRecord base after := by
  have hmeets : Meets deliver (fun _ e => e.QuietAfterCommit) (.start base outbox nextEventId)
      deliveries := meets_of_forall fun e he _ => hq e (List.mem_append_left _ he)
  have hstart : MemoryIsReplay base (.start base outbox nextEventId) := replay_nil base
  have hbefore : MemoryIsReplay base before :=
    run_invariant_of_meets deliver_keeps_replay hstart hmeets hrun
  have hstep : deliver before d = some after := by rw [deliver, hret]
  exact (deliver_keeps_replay before d after hbefore (hq d (by simp)) hstep).booksMatchRecord

/-- A buy of one coin, delivered first with a snapshot failure and then again without. -/
def coinBuy : FillEvent where
  fillId := "fill-1"
  symbol := "BTC-USDT"
  venue := "OKX"
  side := .buy
  fillQty := 1
  fillPrice := 100
  feeAmount := 1 / 1000

def thousandUsdt : PortfolioState where
  balances := (∅ : Balances).insert "USDT" 1000

theorem books_match_record_after_retry :
    BooksMatchRecord thousandUsdt
      (handleFillEventInner (.start thousandUsdt [] 0) { fill := coinBuy }).2 :=
  books_match_record_at_return thousandUsdt [] 0 [{ fill := coinBuy, snapshotRaises := true }]
    { fill := coinBuy } (.start thousandUsdt [] 0) _
    (by
      intro e he
      simp only [List.cons_append, List.nil_append, List.mem_cons, List.not_mem_nil, or_false] at he
      rcases he with rfl | rfl
      · exact ⟨by decide, fun _ => rfl⟩
      · exact ⟨by decide, fun _ => rfl⟩)
    (by decide +kernel) (by decide +kernel)

/-! ### A raise after the commit -/

/-- A flush whose `pending` query raises. -/
def pendingRaises : FlushFaults where
  callRaises call := decide (call = .pending)

/-- Memory and database after a flush that raised behind the commit of `coinBuy`. -/
def afterFlushRaise : PortfolioService :=
  (handleFillEventInner (.start thousandUsdt [] 0) { fill := coinBuy, flush := pendingRaises }).2

theorem books_miss_fill_after_flush_raise :
    ¬ ∀ (base : PortfolioState) (outbox : Outbox) (nextEventId : ℕ) (deliveries : List Delivery)
        (d : Delivery) (before after : PortfolioService),
      run deliver (.start base outbox nextEventId) deliveries = some before →
      handleFillEventInner before d = (.returned, after) → BooksMatchRecord base after := by
  intro h
  have hbooks := h thousandUsdt [] 0 [{ fill := coinBuy, flush := pendingRaises }]
    { fill := coinBuy } afterFlushRaise (handleFillEventInner afterFlushRaise { fill := coinBuy }).2
    rfl (by decide +kernel)
  revert hbooks
  decide +kernel

end Aats.Portfolio
