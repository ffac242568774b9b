import Aats.Lib.Runs
import Aats.Portfolio.FifoAndAverage
import Aats.Portfolio.SettlementPosting

/-!
# The ledger-backed portfolio

`LedgerBackedPortfolioService` of `services/projections/ledger_portfolio.py`. It keeps no running
totals. For every fill event it rebuilds the lot book twice, from the saved fills without this
one and from all of them, and what it derives and posts for the fill is the difference. Fills are
saved by others, so a run is any interleaving of saves with the handling of events; a save may
come between the two reads of the fills. The handler itself does not yield in between, and all it
writes is one commit.

The differences add up to a full rebuild if the fill is the only one that is saved and not
processed yet. If another one waits, its effect is in both rebuilds, and the PnL that the two
make together is derived twice: once for each of them.

## Main definitions
* `LedgerPortfolio.step` — a save, or a part of `handle_fill_event`.

## Main results
* `deltas_add_up` — the deltas of a run in which no other fill ever waits.
-/

namespace Aats.Portfolio

open Runs

/-! ### The service -/

/-- `FillOutcomeRecord`, with the projection that was posted for the fill. -/
structure LedgerOutcome where
  fillId : String
  startingAvgEntryPrice : ℚ
  endingAvgEntryPrice : ℚ
  realizedPnlDelta : ℚ
  projection : FillSettlementProjection
  deriving DecidableEq

/-- A `handle_fill_event` that has rebuilt the state before its fill. -/
structure Preparing where
  fill : FillRecord
  before : LotBook

structure LedgerPortfolio where
  saved : List FillRecord := []
  outcomes : List LedgerOutcome := []
  preparing : Option Preparing := none

inductive LedgerPortfolioLabel
  /-- `execution_repo.save_fill`. -/
  | saveFill (fill : FillRecord)
  /-- `handle_fill_event` up to the state before the fill. -/
  | prepare (fill : FillRecord)
  /-- The rest of it, which may fail before its commit. -/
  | settle (commits : Bool)

def ledgerOutcome (fill : FillRecord) (before after : LotBook) : LedgerOutcome :=
  let key := positionKeyForFill fill.toFillEvent
  let realizedPnlDelta := after.netRealizedPnl - before.netRealizedPnl
  let feeDelta := after.totalFeesPaid - before.totalFeesPaid
  { fillId := fill.fillId
    startingAvgEntryPrice := ((before.positionOf key).map (·.avgEntryPrice)).getD 0
    endingAvgEntryPrice := ((after.positionOf key).map (·.avgEntryPrice)).getD 0
    realizedPnlDelta := realizedPnlDelta
    projection :=
      { baseCurrency := baseOf fill.toFillEvent
        quoteCurrency := quoteOf fill.toFillEvent
        startingQuantity := before.quantityOf key
        endingQuantity := after.quantityOf key
        realizedPnlDelta := realizedPnlDelta + feeDelta
        feeDelta := feeDelta } }

namespace LedgerPortfolio

/-- `get_outcome` finds an outcome. -/
def hasOutcome (service : LedgerPortfolio) (fillId : String) : Bool :=
  service.outcomes.any (·.fillId = fillId)

/-- `save_fill`: the first fill of an id stays. -/
def saveFill (service : LedgerPortfolio) (fill : FillRecord) : LedgerPortfolio :=
  if service.saved.any (·.fillId = fill.fillId) then service
  else { service with saved := service.saved ++ [fill] }

/-- `handle_fill_event` up to the state before the fill. -/
def prepare (service : LedgerPortfolio) (fill : FillRecord) : LedgerPortfolio :=
  if service.hasOutcome fill.fillId then service
  else
    { service with
      preparing := some
        { fill := fill
          before := rebuildLotBook (service.saved.filter (·.fillId ≠ fill.fillId)) } }

/-- The rest of `handle_fill_event`: a fill that the rebuild does not apply is left, and a failed
transaction leaves nothing. -/
def settle (service : LedgerPortfolio) (preparing : Preparing) (commits : Bool) :
    LedgerPortfolio :=
  let after := rebuildLotBook service.saved
  -- the fills that were saved in the meantime are in `after`, but not in `preparing.before`
  if preparing.fill.fillId ∈ after.appliedFillIds ∧ commits = true then
    { service with
      outcomes := service.outcomes ++ [ledgerOutcome preparing.fill preparing.before after]
      preparing := none }
  else { service with preparing := none }

/-- One step; only one event is handled at a time. -/
def step (service : LedgerPortfolio) (label : LedgerPortfolioLabel) : Option LedgerPortfolio :=
  match label, service.preparing with
  | .saveFill fill, _ => some (service.saveFill fill)
  | .prepare fill, none => some (service.prepare fill)
  | .prepare _, some _ => none
  | .settle _, none => none
  | .settle commits, some preparing => some (service.settle preparing commits)

def processed (service : LedgerPortfolio) : List FillRecord :=
  service.saved.filter (fun fill => service.hasOutcome fill.fillId)

def postedPnl (service : LedgerPortfolio) : ℚ :=
  (service.outcomes.map (·.projection.realizedPnlDelta)).sum

def derivedFees (service : LedgerPortfolio) : ℚ :=
  (service.outcomes.map (·.projection.feeDelta)).sum

def derivedPnl (service : LedgerPortfolio) : ℚ :=
  (service.outcomes.map (·.realizedPnlDelta)).sum

structure AddUpTo (service : LedgerPortfolio) (book : LotBook) : Prop where
  pnl : service.postedPnl = book.realizedPnl
  fees : service.derivedFees = book.totalFeesPaid
  net : service.derivedPnl = book.netRealizedPnl

/-- Every saved fill is processed; one whose fee is not supported never is. -/
def AllProcessed (service : LedgerPortfolio) : Prop :=
  ∀ fill ∈ service.saved, service.hasOutcome fill.fillId = true ∨ isQuarantined fill = true

instance (service : LedgerPortfolio) : Decidable service.AllProcessed :=
  inferInstanceAs (Decidable (∀ fill ∈ service.saved,
    service.hasOutcome fill.fillId = true ∨ isQuarantined fill = true))

def OthersProcessed (service : LedgerPortfolio) : LedgerPortfolioLabel → Prop
  | .settle _ =>
    ∀ preparing ∈ service.preparing, ∀ fill ∈ service.saved,
      fill.fillId ≠ preparing.fill.fillId →
        service.hasOutcome fill.fillId = true ∨ isQuarantined fill = true
  | .saveFill _ => True
  | .prepare _ => True

instance (service : LedgerPortfolio) : ∀ label, Decidable (service.OthersProcessed label)
  | .settle _ =>
    inferInstanceAs (Decidable (∀ preparing ∈ service.preparing, ∀ fill ∈ service.saved,
      fill.fillId ≠ preparing.fill.fillId →
        service.hasOutcome fill.fillId = true ∨ isQuarantined fill = true))
  | .saveFill _ => .isTrue trivial
  | .prepare _ => .isTrue trivial

end LedgerPortfolio

/-! ### Rebuilds -/

theorem realizedPnl_rebuild_congr {fills others : List FillRecord}
    (h : acceptedFills fills = acceptedFills others) :
    (rebuildLotBook fills).realizedPnl = (rebuildLotBook others).realizedPnl ∧
    (rebuildLotBook fills).totalFeesPaid = (rebuildLotBook others).totalFeesPaid := by
  have hcore : (rebuildLotBook fills).core = (rebuildLotBook others).core := by
    rw [core_rebuildLotBook fills, core_rebuildLotBook others, h]
  have hpnl : (rebuildLotBook fills).core.realizedPnl = (rebuildLotBook others).core.realizedPnl := by
    rw [hcore]
  have hfees : (rebuildLotBook fills).core.totalFeesPaid =
      (rebuildLotBook others).core.totalFeesPaid := by
    rw [hcore]
  exact ⟨hpnl, hfees⟩

theorem acceptedFills_congr {fills : List FillRecord} {p q : FillRecord → Bool}
    (h : ∀ fill ∈ fills, isQuarantined fill = false → p fill = q fill) :
    acceptedFills (fills.filter p) = acceptedFills (fills.filter q) := by
  unfold acceptedFills
  rw [List.filter_filter, List.filter_filter]
  apply List.filter_congr
  intro fill hmem
  cases hq : isQuarantined fill with
  | true => rfl
  | false => rw [h fill hmem hq]

namespace LedgerPortfolio

variable {service : LedgerPortfolio}

theorem hasOutcome_iff {fillId : String} :
    service.hasOutcome fillId = true ↔ ∃ outcome ∈ service.outcomes, outcome.fillId = fillId := by
  simp [hasOutcome]

theorem rebuild_of_processed (h : service.AllProcessed) :
    (rebuildLotBook service.processed).realizedPnl = (rebuildLotBook service.saved).realizedPnl ∧
    (rebuildLotBook service.processed).totalFeesPaid =
      (rebuildLotBook service.saved).totalFeesPaid := by
  apply realizedPnl_rebuild_congr
  have hall : service.saved.filter (fun _ => true) = service.saved := by simp
  conv_rhs => rw [← hall]
  apply acceptedFills_congr
  intro fill hmem hq
  rcases h fill hmem with hdone | hno
  · exact hdone
  · rw [hq] at hno
    cases hno

/-! ### Sums of deltas -/

theorem AddUpTo.congr {book other : LotBook} (h : service.AddUpTo book)
    (hpnl : book.realizedPnl = other.realizedPnl)
    (hfees : book.totalFeesPaid = other.totalFeesPaid) : service.AddUpTo other where
  pnl := h.pnl.trans hpnl
  fees := h.fees.trans hfees
  net := by
    rw [h.net, LotBook.netRealizedPnl, LotBook.netRealizedPnl, hpnl, hfees]

theorem AddUpTo.concat {before after : LotBook} (h : service.AddUpTo before) (fill : FillRecord) :
    AddUpTo
      { service with
        outcomes := service.outcomes ++ [ledgerOutcome fill before after]
        preparing := none } after where
  pnl := by
    have hposted := h.pnl
    unfold postedPnl at hposted ⊢
    rw [List.map_append, List.sum_append, hposted, List.map_singleton, List.sum_singleton]
    simp only [ledgerOutcome, LotBook.netRealizedPnl]
    ring
  fees := by
    have hderived := h.fees
    unfold derivedFees at hderived ⊢
    rw [List.map_append, List.sum_append, hderived, List.map_singleton, List.sum_singleton]
    simp only [ledgerOutcome]
    ring
  net := by
    have hderived := h.net
    unfold derivedPnl at hderived ⊢
    rw [List.map_append, List.sum_append, hderived, List.map_singleton, List.sum_singleton]
    simp only [ledgerOutcome]
    ring

/-! ### The invariant -/

/-- What a prepared event knows: its book is of the fills that were saved then, and all outcomes
are among those. -/
structure PreparedOn (service : LedgerPortfolio) (preparing : Preparing) : Prop where
  fresh : service.hasOutcome preparing.fill.fillId = false
  before : ∃ early later, service.saved = early ++ later ∧
    preparing.before = rebuildLotBook (early.filter (·.fillId ≠ preparing.fill.fillId)) ∧
    ∀ outcome ∈ service.outcomes, outcome.fillId ∈ early.map (·.fillId)

structure Inv (service : LedgerPortfolio) : Prop where
  nodup : (service.saved.map (·.fillId)).Nodup
  known : ∀ outcome ∈ service.outcomes, outcome.fillId ∈ service.saved.map (·.fillId)
  sums : service.AddUpTo (rebuildLotBook service.processed)
  prepared : ∀ preparing, service.preparing = some preparing → service.PreparedOn preparing

theorem inv_start : Inv {} where
  nodup := List.nodup_nil
  known := by simp
  sums := ⟨rfl, rfl, (sub_zero (0 : ℚ)).symm⟩
  prepared := by simp

theorem inv_saveFill (h : service.Inv) (fill : FillRecord) : (service.saveFill fill).Inv := by
  unfold saveFill
  split
  · exact h
  · next hnew =>
    have hfresh : fill.fillId ∉ service.saved.map (·.fillId) := by
      intro hmem
      obtain ⟨other, hother, hid⟩ := List.mem_map.mp hmem
      exact hnew (by simpa using ⟨other, hother, hid⟩)
    have hno : service.hasOutcome fill.fillId = false := by
      rw [Bool.eq_false_iff]
      intro hyes
      obtain ⟨outcome, hmem, hid⟩ := hasOutcome_iff.mp hyes
      exact hfresh (hid ▸ h.known outcome hmem)
    have hprocessed : processed { service with saved := service.saved ++ [fill] } =
        service.processed := by
      unfold processed
      rw [List.filter_append]
      have hlast : [fill].filter (fun fill => service.hasOutcome fill.fillId) = [] := by
        simp [hno]
      exact (congrArg _ hlast).trans (List.append_nil _)
    refine ⟨?_, ?_, ?_, ?_⟩
    · rw [List.map_append, List.nodup_append]
      refine ⟨h.nodup, List.nodup_singleton _, ?_⟩
      rintro id hid other hother rfl
      rw [List.map_singleton, List.mem_singleton] at hother
      exact hfresh (hother ▸ hid)
    · intro outcome hmem
      rw [List.map_append]
      exact List.mem_append_left _ (h.known outcome hmem)
    · rw [hprocessed]
      exact ⟨h.sums.pnl, h.sums.fees, h.sums.net⟩
    · -- the fill comes after those that the event has seen
      intro preparing hpreparing
      obtain ⟨hfresh', early, later, hsplit, hbook, hknown⟩ := h.prepared preparing hpreparing
      refine ⟨hfresh', early, later ++ [fill], ?_, hbook, hknown⟩
      rw [hsplit, List.append_assoc]

theorem inv_prepare (h : service.Inv) (fill : FillRecord) : (service.prepare fill).Inv := by
  unfold prepare
  split
  · exact h
  · next hnew =>
    refine ⟨h.nodup, h.known, ⟨h.sums.pnl, h.sums.fees, h.sums.net⟩, ?_⟩
    intro preparing hpreparing
    obtain rfl := Option.some.inj hpreparing
    exact ⟨Bool.eq_false_iff.mpr hnew, service.saved, [], (List.append_nil _).symm, rfl, h.known⟩

theorem PreparedOn.before_eq {preparing : Preparing} (h : service.PreparedOn preparing)
    (hnodup : (service.saved.map (·.fillId)).Nodup)
    (hothers : ∀ fill ∈ service.saved, fill.fillId ≠ preparing.fill.fillId →
      service.hasOutcome fill.fillId = true ∨ isQuarantined fill = true) :
    preparing.before.realizedPnl = (rebuildLotBook service.processed).realizedPnl ∧
    preparing.before.totalFeesPaid = (rebuildLotBook service.processed).totalFeesPaid := by
  obtain ⟨hfresh, early, later, hsplit, hbook, hknown⟩ := h
  have hlater : service.processed =
      early.filter (fun fill => service.hasOutcome fill.fillId) := by
    unfold processed
    rw [hsplit, List.filter_append]
    have hnone : later.filter (fun fill => service.hasOutcome fill.fillId) = [] := by
      rw [List.filter_eq_nil_iff]
      intro fill hmem hyes
      obtain ⟨outcome, houtcome, hid⟩ := hasOutcome_iff.mp hyes
      rw [hsplit, List.map_append, List.nodup_append] at hnodup
      exact hnodup.2.2 _ (hknown outcome houtcome) _ (List.mem_map_of_mem hmem) hid
    rw [hnone, List.append_nil]
  -- of the fills saved by then, the ones without an outcome are its own and those put aside
  rw [hlater, hbook]
  apply realizedPnl_rebuild_congr
  apply acceptedFills_congr
  intro fill hmem hq
  have hsaved : fill ∈ service.saved := by
    rw [hsplit]
    exact List.mem_append_left _ hmem
  by_cases hself : fill.fillId = preparing.fill.fillId
  · rw [hself, hfresh]
    simp
  · rcases hothers fill hsaved hself with hdone | hno
    · rw [hdone]
      simpa using hself
    · rw [hq] at hno
      cases hno

theorem inv_settle (h : service.Inv) {preparing : Preparing} (commits : Bool)
    (hpreparing : service.preparing = some preparing)
    (hothers : ∀ fill ∈ service.saved, fill.fillId ≠ preparing.fill.fillId →
      service.hasOutcome fill.fillId = true ∨ isQuarantined fill = true) :
    (service.settle preparing commits).Inv := by
  unfold settle
  extract_lets after
  split
  · next happlies =>
    obtain ⟨hpnl, hfees⟩ := (h.prepared preparing hpreparing).before_eq h.nodup hothers
    obtain ⟨fill, hmem, -, hid⟩ := mem_appliedFillIds_rebuildLotBook.mp happlies.1
    -- the rebuild of all saved fills is one of those with an outcome now
    have hdone : AllProcessed
        { service with
          outcomes := service.outcomes ++ [ledgerOutcome preparing.fill preparing.before after]
          preparing := none } := by
      intro other hother
      by_cases hself : other.fillId = preparing.fill.fillId
      · refine .inl (hasOutcome_iff.mpr ⟨_, List.mem_append_right _ (List.mem_singleton_self _), ?_⟩)
        exact hself.symm
      · refine (hothers other hother hself).imp ?_ id
        intro hyes
        obtain ⟨outcome, houtcome, hout⟩ := hasOutcome_iff.mp hyes
        exact hasOutcome_iff.mpr ⟨outcome, List.mem_append_left _ houtcome, hout⟩
    obtain ⟨hafterPnl, hafterFees⟩ := rebuild_of_processed hdone
    refine ⟨h.nodup, ?_, ?_, by simp⟩
    · intro outcome houtcome
      rcases List.mem_append.mp houtcome with houtcome | houtcome
      · exact h.known outcome houtcome
      · rw [List.mem_singleton.mp houtcome]
        exact List.mem_map.mpr ⟨fill, hmem, hid⟩
    · have hbefore : service.AddUpTo preparing.before := h.sums.congr hpnl.symm hfees.symm
      exact (hbefore.concat preparing.fill).congr hafterPnl.symm hafterFees.symm
  · exact ⟨h.nodup, h.known, ⟨h.sums.pnl, h.sums.fees, h.sums.net⟩, by simp⟩

/-- **A step that leaves no other fill waiting keeps the sums right.** -/
theorem inv_step {label : LedgerPortfolioLabel} {next : LedgerPortfolio} (h : service.Inv)
    (hothers : service.OthersProcessed label) (hstep : service.step label = some next) :
    next.Inv := by
  unfold step at hstep
  cases label with
  | saveFill fill =>
    obtain rfl := Option.some.inj hstep
    exact inv_saveFill h fill
  | prepare fill =>
    cases hp : service.preparing with
    | some preparing => simp [hp] at hstep
    | none =>
      simp only [hp, Option.some.injEq] at hstep
      rw [← hstep]
      exact inv_prepare h fill
  | settle commits =>
    cases hp : service.preparing with
    | none => simp [hp] at hstep
    | some preparing =>
      simp only [hp, Option.some.injEq] at hstep
      rw [← hstep]
      exact inv_settle h commits hp (hothers preparing hp)

end LedgerPortfolio

open LedgerPortfolio

/-- **The deltas add up to a full rebuild** in every run in which no other saved fill waits to be
processed when one is settled: to a rebuild of the processed fills at every point, and to one of
all saved fills once they are processed. -/
theorem deltas_add_up {labels : List LedgerPortfolioLabel} {service : LedgerPortfolio}
    (hmeets : Meets LedgerPortfolio.step OthersProcessed {} labels)
    (hrun : run LedgerPortfolio.step {} labels = some service) :
    service.AddUpTo (rebuildLotBook service.processed) ∧
    (service.AllProcessed → service.AddUpTo (rebuildLotBook service.saved)) := by
  have hinv : service.Inv :=
    run_invariant_of_meets (fun _ _ _ hi hok hs => inv_step hi hok hs) inv_start hmeets hrun
  refine ⟨hinv.sums, ?_⟩
  intro hall
  obtain ⟨hpnl, hfees⟩ := rebuild_of_processed hall
  exact hinv.sums.congr hpnl hfees

def roundTripBuy : FillRecord :=
  { fillId := "f1", symbol := "BTC-USDT-SWAP", side := .buy, fillQty := 1, fillPrice := 100,
    feeAmount := 1, productType := .derivatives, exchangeTimestamp := 1, ingestionTimestamp := 1 }

def roundTripSell : FillRecord :=
  { roundTripBuy with fillId := "f2", side := .sell, fillPrice := 110, exchangeTimestamp := 2 }

/-- Each fill is handled when it is saved, the first one again after a failed commit. -/
def handledInTurn : List LedgerPortfolioLabel :=
  [.saveFill roundTripBuy, .prepare roundTripBuy, .settle false, .prepare roundTripBuy,
    .settle true, .saveFill roundTripSell, .prepare roundTripSell, .settle true]

theorem deltas_add_up_handledInTurn :
    ∃ service, run LedgerPortfolio.step {} handledInTurn = some service ∧
      Meets LedgerPortfolio.step OthersProcessed {} handledInTurn ∧
      service.AddUpTo (rebuildLotBook service.saved) ∧
      service.postedPnl = 10 ∧ service.derivedFees = 2 := by
  have hsome : (run LedgerPortfolio.step {} handledInTurn).isSome = true := by decide +kernel
  obtain ⟨service, hrun⟩ := Option.isSome_iff_exists.mp hsome
  have hmeets : Meets LedgerPortfolio.step OthersProcessed {} handledInTurn := by decide +kernel
  have hend : (run LedgerPortfolio.step {} handledInTurn).map (fun service =>
      (decide service.AllProcessed, service.postedPnl, service.derivedFees)) =
      some (true, 10, 2) := by
    decide +kernel
  rw [hrun, Option.map_some, Option.some_inj, Prod.mk.injEq, Prod.mk.injEq, decide_eq_true_iff]
    at hend
  exact ⟨service, hrun, hmeets, (deltas_add_up hmeets hrun).2 hend.1, hend.2.1, hend.2.2⟩

/-- Both fills are saved before the first one is handled. -/
def savedTogether : List LedgerPortfolioLabel :=
  [.saveFill roundTripBuy, .saveFill roundTripSell, .prepare roundTripBuy, .settle true,
    .prepare roundTripSell, .settle true]

/-- **A PnL derived twice**: the lot that the sell closes is in the rebuild with the buy and not in
the one without it, so the PnL of the close is the delta of the buy as well as of the sell. -/
theorem savedTogether_derives_twice :
    ¬ ∀ (labels : List LedgerPortfolioLabel) (service : LedgerPortfolio),
      run LedgerPortfolio.step {} labels = some service → service.AllProcessed →
        service.AddUpTo (rebuildLotBook service.saved) := by
  intro h
  have hsome : (run LedgerPortfolio.step {} savedTogether).isSome = true := by decide +kernel
  obtain ⟨service, hrun⟩ := Option.isSome_iff_exists.mp hsome
  have hend : (run LedgerPortfolio.step {} savedTogether).map (fun service =>
      (decide service.AllProcessed, service.postedPnl,
        (rebuildLotBook service.saved).realizedPnl)) = some (true, 20, 10) := by
    decide +kernel
  rw [hrun, Option.map_some, Option.some_inj, Prod.mk.injEq, Prod.mk.injEq, decide_eq_true_iff]
    at hend
  have hpnl := (h savedTogether service hrun hend.1).pnl
  rw [hend.2.1, hend.2.2] at hpnl
  norm_num at hpnl

end Aats.Portfolio
