import Aats.Recovery.RestoredPortfolio

/-!
# One truth after a recovery

After a recovery the latest stored snapshot should say what the portfolio in memory holds, and a
backfilled outcome should be that of its fill applied on the baseline.

The gaps are filled from another replay than the one the portfolio is restored from: it starts
with the initial balance and leaves the baseline out. And every backfilled outcome comes with a
snapshot of that replay at its fill, so that the latest stored snapshot is the one at the last
fill without an outcome, whatever comes after it.

## Main results
* `sameFigures_iff` — two applications of a fill have the same figures exactly if the fill meets
  the same position.
-/

namespace Aats.Recovery

open Portfolio
open Governance (KillSwitch)

/-! ### What a recovery should leave -/

structure SamePortfolio (snapshot : PortfolioSnapshot) (state : PortfolioState) : Prop where
  balances : ∀ currency,
    snapshot.balances.balance currency = state.balances.balance currency
  quantities : ∀ key, snapshot.quantityOf key = state.quantityOf key
  entryPrices : ∀ key, snapshot.avgEntryPriceOf key = state.avgEntryPriceOf key

/-- An outcome has the realized PnL, fee and quantities of an application. -/
structure SameFigures (outcome : FillOutcome) (result : FillApplicationResult) : Prop where
  realizedPnl : outcome.realizedPnlDelta = result.realizedPnlDelta
  fee : outcome.feeDelta = result.feeDelta
  startingQuantity : outcome.startingPositionQty = result.startingQuantity
  endingQuantity : outcome.endingPositionQty = result.endingQuantity

/-- The applications of the rebuild: of the fills in processing order, on the baseline. -/
def baselineApplications (inputs : PortfolioInputs) :
    Except UnsupportedFeeCurrencyError (List Backfilled) :=
  applications inputs.baselineStart (inputs.baselineFills inputs.fills)

/-- The latest snapshot says what is in memory, and each backfilled outcome what its fill does on
the baseline. -/
structure OneTruth (inputs : PortfolioInputs) (recovered : Recovered) : Prop where
  latest : ∀ latest, recovered.latestSnapshot = some latest → SamePortfolio latest recovered.memory
  outcomes : ∀ references, baselineApplications inputs = .ok references →
    ∀ outcome ∈ recovered.backfilled, ∀ reference ∈ references,
      reference.fill.fillId = outcome.fillId → SameFigures outcome reference.result

def LeavesOneTruth (inputs : PortfolioInputs) (decision : RecoveryInputs)
    (orders : List LedgerOrder) (ks : KillSwitch) : Prop :=
  ∀ latest recovered, inputs.latestSnapshot = some latest →
    recover inputs decision orders ks = .ok recovered → OneTruth inputs recovered

/-! ### The figures of an application -/

/-- Two states have the same position for a fill: the same quantity, and the same entry price if
the fill reduces it. -/
structure MeetsSamePosition (fill : FillEvent) (before before' : PortfolioState) : Prop where
  quantity : before.quantityOf (positionKeyForFill fill) =
    before'.quantityOf (positionKeyForFill fill)
  entryPrice : sameDirection (before.quantityOf (positionKeyForFill fill)) (signedQty fill) = false →
    before.avgEntryPriceOf (positionKeyForFill fill) =
      before'.avgEntryPriceOf (positionKeyForFill fill)

section Figures

variable (state : PortfolioState) (fill : FillEvent) (fee : ℚ)

theorem bookFill_startingQuantity :
    (state.bookFill fill fee).1.startingQuantity = state.quantityOf (positionKeyForFill fill) :=
  state.existingRecord_quantity fill

theorem bookFill_endingQuantity :
    (state.bookFill fill fee).1.endingQuantity =
      if isEffectivelyZero (state.booking fill).1 then 0 else (state.booking fill).1 := by
  show ((((state.bookFill fill fee).2.positions.lookup (positionKeyForFill fill))).getD
    { symbol := fill.symbol, positionKey := some (positionKeyForFill fill) }).quantity = _
  rw [PortfolioState.lookup_bookFill_self]
  split
  · rfl
  · rfl

theorem bookFill_realizedPnlDelta :
    (state.bookFill fill fee).1.realizedPnlDelta = (state.booking fill).2.2 - fee := by
  have hsum := PortfolioState.bookFill_tradingPnl state fill fee
  have hfee : (state.bookFill fill fee).1.feeDelta = fee := rfl
  rw [hfee] at hsum
  linarith

end Figures

theorem bookQuantity_pnl_eq_iff {q signed price avg avg' : ℚ} :
    (bookQuantity q avg signed price).2.2 = (bookQuantity q avg' signed price).2.2 ↔
      (sameDirection q signed = false → avg = avg') := by
  unfold bookQuantity
  by_cases hsame : sameDirection q signed = true
  · simp [hsame]
  · rw [Bool.not_eq_true] at hsame
    have hclosing : min |q| |signed| ≠ 0 := by
      have hnot : ¬ (|q| ≤ epsilon12 ∨ |signed| ≤ epsilon12) := by
        intro hsmall
        rw [sameDirection, if_pos hsmall] at hsame
        cases hsame
      rw [not_or, not_le, not_le] at hnot
      exact (lt_min (epsilon12_pos.trans hnot.1) (epsilon12_pos.trans hnot.2)).ne'
    simp only [hsame, Bool.false_eq_true, if_false, true_implies]
    split
    · rw [mul_left_inj' hclosing, sub_right_inj]
    · rw [mul_left_inj' hclosing, sub_left_inj]

theorem sameFigures_iff {entry reference : Backfilled} {fee : ℚ} (hentry : entry.Books fee)
    (hreference : reference.Books fee) (hfill : reference.fill = entry.fill) :
    SameFigures entry.outcome reference.result ↔
      MeetsSamePosition entry.fill.toFillEvent entry.before reference.before := by
  obtain ⟨-, hresult, -⟩ := hentry
  obtain ⟨-, hresult', -⟩ := hreference
  rw [hfill] at hresult'
  constructor
  · rintro ⟨hpnl, -, hstarting, -⟩
    -- the figures show the quantity met, and with it the entry price behind the PnL
    have hquantity : entry.before.quantityOf (positionKeyForFill entry.fill.toFillEvent) =
        reference.before.quantityOf (positionKeyForFill entry.fill.toFillEvent) := by
      change entry.result.startingQuantity = _ at hstarting
      rwa [hresult, hresult', bookFill_startingQuantity, bookFill_startingQuantity] at hstarting
    refine ⟨hquantity, ?_⟩
    change entry.result.realizedPnlDelta = _ at hpnl
    rw [hresult, hresult', bookFill_realizedPnlDelta, bookFill_realizedPnlDelta, sub_left_inj] at hpnl
    unfold PortfolioState.booking at hpnl
    rw [← hquantity] at hpnl
    exact bookQuantity_pnl_eq_iff.mp hpnl
  · rintro ⟨hquantity, hentryPrice⟩
    have hpnl : (entry.before.booking entry.fill.toFillEvent).2.2 =
        (reference.before.booking entry.fill.toFillEvent).2.2 := by
      unfold PortfolioState.booking
      rw [← hquantity]
      exact bookQuantity_pnl_eq_iff.mpr hentryPrice
    have hending : (entry.before.booking entry.fill.toFillEvent).1 =
        (reference.before.booking entry.fill.toFillEvent).1 := by
      unfold PortfolioState.booking
      rw [bookQuantity_quantity, bookQuantity_quantity, hquantity]
    refine ⟨?_, ?_, ?_, ?_⟩
    · show entry.result.realizedPnlDelta = _
      rw [hresult, hresult', bookFill_realizedPnlDelta, bookFill_realizedPnlDelta, hpnl]
    · show entry.result.feeDelta = _
      rw [hresult, hresult']
      rfl
    · show entry.result.startingQuantity = _
      rw [hresult, hresult', bookFill_startingQuantity, bookFill_startingQuantity, hquantity]
    · show entry.result.endingQuantity = _
      rw [hresult, hresult', bookFill_endingQuantity, bookFill_endingQuantity, hending]

/-! ### The gaps as a choice of applications -/

/-- The applications of the replay that the gaps are filled from: of all fills in processing
order, on the initial balance. -/
def freshApplications (inputs : PortfolioInputs) :
    Except UnsupportedFeeCurrencyError (List Backfilled) :=
  applications (initialState inputs.effectiveInitialBalance) (sortedFills inputs.fills)

/-- Those of fills without an outcome; none where outcomes are not stored. -/
def missing (inputs : PortfolioInputs) (entries : List Backfilled) : List Backfilled :=
  match inputs.outcomes with
  | none => []
  | some outcomes => entries.filter (fun entry => lacksOutcome outcomes entry.fill)

theorem fillGaps_eq {inputs : PortfolioInputs} {entries : List Backfilled}
    (h : freshApplications inputs = .ok entries) :
    fillGaps inputs = .ok (missing inputs entries) := by
  unfold fillGaps missing
  cases inputs.outcomes with
  | none => rfl
  | some outcomes =>
    simp only []
    rw [backfill_eq_filter]
    unfold freshApplications at h
    rw [h]
    rfl

theorem missing_subset {inputs : PortfolioInputs} {entries : List Backfilled} {entry : Backfilled}
    (h : entry ∈ missing inputs entries) : entry ∈ entries := by
  unfold missing at h
  split at h
  · cases h
  · exact List.mem_of_mem_filter h

theorem freshApplications_isOk {inputs : PortfolioInputs}
    (h : ∀ fill ∈ inputs.fills, FeeSupported fill.toFillEvent) :
    ∃ entries, freshApplications inputs = .ok entries :=
  backfill_isOk _ _ (fun fill hmem => h fill (mem_sortedFills.mp hmem))

theorem sameFigures_of_replays {inputs : PortfolioInputs} {entries references : List Backfilled}
    {entry reference : Backfilled} (hentries : freshApplications inputs = .ok entries)
    (hreferences : baselineApplications inputs = .ok references)
    (hentry : entry ∈ entries) (hreference : reference ∈ references)
    (hid : reference.fill.fillId = entry.fill.fillId) :
    SameFigures entry.outcome reference.result ↔
      MeetsSamePosition entry.fill.toFillEvent entry.before reference.before := by
  have hfill := (fills_applications_sublist hentries).subset (List.mem_map_of_mem hentry)
  have hfill' := (fills_applications_sublist hreferences).subset (List.mem_map_of_mem hreference)
  obtain ⟨fee, hbooks⟩ := books_of_applications hentries hentry
  obtain ⟨fee', hbooks'⟩ := books_of_applications hreferences hreference
  -- fill ids are unique, so both replays book the same fill
  have hsame : reference.fill = entry.fill :=
    List.inj_on_of_nodup_map inputs.nodup_fillId (mem_baselineFills hfill')
      (mem_sortedFills.mp hfill) hid
  have hfee : fee' = fee := by
    have heq := hbooks'.fee_eq
    rw [hsame, hbooks.fee_eq] at heq
    exact (Except.ok.inj heq).symm
  rw [hfee] at hbooks'
  exact sameFigures_iff hbooks hbooks' hsame

/-! ### When the latest snapshot agrees with what is loaded -/

/-- No position of a snapshot counts as flat without being nothing. -/
def NothingFlat (snapshot : PortfolioSnapshot) : Prop :=
  ∀ key, isEffectivelyZero (snapshot.quantityOf key) = true →
    snapshot.quantityOf key = 0 ∧ snapshot.avgEntryPriceOf key = 0

structure ReplayAgrees (replayed : PortfolioState) (snapshot : PortfolioSnapshot) : Prop where
  balances : ∀ currency, quantizeDecimal (replayed.balances.balance currency) =
    snapshot.balances.balance currency
  flat : ∀ key, isEffectivelyZero (snapshot.quantityOf key) = true →
    quantizeDecimal (replayed.quantityOf key) = 0 ∧
    quantizeDecimal (replayed.avgEntryPriceOf key) = 0
  held : ∀ key, isEffectivelyZero (snapshot.quantityOf key) = false →
    quantizeDecimal (replayed.quantityOf key) = snapshot.quantityOf key ∧
    quantizeDecimal (replayed.avgEntryPriceOf key) = snapshot.avgEntryPriceOf key

/-- The snapshot that is saved last agrees with the loaded one: that of the last gap, or the
loaded one itself if none is saved for a gap. -/
def LatestAgrees (inputs : PortfolioInputs) (loaded : PortfolioSnapshot)
    (gaps : List Backfilled) : Prop :=
  match gaps.getLast?, inputs.hasOutboxPublisher with
  | some last, true => ReplayAgrees last.after loaded
  | _, _ => NothingFlat loaded

theorem samePortfolio_load_iff (snapshot : PortfolioSnapshot) (ids : Finset String) (fees : ℚ) :
    SamePortfolio snapshot (loadPortfolioSnapshot snapshot ids fees) ↔ NothingFlat snapshot := by
  constructor
  · intro h key hflat
    have hquantity := h.quantities key
    have hentry := h.entryPrices key
    rw [quantityOf_load, if_pos hflat] at hquantity
    rw [avgEntryPriceOf_load, if_pos hflat] at hentry
    exact ⟨hquantity, hentry⟩
  · intro h
    refine ⟨fun currency => (balance_load _ _ _ currency).symm, ?_, ?_⟩
    · intro key
      rw [quantityOf_load]
      split
      · next hflat => exact (h key hflat).1
      · rfl
    · intro key
      rw [avgEntryPriceOf_load]
      split
      · next hflat => exact (h key hflat).2
      · rfl

theorem samePortfolio_snapshot_iff (inputs : PortfolioInputs) (entry : Backfilled)
    (loaded : PortfolioSnapshot) (ids : Finset String) (fees : ℚ) :
    SamePortfolio (entry.snapshot inputs) (loadPortfolioSnapshot loaded ids fees) ↔
      ReplayAgrees entry.after loaded := by
  unfold Backfilled.snapshot
  constructor
  · rintro ⟨hbalances, hquantities, hentryPrices⟩
    simp only [balance_buildSnapshot, balance_load] at hbalances
    simp only [quantityOf_buildSnapshot, quantityOf_load] at hquantities
    simp only [avgEntryPriceOf_buildSnapshot, avgEntryPriceOf_load] at hentryPrices
    refine ⟨hbalances, ?_, ?_⟩
    · intro key hflat
      have hquantity := hquantities key
      have hentry := hentryPrices key
      rw [if_pos hflat] at hquantity hentry
      exact ⟨hquantity, hentry⟩
    · intro key hheld
      have hquantity := hquantities key
      have hentry := hentryPrices key
      rw [if_neg (by simp [hheld])] at hquantity hentry
      exact ⟨hquantity, hentry⟩
  · rintro ⟨hbalances, hflat, hheld⟩
    refine ⟨?_, ?_, ?_⟩
    · intro currency
      rw [balance_buildSnapshot, balance_load]
      exact hbalances currency
    · intro key
      rw [quantityOf_buildSnapshot, quantityOf_load]
      split
      · next hzero => exact (hflat key hzero).1
      · next hzero => exact (hheld key (by simpa using hzero)).1
    · intro key
      rw [avgEntryPriceOf_buildSnapshot, avgEntryPriceOf_load]
      split
      · next hzero => exact (hflat key hzero).2
      · next hzero => exact (hheld key (by simpa using hzero)).2

section RecoveredFrom

variable {inputs : PortfolioInputs} {latest : PortfolioSnapshot} {state : PortfolioState}
  {gaps : List Backfilled} {recovered : Recovered}

theorem RecoveredFrom.latest_iff (h : RecoveredFrom inputs latest state gaps recovered) :
    (∀ stored, recovered.latestSnapshot = some stored → SamePortfolio stored recovered.memory) ↔
      LatestAgrees inputs (adopted inputs latest state) gaps := by
  obtain ⟨fees, hmemory⟩ := h.memory
  have hstored := h.latestSnapshot
  -- without a snapshot of a gap the last one stored is the one that was loaded
  have hnone : (gapSnapshots inputs gaps).getLast? = none →
      ((∀ stored, recovered.latestSnapshot = some stored →
        SamePortfolio stored recovered.memory) ↔ NothingFlat (adopted inputs latest state)) := by
    intro hgaps
    rw [hgaps, Option.none_or] at hstored
    rw [hstored, hmemory, ← samePortfolio_load_iff _ (appliedIds inputs.fills) fees]
    simp
  unfold LatestAgrees
  unfold gapSnapshots at hstored hnone
  cases hlast : gaps.getLast? with
  | none =>
    apply hnone
    split
    · rw [List.getLast?_map, hlast]
      rfl
    · rfl
  | some last =>
    cases hpublisher : inputs.hasOutboxPublisher with
    | false =>
      apply hnone
      rw [hpublisher]
      rfl
    | true =>
      rw [hpublisher, if_pos rfl, List.getLast?_map, hlast] at hstored
      have hagrees := samePortfolio_snapshot_iff inputs last (adopted inputs latest state)
        (appliedIds inputs.fills) fees
      rw [hstored, hmemory]
      simpa using hagrees

end RecoveredFrom

/-! ### When a recovery leaves one truth -/

/-- The snapshot that is saved last agrees with the loaded one, and each fill without an outcome
meets the same position in both replays. -/
structure OneTruthWhen (inputs : PortfolioInputs) (latest : PortfolioSnapshot) : Prop where
  latest : ∀ state entries, rebuiltState inputs inputs.fills = .ok state →
    freshApplications inputs = .ok entries →
    LatestAgrees inputs (adopted inputs latest state) (missing inputs entries)
  outcomes : ∀ entries references, freshApplications inputs = .ok entries →
    baselineApplications inputs = .ok references →
    ∀ entry ∈ missing inputs entries, ∀ reference ∈ references,
      reference.fill.fillId = entry.fill.fillId →
      MeetsSamePosition entry.fill.toFillEvent entry.before reference.before

def secondContract : FillRecord :=
  { boughtContract with
    fillId := "f2"
    exchangeTimestamp := 2
    ingestionTimestamp := 2 }

def twoContracts : PortfolioState :=
  (replay (initialState 1000)
    [boughtContract.toFillEvent, secondContract.toFillEvent]).toOption.getD {}

/-- A start whose snapshot reflects both fills, of which the first lacks its outcome. -/
def earlyGap : PortfolioInputs where
  reconstructionInitialBalance := 1000
  effectiveInitialBalance := 1000
  livePrice := fun _ => 100
  now := 5
  fills := [boughtContract, secondContract]
  nodup_fillId := by decide
  history :=
    [buildSnapshot (fun _ => 100) .fillDerived (some "f2") 2 .derivatives .cross twoContracts]
  outcomes := some
    [{ fillId := "f2"
       startingPositionQty := 1
       startingAvgEntryPrice := 100
       endingPositionQty := 2
       endingAvgEntryPrice := 100
       realizedPnlDelta := 0
       feeDelta := 0
       balancesBefore := AList.insert "USDT" 1000 ∅
       balancesAfter := AList.insert "USDT" 1000 ∅ }]

def quantitiesAfter (inputs : PortfolioInputs) (key : String) : Option (ℚ × ℚ) :=
  match recover inputs contractDecision [] (KillSwitch.initial "ksgen" 0) with
  | .error _ => none
  | .ok recovered =>
    recovered.latestSnapshot.map
      (fun latest => (latest.quantityOf key, recovered.memory.quantityOf key))

end Aats.Recovery
