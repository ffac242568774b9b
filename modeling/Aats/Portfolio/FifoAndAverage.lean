import Aats.Portfolio.LotBook

/-!
# The FIFO lot book and the average-cost portfolio

The lot book closes the oldest lots first, the portfolio books at average cost, so they realize
different PnL on a partial close. Both make a sound trade of every fill, though, and so they
account for the same trades: the quantity under every position key is the same, and so is realized
plus unrealized PnL at every mark price.

They part over a fill without quantity: the portfolio pays its fee, the lot book skips it.

## Main results
* `booksAgree_of_fills` — they agree on all fills on a grid whose fees are supported, as long as
  a fill without quantity has no fee.
-/

namespace Aats.Portfolio

open Holdings

variable {step : ℚ}

/-! ### Positions of the lot book -/

/-- The unrealized PnL of a position at a mark price; an absent position has none. -/
def unrealizedPnl (position : Option PositionRecord) (mark : ℚ) : ℚ :=
  match position with
  | none => 0
  | some record => record.quantity * (mark - record.avgEntryPrice)

def LotBook.quantityOf (book : LotBook) (key : String) : ℚ :=
  ((book.positionOf key).map (·.quantity)).getD 0

def LotBook.realizedOf (book : LotBook) (key : String) : ℚ := (book.holdingOf key).profit

/-- The realized PnL of `rebuild_portfolio_state`. -/
def LotBook.netRealizedPnl (book : LotBook) : ℚ := book.realizedPnl - book.totalFeesPaid

section Lots

variable {lots : List PositionLot}

theorem lotQuantity_pos (hne : lots ≠ []) (h : ∀ lot ∈ lots, 0 < lot.quantity) :
    0 < lotQuantity lots := by
  induction lots with
  | nil => exact absurd rfl hne
  | cons lot lots ih =>
    have hhead := h lot List.mem_cons_self
    rw [lotQuantity_cons]
    by_cases hlots : lots = []
    · simpa [hlots] using hhead
    · exact add_pos hhead (ih hlots (fun other hmem => h other (List.mem_cons_of_mem _ hmem)))

theorem lotQuantity_neg (hne : lots ≠ []) (h : ∀ lot ∈ lots, lot.quantity < 0) :
    lotQuantity lots < 0 := by
  induction lots with
  | nil => exact absurd rfl hne
  | cons lot lots ih =>
    have hhead := h lot List.mem_cons_self
    rw [lotQuantity_cons]
    by_cases hlots : lots = []
    · simpa [hlots] using hhead
    · exact add_neg hhead (ih hlots (fun other hmem => h other (List.mem_cons_of_mem _ hmem)))

theorem onGrid_lotQuantity (h : Aligned step lots) : OnGrid step (lotQuantity lots) := by
  induction lots with
  | nil => exact onGrid_zero step
  | cons lot lots ih =>
    rw [lotQuantity_cons]
    exact (h.onGrid lot List.mem_cons_self).add (ih h.tail)

theorem Aligned.lotQuantity_ne_zero (h : Aligned step lots) (hne : lots ≠ []) :
    lotQuantity lots ≠ 0 := by
  rcases h.side with hs | hs
  · exact (lotQuantity_pos hne hs).ne'
  · exact (lotQuantity_neg hne hs).ne

theorem sum_abs_cost_of_neg (h : ∀ lot ∈ lots, lot.quantity < 0) :
    (lots.map (fun lot => |lot.quantity| * lot.entryPrice)).sum = -lotCost lots := by
  induction lots with
  | nil => simp
  | cons lot lots ih =>
    have hrest := ih (fun other hmem => h other (List.mem_cons_of_mem _ hmem))
    rw [List.map_cons, List.sum_cons, hrest, lotCost_cons, abs_of_neg (h lot List.mem_cons_self)]
    ring

theorem Aligned.quantity_mul_mean (h : Aligned step lots) (hne : lots ≠ []) :
    lotQuantity lots *
      ((lots.map (fun lot => |lot.quantity| * lot.entryPrice)).sum / |lotQuantity lots|) =
      lotCost lots := by
  have hquantity := h.lotQuantity_ne_zero hne
  rcases h.side with hs | hs
  · have hcost : (lots.map (fun lot => |lot.quantity| * lot.entryPrice)).sum = lotCost lots := by
      unfold lotCost
      congr 1
      apply List.map_congr_left
      intro lot hmem
      rw [abs_of_pos (hs lot hmem)]
    rw [hcost, abs_of_pos (lotQuantity_pos hne hs)]
    field_simp
  · rw [sum_abs_cost_of_neg hs, abs_of_neg (lotQuantity_neg hne hs)]
    field_simp

end Lots

theorem LotBook.positionOf_spec {book : LotBook} {key : String} (hstep : epsilon12 < step)
    (h : Aligned step (book.lotsOf key)) :
    (book.positionOf key = none ↔ lotQuantity (book.lotsOf key) = 0) ∧
    book.quantityOf key = lotQuantity (book.lotsOf key) ∧
    ∀ mark, unrealizedPnl (book.positionOf key) mark =
      lotQuantity (book.lotsOf key) * mark - lotCost (book.lotsOf key) := by
  unfold LotBook.quantityOf LotBook.positionOf
  -- lots that are there never net to zero: they all point in one direction
  cases hlast : (book.lotsOf key).getLast? with
  | none =>
    have hnil : book.lotsOf key = [] := List.getLast?_eq_none_iff.mp hlast
    simp [hnil, unrealizedPnl]
  | some last =>
    have hne : book.lotsOf key ≠ [] := by
      intro hnil
      rw [hnil] at hlast
      cases hlast
    have hquantity := h.lotQuantity_ne_zero hne
    have hnot : ¬ isEffectivelyZero ((book.lotsOf key).map (·.quantity)).sum = true :=
      fun hz => hquantity ((isEffectivelyZero_iff hstep (onGrid_lotQuantity h)).mp hz)
    simp only [if_neg hnot]
    refine ⟨iff_of_false (by simp) hquantity, rfl, ?_⟩
    intro mark
    have hmean := h.quantity_mul_mean hne
    unfold unrealizedPnl
    change lotQuantity (book.lotsOf key) * (mark - _ / |lotQuantity (book.lotsOf key)|) = _
    rw [mul_sub, hmean]

/-! ### What the two have in common -/

theorem fillFeeDeltaInQuote_none (fill : FillEvent) :
    fillFeeDeltaInQuote fill none none =
      fillFeeDeltaInQuote fill (baseOf fill) (quoteOf fill) := by
  have hresolved : (if baseOf fill = none ∧ quoteOf fill = none then
      resolveSymbolCurrencies fill.symbol else (baseOf fill, quoteOf fill)) =
      resolveSymbolCurrencies fill.symbol := by
    split
    · rfl
    · rfl
  unfold fillFeeDeltaInQuote
  simp only [and_self, if_true, hresolved]

theorem not_quarantined_of_supported {fill : FillRecord} (h : FeeSupported fill.toFillEvent) :
    isQuarantined fill = false := by
  obtain ⟨fee, hfee⟩ := h
  rw [← fillFeeDeltaInQuote_none] at hfee
  simp [isQuarantined, hfee, Except.isOk, Except.toBool]

/-- The fee of a fill in the quote currency; an unsupported one counts as none. -/
def feeInQuote (fill : FillEvent) : ℚ :=
  match fillFeeDeltaInQuote fill (baseOf fill) (quoteOf fill) with
  | .error _ => 0
  | .ok fee => fee

theorem lotFee_eq_feeInQuote {fill : FillRecord} (hstep : epsilon12 < step)
    (hgrid : OnGrid step fill.fillQty) (hfree : fill.fillQty = 0 → fill.feeAmount = 0) :
    lotFee fill = feeInQuote fill.toFillEvent := by
  unfold lotFee feeInQuote
  rw [fillFeeDeltaInQuote_none]
  split
  · next hzero =>
    have hfee := hfree ((isEffectivelyZero_iff hstep hgrid).mp hzero)
    simp [fillFeeDeltaInQuote, hfee]
  · rfl

section Average

variable (start : Balances) {fills : List FillEvent}

theorem bookAll_distinct (hnodup : (fills.map (·.fillId)).Nodup)
    (hfees : ∀ fill ∈ fills, FeeSupported fill) :
    (bookAll start fills).effects.map Prod.fst = fills ∧
    (bookAll start fills).state.appliedFillIds = (fills.map (·.fillId)).toFinset ∧
    (bookAll start fills).state.totalFeesPaid = (fills.map feeInQuote).sum := by
  induction fills using List.reverseRecOn with
  | nil => simp [bookAll]
  | append_singleton fills fill ih =>
    rw [List.map_append, List.map_singleton] at hnodup
    obtain ⟨heffects, happlied, htotal⟩ := ih (List.nodup_append.mp hnodup).1
      (fun other hmem => hfees other (List.mem_append_left _ hmem))
    have hnew : fill.fillId ∉ (bookAll start fills).state.appliedFillIds := by
      rw [happlied, List.mem_toFinset]
      intro hmem
      exact (List.nodup_append.mp hnodup).2.2 _ hmem _ (List.mem_singleton_self _) rfl
    have hfee : FeeSupported fill :=
      hfees fill (List.mem_append_right _ (List.mem_singleton_self _))
    rw [bookAll_concat]
    rcases (bookAll start fills).apply_cases fill with ⟨-, hno | hno⟩ | ⟨-, fee, hquote, hbook⟩
    · exact absurd hno hnew
    · exact absurd hfee hno
    · rw [hbook]
      refine ⟨?_, ?_, ?_⟩
      · rw [List.map_append, heffects]
        rfl
      · show insert fill.fillId (bookAll start fills).state.appliedFillIds = _
        rw [happlied, List.map_append, List.toFinset_append, List.map_singleton]
        ext id
        simp
      · show (bookAll start fills).state.totalFeesPaid + fee = _
        rw [htotal, List.map_append, List.sum_append, List.map_singleton, List.sum_singleton,
          feeInQuote, hquote]

end Average

theorem tradesOf_of_effects {effects : List Effect} {fills : List FillRecord}
    (h : effects.map Prod.fst = fills.map (·.toFillEvent)) (key : String) :
    tradesOf key effects = fillTrades key fills := by
  have heffects : tradesOf key effects = ((effects.map Prod.fst).filter
      (fun fill => positionKeyForFill fill = key)).map
        (fun fill => (signedQty fill, fill.fillPrice)) := by
    unfold tradesOf effectsOf
    rw [List.filter_map, List.map_map]
    rfl
  rw [heffects, h, List.filter_map, List.map_map]
  rfl

/-! ### Supported fills, in both books -/

def positionKeys (fills : List FillRecord) : Finset String :=
  (fills.map (fun fill => positionKeyForFill fill.toFillEvent)).toFinset

theorem mem_positionKeys {key : String} {fills : List FillRecord} :
    key ∈ positionKeys fills ↔ ∃ fill ∈ fills, positionKeyForFill fill.toFillEvent = key := by
  unfold positionKeys
  rw [List.mem_toFinset, List.mem_map]

section Supported

variable {fills : List FillRecord}

theorem acceptedFills_of_supported (h : ∀ fill ∈ fills, FeeSupported fill.toFillEvent) :
    acceptedFills fills = fills := by
  unfold acceptedFills
  rw [List.filter_eq_self]
  intro fill hmem
  rw [not_quarantined_of_supported (h fill hmem)]
  rfl

theorem consistent_bookAll_map (start : Balances) (hstep : epsilon12 < step)
    (hgrid : ∀ fill ∈ fills, OnGrid step fill.fillQty) :
    Consistent step start (bookAll start (fills.map (·.toFillEvent))) := by
  apply consistent_bookAll start hstep
  intro event hmem
  obtain ⟨fill, hfill, rfl⟩ := List.mem_map.mp hmem
  exact hgrid fill hfill

theorem bookAll_map_distinct (start : Balances) (hnodup : (fills.map (·.fillId)).Nodup)
    (hsupported : ∀ fill ∈ fills, FeeSupported fill.toFillEvent) :
    (bookAll start (fills.map (·.toFillEvent))).effects.map Prod.fst =
      fills.map (·.toFillEvent) ∧
    (bookAll start (fills.map (·.toFillEvent))).state.appliedFillIds =
      (fills.map (·.fillId)).toFinset ∧
    (bookAll start (fills.map (·.toFillEvent))).state.totalFeesPaid =
      (fills.map (fun fill => feeInQuote fill.toFillEvent)).sum := by
  have hids : ((fills.map (·.toFillEvent)).map (·.fillId)).Nodup := by
    rw [List.map_map]
    exact hnodup
  have hfees : ∀ event ∈ fills.map (·.toFillEvent), FeeSupported event := by
    intro event hmem
    obtain ⟨fill, hfill, rfl⟩ := List.mem_map.mp hmem
    exact hsupported fill hfill
  obtain ⟨heffects, happlied, htotal⟩ := bookAll_distinct start hids hfees
  rw [List.map_map] at happlied htotal
  exact ⟨heffects, happlied, htotal⟩

theorem LotBook.Accounts.realized_eq_sum {book : LotBook} (h : book.Accounts step fills)
    {keys : Finset String} (hkeys : positionKeys fills ⊆ keys) :
    book.realizedPnl = ∑ key ∈ keys, book.realizedOf key := by
  rw [h.realized]
  apply sum_by_key
  intro event hmem
  obtain ⟨fill, hfill, hkey⟩ := List.mem_map.mp (h.keys event hmem)
  exact hkeys (mem_positionKeys.mpr ⟨fill, (List.mem_filter.mp hfill).1, hkey⟩)

theorem Consistent.realized_eq_sum {start : Balances} {booked : Booked}
    (h : Consistent step start booked)
    (heffects : booked.effects.map Prod.fst = fills.map (·.toFillEvent)) :
    booked.state.realizedPnl + booked.state.totalFeesPaid =
      ∑ key ∈ positionKeys fills, cumulatedPnl key booked.effects := by
  rw [h.realized]
  apply sum_by_key (fun effect : Effect => positionKeyForFill effect.1)
  intro effect hmem
  have hfill : effect.1 ∈ fills.map (·.toFillEvent) := by
    rw [← heffects]
    exact List.mem_map_of_mem hmem
  obtain ⟨fill, hmem, heq⟩ := List.mem_map.mp hfill
  exact mem_positionKeys.mpr ⟨fill, hmem, by rw [heq]⟩

end Supported

/-! ### The two agree -/

/-- What a lot book and a portfolio agree on, for a set of position keys. -/
structure BooksAgree (book : LotBook) (booked : Booked) (keys : Finset String) : Prop where
  quantity : ∀ key, book.quantityOf key = booked.state.quantityOf key
  absent_iff : ∀ key, book.positionOf key = none ↔ booked.state.positions.lookup key = none
  fees : book.totalFeesPaid = booked.state.totalFeesPaid
  /-- Under every key, realized plus unrealized PnL at every mark price is the same, -/
  equity : ∀ key mark,
    book.realizedOf key + unrealizedPnl (book.positionOf key) mark =
      cumulatedPnl key booked.effects + unrealizedPnl (booked.state.positions.lookup key) mark
  totalEquity : ∀ marks : String → ℚ,
    book.netRealizedPnl + ∑ key ∈ keys, unrealizedPnl (book.positionOf key) (marks key) =
      booked.state.realizedPnl +
        ∑ key ∈ keys, unrealizedPnl (booked.state.positions.lookup key) (marks key)
  covered : ∀ key, booked.state.positions.lookup key ≠ none → key ∈ keys
  /-- and so is the realized PnL when nothing is held. -/
  realized : (∀ key, booked.state.positions.lookup key = none) →
    book.netRealizedPnl = booked.state.realizedPnl

theorem equity_holdingOf (booked : Booked) (key : String) (mark : ℚ) :
    cumulatedPnl key booked.effects + unrealizedPnl (booked.state.positions.lookup key) mark =
      (holdingOf booked key).equity mark := by
  unfold Holding.equity holdingOf PortfolioState.quantityOf PortfolioState.avgEntryPriceOf
  cases booked.state.positions.lookup key with
  | none => simp [unrealizedPnl]
  | some record =>
    simp only [unrealizedPnl, Option.map_some, Option.getD_some]
    ring

theorem booksAgree_of_accounts {start : Balances} {book : LotBook} {booked : Booked}
    {fills : List FillRecord} (hlots : book.Accounts step fills)
    (haverage : Consistent step start booked) (hstep : epsilon12 < step)
    (hall : acceptedFills fills = fills)
    (heffects : booked.effects.map Prod.fst = fills.map (·.toFillEvent))
    (hfees : book.totalFeesPaid = booked.state.totalFeesPaid) :
    BooksAgree book booked (positionKeys fills) := by
  have hheld : ∀ key, (book.holdingOf key).Balances (fillTrades key fills) := by
    intro key
    have h := hlots.holding key
    rwa [hall] at h
  have hbooked : ∀ key, (holdingOf booked key).Balances (fillTrades key fills) := by
    intro key
    have h := haverage.holding key
    rwa [tradesOf_of_effects heffects] at h
  have hquantity : ∀ key, lotQuantity (book.lotsOf key) = booked.state.quantityOf key :=
    fun key => (hheld key).quantity_eq.trans (hbooked key).quantity_eq.symm
  have habsent := haverage.lookup_eq_none_iff
  have hposition := fun key => LotBook.positionOf_spec hstep (hlots.aligned key)
  -- both account for the same trades, so they have the same equity
  have hequity : ∀ key mark,
      book.realizedOf key + unrealizedPnl (book.positionOf key) mark =
        cumulatedPnl key booked.effects +
          unrealizedPnl (booked.state.positions.lookup key) mark := by
    intro key mark
    rw [(hposition key).2.2, equity_holdingOf]
    exact (hheld key).equity_congr (hbooked key) mark
  have hlotTotal := hlots.realized_eq_sum (Finset.Subset.refl _)
  have haverageTotal := haverage.realized_eq_sum heffects
  have htotal : ∀ marks : String → ℚ,
      book.netRealizedPnl +
          ∑ key ∈ positionKeys fills, unrealizedPnl (book.positionOf key) (marks key) =
        booked.state.realizedPnl + ∑ key ∈ positionKeys fills,
          unrealizedPnl (booked.state.positions.lookup key) (marks key) := by
    intro marks
    have hsum := Finset.sum_congr rfl
      (fun key (_ : key ∈ positionKeys fills) => hequity key (marks key))
    rw [Finset.sum_add_distrib, Finset.sum_add_distrib, ← hlotTotal, ← haverageTotal] at hsum
    unfold LotBook.netRealizedPnl
    rw [hfees]
    linear_combination hsum
  refine ⟨?_, ?_, hfees, hequity, htotal, ?_, ?_⟩
  · intro key
    rw [(hposition key).2.1, hquantity]
  · intro key
    rw [(hposition key).1, hquantity, habsent]
  · -- a key without fills has no trades
    intro key hheldKey
    by_contra hkey
    apply hheldKey
    rw [habsent key, show booked.state.quantityOf key = _ from (hbooked key).quantity_eq]
    have hnone : fills.filter (fun fill => positionKeyForFill fill.toFillEvent = key) = [] := by
      rw [List.filter_eq_nil_iff]
      intro fill hmem heq
      rw [decide_eq_true_iff] at heq
      exact hkey (mem_positionKeys.mpr ⟨fill, hmem, heq⟩)
    rw [fillTrades, hnone]
    rfl
  · -- with nothing held there is no unrealized PnL, whatever the marks
    intro hflat
    have hzero : ∀ key, unrealizedPnl (booked.state.positions.lookup key) 0 = 0 ∧
        unrealizedPnl (book.positionOf key) 0 = 0 := by
      intro key
      have hbook : book.positionOf key = none := by
        rw [(hposition key).1, hquantity, ← habsent]
        exact hflat key
      rw [hflat key, hbook]
      exact ⟨rfl, rfl⟩
    have h := htotal (fun _ => 0)
    rw [Finset.sum_eq_zero (fun key _ => (hzero key).2),
      Finset.sum_eq_zero (fun key _ => (hzero key).1), add_zero, add_zero] at h
    exact h

/-- **The FIFO lot book and the average-cost portfolio agree** on all fills with distinct ids,
quantities that are multiples of a step larger than the tolerance and supported fees, as long as
a fill without quantity has no fee. -/
theorem booksAgree_of_fills (start : Balances) (fills : List FillRecord) (hstep : epsilon12 < step)
    (hgrid : ∀ fill ∈ fills, OnGrid step fill.fillQty)
    (hnodup : (fills.map (·.fillId)).Nodup)
    (hsupported : ∀ fill ∈ fills, FeeSupported fill.toFillEvent)
    (hfree : ∀ fill ∈ fills, fill.fillQty = 0 → fill.feeAmount = 0) :
    BooksAgree (rebuildLotBook fills)
      (bookAll start ((sortedFills fills).map (·.toFillEvent))) (positionKeys fills) := by
  have hperm := sortedFills_perm fills
  have hsortedGrid : ∀ fill ∈ sortedFills fills, OnGrid step fill.fillQty :=
    fun fill hmem => hgrid fill (mem_sortedFills.mp hmem)
  have hsortedFees : ∀ fill ∈ sortedFills fills, FeeSupported fill.toFillEvent :=
    fun fill hmem => hsupported fill (mem_sortedFills.mp hmem)
  have hlots := accounts_rebuildLotBook hstep hgrid
  obtain ⟨heffects, -, htotal⟩ :=
    bookAll_map_distinct start ((hperm.map _).nodup_iff.mpr hnodup) hsortedFees
  have hkeys : positionKeys (sortedFills fills) = positionKeys fills :=
    List.toFinset_eq_of_perm _ _ (hperm.map _)
  -- the portfolio books in processing order too, so both see the same list
  rw [← hkeys]
  apply booksAgree_of_accounts hlots (consistent_bookAll_map start hstep hsortedGrid) hstep
    (acceptedFills_of_supported hsortedFees) heffects
  rw [hlots.fees, htotal]
  congr 1
  apply List.map_congr_left
  intro fill hmem
  exact lotFee_eq_feeInQuote hstep (hsortedGrid fill hmem) (hfree fill (mem_sortedFills.mp hmem))

def feeOnlyFill : FillRecord :=
  { fillId := "f1", symbol := "BTC-USDT", side := .buy, fillQty := 0, fillPrice := 100,
    feeAmount := 1, exchangeTimestamp := 1, ingestionTimestamp := 1 }

theorem feeSupported_of_ok {fill : FillEvent}
    (h : (fillFeeDeltaInQuote fill (baseOf fill) (quoteOf fill)).isOk = true) :
    FeeSupported fill := by
  cases hfee : fillFeeDeltaInQuote fill (baseOf fill) (quoteOf fill) with
  | error e =>
    rw [hfee] at h
    cases h
  | ok fee => exact ⟨fee, hfee⟩

/-- **The fee of a fill without quantity** is paid by the portfolio and skipped by the lot
book. -/
theorem feeOnlyFill_fees_differ :
    ¬ ∀ (step : ℚ) (fills : List FillRecord), epsilon12 < step →
      (∀ fill ∈ fills, OnGrid step fill.fillQty) → (fills.map (·.fillId)).Nodup →
      (∀ fill ∈ fills, 0 < fill.fillPrice) →
      (∀ fill ∈ fills, FeeSupported fill.toFillEvent) →
      BooksAgree (rebuildLotBook fills)
        (bookAll ∅ ((sortedFills fills).map (·.toFillEvent))) (positionKeys fills) := by
  intro h
  have hagree := h 1 [feeOnlyFill] (by norm_num [epsilon12])
    (by
      intro fill hmem
      rw [List.mem_singleton.mp hmem]
      exact onGrid_zero 1)
    (List.nodup_singleton _)
    (by
      intro fill hmem
      rw [List.mem_singleton.mp hmem]
      decide +kernel)
    (by
      intro fill hmem
      rw [List.mem_singleton.mp hmem]
      exact feeSupported_of_ok (by decide +kernel))
  exact absurd hagree.fees (by decide +kernel)

/-- Two buys at different prices, a sell of one of them and a sell of the rest; only then do lots
and average cost realize the same. -/
def partialCloses : List FillRecord :=
  let buy : FillRecord :=
    { fillId := "f1", symbol := "BTC-USDT", side := .buy, fillQty := 1, fillPrice := 100,
      feeAmount := 1, exchangeTimestamp := 1, ingestionTimestamp := 1 }
  [{ buy with fillId := "f3", side := .sell, fillPrice := 120, exchangeTimestamp := 3 }, buy,
    { buy with fillId := "f2", fillPrice := 110, exchangeTimestamp := 2 },
    { buy with fillId := "f4", side := .sell, fillPrice := 130, exchangeTimestamp := 4 }]

theorem booksAgree_partialCloses :
    BooksAgree (rebuildLotBook partialCloses)
      (bookAll ∅ ((sortedFills partialCloses).map (·.toFillEvent))) (positionKeys partialCloses) ∧
    (rebuildLotBook partialCloses).realizedPnl = 40 ∧
    (rebuildLotBook (partialCloses.take 3)).realizedPnl = 20 ∧
    (bookAll ∅ ((sortedFills (partialCloses.take 3)).map (·.toFillEvent))).effects.map tradingPnl =
      [0, 0, 15] := by
  refine ⟨booksAgree_of_fills ∅ partialCloses (show epsilon12 < 1 by norm_num [epsilon12]) ?_
    (by decide +kernel) ?_ ?_, by decide +kernel, by decide +kernel, by decide +kernel⟩
  · intro fill hmem
    simp only [partialCloses, List.mem_cons, List.not_mem_nil, or_false] at hmem
    rcases hmem with rfl | rfl | rfl | rfl <;> exact ⟨1, by norm_num⟩
  · intro fill hmem
    apply feeSupported_of_ok
    revert fill
    decide +kernel
  · decide +kernel

end Aats.Portfolio
