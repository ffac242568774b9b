import Aats.Portfolio.LedgerPortfolio
import Aats.Portfolio.LotKeys

/-!
# The double-entry ledger and the in-memory portfolio

The cash effect of a fill has two implementations: the journals of `post_fill_effects_in_session`,
with the realized PnL of the lot projection, and the balances of `apply_fill`. Both move the same
spot legs and the same fee. They part over the realized PnL: `apply_fill` books it for
derivatives only, the ledger posts it for every fill. The proceeds of a spot sale are all in the
spot legs already, so the ledger counts the PnL of a spot sale twice.

With no PnL on spot fills the two report the same money wherever no derivatives PnL settles, and
everywhere once the derivatives positions are flat: before that, FIFO lots and average cost have
realized different parts of the PnL. Both drop amounts within their tolerance, so this is for
amounts that are multiples of a step larger than it.

## Main results
* `cash_sub_balance` — how far the two are apart: the derivatives PnL of lots less that of average
  cost.
-/

namespace Aats.Portfolio

open Holdings

/-! ### Posting and applying -/

structure MoneyBooks where
  seen : List FillRecord := []
  ledger : Ledger
  booked : Booked

def lotProjection (seen : List FillRecord) (fill : FillRecord) : FillSettlementProjection :=
  (ledgerOutcome fill (rebuildLotBook seen) (rebuildLotBook (seen ++ [fill]))).projection

/-- A fill is posted to the ledger, for an order without a reservation, and applied in memory. -/
def MoneyBooks.post (books : MoneyBooks) (fill : FillRecord) : MoneyBooks where
  seen := books.seen ++ [fill]
  ledger := postFillEffects books.ledger fill.toFillEvent (lotProjection books.seen fill) false
  booked := books.booked.apply fill.toFillEvent

/-- All fills, from a ledger and the balances of a portfolio without positions. -/
def postAll (ledger : Ledger) (balances : Balances) (fills : List FillRecord) : MoneyBooks :=
  fills.foldl MoneyBooks.post { ledger := ledger, booked := { state := { balances := balances } } }

section Runs

variable {ledger : Ledger} {balances : Balances} {fills : List FillRecord} {fill : FillRecord}

theorem postAll_concat (ledger : Ledger) (balances : Balances) (fills : List FillRecord)
    (fill : FillRecord) :
    postAll ledger balances (fills ++ [fill]) = (postAll ledger balances fills).post fill := by
  unfold postAll
  rw [List.foldl_append]
  rfl

@[simp] theorem postAll_seen (ledger : Ledger) (balances : Balances) (fills : List FillRecord) :
    (postAll ledger balances fills).seen = fills := by
  induction fills using List.reverseRecOn with
  | nil => rfl
  | append_singleton fills fill ih =>
    rw [postAll_concat]
    exact congrArg (· ++ [fill]) ih

theorem postAll_booked (ledger : Ledger) (balances : Balances) (fills : List FillRecord) :
    (postAll ledger balances fills).booked = bookAll balances (fills.map (·.toFillEvent)) := by
  induction fills using List.reverseRecOn with
  | nil => rfl
  | append_singleton fills fill ih =>
    rw [postAll_concat, List.map_append, List.map_singleton, bookAll_concat, ← ih]
    rfl

theorem postAll_ledger_concat (ledger : Ledger) (balances : Balances) (fills : List FillRecord)
    (fill : FillRecord) :
    (postAll ledger balances (fills ++ [fill])).ledger =
      postFillEffects (postAll ledger balances fills).ledger fill.toFillEvent
        (lotProjection fills fill) false := by
  rw [postAll_concat]
  unfold MoneyBooks.post
  rw [postAll_seen]

theorem lotProjection_realizedPnlDelta (seen : List FillRecord) (fill : FillRecord) :
    (lotProjection seen fill).realizedPnlDelta = lotPnlDelta seen fill := by
  unfold lotProjection ledgerOutcome lotPnlDelta LotBook.netRealizedPnl
  ring

theorem lotProjection_resolves (seen : List FillRecord) (fill : FillRecord) :
    (lotProjection seen fill).Resolves fill.toFillEvent := ⟨rfl, rfl⟩

theorem unposted_postAll {fillId : String} {sourceType : SourceType}
    (hunposted : Unposted ledger sourceType fillId) (hnew : fillId ∉ fills.map (·.fillId)) :
    Unposted (postAll ledger balances fills).ledger sourceType fillId := by
  induction fills using List.reverseRecOn with
  | nil => exact hunposted
  | append_singleton fills fill ih =>
    rw [List.map_append, List.mem_append, not_or] at hnew
    rw [postAll_ledger_concat]
    apply (ih hnew.1).postFillEffects
    intro hid
    exact hnew.2 (List.mem_map.mpr ⟨fill, List.mem_singleton_self _, hid⟩)

end Runs

/-! ### What the fills must be like -/

/-- The trading PnL that `apply_fill` finds for a fill after the fills before it. -/
def averagePnl (balances : Balances) (seen : List FillRecord) (fill : FillRecord) : ℚ :=
  ((bookAll balances (seen.map (·.toFillEvent))).state.booking fill.toFillEvent).2.2

structure NewFills (ledger : Ledger) (fills : List FillRecord) : Prop where
  nodup : (fills.map (·.fillId)).Nodup
  supported : ∀ fill ∈ fills, FeeSupported fill.toFillEvent
  unposted : ∀ fill ∈ fills, ∀ sourceType, Unposted ledger sourceType fill.fillId

/-- All amounts of cash are multiples of a step larger than the tolerance. -/
structure Coarse (step priceStep cashStep : ℚ) (ledger : Ledger) (fills : List FillRecord) :
    Prop where
  tolerance : epsilon12 < cashStep
  step_pos : 0 < step
  step_cash : OnGrid cashStep step
  notional_cash : OnGrid cashStep (step * priceStep)
  quantity : ∀ fill ∈ fills, OnGrid step fill.fillQty
  price : ∀ fill ∈ fills, OnGrid priceStep fill.fillPrice
  fee : ∀ fill ∈ fills, OnGrid cashStep fill.feeAmount
  opening : ∀ productType marginMode currency,
    OnGrid cashStep (balanceByAccount ledger (cashAccount productType marginMode currency))

structure Settles (balances : Balances) (fills : List FillRecord) : Prop where
  /-- A position key is of one symbol and product type. -/
  keys : ∀ fill ∈ fills, ∀ other ∈ fills,
    positionKeyForFill fill.toFillEvent = positionKeyForFill other.toFillEvent →
      fill.symbol = other.symbol ∧ fill.productType = other.productType
  /-- No spot fill realizes PnL in the lots. -/
  spot : ∀ seen fill rest, fills = seen ++ fill :: rest → fill.productType = .spot →
    isEffectivelyZero (lotPnlDelta seen fill) = true
  /-- No derivatives fill realizes PnL within the tolerance in memory. -/
  average : ∀ seen fill rest, fills = seen ++ fill :: rest → fill.productType = .derivatives →
    isEffectivelyZero (averagePnl balances seen fill) = true → averagePnl balances seen fill = 0

section Conditions

variable {step priceStep cashStep : ℚ} {ledger : Ledger} {balances : Balances}
  {fills : List FillRecord} {fill : FillRecord}

theorem NewFills.init (h : NewFills ledger (fills ++ [fill])) : NewFills ledger fills where
  nodup := by
    have hnodup := h.nodup
    rw [List.map_append] at hnodup
    exact (List.nodup_append.mp hnodup).1
  supported := fun other hmem => h.supported other (List.mem_append_left _ hmem)
  unposted := fun other hmem => h.unposted other (List.mem_append_left _ hmem)

theorem NewFills.fresh (h : NewFills ledger (fills ++ [fill])) :
    fill.fillId ∉ fills.map (·.fillId) := by
  have hnodup := h.nodup
  rw [List.map_append, List.map_singleton, List.nodup_append] at hnodup
  intro hmem
  exact hnodup.2.2 _ hmem _ (List.mem_singleton_self _) rfl

theorem NewFills.unposted_last (h : NewFills ledger (fills ++ [fill])) (sourceType : SourceType) :
    Unposted (postAll ledger balances fills).ledger sourceType fill.fillId :=
  unposted_postAll
    (h.unposted fill (List.mem_append_right _ (List.mem_singleton_self _)) sourceType) h.fresh

theorem NewFills.bookAll_last (balances : Balances) (h : NewFills ledger (fills ++ [fill])) :
    ∃ fee, bookAll balances ((fills ++ [fill]).map (·.toFillEvent)) =
      { state := ((bookAll balances (fills.map (·.toFillEvent))).state.bookFill
          fill.toFillEvent fee).2
        effects := (bookAll balances (fills.map (·.toFillEvent))).effects ++
          [(fill.toFillEvent, ((bookAll balances (fills.map (·.toFillEvent))).state.bookFill
            fill.toFillEvent fee).1)] } := by
  have hbefore := h.init
  obtain ⟨-, happlied, -⟩ := bookAll_map_distinct balances hbefore.nodup hbefore.supported
  rw [List.map_append, List.map_singleton, bookAll_concat]
  rcases (bookAll balances (fills.map (·.toFillEvent))).apply_cases fill.toFillEvent with
    ⟨-, hno | hno⟩ | ⟨-, fee, -, hbook⟩
  · rw [happlied, List.mem_toFinset] at hno
    exact absurd hno h.fresh
  · exact absurd
      (h.supported fill (List.mem_append_right _ (List.mem_singleton_self _))) hno
  · exact ⟨fee, hbook⟩

theorem Coarse.init (h : Coarse step priceStep cashStep ledger (fills ++ [fill])) :
    Coarse step priceStep cashStep ledger fills where
  tolerance := h.tolerance
  step_pos := h.step_pos
  step_cash := h.step_cash
  notional_cash := h.notional_cash
  quantity := fun other hmem => h.quantity other (List.mem_append_left _ hmem)
  price := fun other hmem => h.price other (List.mem_append_left _ hmem)
  fee := fun other hmem => h.fee other (List.mem_append_left _ hmem)
  opening := h.opening

theorem Settles.init (h : Settles balances (fills ++ [fill])) : Settles balances fills where
  keys := by
    intro other hother another hanother
    exact h.keys other (List.mem_append_left _ hother) another (List.mem_append_left _ hanother)
  spot := by
    intro seen other rest heq
    exact h.spot seen other (rest ++ [fill]) (by rw [heq, List.append_assoc]; rfl)
  average := by
    intro seen other rest heq
    exact h.average seen other (rest ++ [fill]) (by rw [heq, List.append_assoc]; rfl)

theorem Coarse.tolerance_lt (h : Coarse step priceStep cashStep ledger fills) :
    epsilon12 < step := by
  by_contra hle
  have habs : |step| < cashStep := by
    rw [abs_of_pos h.step_pos]
    exact (not_lt.mp hle).trans_lt h.tolerance
  exact h.step_pos.ne' (h.step_cash.eq_zero habs)

theorem bookedPnl_of_onGrid (htolerance : epsilon12 < cashStep) {amount : ℚ}
    (h : OnGrid cashStep amount) : bookedPnl amount = amount := by
  unfold bookedPnl
  split
  · next hzero => exact ((isEffectivelyZero_iff htolerance h).mp hzero).symm
  · rfl

theorem Coarse.onGrid_lotPnlDelta (h : Coarse step priceStep cashStep ledger (fills ++ [fill])) :
    OnGrid cashStep (lotPnlDelta fills fill) :=
  h.notional_cash.trans (Portfolio.onGrid_lotPnlDelta h.quantity h.price)

theorem Coarse.onGrid_spotFlow (h : Coarse step priceStep cashStep ledger fills)
    (hmem : fill ∈ fills) (currency : String) :
    OnGrid cashStep (spotFlow fill.toFillEvent currency) := by
  have hqty : OnGrid step (signedQty fill.toFillEvent) := onGrid_signedQty (h.quantity fill hmem)
  have hbase : OnGrid cashStep (signedQty fill.toFillEvent) := h.step_cash.trans hqty
  have hquote : OnGrid cashStep (-(signedQty fill.toFillEvent * fill.fillPrice)) :=
    (h.notional_cash.trans (hqty.mul (h.price fill hmem))).neg
  unfold spotFlow
  split
  · exact onGrid_zero _
  · apply OnGrid.add
    · split
      · exact hquote
      · exact onGrid_zero _
    · split
      · exact hbase
      · exact onGrid_zero _

theorem Coarse.onGrid_cash (h : Coarse step priceStep cashStep ledger fills)
    (hnew : NewFills ledger fills) (productType : ProductType) (marginMode : MarginMode)
    (currency : String) :
    OnGrid cashStep (balanceByAccount (postAll ledger balances fills).ledger
      (cashAccount productType marginMode currency)) := by
  induction fills using List.reverseRecOn with
  | nil => exact h.opening productType marginMode currency
  | append_singleton fills fill ih =>
    have hlast : fill ∈ fills ++ [fill] := List.mem_append_right _ (List.mem_singleton_self _)
    rw [postAll_ledger_concat, cashBalance_postFillEffects (lotProjection_resolves fills fill)
      hnew.unposted_last, lotProjection_realizedPnlDelta]
    apply (ih h.init hnew.init).add
    unfold cashEffect postedFlow
    split
    · apply OnGrid.add
      · apply (h.onGrid_spotFlow hlast currency).add
        split
        · rw [bookedPnl_of_onGrid h.tolerance h.onGrid_lotPnlDelta]
          exact h.onGrid_lotPnlDelta
        · exact onGrid_zero _
      · split
        · rw [bookedPnl_of_onGrid h.tolerance (h.fee fill hlast)]
          exact (h.fee fill hlast).neg
        · exact onGrid_zero _
    · exact onGrid_zero _

end Conditions

/-! ### How far the two are apart -/

section Difference

variable {step priceStep cashStep : ℚ} {ledger : Ledger} {balances : Balances}
  {fills : List FillRecord} {fill : FillRecord} {currency : String}

theorem cumulatedPnl_concat (key : String) (effects : List Effect) (effect : Effect) :
    cumulatedPnl key (effects ++ [effect]) = cumulatedPnl key effects +
      if positionKeyForFill effect.1 = key then tradingPnl effect else 0 := by
  unfold cumulatedPnl
  rw [effectsOf_concat]
  split
  · simp
  · simp

/-- What one fill moves in the ledger and not in memory: the PnL of a derivatives fill, of lots
less of average cost. -/
theorem postedFlow_sub (hcoarse : Coarse step priceStep cashStep ledger (fills ++ [fill]))
    (hsettles : Settles balances (fills ++ [fill])) :
    postedFlow fill.toFillEvent (lotPnlDelta fills fill) currency =
      spotFlow fill.toFillEvent currency +
        pnlFlow fill.toFillEvent (bookedPnl (averagePnl balances fills fill)) currency -
        feeFlow fill.toFillEvent currency +
      if fill.productType = .derivatives ∧ quoteOf fill.toFillEvent = some currency then
        lotPnlDelta fills fill - averagePnl balances fills fill else 0 := by
  have hlast : fill ∈ fills ++ [fill] := List.mem_append_right _ (List.mem_singleton_self _)
  have hfee : (if feeCurrencyOf fill.toFillEvent = some currency then
      -bookedPnl fill.feeAmount else 0) = -feeFlow fill.toFillEvent currency := by
    unfold feeFlow
    rw [bookedPnl_of_onGrid hcoarse.tolerance (hcoarse.fee fill hlast)]
    split
    · rfl
    · exact neg_zero.symm
  unfold postedFlow
  rw [hfee]
  unfold pnlFlow
  cases hp : fill.productType with
  | spot =>
    -- the lots realize nothing, so nothing is posted
    have hnone : bookedPnl (lotPnlDelta fills fill) = 0 := by
      unfold bookedPnl
      rw [if_pos (hsettles.spot fills fill [] rfl hp)]
    rw [hnone]
    simp
    ring
  | derivatives =>
    have haverage : bookedPnl (averagePnl balances fills fill) = averagePnl balances fills fill := by
      unfold bookedPnl
      split
      · next hzero => exact (hsettles.average fills fill [] rfl hp hzero).symm
      · rfl
    rw [haverage, bookedPnl_of_onGrid hcoarse.tolerance hcoarse.onGrid_lotPnlDelta]
    by_cases hq : quoteOf fill.toFillEvent = some currency
    · simp only [hq, and_self, if_true]
      ring
    · simp only [hq, and_false, if_false]
      ring

/-- What the lots realized under a key more than average cost. -/
def lotSurplus (fills : List FillRecord) (effects : List Effect) (key : String) : ℚ :=
  (rebuildLotBook fills).realizedOf key - cumulatedPnl key effects

theorem lotSurplus_concat_ne {key : String} {effects : List Effect}
    {result : FillApplicationResult} (hne : key ≠ positionKeyForFill fill.toFillEvent) :
    lotSurplus (fills ++ [fill]) (effects ++ [(fill.toFillEvent, result)]) key =
      lotSurplus fills effects key := by
  unfold lotSurplus
  rw [realizedOf_concat_ne (Ne.symm hne), cumulatedPnl_concat, if_neg (Ne.symm hne), add_zero]

theorem lotSurplus_concat_self {effects : List Effect} {result : FillApplicationResult}
    (hcoarse : Coarse step priceStep cashStep ledger (fills ++ [fill])) :
    lotSurplus (fills ++ [fill]) (effects ++ [(fill.toFillEvent, result)])
        (positionKeyForFill fill.toFillEvent) -
      lotSurplus fills effects (positionKeyForFill fill.toFillEvent) =
      lotPnlDelta fills fill - tradingPnl (fill.toFillEvent, result) := by
  unfold lotSurplus
  rw [cumulatedPnl_concat, if_pos rfl, lotPnlDelta_eq hcoarse.tolerance_lt hcoarse.quantity]
  ring

/-- **How far the two are apart**: the realized PnL of the derivatives positions that settle in
the currency, of lots less of average cost. -/
theorem cash_sub_balance (hcoarse : Coarse step priceStep cashStep ledger fills)
    (hnew : NewFills ledger fills) (hsettles : Settles balances fills) (keys : Finset String)
    (hkeys : ∀ fill ∈ fills, positionKeyForFill fill.toFillEvent ∈ keys ↔
      fill.productType = .derivatives ∧ quoteOf fill.toFillEvent = some currency) :
    totalCash (postAll ledger balances fills).ledger currency - totalCash ledger currency =
      (bookAll balances (fills.map (·.toFillEvent))).state.balances.balance currency -
        balances.balance currency +
      ∑ key ∈ keys, lotSurplus fills (bookAll balances (fills.map (·.toFillEvent))).effects key := by
  induction fills using List.reverseRecOn with
  | nil =>
    have hnone : ∀ key, lotSurplus [] (bookAll balances []).effects key = 0 :=
      fun _ => sub_self (0 : ℚ)
    show totalCash ledger currency - totalCash ledger currency =
      balances.balance currency - balances.balance currency +
        ∑ key ∈ keys, lotSurplus [] (bookAll balances []).effects key
    rw [Finset.sum_eq_zero (fun key _ => hnone key)]
    ring
  | append_singleton fills fill ih =>
    have hlast : fill ∈ fills ++ [fill] := List.mem_append_right _ (List.mem_singleton_self _)
    have hbefore := ih hcoarse.init hnew.init hsettles.init
      (fun other hmem => hkeys other (List.mem_append_left _ hmem))
    obtain ⟨fee, hbook⟩ := hnew.bookAll_last balances
    have hpnl : tradingPnl (fill.toFillEvent, ((bookAll balances
        (fills.map (·.toFillEvent))).state.bookFill fill.toFillEvent fee).1) =
        averagePnl balances fills fill :=
      PortfolioState.bookFill_tradingPnl _ _ _
    -- the fill changes one summand, by what it realizes in the lots and not at average cost
    have hshift : ∑ key ∈ keys, lotSurplus (fills ++ [fill])
        ((bookAll balances (fills.map (·.toFillEvent))).effects ++
          [(fill.toFillEvent, ((bookAll balances (fills.map (·.toFillEvent))).state.bookFill
            fill.toFillEvent fee).1)]) key =
        ∑ key ∈ keys, lotSurplus fills (bookAll balances (fills.map (·.toFillEvent))).effects key +
        if positionKeyForFill fill.toFillEvent ∈ keys then
          lotPnlDelta fills fill - averagePnl balances fills fill else 0 := by
      rw [sum_shift (positionKeyForFill fill.toFillEvent)
        (fun key hne => lotSurplus_concat_ne hne), lotSurplus_concat_self hcoarse, hpnl]
    rw [hbook, hshift, postAll_ledger_concat,
      totalCash_postFillEffects (lotProjection_resolves fills fill) hnew.unposted_last,
      lotProjection_realizedPnlDelta, postedFlow_sub hcoarse hsettles,
      PortfolioState.balance_bookFill]
    simp only [hkeys fill hlast]
    unfold averagePnl
    linear_combination hbefore

/-! ### Flat positions -/

def DerivativesFlat (state : PortfolioState) : Prop :=
  ∀ key record, state.positions.lookup key = some record → record.productType ≠ .derivatives

theorem productType_of_position {events : List FillEvent} {key : String} {record : PositionRecord}
    (h : (bookAll balances events).state.positions.lookup key = some record) :
    ∃ event ∈ events, positionKeyForFill event = key ∧ event.productType = record.productType := by
  induction events using List.reverseRecOn with
  | nil => cases h
  | append_singleton events event ih =>
    have hearlier : (bookAll balances events).state.positions.lookup key = some record →
        ∃ other ∈ events ++ [event],
          positionKeyForFill other = key ∧ other.productType = record.productType := by
      intro hlookup
      obtain ⟨other, hmem, hother⟩ := ih hlookup
      exact ⟨other, List.mem_append_left _ hmem, hother⟩
    rw [bookAll_concat] at h
    rcases (bookAll balances events).apply_cases event with ⟨hsame, -⟩ | ⟨-, fee, -, hbook⟩
    · rw [hsame] at h
      exact hearlier h
    · rw [hbook] at h
      by_cases hkey : key = positionKeyForFill event
      · subst hkey
        rw [PortfolioState.lookup_bookFill_self] at h
        split at h
        · cases h
        · cases h
          exact ⟨event, List.mem_append_right _ (List.mem_singleton_self _), rfl, rfl⟩
      · rw [PortfolioState.lookup_bookFill_ne hkey] at h
        exact hearlier h

/-- Under a key that holds nothing, lots and average cost have realized the same. -/
theorem lotSurplus_of_flat (hstep : epsilon12 < step)
    (hgrid : ∀ fill ∈ fills, OnGrid step fill.fillQty) (hnew : NewFills ledger fills)
    {key : String}
    (hflat : (bookAll balances (fills.map (·.toFillEvent))).state.positions.lookup key = none) :
    lotSurplus fills (bookAll balances (fills.map (·.toFillEvent))).effects key = 0 := by
  obtain ⟨heffects, -, -⟩ := bookAll_map_distinct balances hnew.nodup hnew.supported
  have hlots := accounts_rebuildLotBook hstep hgrid
  have haverage := consistent_bookAll_map balances hstep hgrid
  have hall : acceptedFills (sortedFills fills) = sortedFills fills :=
    acceptedFills_of_supported (fun fill hmem => hnew.supported fill (mem_sortedFills.mp hmem))
  have hheld : ((rebuildLotBook fills).holdingOf key).Balances (fillTrades key fills) := by
    have h := hlots.holding key
    rw [hall] at h
    exact h.perm (((sortedFills_perm fills).filter _).map _)
  have hbooked : (holdingOf (bookAll balances (fills.map (·.toFillEvent))) key).Balances
      (fillTrades key fills) := by
    have h := haverage.holding key
    rwa [tradesOf_of_effects heffects] at h
  have hzero : (bookAll balances (fills.map (·.toFillEvent))).state.quantityOf key = 0 :=
    (haverage.lookup_eq_none_iff key).mp hflat
  -- the lots net to what the portfolio holds, and lots that are there do not net to zero
  have hnoLots : (rebuildLotBook fills).lotsOf key = [] := by
    by_contra hne
    apply (hlots.aligned key).lotQuantity_ne_zero hne
    exact hheld.quantity_eq.trans (hbooked.quantity_eq.symm.trans hzero)
  have hlotCost : ((rebuildLotBook fills).holdingOf key).cost = 0 := by
    show lotCost ((rebuildLotBook fills).lotsOf key) = 0
    rw [hnoLots]
    rfl
  have haverageCost : (holdingOf (bookAll balances (fills.map (·.toFillEvent))) key).cost = 0 := by
    show _ * _ = (0 : ℚ)
    rw [hzero, zero_mul]
  exact sub_eq_zero.mpr (hheld.profit_congr hbooked hlotCost haverageCost)

end Difference

/-- **The ledger and the portfolio report the same money**: the available balances and the balances
in memory change alike in a currency that no derivatives fill settles in, and in every currency
when the derivatives positions are flat, as long as no spot fill realizes PnL in the lots and no
amount is within the tolerance. -/
theorem ledger_matches_memory {step priceStep cashStep : ℚ} {ledger : Ledger} {balances : Balances}
    {fills : List FillRecord} (hcoarse : Coarse step priceStep cashStep ledger fills)
    (hnew : NewFills ledger fills) (hsettles : Settles balances fills) {currency : String}
    (hpoint : (∀ fill ∈ fills, fill.productType = .derivatives →
        quoteOf fill.toFillEvent ≠ some currency) ∨
      DerivativesFlat (postAll ledger balances fills).booked.state) :
    totalAvailable (postAll ledger balances fills).ledger currency -
        totalAvailable ledger currency =
      (postAll ledger balances fills).booked.state.balances.balance currency -
        balances.balance currency := by
  obtain ⟨keys, hkeysDef⟩ : ∃ keys, keys = positionKeys (fills.filter (fun fill =>
      fill.productType = .derivatives ∧ quoteOf fill.toFillEvent = some currency)) := ⟨_, rfl⟩
  have hmem : ∀ key, key ∈ keys ↔ ∃ fill ∈ fills,
      (fill.productType = .derivatives ∧ quoteOf fill.toFillEvent = some currency) ∧
        positionKeyForFill fill.toFillEvent = key := by
    intro key
    rw [hkeysDef, mem_positionKeys]
    simp only [List.mem_filter, decide_eq_true_iff, and_assoc]
  have hkeys : ∀ fill ∈ fills, positionKeyForFill fill.toFillEvent ∈ keys ↔
      fill.productType = .derivatives ∧ quoteOf fill.toFillEvent = some currency := by
    intro fill hfill
    rw [hmem]
    constructor
    · rintro ⟨other, hother, ⟨hproduct, hquote⟩, hkey⟩
      obtain ⟨hsymbol, hsame⟩ := hsettles.keys fill hfill other hother hkey.symm
      unfold quoteOf at hquote ⊢
      rw [hsame, hsymbol]
      exact ⟨hproduct, hquote⟩
    · intro h
      exact ⟨fill, hfill, h, rfl⟩
  have hsurplus : ∑ key ∈ keys,
      lotSurplus fills (bookAll balances (fills.map (·.toFillEvent))).effects key = 0 := by
    apply Finset.sum_eq_zero
    intro key hkey
    obtain ⟨fill, hfill, ⟨hproduct, hquote⟩, hfillKey⟩ := (hmem key).mp hkey
    rcases hpoint with hspot | hflat
    · exact absurd hquote (hspot fill hfill hproduct)
    · -- a key of a derivatives fill holds no other positions, and these are flat
      apply lotSurplus_of_flat hcoarse.tolerance_lt hcoarse.quantity hnew
      rw [postAll_booked] at hflat
      rw [Option.eq_none_iff_forall_ne_some]
      intro record hlookup
      obtain ⟨event, hevent, heventKey, htype⟩ := productType_of_position hlookup
      obtain ⟨other, hother, rfl⟩ := List.mem_map.mp hevent
      have hsame := (hsettles.keys other hother fill hfill (heventKey.trans hfillKey.symm)).2
      exact hflat key record hlookup (htype.symm.trans (hsame.trans hproduct))
  have hdifference := cash_sub_balance hcoarse hnew hsettles keys hkeys
  rw [totalAvailable_eq hcoarse.tolerance (fun productType marginMode =>
      hcoarse.onGrid_cash hnew productType marginMode currency),
    totalAvailable_eq hcoarse.tolerance (fun productType marginMode =>
      hcoarse.opening productType marginMode currency), hdifference, hsurplus, add_zero,
    postAll_booked]

/-- A derivatives position that is opened and closed, and a spot buy in between. -/
def mixedFills : List FillRecord :=
  let opening : FillRecord :=
    { fillId := "f1", symbol := "BTC-USDT-SWAP", side := .buy, fillQty := 1, fillPrice := 100,
      feeAmount := 1, productType := .derivatives, marginMode := .cross, exchangeTimestamp := 1,
      ingestionTimestamp := 1 }
  [opening,
    { opening with
      fillId := "f2", symbol := "ETH-USDT", fillQty := 2, fillPrice := 50,
      productType := .spot, marginMode := .cash, exchangeTimestamp := 2 },
    { opening with fillId := "f3", side := .sell, fillPrice := 110, exchangeTimestamp := 3 }]

theorem mixedFills_new : NewFills [] mixedFills where
  nodup := by decide +kernel
  supported := by
    intro fill hmem
    apply feeSupported_of_ok
    revert fill
    decide +kernel
  unposted := by
    intro fill _ sourceType journal hmem
    cases hmem

theorem mixedFills_coarse : Coarse 1 1 1 [] mixedFills where
  tolerance := by norm_num [epsilon12]
  step_pos := one_pos
  step_cash := ⟨1, by norm_num⟩
  notional_cash := ⟨1, by norm_num⟩
  quantity := by
    intro fill hmem
    simp only [mixedFills, List.mem_cons, List.not_mem_nil, or_false] at hmem
    rcases hmem with rfl | rfl | rfl
    · exact ⟨1, by norm_num⟩
    · exact ⟨2, by norm_num⟩
    · exact ⟨1, by norm_num⟩
  price := by
    intro fill hmem
    simp only [mixedFills, List.mem_cons, List.not_mem_nil, or_false] at hmem
    rcases hmem with rfl | rfl | rfl
    · exact ⟨100, by norm_num⟩
    · exact ⟨50, by norm_num⟩
    · exact ⟨110, by norm_num⟩
  fee := by
    intro fill hmem
    simp only [mixedFills, List.mem_cons, List.not_mem_nil, or_false] at hmem
    rcases hmem with rfl | rfl | rfl <;> exact ⟨1, by norm_num⟩
  opening := fun _ _ _ => onGrid_zero 1

theorem split_at {α : Type*} {items seen rest : List α} {item : α}
    (h : items = seen ++ item :: rest) :
    seen.length < items.length ∧ items.take seen.length = seen ∧
      items[seen.length]? = some item := by
  subst h
  simp

theorem mixedFills_settles : Settles ∅ mixedFills where
  keys := by decide +kernel
  spot := by
    intro seen fill rest heq
    obtain ⟨hlt, hseen, hfill⟩ := split_at heq
    have hall : ∀ i < 3, ∀ fill ∈ mixedFills[i]?, fill.productType = .spot →
        isEffectivelyZero (lotPnlDelta (mixedFills.take i) fill) = true := by
      decide +kernel
    have h := hall seen.length hlt fill hfill
    rwa [hseen] at h
  average := by
    intro seen fill rest heq
    obtain ⟨hlt, hseen, hfill⟩ := split_at heq
    have hall : ∀ i < 3, ∀ fill ∈ mixedFills[i]?, fill.productType = .derivatives →
        isEffectivelyZero (averagePnl ∅ (mixedFills.take i) fill) = true →
        averagePnl ∅ (mixedFills.take i) fill = 0 := by
      decide +kernel
    have h := hall seen.length hlt fill hfill
    rwa [hseen] at h

theorem ledger_matches_memory_mixedFills :
    totalAvailable (postAll [] ∅ mixedFills).ledger "USDT" - totalAvailable [] "USDT" =
      (postAll [] ∅ mixedFills).booked.state.balances.balance "USDT" -
        Balances.balance ∅ "USDT" ∧
    (postAll [] ∅ mixedFills).booked.state.balances.balance "USDT" = -93 := by
  refine ⟨ledger_matches_memory mixedFills_coarse mixedFills_new mixedFills_settles (.inr ?_),
    by decide +kernel⟩
  have hall : ∀ entry ∈ (postAll [] ∅ mixedFills).booked.state.positions.entries,
      entry.2.productType ≠ .derivatives := by
    decide +kernel
  intro key record hlookup
  exact hall ⟨key, record⟩ (AList.mem_lookup_iff.mp hlookup)

/-- A spot buy at 100 and a spot sell at 110. -/
def spotRoundTrip : List FillRecord :=
  let buy : FillRecord :=
    { fillId := "f1", symbol := "BTC-USDT", side := .buy, fillQty := 1, fillPrice := 100,
      feeAmount := 0, exchangeTimestamp := 1, ingestionTimestamp := 1 }
  [buy, { buy with fillId := "f2", side := .sell, fillPrice := 110, exchangeTimestamp := 2 }]

theorem spotRoundTrip_new :
    NewFills (ensureInitialBalance [] "USDT" 1000 .spot .cash) spotRoundTrip where
  nodup := by decide +kernel
  supported := by
    intro fill hmem
    apply feeSupported_of_ok
    revert fill
    decide +kernel
  unposted := by
    intro fill _ sourceType journal hmem _ currency hid
    have hopening : ensureInitialBalance [] "USDT" 1000 .spot .cash =
        [twoLegs (.ofSource .openingBalance) .openingBalance (.bootstrap .spot .cash "USDT")
          (cashAccount .spot .cash "USDT")
          { accountType := .openingBalance, currency := "USDT", productType := .spot,
            marginMode := .cash } 1000] := by
      decide +kernel
    rw [hopening, List.mem_singleton] at hmem
    rw [hmem] at hid
    cases hid

/-- **The PnL of a spot sale is counted twice**: with the proceeds of the sale and once more as
realized PnL. -/
theorem spotRoundTrip_counted_twice :
    ¬ ∀ (ledger : Ledger) (balances : Balances) (fills : List FillRecord) (currency : String),
      NewFills ledger fills →
      ((∀ fill ∈ fills, fill.productType = .derivatives →
          quoteOf fill.toFillEvent ≠ some currency) ∨
        DerivativesFlat (postAll ledger balances fills).booked.state) →
      totalAvailable (postAll ledger balances fills).ledger currency -
          totalAvailable ledger currency =
        (postAll ledger balances fills).booked.state.balances.balance currency -
          balances.balance currency := by
  intro h
  have hequal := h (ensureInitialBalance [] "USDT" 1000 .spot .cash)
    ((∅ : Balances).insert "USDT" 1000) spotRoundTrip "USDT" spotRoundTrip_new
    (.inl (by decide +kernel))
  exact absurd hequal (by decide +kernel)

end Aats.Portfolio
