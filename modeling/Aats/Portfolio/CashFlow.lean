import Aats.Lib.Holdings
import Aats.Portfolio.State
import Mathlib.Tactic.FieldSimp

/-!
# The cash flow of the in-memory portfolio

What `PortfolioState` reports after any sequence of fills, stated over the fills that took effect:
the position of a key balances its trades at average cost, realized PnL and fees add up to the
trading PnL, and the balance of a currency moves by the spot legs, the derivatives PnL and the
fees in that currency. A derivatives PnL of at most `1e-12` is not booked, which is where the
tolerance of the balances comes from.

The average-cost booking compares quantities with a tolerance. Quantities that are multiples of
a step larger than that never come near it without being zero, and then the booking is exact.

## Main definitions
* `bookAll start fills` — `apply_fill` over all fills, with the results of those that took effect.
-/

namespace Aats.Portfolio

open Holdings

variable {step : ℚ}

/-! ### Comparisons on a grid -/

theorem isEffectivelyZero_zero : isEffectivelyZero 0 = true := by
  simp [isEffectivelyZero, epsilon12_pos.le]

theorem isEffectivelyZero_iff {x : ℚ} (hstep : epsilon12 < step) (hx : OnGrid step x) :
    isEffectivelyZero x = true ↔ x = 0 := by
  unfold isEffectivelyZero
  rw [decide_eq_true_iff]
  exact hx.abs_le_iff epsilon12_pos.le hstep

theorem sameDirection_iff {x y : ℚ} (hstep : epsilon12 < step) (hx : OnGrid step x)
    (hy : OnGrid step y) :
    sameDirection x y = true ↔ (0 ≤ x ∧ 0 ≤ y) ∨ (x ≤ 0 ∧ y ≤ 0) := by
  have hnear : (|x| ≤ epsilon12 ∨ |y| ≤ epsilon12) ↔ (x = 0 ∨ y = 0) := by
    rw [hx.abs_le_iff epsilon12_pos.le hstep, hy.abs_le_iff epsilon12_pos.le hstep]
  unfold sameDirection
  by_cases hzero : x = 0 ∨ y = 0
  · -- zero goes in either direction
    rw [if_pos (hnear.mpr hzero)]
    refine iff_of_true rfl ?_
    rcases hzero with rfl | rfl
    · rcases le_total 0 y with h | h
      · exact .inl ⟨le_rfl, h⟩
      · exact .inr ⟨le_rfl, h⟩
    · rcases le_total 0 x with h | h
      · exact .inl ⟨h, le_rfl⟩
      · exact .inr ⟨h, le_rfl⟩
  · rw [if_neg (fun h => hzero (hnear.mp h)), decide_eq_true_iff]
    rw [not_or] at hzero
    constructor
    · rintro (⟨h1, h2⟩ | ⟨h1, h2⟩)
      · exact .inl ⟨h1.le, h2.le⟩
      · exact .inr ⟨h1.le, h2.le⟩
    · rintro (⟨h1, h2⟩ | ⟨h1, h2⟩)
      · exact .inl ⟨lt_of_le_of_ne h1 (Ne.symm hzero.1), lt_of_le_of_ne h2 (Ne.symm hzero.2)⟩
      · exact .inr ⟨lt_of_le_of_ne h1 hzero.1, lt_of_le_of_ne h2 hzero.2⟩

/-! ### One average-cost booking -/

theorem bookQuantity_quantity (startingQty avg signed price : ℚ) :
    (bookQuantity startingQty avg signed price).1 = startingQty + signed := by
  unfold bookQuantity
  simp only []
  split <;> rfl

theorem weighted_cost {s x avg price : ℚ} (hsign : (0 ≤ s ∧ 0 ≤ x) ∨ (s ≤ 0 ∧ x ≤ 0))
    (hne : s + x ≠ 0) :
    (s + x) * ((|s| * avg + |x| * price) / |s + x|) = s * avg + x * price := by
  rcases hsign with ⟨hs, hx⟩ | ⟨hs, hx⟩
  · rw [abs_of_nonneg hs, abs_of_nonneg hx, abs_of_nonneg (add_nonneg hs hx)]
    field_simp
  · rw [abs_of_nonpos hs, abs_of_nonpos hx, abs_of_nonpos (add_nonpos hs hx)]
    field_simp
    ring

/-- Closing a part of a position, or all of it, or more than it. -/
theorem bookQuantity_opposite (avg price : ℚ) {s x : ℚ} (hstep : epsilon12 < step)
    (hs : OnGrid step s) (hx : OnGrid step x) (hopposite : (0 < s ∧ x < 0) ∨ (s < 0 ∧ 0 < x)) :
    (bookQuantity s avg x price).2.2 =
      (if 0 < s then price - avg else avg - price) * min |s| |x| ∧
    (bookQuantity s avg x price).2.1 =
      if s + x = 0 then 0 else if |x| < |s| then avg else price := by
  have hsum : OnGrid step (s + x) := hs.add hx
  have hsame : ¬ sameDirection s x = true := by
    rw [sameDirection_iff hstep hs hx]
    rcases hopposite with ⟨h1, h2⟩ | ⟨h1, h2⟩
    · rintro (⟨-, h⟩ | ⟨h, -⟩) <;> linarith
    · rintro (⟨h, -⟩ | ⟨-, h⟩) <;> linarith
  unfold bookQuantity
  simp only [if_neg hsame]
  refine ⟨by split <;> rfl, ?_⟩
  by_cases hzero : s + x = 0
  · rw [if_pos hzero, if_pos ((isEffectivelyZero_iff hstep hsum).mpr hzero)]
  · rw [if_neg hzero, if_neg (fun h => hzero ((isEffectivelyZero_iff hstep hsum).mp h))]
    -- the position stays on its side exactly if less than all of it is closed
    have hside : sameDirection s (s + x) = true ↔ |x| < |s| := by
      rw [sameDirection_iff hstep hs hsum]
      rcases hopposite with ⟨h1, h2⟩ | ⟨h1, h2⟩
      · rw [abs_of_pos h1, abs_of_neg h2]
        constructor
        · rintro (⟨-, h⟩ | ⟨h, -⟩)
          · have : 0 < s + x := lt_of_le_of_ne h (Ne.symm hzero)
            linarith
          · linarith
        · intro h
          exact .inl ⟨h1.le, by linarith⟩
      · rw [abs_of_neg h1, abs_of_pos h2]
        constructor
        · rintro (⟨h, -⟩ | ⟨-, h⟩)
          · linarith
          · have : s + x < 0 := lt_of_le_of_ne h hzero
            linarith
        · intro h
          exact .inr ⟨h1.le, by linarith⟩
    by_cases hlt : |x| < |s|
    · rw [if_pos hlt, if_pos (hside.mpr hlt)]
    · rw [if_neg hlt, if_neg (fun h => hlt (hside.mp h))]

theorem bookQuantity_same (avg price : ℚ) {s x : ℚ} (hstep : epsilon12 < step)
    (hs : OnGrid step s) (hx : OnGrid step x) (hsign : (0 ≤ s ∧ 0 ≤ x) ∨ (s ≤ 0 ∧ x ≤ 0)) :
    (bookQuantity s avg x price).2.2 = 0 ∧
    (bookQuantity s avg x price).2.1 =
      if s + x = 0 then 0 else (|s| * avg + |x| * price) / |s + x| := by
  have hsum : OnGrid step (s + x) := hs.add hx
  unfold bookQuantity
  simp only [if_pos ((sameDirection_iff hstep hs hx).mpr hsign)]
  refine ⟨trivial, ?_⟩
  by_cases hzero : s + x = 0
  · rw [if_pos hzero, if_pos ((isEffectivelyZero_iff hstep hsum).mpr hzero)]
  · rw [if_neg hzero, if_neg (fun h => hzero ((isEffectivelyZero_iff hstep hsum).mp h))]

theorem direction_cases (s x : ℚ) :
    ((0 ≤ s ∧ 0 ≤ x) ∨ (s ≤ 0 ∧ x ≤ 0)) ∨ ((0 < s ∧ x < 0) ∨ (s < 0 ∧ 0 < x)) := by
  rcases le_or_gt 0 s with hs | hs
  · rcases le_or_gt 0 x with hx | hx
    · exact .inl (.inl ⟨hs, hx⟩)
    · rcases hs.eq_or_lt with h | h
      · exact .inl (.inr ⟨h.symm.le, hx.le⟩)
      · exact .inr (.inl ⟨h, hx⟩)
  · rcases le_or_gt x 0 with hx | hx
    · exact .inl (.inr ⟨hs.le, hx⟩)
    · exact .inr (.inr ⟨hs, hx⟩)

/-- **An average-cost booking is a sound trade**: trading PnL and cash spent together are the
change of the cost of what is held. -/
theorem bookQuantity_sound (avg price : ℚ) {s x : ℚ} (hstep : epsilon12 < step)
    (hs : OnGrid step s) (hx : OnGrid step x) :
    (bookQuantity s avg x price).2.2 + x * price =
      (bookQuantity s avg x price).1 * (bookQuantity s avg x price).2.1 - s * avg := by
  rw [bookQuantity_quantity]
  rcases direction_cases s x with hsign | hopposite
  · obtain ⟨hpnl, havg⟩ := bookQuantity_same avg price hstep hs hx hsign
    rw [hpnl, havg]
    by_cases hzero : s + x = 0
    · -- of one sign and summing to zero: nothing was held and nothing is traded
      have hs0 : s = 0 := by
        rcases hsign with ⟨h1, h2⟩ | ⟨h1, h2⟩ <;> linarith
      have hx0 : x = 0 := by linarith
      simp [hs0, hx0]
    · rw [if_neg hzero, weighted_cost hsign hzero]
      ring
  · obtain ⟨hpnl, havg⟩ :=
      bookQuantity_opposite avg price hstep hs hx hopposite
    rw [hpnl, havg]
    rcases hopposite with ⟨h1, h2⟩ | ⟨h1, h2⟩
    · -- a long position: reduced, closed or reversed
      rw [if_pos h1, abs_of_pos h1, abs_of_neg h2]
      rcases lt_trichotomy (-x) s with hlt | heq | hgt
      · rw [if_neg (by linarith), if_pos hlt, min_eq_right hlt.le]
        ring
      · rw [if_pos (by linarith), min_eq_left heq.ge]
        rw [← heq]
        ring
      · rw [if_neg (by linarith), if_neg (by linarith), min_eq_left hgt.le]
        ring
    · -- a short one
      rw [if_neg (by linarith), abs_of_neg h1, abs_of_pos h2]
      rcases lt_trichotomy x (-s) with hlt | heq | hgt
      · rw [if_neg (by linarith), if_pos hlt, min_eq_right hlt.le]
        ring
      · rw [if_pos (by linarith), min_eq_left heq.ge, heq]
        ring
      · rw [if_neg (by linarith), if_neg (by linarith), min_eq_left hgt.le]
        ring

theorem bookQuantity_avg_pos {s avg x price : ℚ} (hstep : epsilon12 < step)
    (hs : OnGrid step s) (hx : OnGrid step x) (havg : s ≠ 0 → 0 < avg) (hprice : 0 < price)
    (hne : s + x ≠ 0) : 0 < (bookQuantity s avg x price).2.1 := by
  rcases direction_cases s x with hsign | hopposite
  · rw [(bookQuantity_same avg price hstep hs hx hsign).2, if_neg hne]
    apply div_pos _ (abs_pos.mpr hne)
    by_cases hs0 : s = 0
    · have hx0 : x ≠ 0 := by
        rintro rfl
        exact hne (by rw [hs0, add_zero])
      rw [hs0, abs_zero, zero_mul, zero_add]
      exact mul_pos (abs_pos.mpr hx0) hprice
    · exact add_pos_of_pos_of_nonneg (mul_pos (abs_pos.mpr hs0) (havg hs0))
        (mul_nonneg (abs_nonneg x) hprice.le)
  · rw [(bookQuantity_opposite avg price hstep hs hx hopposite).2, if_neg hne]
    -- the old entry price as long as the position stays on its side, else that of the fill
    split
    · apply havg
      rcases hopposite with ⟨h1, -⟩ | ⟨h1, -⟩
      · exact h1.ne'
      · exact h1.ne
    · exact hprice

/-! ### What one fill changes -/

/-- The quantity held under a key; an absent position has none. -/
def PortfolioState.quantityOf (state : PortfolioState) (key : String) : ℚ :=
  ((state.positions.lookup key).map (·.quantity)).getD 0

def PortfolioState.avgEntryPriceOf (state : PortfolioState) (key : String) : ℚ :=
  ((state.positions.lookup key).map (·.avgEntryPrice)).getD 0

def PortfolioState.booking (state : PortfolioState) (fill : FillEvent) : ℚ × ℚ × ℚ :=
  bookQuantity (state.quantityOf (positionKeyForFill fill))
    (state.avgEntryPriceOf (positionKeyForFill fill)) (signedQty fill) fill.fillPrice

namespace PortfolioState

variable {state : PortfolioState} {fill : FillEvent} {fee : ℚ} {key : String}

def existingRecord (state : PortfolioState) (fill : FillEvent) : PositionRecord :=
  (state.positions.lookup (positionKeyForFill fill)).getD
    { symbol := fill.symbol, positionKey := some (positionKeyForFill fill) }

theorem existingRecord_quantity (state : PortfolioState) (fill : FillEvent) :
    (state.existingRecord fill).quantity = state.quantityOf (positionKeyForFill fill) := by
  unfold existingRecord quantityOf
  cases state.positions.lookup (positionKeyForFill fill) <;> rfl

theorem existingRecord_avgEntryPrice (state : PortfolioState) (fill : FillEvent) :
    (state.existingRecord fill).avgEntryPrice =
      state.avgEntryPriceOf (positionKeyForFill fill) := by
  unfold existingRecord avgEntryPriceOf
  cases state.positions.lookup (positionKeyForFill fill) <;> rfl

/-- The record that a fill leaves, before a flat one is removed. -/
def bookedRecord (state : PortfolioState) (fill : FillEvent) : PositionRecord :=
  { (state.existingRecord fill).describe fill with
    quantity := (state.booking fill).1
    avgEntryPrice := (state.booking fill).2.1
    exposureSide := exposureSideFromQuantity (state.booking fill).1 }

theorem bookFill_positions (state : PortfolioState) (fill : FillEvent) (fee : ℚ) :
    (state.bookFill fill fee).2.positions =
      cleanupIfFlat (state.positions.insert (positionKeyForFill fill) (state.bookedRecord fill))
        (positionKeyForFill fill) := by
  unfold bookFill bookedRecord booking
  rw [← existingRecord_quantity, ← existingRecord_avgEntryPrice]
  rfl

theorem lookup_bookFill_ne (h : key ≠ positionKeyForFill fill) :
    (state.bookFill fill fee).2.positions.lookup key = state.positions.lookup key := by
  rw [bookFill_positions, cleanupIfFlat, AList.lookup_insert]
  simp only []
  split
  · rw [AList.lookup_erase_ne h, AList.lookup_insert_ne h]
  · rw [AList.lookup_insert_ne h]

theorem lookup_bookFill_self :
    (state.bookFill fill fee).2.positions.lookup (positionKeyForFill fill) =
      if isEffectivelyZero (state.booking fill).1 then none else some (state.bookedRecord fill) := by
  rw [bookFill_positions, cleanupIfFlat, AList.lookup_insert]
  simp only []
  show AList.lookup _ (if isEffectivelyZero (state.booking fill).1 = true then _ else _) = _
  split
  · exact AList.lookup_erase _ _
  · exact AList.lookup_insert _

theorem quantityOf_bookFill_self :
    (state.bookFill fill fee).2.quantityOf (positionKeyForFill fill) =
      if isEffectivelyZero (state.booking fill).1 then 0 else (state.booking fill).1 := by
  unfold quantityOf
  rw [lookup_bookFill_self]
  split <;> rfl

theorem avgEntryPriceOf_bookFill_self :
    (state.bookFill fill fee).2.avgEntryPriceOf (positionKeyForFill fill) =
      if isEffectivelyZero (state.booking fill).1 then 0 else (state.booking fill).2.1 := by
  unfold avgEntryPriceOf
  rw [lookup_bookFill_self]
  split <;> rfl

theorem quantityOf_bookFill_ne (h : key ≠ positionKeyForFill fill) :
    (state.bookFill fill fee).2.quantityOf key = state.quantityOf key := by
  unfold quantityOf
  rw [lookup_bookFill_ne h]

theorem avgEntryPriceOf_bookFill_ne (h : key ≠ positionKeyForFill fill) :
    (state.bookFill fill fee).2.avgEntryPriceOf key = state.avgEntryPriceOf key := by
  unfold avgEntryPriceOf
  rw [lookup_bookFill_ne h]

theorem bookFill_tradingPnl (state : PortfolioState) (fill : FillEvent) (fee : ℚ) :
    (state.bookFill fill fee).1.realizedPnlDelta + (state.bookFill fill fee).1.feeDelta =
      (state.booking fill).2.2 := by
  have hbooked : (state.bookFill fill fee).1.realizedPnlDelta = (state.booking fill).2.2 - fee := by
    unfold booking
    rw [← existingRecord_quantity, ← existingRecord_avgEntryPrice]
    rfl
  have hfee : (state.bookFill fill fee).1.feeDelta = fee := rfl
  rw [hbooked, hfee]
  ring

end PortfolioState

/-! ### What one fill changes of the balances -/

theorem Balances.balance_insert (balances : Balances) (currency other : String) (amount : ℚ) :
    Balances.balance (balances.insert currency amount) other =
      if currency = other then amount else balances.balance other := by
  unfold Balances.balance
  by_cases h : currency = other
  · rw [if_pos h, ← h, AList.lookup_insert]
    rfl
  · rw [if_neg h, AList.lookup_insert_ne (Ne.symm h)]

def Balances.addTo (balances : Balances) (target : Option String) (amount : ℚ) : Balances :=
  match target with
  | none => balances
  | some other => balances.insert other (balances.balance other + amount)

theorem Balances.balance_addTo (balances : Balances) (target : Option String) (amount : ℚ)
    (currency : String) :
    (balances.addTo target amount).balance currency =
      balances.balance currency + if target = some currency then amount else 0 := by
  unfold addTo
  cases target with
  | none => simp
  | some other =>
    simp only [Balances.balance_insert, Option.some.injEq]
    split
    · next h => rw [h]
    · rw [add_zero]

def baseOf (fill : FillEvent) : Option String := (resolveSymbolCurrencies fill.symbol).1

def quoteOf (fill : FillEvent) : Option String := (resolveSymbolCurrencies fill.symbol).2

def feeCurrencyOf (fill : FillEvent) : Option String :=
  resolvedFeeCurrency fill (baseOf fill) (quoteOf fill)

def spotFlow (fill : FillEvent) (currency : String) : ℚ :=
  match fill.productType with
  | .derivatives => 0
  | .spot =>
    (if quoteOf fill = some currency then -(signedQty fill * fill.fillPrice) else 0) +
      (if baseOf fill = some currency then signedQty fill else 0)

/-- What the trading PnL of a fill moves of a currency: a derivatives PnL settles in the quote
currency. -/
def pnlFlow (fill : FillEvent) (tradingPnl : ℚ) (currency : String) : ℚ :=
  if fill.productType = .derivatives ∧ quoteOf fill = some currency then tradingPnl else 0

def feeFlow (fill : FillEvent) (currency : String) : ℚ :=
  if feeCurrencyOf fill = some currency then fill.feeAmount else 0

def bookedPnl (tradingPnl : ℚ) : ℚ := if isEffectivelyZero tradingPnl then 0 else tradingPnl

theorem balance_bookSpotBalances (balances : Balances) (fill : FillEvent) (currency : String) :
    (bookSpotBalances balances fill (baseOf fill) (quoteOf fill)).balance currency =
      balances.balance currency + spotFlow fill currency := by
  cases hp : fill.productType with
  | derivatives => simp [bookSpotBalances, spotFlow, hp]
  | spot =>
    have hbook : bookSpotBalances balances fill (baseOf fill) (quoteOf fill) =
        (balances.addTo (quoteOf fill) (-(signedQty fill * fill.fillPrice))).addTo (baseOf fill)
          (signedQty fill) := by
      unfold bookSpotBalances Balances.addTo signedQty
      rw [hp]
      cases fill.side <;> cases quoteOf fill <;> cases baseOf fill <;> simp [sub_eq_add_neg]
    rw [hbook, Balances.balance_addTo, Balances.balance_addTo, add_assoc, spotFlow, hp]

theorem balance_bookDerivativesPnl (balances : Balances) (fill : FillEvent) (tradingPnl : ℚ)
    (currency : String) :
    (bookDerivativesPnl balances fill (quoteOf fill) tradingPnl).balance currency =
      balances.balance currency + pnlFlow fill (bookedPnl tradingPnl) currency := by
  unfold bookDerivativesPnl pnlFlow bookedPnl
  cases fill.productType with
  | spot => simp
  | derivatives =>
    cases hq : quoteOf fill with
    | none => simp
    | some quote =>
      simp only [true_and, Option.some.injEq]
      by_cases hz : isEffectivelyZero tradingPnl = true
      · simp [hz]
      · simp only [if_neg hz, Balances.balance_insert]
        split
        · next h => rw [h]
        · rw [add_zero]

theorem balance_bookFee (balances : Balances) (fill : FillEvent) (currency : String) :
    (bookFee balances (feeCurrencyOf fill) fill.feeAmount).balance currency =
      balances.balance currency - feeFlow fill currency := by
  have hbook : bookFee balances (feeCurrencyOf fill) fill.feeAmount =
      balances.addTo (feeCurrencyOf fill) (-fill.feeAmount) := by
    unfold bookFee Balances.addTo
    cases feeCurrencyOf fill <;> simp [sub_eq_add_neg]
  rw [hbook, Balances.balance_addTo, feeFlow]
  split <;> simp [sub_eq_add_neg]

theorem PortfolioState.balance_bookFill (state : PortfolioState) (fill : FillEvent) (fee : ℚ)
    (currency : String) :
    (state.bookFill fill fee).2.balances.balance currency =
      state.balances.balance currency + spotFlow fill currency +
        pnlFlow fill (bookedPnl (state.booking fill).2.2) currency - feeFlow fill currency := by
  have hbalances : (state.bookFill fill fee).2.balances =
      bookFee (bookDerivativesPnl (bookSpotBalances state.balances fill (baseOf fill)
        (quoteOf fill)) fill (quoteOf fill) (state.booking fill).2.2)
        (feeCurrencyOf fill) fill.feeAmount := by
    unfold booking
    rw [← existingRecord_quantity, ← existingRecord_avgEntryPrice]
    rfl
  rw [hbalances, balance_bookFee, balance_bookDerivativesPnl, balance_bookSpotBalances]

theorem abs_bookedPnl_sub (tradingPnl : ℚ) : |bookedPnl tradingPnl - tradingPnl| ≤ epsilon12 := by
  unfold bookedPnl
  split
  · next h =>
    rw [zero_sub, abs_neg]
    exact decide_eq_true_iff.mp h
  · rw [sub_self, abs_zero]
    exact epsilon12_pos.le

/-! ### Any sequence of fills -/

/-- A fill that took effect, with what `apply_fill` returned for it. -/
abbrev Effect := FillEvent × FillApplicationResult

structure Booked where
  state : PortfolioState
  effects : List Effect := []

/-- `apply_fill`; a fill that raises changes nothing. -/
def Booked.apply (booked : Booked) (fill : FillEvent) : Booked :=
  match booked.state.applyFill fill with
  | .error _ => booked
  | .ok (result, next) =>
    { state := next
      effects := if result.applied then booked.effects ++ [(fill, result)] else booked.effects }

/-- `apply_fill` over all fills, from a portfolio that holds nothing but balances. -/
def bookAll (start : Balances) (fills : List FillEvent) : Booked :=
  fills.foldl Booked.apply { state := { balances := start } }

theorem bookAll_concat (start : Balances) (fills : List FillEvent) (fill : FillEvent) :
    bookAll start (fills ++ [fill]) = (bookAll start fills).apply fill := by
  unfold bookAll
  rw [List.foldl_append]
  rfl

/-- The fee of a fill can be valued in the quote currency. -/
def FeeSupported (fill : FillEvent) : Prop :=
  ∃ fee, fillFeeDeltaInQuote fill (baseOf fill) (quoteOf fill) = .ok fee

theorem PortfolioState.applyFill_of_new {state : PortfolioState} {fill : FillEvent}
    (h : fill.fillId ∉ state.appliedFillIds) :
    state.applyFill fill =
      (fillFeeDeltaInQuote fill (baseOf fill) (quoteOf fill)).map (state.bookFill fill) := by
  rw [applyFill, if_neg (by simpa using h)]
  unfold baseOf quoteOf
  cases hfee : fillFeeDeltaInQuote fill (resolveSymbolCurrencies fill.symbol).1
      (resolveSymbolCurrencies fill.symbol).2 with
  | error e => simp only [hfee]; rfl
  | ok fee => simp only [hfee]; rfl

/-- **What a fill can do**: nothing, because its id took effect before or its fee is not
supported, or it is booked. -/
theorem Booked.apply_cases (booked : Booked) (fill : FillEvent) :
    (booked.apply fill = booked ∧
      (fill.fillId ∈ booked.state.appliedFillIds ∨ ¬ FeeSupported fill)) ∨
    (fill.fillId ∉ booked.state.appliedFillIds ∧ ∃ fee,
      fillFeeDeltaInQuote fill (baseOf fill) (quoteOf fill) = .ok fee ∧
      booked.apply fill =
        { state := (booked.state.bookFill fill fee).2
          effects := booked.effects ++ [(fill, (booked.state.bookFill fill fee).1)] }) := by
  by_cases hid : fill.fillId ∈ booked.state.appliedFillIds
  · refine .inl ⟨?_, .inl hid⟩
    unfold Booked.apply
    rw [PortfolioState.applyFill, if_pos (by simpa using hid)]
    rfl
  · -- a new id: all depends on the fee
    have happly := PortfolioState.applyFill_of_new hid
    cases hfee : fillFeeDeltaInQuote fill (baseOf fill) (quoteOf fill) with
    | error e =>
      refine .inl ⟨?_, .inr ?_⟩
      · simp only [Booked.apply, happly, hfee, Except.map]
      · rintro ⟨fee, h⟩
        rw [hfee] at h
        cases h
    | ok fee =>
      refine .inr ⟨hid, fee, rfl, ?_⟩
      simp only [Booked.apply, happly, hfee, Except.map, PortfolioState.bookFill_applied, if_true]

def tradingPnl (effect : Effect) : ℚ := effect.2.realizedPnlDelta + effect.2.feeDelta

def effectsOf (key : String) (effects : List Effect) : List Effect :=
  effects.filter (fun effect => positionKeyForFill effect.1 = key)

def tradesOf (key : String) (effects : List Effect) : List (Trade ℚ) :=
  (effectsOf key effects).map (fun effect => (signedQty effect.1, effect.1.fillPrice))

def cumulatedPnl (key : String) (effects : List Effect) : ℚ :=
  ((effectsOf key effects).map tradingPnl).sum

def holdingOf (booked : Booked) (key : String) : Holding ℚ where
  quantity := booked.state.quantityOf key
  cost := booked.state.quantityOf key * booked.state.avgEntryPriceOf key
  profit := cumulatedPnl key booked.effects

def flow (effects : List Effect) (currency : String) : ℚ :=
  (effects.map (fun effect => spotFlow effect.1 currency +
    pnlFlow effect.1 (tradingPnl effect) currency - feeFlow effect.1 currency)).sum

def settledIn (currency : String) (effects : List Effect) : List Effect :=
  effects.filter
    (fun effect => effect.1.productType = .derivatives ∧ quoteOf effect.1 = some currency)

/-- What holds of a portfolio after any fills on the grid. -/
structure Consistent (step : ℚ) (start : Balances) (booked : Booked) : Prop where
  nodup : (booked.effects.map (·.1.fillId)).Nodup
  applied : ∀ id, id ∈ booked.state.appliedFillIds ↔ id ∈ booked.effects.map (·.1.fillId)
  holding : ∀ key, (holdingOf booked key).Balances (tradesOf key booked.effects)
  kept : ∀ key record, booked.state.positions.lookup key = some record →
    OnGrid step record.quantity ∧ record.quantity ≠ 0
  avg_pos : (∀ effect ∈ booked.effects, 0 < effect.1.fillPrice) →
    ∀ key record, booked.state.positions.lookup key = some record → 0 < record.avgEntryPrice
  realized : booked.state.realizedPnl + booked.state.totalFeesPaid =
    (booked.effects.map tradingPnl).sum
  balance : ∀ currency,
    |booked.state.balances.balance currency - start.balance currency -
      flow booked.effects currency| ≤ epsilon12 * (settledIn currency booked.effects).length

theorem Consistent.lookup_eq_none_iff {start : Balances} {booked : Booked}
    (h : Consistent step start booked) (key : String) :
    booked.state.positions.lookup key = none ↔ booked.state.quantityOf key = 0 := by
  unfold PortfolioState.quantityOf
  cases hl : booked.state.positions.lookup key with
  | none => simp
  | some record => simpa using (h.kept key record hl).2

theorem consistent_start (step : ℚ) (start : Balances) :
    Consistent step start { state := { balances := start } } where
  nodup := List.nodup_nil
  applied := by simp
  holding := by
    intro key
    refine ⟨rfl, ?_⟩
    simp [holdingOf, cumulatedPnl, tradesOf, effectsOf, PortfolioState.quantityOf]
  kept := by
    intro key record h
    cases h
  avg_pos := by
    intro _ key record h
    cases h
  realized := by simp
  balance := by
    intro currency
    simp [flow, settledIn]

theorem Consistent.onGrid {start : Balances} {booked : Booked} (h : Consistent step start booked)
    (key : String) : OnGrid step (booked.state.quantityOf key) := by
  unfold PortfolioState.quantityOf
  cases hl : booked.state.positions.lookup key with
  | none => exact onGrid_zero step
  | some record => exact (h.kept key record hl).1

theorem onGrid_signedQty {fill : FillEvent} (h : OnGrid step fill.fillQty) :
    OnGrid step (signedQty fill) := by
  unfold signedQty
  cases fill.side with
  | buy => exact h
  | sell => exact h.neg

theorem effectsOf_concat (key : String) (effects : List Effect) (effect : Effect) :
    effectsOf key (effects ++ [effect]) =
      effectsOf key effects ++ if positionKeyForFill effect.1 = key then [effect] else [] := by
  unfold effectsOf
  rw [List.filter_append]
  split
  · next h => simp [h]
  · next h => simp [h]

section Step

variable {start : Balances} {booked : Booked} {fill : FillEvent} {fee : ℚ}

theorem quantityOf_bookFill (hstep : epsilon12 < step)
    (hgrid : OnGrid step (booked.state.booking fill).1) :
    (booked.state.bookFill fill fee).2.quantityOf (positionKeyForFill fill) =
      (booked.state.booking fill).1 := by
  rw [PortfolioState.quantityOf_bookFill_self]
  split
  · next h => exact ((isEffectivelyZero_iff hstep hgrid).mp h).symm
  · rfl

theorem cost_bookFill (hstep : epsilon12 < step)
    (hgrid : OnGrid step (booked.state.booking fill).1) :
    (booked.state.bookFill fill fee).2.quantityOf (positionKeyForFill fill) *
        (booked.state.bookFill fill fee).2.avgEntryPriceOf (positionKeyForFill fill) =
      (booked.state.booking fill).1 * (booked.state.booking fill).2.1 := by
  rw [quantityOf_bookFill hstep hgrid, PortfolioState.avgEntryPriceOf_bookFill_self]
  split
  · next h => rw [(isEffectivelyZero_iff hstep hgrid).mp h, zero_mul, zero_mul]
  · rfl

theorem Consistent.holding_book (h : Consistent step start booked) (hstep : epsilon12 < step)
    (hfill : OnGrid step fill.fillQty) (key : String) :
    (holdingOf
      { state := (booked.state.bookFill fill fee).2
        effects := booked.effects ++ [(fill, (booked.state.bookFill fill fee).1)] } key).Balances
      (tradesOf key (booked.effects ++ [(fill, (booked.state.bookFill fill fee).1)])) := by
  have hbefore := h.holding key
  unfold tradesOf
  rw [effectsOf_concat]
  by_cases hkey : positionKeyForFill fill = key
  · subst hkey
    -- the booking is sound, and on the grid a position is removed only when it holds nothing
    have hs := h.onGrid (positionKeyForFill fill)
    have hx := onGrid_signedQty hfill
    have hgrid : OnGrid step (booked.state.booking fill).1 := by
      unfold PortfolioState.booking
      rw [bookQuantity_quantity]
      exact hs.add hx
    rw [if_pos rfl, List.map_append, List.map_singleton]
    apply hbefore.trade
    · show (booked.state.bookFill fill fee).2.quantityOf _ = booked.state.quantityOf _ + _
      rw [quantityOf_bookFill hstep hgrid]
      exact bookQuantity_quantity _ _ _ _
    · have hpnl : cumulatedPnl (positionKeyForFill fill)
          (booked.effects ++ [(fill, (booked.state.bookFill fill fee).1)]) =
          cumulatedPnl (positionKeyForFill fill) booked.effects +
            (booked.state.booking fill).2.2 := by
        unfold cumulatedPnl
        rw [effectsOf_concat, if_pos rfl, List.map_append, List.sum_append, List.map_singleton,
          List.sum_singleton, tradingPnl, PortfolioState.bookFill_tradingPnl]
      show cumulatedPnl _ _ - cumulatedPnl _ _ + signedQty fill * fill.fillPrice = _ * _ - _ * _
      rw [hpnl, add_sub_cancel_left, cost_bookFill hstep hgrid]
      exact bookQuantity_sound _ _ hstep hs hx
  · rw [if_neg hkey, List.append_nil]
    have hsame : holdingOf
        { state := (booked.state.bookFill fill fee).2
          effects := booked.effects ++ [(fill, (booked.state.bookFill fill fee).1)] } key =
        holdingOf booked key := by
      unfold holdingOf cumulatedPnl
      rw [effectsOf_concat, if_neg hkey, List.append_nil,
        PortfolioState.quantityOf_bookFill_ne (Ne.symm hkey),
        PortfolioState.avgEntryPriceOf_bookFill_ne (Ne.symm hkey)]
    rw [hsame]
    exact hbefore

theorem Consistent.kept_book (h : Consistent step start booked) (hstep : epsilon12 < step)
    (hfill : OnGrid step fill.fillQty) {key : String} {record : PositionRecord}
    (hlookup : (booked.state.bookFill fill fee).2.positions.lookup key = some record) :
    OnGrid step record.quantity ∧ record.quantity ≠ 0 := by
  by_cases hkey : key = positionKeyForFill fill
  · subst hkey
    have hgrid : OnGrid step (booked.state.booking fill).1 := by
      unfold PortfolioState.booking
      rw [bookQuantity_quantity]
      exact (h.onGrid _).add (onGrid_signedQty hfill)
    rw [PortfolioState.lookup_bookFill_self] at hlookup
    split at hlookup
    · cases hlookup
    · next hne =>
      cases hlookup
      exact ⟨hgrid, fun hzero => hne ((isEffectivelyZero_iff hstep hgrid).mpr hzero)⟩
  · rw [PortfolioState.lookup_bookFill_ne hkey] at hlookup
    exact h.kept key record hlookup

theorem Consistent.avg_pos_book (h : Consistent step start booked) (hstep : epsilon12 < step)
    (hfill : OnGrid step fill.fillQty) (hprice : 0 < fill.fillPrice)
    (hprices : ∀ effect ∈ booked.effects, 0 < effect.1.fillPrice)
    {key : String} {record : PositionRecord}
    (hlookup : (booked.state.bookFill fill fee).2.positions.lookup key = some record) :
    0 < record.avgEntryPrice := by
  by_cases hkey : key = positionKeyForFill fill
  · subst hkey
    have hkept := h.kept_book hstep hfill hlookup
    rw [PortfolioState.lookup_bookFill_self] at hlookup
    split at hlookup
    · cases hlookup
    · cases hlookup
      apply bookQuantity_avg_pos hstep (h.onGrid _) (onGrid_signedQty hfill) _ hprice
      · have hne := hkept.2
        change (booked.state.booking fill).1 ≠ 0 at hne
        unfold PortfolioState.booking at hne
        rwa [bookQuantity_quantity] at hne
      · intro hheld
        unfold PortfolioState.quantityOf at hheld
        unfold PortfolioState.avgEntryPriceOf
        cases hl : booked.state.positions.lookup (positionKeyForFill fill) with
        | none =>
          rw [hl] at hheld
          exact absurd rfl hheld
        | some record => exact h.avg_pos hprices _ record hl
  · rw [PortfolioState.lookup_bookFill_ne hkey] at hlookup
    exact h.avg_pos hprices key record hlookup

/-- A balance moves as the flow of the effects does, but for a PnL within the tolerance. -/
theorem Consistent.balance_book (h : Consistent step start booked) (currency : String) :
    |(booked.state.bookFill fill fee).2.balances.balance currency - start.balance currency -
      flow (booked.effects ++ [(fill, (booked.state.bookFill fill fee).1)]) currency| ≤
      epsilon12 * (settledIn currency
        (booked.effects ++ [(fill, (booked.state.bookFill fill fee).1)])).length := by
  obtain ⟨pnl, hpnl⟩ : ∃ pnl, pnl = (booked.state.booking fill).2.2 := ⟨_, rfl⟩
  have hflow : flow (booked.effects ++ [(fill, (booked.state.bookFill fill fee).1)]) currency =
      flow booked.effects currency + (spotFlow fill currency + pnlFlow fill pnl currency -
        feeFlow fill currency) := by
    unfold flow
    rw [List.map_append, List.sum_append, List.map_singleton, List.sum_singleton, tradingPnl,
      PortfolioState.bookFill_tradingPnl, hpnl]
  have hbefore := h.balance currency
  rw [PortfolioState.balance_bookFill, hflow, ← hpnl]
  unfold settledIn at hbefore ⊢
  rw [List.filter_append, List.length_append, Nat.cast_add, mul_add]
  -- spot legs and fees are exact; only a PnL that is not booked makes a difference
  have hsplit : booked.state.balances.balance currency + spotFlow fill currency +
        pnlFlow fill (bookedPnl pnl) currency - feeFlow fill currency - start.balance currency -
        (flow booked.effects currency + (spotFlow fill currency + pnlFlow fill pnl currency -
          feeFlow fill currency)) =
      (booked.state.balances.balance currency - start.balance currency -
        flow booked.effects currency) +
        (pnlFlow fill (bookedPnl pnl) currency - pnlFlow fill pnl currency) := by
    ring
  rw [hsplit]
  refine (abs_add_le _ _).trans (add_le_add hbefore ?_)
  unfold pnlFlow
  by_cases hsettles : fill.productType = .derivatives ∧ quoteOf fill = some currency
  · rw [if_pos hsettles, if_pos hsettles]
    simpa [hsettles] using abs_bookedPnl_sub pnl
  · rw [if_neg hsettles, if_neg hsettles]
    simp [hsettles]

theorem Consistent.book (h : Consistent step start booked) (hstep : epsilon12 < step)
    (hfill : OnGrid step fill.fillQty) (hnew : fill.fillId ∉ booked.state.appliedFillIds) :
    Consistent step start
      { state := (booked.state.bookFill fill fee).2
        effects := booked.effects ++ [(fill, (booked.state.bookFill fill fee).1)] } where
  nodup := by
    rw [List.map_append, List.nodup_append]
    refine ⟨h.nodup, List.nodup_singleton _, ?_⟩
    intro id hid other hother
    rw [List.map_singleton, List.mem_singleton] at hother
    rintro rfl
    rw [hother] at hid
    -- the ids of the effects are the applied ones, and this one is new
    exact hnew ((h.applied _).mpr hid)
  applied := by
    intro id
    rw [PortfolioState.bookFill_appliedFillIds, Finset.mem_insert, h.applied, List.map_append,
      List.mem_append, List.map_singleton, List.mem_singleton]
    exact or_comm
  holding := h.holding_book hstep hfill
  kept := fun key record hlookup => h.kept_book hstep hfill hlookup
  avg_pos := by
    intro hprices key record hlookup
    refine h.avg_pos_book hstep hfill ?_ ?_ hlookup
    · exact hprices _ (List.mem_append_right _ (List.mem_singleton_self _))
    · intro effect hmem
      exact hprices effect (List.mem_append_left _ hmem)
  realized := by
    have hsum : (booked.state.bookFill fill fee).2.realizedPnl +
        (booked.state.bookFill fill fee).2.totalFeesPaid =
        booked.state.realizedPnl + booked.state.totalFeesPaid +
          ((booked.state.bookFill fill fee).1.realizedPnlDelta +
            (booked.state.bookFill fill fee).1.feeDelta) := by
      show booked.state.realizedPnl + _ + (booked.state.totalFeesPaid + _) = _
      rw [add_add_add_comm]
      rfl
    rw [hsum, h.realized, List.map_append, List.sum_append, List.map_singleton,
      List.sum_singleton]
    rfl
  balance := fun currency => h.balance_book currency

end Step

theorem consistent_bookAll (start : Balances) {fills : List FillEvent} (hstep : epsilon12 < step)
    (hgrid : ∀ fill ∈ fills, OnGrid step fill.fillQty) :
    Consistent step start (bookAll start fills) := by
  induction fills using List.reverseRecOn with
  | nil => exact consistent_start step start
  | append_singleton fills fill ih =>
    have hbefore := ih (fun other hmem => hgrid other (List.mem_append_left _ hmem))
    have hfill := hgrid fill (List.mem_append_right _ (List.mem_singleton_self _))
    rw [bookAll_concat]
    rcases (bookAll start fills).apply_cases fill with ⟨hsame, -⟩ | ⟨hnew, fee, -, hbook⟩
    · rw [hsame]
      exact hbefore
    · rw [hbook]
      exact hbefore.book hstep hfill hnew

theorem effects_sublist (start : Balances) (fills : List FillEvent) :
    ((bookAll start fills).effects.map Prod.fst).Sublist fills := by
  induction fills using List.reverseRecOn with
  | nil => exact List.Sublist.refl _
  | append_singleton fills fill ih =>
    rw [bookAll_concat]
    rcases (bookAll start fills).apply_cases fill with ⟨hsame, -⟩ | ⟨-, fee, -, hbook⟩
    · rw [hsame]
      exact ih.trans (List.sublist_append_left _ _)
    · rw [hbook, List.map_append]
      exact ih.append (List.Sublist.refl _)

theorem applied_mono (start : Balances) (fills : List FillEvent) (fill : FillEvent) {id : String}
    (h : id ∈ (bookAll start fills).state.appliedFillIds) :
    id ∈ (bookAll start (fills ++ [fill])).state.appliedFillIds := by
  rw [bookAll_concat]
  rcases (bookAll start fills).apply_cases fill with ⟨hsame, -⟩ | ⟨-, fee, -, hbook⟩
  · rw [hsame]
    exact h
  · rw [hbook]
    exact Finset.mem_insert_of_mem h

theorem applied_of_supported (start : Balances) {fills : List FillEvent} {fill : FillEvent}
    (hmem : fill ∈ fills) (hfee : FeeSupported fill) :
    fill.fillId ∈ (bookAll start fills).state.appliedFillIds := by
  induction fills using List.reverseRecOn with
  | nil => cases hmem
  | append_singleton fills last ih =>
    rcases List.mem_append.mp hmem with hmem | hmem
    · exact applied_mono start fills last (ih hmem)
    · rw [List.mem_singleton] at hmem
      subst hmem
      rw [bookAll_concat]
      rcases (bookAll start fills).apply_cases fill with ⟨hsame, hid | hno⟩ | ⟨-, fee, -, hbook⟩
      · rw [hsame]
        exact hid
      · exact absurd hfee hno
      · rw [hbook]
        exact Finset.mem_insert_self _ _

/-! ### The cash-flow identity -/

def notional (side : Side) (effects : List Effect) : ℚ :=
  ((effects.filter (·.1.side = side)).map (fun effect => effect.1.fillQty * effect.1.fillPrice)).sum

theorem cashSpent_tradesOf (key : String) (effects : List Effect) :
    cashSpent (tradesOf key effects) =
      notional .buy (effectsOf key effects) - notional .sell (effectsOf key effects) := by
  unfold tradesOf
  induction effectsOf key effects with
  | nil => simp [notional]
  | cons effect effects ih =>
    have hhead : cashSpent
        ((effect :: effects).map (fun effect => (signedQty effect.1, effect.1.fillPrice))) =
        signedQty effect.1 * effect.1.fillPrice + cashSpent
          (effects.map (fun effect => (signedQty effect.1, effect.1.fillPrice))) := by
      simp [cashSpent]
    rw [hhead, ih]
    unfold notional signedQty
    cases hs : effect.1.side with
    | buy =>
      simp [hs]
      ring
    | sell =>
      simp [hs]
      ring

/-- What a portfolio reports after a sequence of fills, in terms of the fills that took effect. -/
structure CashFlowIdentity (start : Balances) (fills : List FillEvent) : Prop where
  once : ((bookAll start fills).effects.map (·.1.fillId)).Nodup
  among : ((bookAll start fills).effects.map Prod.fst).Sublist fills
  effective : ∀ fill ∈ fills, FeeSupported fill →
    fill.fillId ∈ (bookAll start fills).effects.map (·.1.fillId)
  /-- Trading PnL is what was sold less what was bought, plus the cost of what is held. -/
  pnl : ∀ key, cumulatedPnl key (bookAll start fills).effects =
    (notional .sell (effectsOf key (bookAll start fills).effects) -
      notional .buy (effectsOf key (bookAll start fills).effects)) +
      (bookAll start fills).state.quantityOf key * (bookAll start fills).state.avgEntryPriceOf key
  /-- A position is absent exactly if its trades net to nothing. -/
  absent_iff : ∀ key, (bookAll start fills).state.positions.lookup key = none ↔
    netQuantity (tradesOf key (bookAll start fills).effects) = 0
  quantity : ∀ key, (bookAll start fills).state.quantityOf key =
    netQuantity (tradesOf key (bookAll start fills).effects)
  avg_pos : (∀ fill ∈ fills, 0 < fill.fillPrice) → ∀ key record,
    (bookAll start fills).state.positions.lookup key = some record → 0 < record.avgEntryPrice
  /-- A currency that no derivatives PnL settles in moves by the spot legs and the fees in it. -/
  spot_balance : ∀ currency, settledIn currency (bookAll start fills).effects = [] →
    (bookAll start fills).state.balances.balance currency = start.balance currency +
      ((bookAll start fills).effects.map
        (fun effect => spotFlow effect.1 currency - feeFlow effect.1 currency)).sum
  /-- In general the trading PnL of derivatives comes in, up to the tolerance for each fill. -/
  balance : ∀ currency,
    |(bookAll start fills).state.balances.balance currency - start.balance currency -
      flow (bookAll start fills).effects currency| ≤
      epsilon12 * (settledIn currency (bookAll start fills).effects).length
  realized : (bookAll start fills).state.realizedPnl + (bookAll start fills).state.totalFeesPaid =
    ((bookAll start fills).effects.map tradingPnl).sum

theorem flow_of_not_settled {effects : List Effect} {currency : String}
    (h : settledIn currency effects = []) :
    flow effects currency =
      (effects.map (fun effect => spotFlow effect.1 currency - feeFlow effect.1 currency)).sum := by
  unfold flow
  congr 1
  apply List.map_congr_left
  intro effect hmem
  unfold settledIn at h
  have hnot := List.filter_eq_nil_iff.mp h effect hmem
  rw [decide_eq_true_iff] at hnot
  rw [pnlFlow, if_neg hnot, add_zero]

/-- **The cash-flow identity** of the in-memory portfolio, for every sequence of fills whose
quantities are multiples of a step larger than the tolerance. -/
theorem cashFlowIdentity_bookAll (start : Balances) {fills : List FillEvent}
    (hstep : epsilon12 < step) (hgrid : ∀ fill ∈ fills, OnGrid step fill.fillQty) :
    CashFlowIdentity start fills := by
  have h := consistent_bookAll start hstep hgrid
  have hquantity : ∀ key, (bookAll start fills).state.quantityOf key =
      netQuantity (tradesOf key (bookAll start fills).effects) :=
    fun key => (h.holding key).quantity_eq
  refine ⟨h.nodup, effects_sublist start fills, ?_, ?_, ?_, hquantity, ?_, ?_, h.balance,
    h.realized⟩
  · intro fill hmem hfee
    exact (h.applied _).mp (applied_of_supported start hmem hfee)
  · intro key
    have hprofit := (h.holding key).profit_eq
    rw [cashSpent_tradesOf] at hprofit
    change cumulatedPnl key _ = _ * _ - _ at hprofit
    rw [hprofit]
    ring
  · intro key
    rw [← hquantity key]
    exact h.lookup_eq_none_iff key
  · intro hprices
    apply h.avg_pos
    intro effect hmem
    exact hprices _ ((effects_sublist start fills).subset (List.mem_map_of_mem hmem))
  · intro currency hnone
    have hbalance := h.balance currency
    rw [hnone, List.length_nil, Nat.cast_zero, mul_zero, abs_nonpos_iff,
      flow_of_not_settled hnone] at hbalance
    linarith

def freeFill : FillEvent :=
  { fillId := "f1", symbol := "BTC-USDT", side := .buy, fillQty := 1, fillPrice := 0,
    feeAmount := 0 }

/-- **A position without a positive entry price**: nothing keeps a fill from having none. -/
theorem freeFill_avg_not_pos :
    ¬ ∀ (step : ℚ) (start : Balances) (fills : List FillEvent), epsilon12 < step →
      (∀ fill ∈ fills, OnGrid step fill.fillQty) →
      ∀ key record, (bookAll start fills).state.positions.lookup key = some record →
        0 < record.avgEntryPrice := by
  intro h
  have hkey : (bookAll ∅ [freeFill]).state.positions.lookup "BTC-USDT" ≠ none := by
    decide +kernel
  obtain ⟨record, hrecord⟩ := Option.ne_none_iff_exists'.mp hkey
  have hgrid : ∀ fill ∈ [freeFill], OnGrid 1 fill.fillQty := by
    intro fill hmem
    rw [List.mem_singleton] at hmem
    rw [hmem]
    exact ⟨1, by norm_num [freeFill]⟩
  have hpos := h 1 ∅ [freeFill] (by norm_num [epsilon12]) hgrid "BTC-USDT" record hrecord
  have havg : ((bookAll ∅ [freeFill]).state.positions.lookup "BTC-USDT").map
      (·.avgEntryPrice) = some 0 := by
    decide +kernel
  rw [hrecord, Option.map_some, Option.some_inj] at havg
  rw [havg] at hpos
  exact lt_irrefl 0 hpos

/-- Two buys, one of them delivered twice, and a sell through flat. -/
def reversalFills : List FillEvent :=
  let buy : FillEvent :=
    { fillId := "f1", symbol := "BTC-USDT", side := .buy, fillQty := 1, fillPrice := 100,
      feeAmount := 1 }
  [buy, buy, { buy with fillId := "f2", fillPrice := 110 },
    { buy with fillId := "f3", side := .sell, fillQty := 3, fillPrice := 120 }]

theorem cashFlowIdentity_reversalFills :
    CashFlowIdentity ∅ reversalFills ∧
    (bookAll ∅ reversalFills).effects.length = 3 ∧
    (bookAll ∅ reversalFills).state.quantityOf "BTC-USDT" = -1 := by
  refine ⟨cashFlowIdentity_bookAll ∅ (show epsilon12 < 1 by norm_num [epsilon12]) ?_, by decide +kernel,
    by decide +kernel⟩
  intro fill hmem
  simp only [reversalFills, List.mem_cons, List.not_mem_nil, or_false] at hmem
  rcases hmem with rfl | rfl | rfl | rfl
  · exact ⟨1, by norm_num⟩
  · exact ⟨1, by norm_num⟩
  · exact ⟨1, by norm_num⟩
  · exact ⟨3, by norm_num⟩

end Aats.Portfolio
