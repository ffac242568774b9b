import Aats.Accounting
import Mathlib.Data.List.AList
import Mathlib.Data.Finset.Insert

/-!
# The in-memory portfolio

`PortfolioState` of `portfolio_service/positions.py`: average-cost positions, currency
balances, realized PnL and fees, and the ids of the fills already applied.  `applyFill`
books one fill; it fails, before anything is written, when the fee currency is neither
the base nor the quote currency of the symbol.
-/

namespace Aats.Portfolio

/-! ### Records -/

structure PositionRecord where
  symbol : String := ""
  positionKey : Option String := none
  quantity : ℚ := 0
  avgEntryPrice : ℚ := 0
  productType : ProductType := .spot
  targetLeverage : ℚ := 1
  marginMode : MarginMode := .cash
  positionMode : Option PositionMode := none
  posSide : Option PositionSide := none
  instrumentFamily : Option String := none
  settleCurrency : Option String := none
  marginAllocated : ℚ := 0
  maintenanceMargin : ℚ := 0
  marginRatio : Option ℚ := none
  liquidationPrice : Option ℚ := none
  marginSource : String := "estimated"
  exposureSide : ExposureSide := .flat
  deriving DecidableEq, Repr

abbrev Positions := AList fun _ : String => PositionRecord

abbrev Balances := AList fun _ : String => ℚ

/-- Equality of dictionaries, decided on their entries so that it evaluates. -/
instance (priority := high) decidableEqAList {β : Type} [DecidableEq β] :
    DecidableEq (AList fun _ : String => β) :=
  fun a b => decidable_of_iff (a.entries = b.entries) AList.ext_iff.symm

/-- The balance of a currency; an absent currency has balance zero. -/
def Balances.balance (balances : Balances) (currency : String) : ℚ :=
  (balances.lookup currency).getD 0

structure PortfolioState where
  positions : Positions := ∅
  balances : Balances := ∅
  realizedPnl : ℚ := 0
  totalFeesPaid : ℚ := 0
  appliedFillIds : Finset String := ∅
  loadedFromExchangeSnapshot : Bool := false
  deriving DecidableEq

structure FillApplicationResult where
  applied : Bool
  startingQuantity : ℚ
  endingQuantity : ℚ
  startingAvgEntryPrice : ℚ
  endingAvgEntryPrice : ℚ
  realizedPnlDelta : ℚ
  feeDelta : ℚ
  deriving DecidableEq, Repr

/-! ### The steps of `apply_fill` -/

/-- `_same_direction`: an effectively zero quantity goes with either direction. -/
def sameDirection (left right : ℚ) : Bool :=
  if |left| ≤ epsilon12 ∨ |right| ≤ epsilon12 then true
  else decide ((0 < left ∧ 0 < right) ∨ (left < 0 ∧ right < 0))

/-- The fill's quantity, negative for a sell. -/
def signedQty (fill : FillEvent) : ℚ :=
  match fill.side with
  | .buy => fill.fillQty
  | .sell => -fill.fillQty

/-- The record with the descriptive fields overwritten by the fill and the exchange's
margin figures dropped. -/
def PositionRecord.describe (record : PositionRecord) (fill : FillEvent) : PositionRecord :=
  { record with
    symbol := fill.symbol
    positionKey := some (positionKeyForFill fill)
    productType := fill.productType
    targetLeverage := fill.targetLeverage
    marginMode := fill.marginMode
    positionMode := fill.positionMode
    posSide := normalizePositionSide fill.posSide fill.positionMode
    instrumentFamily := fill.instrumentFamily
    settleCurrency := fill.settleCurrency
    marginAllocated := 0
    maintenanceMargin := 0
    marginRatio := none
    liquidationPrice := none
    marginSource := "estimated" }

/-- The average-cost booking of a fill: the position's new quantity and entry price and
the trading PnL it realizes. -/
def bookQuantity (startingQty avgEntryPrice signed price : ℚ) : ℚ × ℚ × ℚ :=
  let endingQty := startingQty + signed
  if sameDirection startingQty signed then
    let newTotalCost := |startingQty| * avgEntryPrice + |signed| * price
    (endingQty, if isEffectivelyZero endingQty then 0 else newTotalCost / |endingQty|, 0)
  else
    let closingQty := min |startingQty| |signed|
    let tradingPnl :=
      if 0 < startingQty then (price - avgEntryPrice) * closingQty
      else (avgEntryPrice - price) * closingQty
    let endingAvg :=
      if isEffectivelyZero endingQty then 0
      -- reduced but still on the same side: the cost basis is unchanged
      else if sameDirection startingQty endingQty then avgEntryPrice
      -- crossed through flat and reopened in the opposite direction
      else price
    (endingQty, endingAvg, tradingPnl)

/-- The spot legs of a fill: notional against the quote currency, quantity against the
base currency. A derivatives fill moves neither. -/
def bookSpotBalances (balances : Balances) (fill : FillEvent)
    (baseCurrency quoteCurrency : Option String) : Balances :=
  match fill.productType with
  | .derivatives => balances
  | .spot =>
    let notional := fill.fillQty * fill.fillPrice
    let afterQuote :=
      match quoteCurrency with
      | none => balances
      | some quote =>
        match fill.side with
        | .buy => balances.insert quote (balances.balance quote - notional)
        | .sell => balances.insert quote (balances.balance quote + notional)
    match baseCurrency with
    | none => afterQuote
    | some base =>
      match fill.side with
      | .buy => afterQuote.insert base (afterQuote.balance base + fill.fillQty)
      | .sell => afterQuote.insert base (afterQuote.balance base - fill.fillQty)

/-- The derivatives leg of a fill: realized trading PnL settles in the quote currency. -/
def bookDerivativesPnl (balances : Balances) (fill : FillEvent) (quoteCurrency : Option String)
    (tradingPnl : ℚ) : Balances :=
  match fill.productType, quoteCurrency with
  | .derivatives, some quote =>
    if isEffectivelyZero tradingPnl then balances
    else balances.insert quote (balances.balance quote + tradingPnl)
  | _, _ => balances

def bookFee (balances : Balances) (feeCurrency : Option String) (feeAmount : ℚ) : Balances :=
  match feeCurrency with
  | none => balances
  | some currency => balances.insert currency (balances.balance currency - feeAmount)

def cleanupIfFlat (positions : Positions) (key : String) : Positions :=
  match positions.lookup key with
  | none => positions
  | some record => if isEffectivelyZero record.quantity then positions.erase key else positions

namespace PortfolioState

def hasAppliedFill (state : PortfolioState) (fillId : String) : Bool :=
  decide (fillId ∈ state.appliedFillIds)

def markFillApplied (state : PortfolioState) (fillId : String) : PortfolioState :=
  { state with appliedFillIds := insert fillId state.appliedFillIds }

/-- The state after a fill that has not been applied yet, given its fee in the quote
currency. -/
def bookFill (state : PortfolioState) (fill : FillEvent) (feeQuoteDelta : ℚ) :
    FillApplicationResult × PortfolioState :=
  let key := positionKeyForFill fill
  let existing := (state.positions.lookup key).getD { symbol := fill.symbol, positionKey := some key }
  let currencies := resolveSymbolCurrencies fill.symbol
  let booked := bookQuantity existing.quantity existing.avgEntryPrice (signedQty fill) fill.fillPrice
  let record := { existing.describe fill with
    quantity := booked.1
    avgEntryPrice := booked.2.1
    exposureSide := exposureSideFromQuantity booked.1 }
  let tradingPnl := booked.2.2
  let positions := cleanupIfFlat (state.positions.insert key record) key
  let balances :=
    bookFee
      (bookDerivativesPnl (bookSpotBalances state.balances fill currencies.1 currencies.2)
        fill currencies.2 tradingPnl)
      (resolvedFeeCurrency fill currencies.1 currencies.2) fill.feeAmount
  let ending := (positions.lookup key).getD { symbol := fill.symbol, positionKey := some key }
  ({ applied := true
     startingQuantity := existing.quantity
     endingQuantity := ending.quantity
     startingAvgEntryPrice := existing.avgEntryPrice
     endingAvgEntryPrice := ending.avgEntryPrice
     realizedPnlDelta := tradingPnl - feeQuoteDelta
     feeDelta := feeQuoteDelta },
   { positions := positions
     balances := balances
     realizedPnl := state.realizedPnl + (tradingPnl - feeQuoteDelta)
     totalFeesPaid := state.totalFeesPaid + feeQuoteDelta
     appliedFillIds := insert fill.fillId state.appliedFillIds
     loadedFromExchangeSnapshot := false })

/-- `apply_fill`. A fill whose id was applied before changes nothing. -/
def applyFill (state : PortfolioState) (fill : FillEvent) :
    Except UnsupportedFeeCurrencyError (FillApplicationResult × PortfolioState) :=
  if state.hasAppliedFill fill.fillId then
    let key := positionKeyForFill fill
    let existing :=
      (state.positions.lookup key).getD { symbol := fill.symbol, positionKey := some key }
    .ok ({ applied := false
           startingQuantity := existing.quantity
           endingQuantity := existing.quantity
           startingAvgEntryPrice := existing.avgEntryPrice
           endingAvgEntryPrice := existing.avgEntryPrice
           realizedPnlDelta := 0
           feeDelta := 0 }, state)
  else
    let currencies := resolveSymbolCurrencies fill.symbol
    match fillFeeDeltaInQuote fill currencies.1 currencies.2 with
    | .error e => .error e
    | .ok feeQuoteDelta => .ok (state.bookFill fill feeQuoteDelta)

@[simp] theorem hasAppliedFill_eq_true {state : PortfolioState} {fillId : String} :
    state.hasAppliedFill fillId = true ↔ fillId ∈ state.appliedFillIds := by
  simp [hasAppliedFill]

@[simp] theorem hasAppliedFill_eq_false {state : PortfolioState} {fillId : String} :
    state.hasAppliedFill fillId = false ↔ fillId ∉ state.appliedFillIds := by
  simp [hasAppliedFill]

@[simp] theorem bookFill_applied (state : PortfolioState) (fill : FillEvent) (fee : ℚ) :
    (state.bookFill fill fee).1.applied = true := rfl

@[simp] theorem bookFill_appliedFillIds (state : PortfolioState) (fill : FillEvent) (fee : ℚ) :
    (state.bookFill fill fee).2.appliedFillIds = insert fill.fillId state.appliedFillIds := rfl

/-- **What `apply_fill` can do.**  It reports `applied = false` and leaves the state alone
exactly for a fill id it has seen, it fails without touching the state, or it books the
fill and remembers its id. -/
theorem applyFill_cases (state : PortfolioState) (fill : FillEvent) :
    (fill.fillId ∈ state.appliedFillIds ∧
      ∃ result, state.applyFill fill = .ok (result, state) ∧ result.applied = false) ∨
    (fill.fillId ∉ state.appliedFillIds ∧ ∃ e, state.applyFill fill = .error e) ∨
    (fill.fillId ∉ state.appliedFillIds ∧
      ∃ fee, state.applyFill fill = .ok (state.bookFill fill fee)) := by
  by_cases hid : fill.fillId ∈ state.appliedFillIds
  · exact .inl ⟨hid, _, by rw [applyFill, if_pos (by simpa using hid)], rfl⟩
  · right
    cases hfee : fillFeeDeltaInQuote fill (resolveSymbolCurrencies fill.symbol).1
        (resolveSymbolCurrencies fill.symbol).2 with
    | error e => exact .inl ⟨hid, e, by simp [applyFill, hid, hfee]⟩
    | ok fee => exact .inr ⟨hid, fee, by simp [applyFill, hid, hfee]⟩

end PortfolioState

/-! ### Replaying fills -/

/-- `apply_fill` over a list of fills, in order; fails at the first fill that fails. -/
def replay (state : PortfolioState) : List FillEvent →
    Except UnsupportedFeeCurrencyError PortfolioState
  | [] => .ok state
  | fill :: fills =>
    match state.applyFill fill with
    | .error e => .error e
    | .ok (_, next) => replay next fills

@[simp] theorem replay_nil (state : PortfolioState) : replay state [] = .ok state := rfl

theorem replay_concat {state mid next : PortfolioState} {fills : List FillEvent}
    {fill : FillEvent} {result : FillApplicationResult} (h : replay state fills = .ok mid)
    (ha : mid.applyFill fill = .ok (result, next)) : replay state (fills ++ [fill]) = .ok next := by
  induction fills generalizing state with
  | nil =>
    rw [replay_nil, Except.ok.injEq] at h
    subst h
    simp [replay, ha]
  | cons f fills ih =>
    simp only [List.cons_append, replay] at h ⊢
    cases hf : state.applyFill f with
    | error e => simp [hf] at h
    | ok p =>
      simp only [hf] at h ⊢
      exact ih h

/-- Replaying only ever adds fill ids: those of the start and those of the fills. -/
theorem mem_appliedFillIds_of_replay {state final : PortfolioState} {fills : List FillEvent}
    (h : replay state fills = .ok final) {id : String} :
    id ∈ final.appliedFillIds ↔ id ∈ state.appliedFillIds ∨ ∃ f ∈ fills, f.fillId = id := by
  induction fills generalizing state with
  | nil =>
    rw [replay_nil, Except.ok.injEq] at h
    subst h
    simp
  | cons f fills ih =>
    rcases state.applyFill_cases f with ⟨hid, result, ha, -⟩ | ⟨-, e, ha⟩ | ⟨-, fee, ha⟩
    · simp only [replay, ha] at h
      rw [ih h]
      constructor
      · rintro (hs | ⟨g, hg, rfl⟩)
        · exact .inl hs
        · exact .inr ⟨g, List.mem_cons_of_mem _ hg, rfl⟩
      · rintro (hs | ⟨g, hg, rfl⟩)
        · exact .inl hs
        · rcases List.mem_cons.mp hg with rfl | hg
          · exact .inl hid
          · exact .inr ⟨g, hg, rfl⟩
    · simp [replay, ha] at h
    · simp only [replay, ha] at h
      rw [ih h, PortfolioState.bookFill_appliedFillIds]
      simp only [Finset.mem_insert, List.mem_cons, exists_eq_or_imp]
      constructor
      · rintro ((rfl | hs) | hg)
        · exact .inr (.inl rfl)
        · exact .inl hs
        · exact .inr (.inr hg)
      · rintro (hs | rfl | hg)
        · exact .inl (.inr hs)
        · exact .inl (.inl rfl)
        · exact .inr hg

end Aats.Portfolio
