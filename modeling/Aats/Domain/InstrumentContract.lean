import Aats.Schemas
import Aats.Lib.Fallible
import Mathlib.Data.Rat.Floor
import Mathlib.Tactic.Positivity

/-!
# The instrument contract

`aats/domain/instrument_contract.py` in exact arithmetic: what one exchange unit of an instrument is
worth, and the profit, the entry price and the fee that follow from it. The three kinds of contract
have one profit formula when it is read through the value of one unit at a price, `unitValue`:
linear in the price for spot and linear contracts, `-face / price` for inverse ones.

## Main results
* `settlementPnl_eq_ok` — **the profit is the change of value of the quantity**.
* `combinedEntryPrice_eq_ok` — **the combined entry price keeps the value of the two parts**.
* `le_executionPrice_of_buy`, `executionPrice_le_of_sell` — an aligned price is never on the
  favourable side of the reference.
-/

namespace Aats.Domain

open Fallible

/-- `ValueError` and `InstrumentContractError`: the text, and the number that a text ending in
`got …` shows. -/
structure ValueError where
  text : String
  got : Option ℚ := none
  deriving DecidableEq, Repr

inductive ContractType
  | spot
  | linear
  | inverse
  deriving DecidableEq, Repr

inductive InstrumentType
  | spot
  | margin
  | swap
  | futures
  deriving DecidableEq, Repr

/-! ### The terms of a contract -/

/-- The arguments of `InstrumentContract`, normalised. The symbol is kept as the parts between
its dashes. -/
structure ContractTerms where
  symbol : List String
  instrumentType : InstrumentType
  contractType : ContractType
  baseCurrency : String
  quoteCurrency : String
  settleCurrency : String
  contractValue : ℚ
  contractMultiplier : ℚ
  contractValueCurrency : String
  lotSize : ℚ
  minSize : ℚ
  tickSize : ℚ
  deriving DecidableEq, Repr

/-- `symbol.endswith("-SWAP")`. -/
def ContractTerms.EndsWithSwap (terms : ContractTerms) : Prop :=
  2 ≤ terms.symbol.length ∧ terms.symbol.getLast? = some "SWAP"

instance decidableEndsWithSwap (terms : ContractTerms) : Decidable terms.EndsWithSwap :=
  inferInstanceAs (Decidable (_ ∧ _))

def ContractTerms.checkDerivative (terms : ContractTerms) : Except ValueError Unit := do
  raiseIf (terms.instrumentType ≠ .swap ∧ terms.instrumentType ≠ .futures)
    { text := "contract_type_unknown_or_inconsistent" }
  raiseIf ((terms.EndsWithSwap ∧ terms.instrumentType ≠ .swap) ∨
      (terms.instrumentType = .swap ∧ ¬terms.EndsWithSwap) ∨
      (terms.instrumentType = .futures ∧ terms.symbol.length < 3))
    { text := "instrument_identity_mismatch" }

def ContractTerms.postInit (terms : ContractTerms) : Except ValueError Unit := do
  raiseIf (terms.baseCurrency = "") { text := "base_currency_required" }
  raiseIf (terms.quoteCurrency = "") { text := "quote_currency_required" }
  raiseIf (terms.settleCurrency = "") { text := "settle_currency_required" }
  raiseIf (terms.contractValueCurrency = "") { text := "contract_value_currency_required" }
  raiseIf (terms.contractValue ≤ 0) { text := "contract_face_value_invalid" }
  raiseIf (terms.contractMultiplier ≤ 0) { text := "contract_face_value_invalid" }
  raiseIf (terms.lotSize ≤ 0) { text := "lot_size_invalid" }
  raiseIf (terms.minSize ≤ 0) { text := "min_size_invalid" }
  raiseIf (terms.tickSize ≤ 0) { text := "tick_size_invalid" }
  raiseIf (terms.symbol = [""]) { text := "instrument_symbol_required" }
  raiseIf (terms.symbol.length < 2 ∨ terms.symbol[0]? ≠ some terms.baseCurrency ∨
    terms.symbol[1]? ≠ some terms.quoteCurrency) { text := "instrument_identity_mismatch" }
  match terms.contractType with
  | .spot =>
    raiseIf (terms.instrumentType ≠ .spot ∧ terms.instrumentType ≠ .margin)
      { text := "contract_type_unknown_or_inconsistent" }
    raiseIf (terms.symbol.length ≠ 2) { text := "instrument_identity_mismatch" }
    raiseIf (terms.settleCurrency ≠ terms.quoteCurrency ∨
      terms.contractValueCurrency ≠ terms.baseCurrency)
      { text := "contract_value_currency_inconsistent" }
    raiseIf (terms.contractValue ≠ 1 ∨ terms.contractMultiplier ≠ 1)
      { text := "spot_contract_face_value_must_be_one" }
  | .linear =>
    terms.checkDerivative
    raiseIf (terms.contractValueCurrency ≠ terms.baseCurrency ∨
      terms.settleCurrency ≠ terms.quoteCurrency) { text := "contract_value_currency_inconsistent" }
  | .inverse =>
    terms.checkDerivative
    raiseIf (terms.contractValueCurrency ≠ terms.quoteCurrency ∨
      terms.settleCurrency ≠ terms.baseCurrency) { text := "contract_value_currency_inconsistent" }

/-- `InstrumentContract`: terms that its constructor accepted. -/
structure InstrumentContract extends ContractTerms where
  valid : toContractTerms.postInit = .ok ()

variable (contract : InstrumentContract)

namespace InstrumentContract

theorem contractValue_pos : 0 < contract.contractValue := by
  have h := contract.valid
  simp only [ContractTerms.postInit, bind_eq_ok, raiseIf_eq_ok, not_le] at h
  obtain ⟨_, -, _, -, _, -, _, -, _, hvalue, -⟩ := h
  exact hvalue

theorem contractMultiplier_pos : 0 < contract.contractMultiplier := by
  have h := contract.valid
  simp only [ContractTerms.postInit, bind_eq_ok, raiseIf_eq_ok, not_le] at h
  obtain ⟨_, -, _, -, _, -, _, -, _, -, _, hmultiplier, -⟩ := h
  exact hmultiplier

theorem lotSize_pos : 0 < contract.lotSize := by
  have h := contract.valid
  simp only [ContractTerms.postInit, bind_eq_ok, raiseIf_eq_ok, not_le] at h
  obtain ⟨_, -, _, -, _, -, _, -, _, -, _, -, _, hlot, -⟩ := h
  exact hlot

theorem tickSize_pos : 0 < contract.tickSize := by
  have h := contract.valid
  simp only [ContractTerms.postInit, bind_eq_ok, raiseIf_eq_ok, not_le] at h
  obtain ⟨_, -, _, -, _, -, _, -, _, -, _, -, _, -, _, -, _, htick, -⟩ := h
  exact htick

theorem instrumentType_of_spot (h : contract.contractType = .spot) :
    contract.instrumentType = .spot ∨ contract.instrumentType = .margin := by
  have hvalid := contract.valid
  simp only [ContractTerms.postInit, h, bind_eq_ok, raiseIf_eq_ok] at hvalid
  obtain ⟨_, -, _, -, _, -, _, -, _, -, _, -, _, -, _, -, _, -, _, -, _, -, _, htype, -⟩ := hvalid
  rwa [not_and_or, not_not, not_not] at htype

theorem face_of_spot (h : contract.contractType = .spot) :
    contract.contractValue = 1 ∧ contract.contractMultiplier = 1 := by
  have hvalid := contract.valid
  simp only [ContractTerms.postInit, h, bind_eq_ok, raiseIf_eq_ok] at hvalid
  obtain ⟨_, -, _, -, _, -, _, -, _, -, _, -, _, -, _, -, _, -, _, -, _, -, _, -, _, -, _, -, hface⟩ :=
    hvalid
  rwa [not_or, not_not, not_not] at hface

/-! ### The arithmetic -/

def requiredPrice (value : ℚ) : Except ValueError ℚ := do
  raiseIf (value ≤ 0) { text := "reference_price_invalid" }
  return value

def positiveDecimal (value : ℚ) (fieldName : String) : Except ValueError ℚ := do
  raiseIf (value ≤ 0) { text := fieldName ++ "_invalid" }
  return value

def faceValue : ℚ := contract.contractValue * contract.contractMultiplier

/-- `base_quantity`, for the contracts that need no reference price and for those that do. -/
def baseQuantity (exchangeQuantity : ℚ) (referencePrice : Option ℚ) : Except ValueError ℚ :=
  match contract.contractType with
  | .spot => .ok exchangeQuantity
  | .linear => .ok (exchangeQuantity * contract.faceValue)
  | .inverse => do
    match referencePrice with
    | none => .error { text := "inverse_quantity_requires_reference_price" }
    | some value =>
      let price ← requiredPrice value
      return exchangeQuantity * contract.faceValue / price

def quoteNotional (exchangeQuantity price : ℚ) : Except ValueError ℚ := do
  let quantity := |exchangeQuantity|
  let resolvedPrice ← requiredPrice price
  match contract.contractType with
  | .spot => return quantity * resolvedPrice
  | .linear => return quantity * contract.faceValue * resolvedPrice
  | .inverse => return quantity * contract.faceValue

def feeSettlementValue (feeAssetQuantity : ℚ) (feeAsset : String) (price : ℚ) :
    Except ValueError ℚ := do
  raiseIf (feeAsset = "") { text := "fee_asset_required" }
  if feeAsset = contract.settleCurrency then
    return feeAssetQuantity
  if contract.contractType = .spot ∧ feeAsset = contract.baseCurrency then
    let resolvedPrice ← requiredPrice price
    return feeAssetQuantity * resolvedPrice
  .error { text := "fee_asset_unsupported" }

/-- `execution_price`. A buy is aligned to the tick upwards and a sell downwards. -/
def executionPrice (referencePrice : ℚ) (side : Side) (slippageBps : ℚ) :
    Except ValueError ℚ := do
  let price ← requiredPrice referencePrice
  raiseIf (slippageBps < 0 ∨ 10000 ≤ slippageBps) { text := "slippage_bps_invalid" }
  let target := price * (1 + (if side = .buy then slippageBps else -slippageBps) / 10000)
  raiseIf (target ≤ 0) { text := "contract_arithmetic_invalid" }
  let tickRatio := target / contract.tickSize
  let tickCount := if side = .buy then -(-tickRatio.num / tickRatio.den)
    else tickRatio.num / tickRatio.den
  let aligned := (tickCount : ℚ) * contract.tickSize
  raiseIf (aligned ≤ 0) { text := "contract_arithmetic_invalid" }
  return aligned

def validateExchangePrice (price : ℚ) : Except ValueError ℚ := do
  let resolved ← requiredPrice price
  raiseIf ((resolved / contract.tickSize).den ≠ 1) { text := "exchange_price_tick_misaligned" }
  return resolved

def validateExchangeQuantity (quantity : ℚ) : Except ValueError ℚ := do
  let resolved ← positiveDecimal quantity "exchange_quantity"
  raiseIf (resolved < contract.minSize) { text := "exchange_quantity_below_min_size" }
  raiseIf ((resolved / contract.lotSize).den ≠ 1) { text := "exchange_quantity_lot_misaligned" }
  return resolved

def settlementBasisPoints (numerator denominator : ℚ) : Except ValueError ℚ := do
  let bottom ← positiveDecimal denominator "settlement_amount"
  return numerator / bottom * 10000

/-- `settlement_pnl`. A positive quantity is long and a negative one short. -/
def settlementPnl (exchangeQuantity entryPrice exitPrice : ℚ) : Except ValueError ℚ := do
  let entry ← requiredPrice entryPrice
  let exit ← requiredPrice exitPrice
  match contract.contractType with
  | .spot => return exchangeQuantity * (exit - entry)
  | .linear => return exchangeQuantity * contract.faceValue * (exit - entry)
  | .inverse => return exchangeQuantity * contract.faceValue * (1 / entry - 1 / exit)

/-- `combined_entry_price`: weighted by the quantities, and for an inverse contract by the
quantities over their prices. -/
def combinedEntryPrice (existingQuantity existingPrice addedQuantity addedPrice : ℚ) :
    Except ValueError ℚ := do
  let existing ← positiveDecimal existingQuantity "existing_quantity"
  let added ← positiveDecimal addedQuantity "added_quantity"
  let oldPrice ← requiredPrice existingPrice
  let newPrice ← requiredPrice addedPrice
  let total := existing + added
  match contract.contractType with
  | .inverse => return total / (existing / oldPrice + added / newPrice)
  | _ => return (oldPrice * existing + newPrice * added) / total

/-- `add_exchange_quantities`: the exact sum. -/
def addExchangeQuantities (values : List ℚ) : ℚ := values.sum

/-- `add_settlement_amounts`: the exact sum. -/
def addSettlementAmounts (values : List ℚ) : ℚ := values.sum

/-! ### What the arithmetic computes -/

variable {contract} {quantity price entry exit result : ℚ} {side : Side}

theorem faceValue_pos : 0 < contract.faceValue :=
  mul_pos contract.contractValue_pos contract.contractMultiplier_pos

@[simp] theorem requiredPrice_eq_ok {value : ℚ} :
    requiredPrice value = .ok result ↔ 0 < value ∧ result = value := by
  simp only [requiredPrice, bind_eq_ok, raiseIf_eq_ok, pure_eq_ok, not_le, exists_const]
  exact and_congr_right fun _ => eq_comm

@[simp] theorem positiveDecimal_eq_ok {value : ℚ} {fieldName : String} :
    positiveDecimal value fieldName = .ok result ↔ 0 < value ∧ result = value := by
  simp only [positiveDecimal, bind_eq_ok, raiseIf_eq_ok, pure_eq_ok, not_le, exists_const]
  exact and_congr_right fun _ => eq_comm

theorem requiredPrice_of_pos {value : ℚ} (h : 0 < value) : requiredPrice value = .ok value :=
  requiredPrice_eq_ok.mpr ⟨h, rfl⟩

theorem positiveDecimal_of_pos {value : ℚ} {fieldName : String} (h : 0 < value) :
    positiveDecimal value fieldName = .ok value := positiveDecimal_eq_ok.mpr ⟨h, rfl⟩

/-- What one exchange unit is worth in the settlement currency at a price, up to a constant. -/
def unitValue (contract : InstrumentContract) (price : ℚ) : ℚ :=
  match contract.contractType with
  | .spot => price
  | .linear => contract.faceValue * price
  | .inverse => -(contract.faceValue / price)

theorem settlementPnl_eq_ok :
    contract.settlementPnl quantity entry exit = .ok result ↔ 0 < entry ∧ 0 < exit ∧
      result = quantity * (contract.unitValue exit - contract.unitValue entry) := by
  simp only [settlementPnl, bind_eq_ok, requiredPrice_eq_ok]
  constructor
  · rintro ⟨_, ⟨hentry, rfl⟩, _, ⟨hexit, rfl⟩, hresult⟩
    refine ⟨hentry, hexit, ?_⟩
    unfold unitValue
    cases hkind : contract.contractType <;> simp only [hkind, pure_eq_ok] at hresult <;>
      rw [← hresult] <;> ring
  · rintro ⟨hentry, hexit, rfl⟩
    refine ⟨_, ⟨hentry, rfl⟩, _, ⟨hexit, rfl⟩, ?_⟩
    unfold unitValue
    cases hkind : contract.contractType <;> simp only [pure_eq_ok] <;> ring

/-- **The combined entry price keeps the value of the two parts**: the reciprocal weighting of an
inverse contract is what makes its value add up. -/
theorem combinedEntryPrice_eq_ok {existing added oldPrice newPrice : ℚ}
    (h : contract.combinedEntryPrice existing oldPrice added newPrice = .ok result) :
    0 < result ∧ (existing + added) * contract.unitValue result =
      existing * contract.unitValue oldPrice + added * contract.unitValue newPrice := by
  simp only [combinedEntryPrice, bind_eq_ok, requiredPrice_eq_ok, positiveDecimal_eq_ok] at h
  obtain ⟨_, ⟨hexisting, rfl⟩, _, ⟨hadded, rfl⟩, _, ⟨hold, rfl⟩, _, ⟨hnew, rfl⟩, h⟩ := h
  unfold unitValue
  cases hkind : contract.contractType <;> simp only [hkind, pure_eq_ok] at h <;> subst h
  · refine ⟨by positivity, ?_⟩
    field_simp
  · refine ⟨by positivity, ?_⟩
    field_simp
  · refine ⟨by positivity, ?_⟩
    field_simp
    ring

theorem le_executionPrice_of_buy (h : contract.executionPrice price .buy 0 = .ok result) :
    price ≤ result := by
  simp only [executionPrice, bind_eq_ok, requiredPrice_eq_ok, raiseIf_eq_ok, pure_eq_ok,
    if_true] at h
  obtain ⟨_, ⟨-, rfl⟩, _, -, _, -, _, -, rfl⟩ := h
  rw [zero_div, add_zero, mul_one, ← Rat.ceil_def', ← div_le_iff₀ contract.tickSize_pos]
  exact Int.le_ceil _

theorem executionPrice_le_of_sell (h : contract.executionPrice price .sell 0 = .ok result) :
    result ≤ price := by
  simp only [executionPrice, bind_eq_ok, requiredPrice_eq_ok, raiseIf_eq_ok, pure_eq_ok,
    reduceCtorEq, if_false] at h
  obtain ⟨_, ⟨-, rfl⟩, _, -, _, -, _, -, rfl⟩ := h
  rw [neg_zero, zero_div, add_zero, mul_one, ← Rat.floor_def', ← le_div_iff₀ contract.tickSize_pos]
  exact Int.floor_le _

end InstrumentContract

end Aats.Domain
