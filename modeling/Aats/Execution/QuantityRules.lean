import Aats.Domain.ContractArithmetic
import Mathlib.Data.Sign.Basic

/-!
# The quantity rules

Before an order is sent, its quantity is converted to contracts, floored to lots and converted back.
The floor is exact, but it is the floor of a quotient that has been rounded to fifty digits: where that
quotient has been rounded up to a lot, the order is for a lot more than was asked for.

## Main definitions
* `NotRoundedUp` — the rounded quotient does not reach a lot, and the lots are worth what they should.

## Main results
* `roundDownToStep_truncates` — **the floor to a step is an exact truncation**.
* `neverEnlarged_iff` — **the quantity of an order is never enlarged if and only if no lot is reached by
  rounding**; a spot order is never enlarged.
-/

namespace Aats.Execution

open Aats.Domain DecimalText Fallible Rounding

/-! ### The floor to a step -/

def quantityStepRoundingInvalid : ValueError := { text := "quantity_step_rounding_invalid" }

def roundDownToStep (value step : Dec) : Except ValueError Dec := do
  raiseIf (step.value ≤ 0) quantityStepRoundingInvalid
  if value.value = 0 then return Dec.zero
  let exponentDelta := value.exponent - step.exponent
  raiseIf (1000 < value.digitCount ∨ 1000 < step.digitCount ∨ 1000 < exponentDelta.natAbs)
    quantityStepRoundingInvalid
  let numerator := if 0 ≤ exponentDelta then value.coefficient * 10 ^ exponentDelta.toNat
    else value.coefficient
  let denominator := if 0 ≤ exponentDelta then step.coefficient
    else step.coefficient * 10 ^ (-exponentDelta).toNat
  let stepCount := numerator / denominator
  return { negative := value.value < 0, coefficient := stepCount * step.coefficient
           exponent := step.exponent }

theorem quotient_of_coefficients (a b : ℕ) (e f : ℤ) (hb : b ≠ 0) :
    (((if 0 ≤ e - f then a * 10 ^ (e - f).toNat else a : ℕ) : ℚ) /
        ((if 0 ≤ e - f then b else b * 10 ^ (-(e - f)).toNat : ℕ) : ℚ)) =
      a * (10 : ℚ) ^ e / (b * (10 : ℚ) ^ f) := by
  have hb' : (b : ℚ) ≠ 0 := Nat.cast_ne_zero.mpr hb
  have hf : (10 : ℚ) ^ f ≠ 0 := (ten_zpow_pos f).ne'
  split
  · next hdelta =>
    have hshift : (10 : ℚ) ^ e = (10 : ℚ) ^ (e - f).toNat * (10 : ℚ) ^ f := by
      rw [← zpow_natCast, Int.toNat_of_nonneg hdelta, ← zpow_add₀ ten_ne_zero, sub_add_cancel]
    push_cast
    rw [hshift]
    field_simp
  · next hdelta =>
    have hshift : (10 : ℚ) ^ f = (10 : ℚ) ^ (-(e - f)).toNat * (10 : ℚ) ^ e := by
      rw [← zpow_natCast, Int.toNat_of_nonneg (by omega), ← zpow_add₀ ten_ne_zero]
      congr 1
      ring
    have he : (10 : ℚ) ^ e ≠ 0 := (ten_zpow_pos e).ne'
    push_cast
    rw [hshift]
    field_simp

structure StepChecked (value step : Dec) : Prop where
  step_pos : 0 < step.value
  sizes : value.value = 0 ∨ value.digitCount ≤ 1000 ∧ step.digitCount ≤ 1000 ∧
    (value.exponent - step.exponent).natAbs ≤ 1000

theorem roundDownToStep_of_ne_zero {value step : Dec} (h : StepChecked value step)
    (hzero : value.value ≠ 0) :
    ∃ stepCount : ℕ, (stepCount : ℤ) = ⌊|value.value| / step.value⌋ ∧
      roundDownToStep value step =
        .ok ⟨value.value < 0, stepCount * step.coefficient, step.exponent⟩ := by
  have hsizes := h.sizes.resolve_left hzero
  have hb : step.coefficient ≠ 0 := fun hnone => h.step_pos.ne' (Dec.value_eq_zero.mpr hnone)
  have hcount := Rat.floor_natCast_div_natCast
    (if 0 ≤ value.exponent - step.exponent then
      value.coefficient * 10 ^ (value.exponent - step.exponent).toNat else value.coefficient)
    (if 0 ≤ value.exponent - step.exponent then step.coefficient
      else step.coefficient * 10 ^ (-(value.exponent - step.exponent)).toNat)
  rw [quotient_of_coefficients _ _ _ _ hb, ← Dec.abs_value, ← Dec.abs_value, abs_of_pos h.step_pos,
    ← Int.natCast_div] at hcount
  refine ⟨_, hcount.symm, ?_⟩
  unfold roundDownToStep
  rw [raiseIf_of_not _ (not_le.mpr h.step_pos), ok_bind, if_neg hzero]
  dsimp only
  rw [raiseIf_of_not _ (by omega), ok_bind]
  rfl

theorem roundDownToStep_of_zero {value step : Dec} (h : StepChecked value step)
    (hzero : value.value = 0) : roundDownToStep value step = .ok Dec.zero := by
  unfold roundDownToStep
  rw [raiseIf_of_not _ (not_le.mpr h.step_pos), ok_bind, if_pos hzero]
  rfl

theorem roundDownToStep_of_checked {value step : Dec} (h : StepChecked value step) :
    ∃ result, roundDownToStep value step = .ok result ∧
      result.value = truncateTo step.value value.value := by
  by_cases hzero : value.value = 0
  · refine ⟨_, roundDownToStep_of_zero h hzero, ?_⟩
    rw [hzero, truncateTo_of_nonneg _ le_rfl, floorTo_zero, Dec.value_zero]
  · obtain ⟨stepCount, hcount, heq⟩ := roundDownToStep_of_ne_zero h hzero
    refine ⟨_, heq, ?_⟩
    have hfloor : floorTo step.value |value.value| = stepCount * step.value := by
      unfold floorTo
      rw [← hcount, Int.cast_natCast]
    have hsize : step.value = step.coefficient * (10 : ℚ) ^ step.exponent := by
      rw [← Dec.abs_value, abs_of_pos h.step_pos]
    rw [Dec.value_eq_signed]
    unfold signed truncateTo
    simp only [decide_eq_true_eq]
    rw [Nat.cast_mul, mul_assoc, ← hsize, ← hfloor]
    split
    · next hneg => rw [abs_of_neg hneg]
    · next hpos => rw [abs_of_nonneg (not_lt.mp hpos)]

theorem roundDownToStep_of_not_checked {value step : Dec} (h : ¬StepChecked value step) :
    roundDownToStep value step = .error quantityStepRoundingInvalid := by
  unfold roundDownToStep raiseIf
  by_cases hstep : step.value ≤ 0
  · rw [if_pos hstep]
    rfl
  · have hzero : value.value ≠ 0 := fun hzero => h ⟨not_le.mp hstep, .inl hzero⟩
    have hsizes : 1000 < value.digitCount ∨ 1000 < step.digitCount ∨
        1000 < (value.exponent - step.exponent).natAbs := by
      by_contra hsmall
      simp only [not_or, not_lt] at hsmall
      exact h ⟨not_le.mp hstep, .inr hsmall⟩
    rw [if_neg hstep, ok_bind, if_neg hzero]
    dsimp only
    rw [if_pos hsizes]
    rfl

theorem roundDownToStep_eq_ok {value step result : Dec} (h : roundDownToStep value step = .ok result) :
    StepChecked value step ∧ result.value = truncateTo step.value value.value := by
  by_cases hchecked : StepChecked value step
  · obtain ⟨found, hfound, hvalue⟩ := roundDownToStep_of_checked hchecked
    rw [hfound] at h
    cases h
    exact ⟨hchecked, hvalue⟩
  · rw [roundDownToStep_of_not_checked hchecked] at h
    cases h

theorem value_roundDownToStep {value step result : Dec} (h : roundDownToStep value step = .ok result)
    (hvalue : 0 ≤ value.value) :
    0 < step.value ∧ result.value = floorTo step.value value.value := by
  obtain ⟨hchecked, heq⟩ := roundDownToStep_eq_ok h
  exact ⟨hchecked.step_pos, heq.trans (truncateTo_of_nonneg _ hvalue)⟩

theorem StepChecked.copyNegate {value step : Dec} (h : StepChecked value step) :
    StepChecked value.copyNegate step where
  step_pos := h.step_pos
  sizes := h.sizes.imp (fun hzero => by rw [Dec.value_copyNegate, hzero, neg_zero]) id

theorem checked_result_iff {value step result : Dec} (h : roundDownToStep value step = .ok result) :
    StepChecked result step ↔ result.digitCount ≤ 1000 := by
  have hchecked := (roundDownToStep_eq_ok h).1
  have hzeroDigits : Dec.zero.digitCount ≤ 1000 := by decide
  by_cases hzero : value.value = 0
  · rw [roundDownToStep_of_zero hchecked hzero] at h
    cases h
    exact iff_of_true ⟨hchecked.step_pos, .inl Dec.value_zero⟩ hzeroDigits
  · obtain ⟨stepCount, -, heq⟩ := roundDownToStep_of_ne_zero hchecked hzero
    rw [heq] at h
    cases h
    obtain ⟨-, hsteps, -⟩ := hchecked.sizes.resolve_left hzero
    constructor
    · rintro ⟨_, hnone | ⟨hdigits, _⟩⟩
      · rw [Dec.value_eq_zero] at hnone
        unfold Dec.digitCount
        rw [hnone]
        exact hzeroDigits
      · exact hdigits
    · intro hdigits
      exact ⟨hchecked.step_pos, .inr ⟨hdigits, hsteps, by rw [sub_self]; decide⟩⟩

theorem stepChecked_of_spelled {value step : Dec} (hstep : step.negative = false)
    (hne : step.coefficient ≠ 0) (hvalue : value.digitCount ≤ 1000) (hdigits : step.digitCount ≤ 1000)
    (hdelta : (value.exponent - step.exponent).natAbs ≤ 1000) : StepChecked value step where
  step_pos := by
    unfold Dec.value
    rw [hstep, if_neg Bool.false_ne_true]
    exact mul_pos (Nat.cast_pos.mpr (Nat.pos_of_ne_zero hne)) (ten_zpow_pos _)
  sizes := .inr ⟨hvalue, hdigits, hdelta⟩

theorem lt_digitCount_powerOfTen (places : ℕ) (negative : Bool) (exponent : ℤ) :
    places < Dec.digitCount ⟨negative, 10 ^ places, exponent⟩ := by
  have hlt := lt_pow_digitCount ⟨negative, 10 ^ places, exponent⟩
  exact (Nat.pow_lt_pow_iff_right (by decide)).mp hlt

/-- **Step rounding is an exact truncation**, which is odd and monotone, depends on the values only, and
keeps its own results as long as it can work with them. -/
theorem roundDownToStep_truncates {value step : Dec} (h : StepChecked value step) :
    ∃ result, roundDownToStep value step = .ok result ∧
      IsTruncation step.value value.value result.value ∧
      (∃ opposite, roundDownToStep value.copyNegate step = .ok opposite ∧
        opposite.value = -result.value) ∧
      (∀ other otherStep otherResult, roundDownToStep other otherStep = .ok otherResult →
        otherStep.value = step.value →
          (value.value ≤ other.value → result.value ≤ otherResult.value) ∧
          (value.value = other.value → result.value = otherResult.value)) ∧
      (result.digitCount ≤ 1000 →
        ∃ again, roundDownToStep result step = .ok again ∧ again.value = result.value) ∧
      (1000 < result.digitCount →
        roundDownToStep result step = .error quantityStepRoundingInvalid) := by
  obtain ⟨result, hresult, hvalue⟩ := roundDownToStep_of_checked h
  refine ⟨result, hresult, ?_, ?_, ?_, ?_, ?_⟩
  · rw [hvalue]
    exact isTruncation_truncateTo h.step_pos _
  · obtain ⟨opposite, hopposite, heq⟩ := roundDownToStep_of_checked h.copyNegate
    refine ⟨opposite, hopposite, ?_⟩
    rw [heq, Dec.value_copyNegate, truncateTo_neg, hvalue]
  · intro other otherStep otherResult hother hstep
    rw [hvalue, (roundDownToStep_eq_ok hother).2, hstep]
    exact ⟨truncateTo_mono h.step_pos, fun heq => by rw [heq]⟩
  · intro hdigits
    obtain ⟨again, hagain, heq⟩ :=
      roundDownToStep_of_checked ((checked_result_iff hresult).mpr hdigits)
    refine ⟨again, hagain, ?_⟩
    rw [heq, hvalue, truncateTo_truncateTo h.step_pos]
  · intro hdigits
    exact roundDownToStep_of_not_checked
      (mt (checked_result_iff hresult).mp (not_le.mpr hdigits))

theorem roundDownToStep_truncates_minusTwoAndHalf :
    ∃ result, roundDownToStep ⟨true, 257, -2⟩ ⟨false, 10, -2⟩ = .ok result ∧
      IsTruncation (Dec.value ⟨false, 10, -2⟩) (Dec.value ⟨true, 257, -2⟩) result.value := by
  obtain ⟨result, hresult, htruncation, _⟩ :=
    @roundDownToStep_truncates ⟨true, 257, -2⟩ ⟨false, 10, -2⟩
      (stepChecked_of_spelled rfl (by decide) (by decide) (by decide) (by decide))
  exact ⟨result, hresult, htruncation⟩

/-- `1E+1000` is a whole number already, but written with all its digits it is refused. -/
theorem roundDownToStep_refuses_its_result :
    StepChecked ⟨false, 1, 1000⟩ ⟨false, 1, 0⟩ ∧
      ∃ result, roundDownToStep ⟨false, 1, 1000⟩ ⟨false, 1, 0⟩ = .ok result ∧
        roundDownToStep result ⟨false, 1, 0⟩ = .error quantityStepRoundingInvalid := by
  have hchecked : StepChecked ⟨false, 1, 1000⟩ ⟨false, 1, 0⟩ :=
    stepChecked_of_spelled rfl (by decide) (by decide) (by decide) (by decide)
  have hvalue : |Dec.value ⟨false, 1, 1000⟩| / Dec.value ⟨false, 1, 0⟩ = ((10 ^ 1000 : ℕ) : ℚ) := by
    have hone : Dec.value ⟨false, 1, 0⟩ = 1 := by simp [Dec.value]
    rw [Dec.abs_value, hone, div_one, Nat.cast_one, one_mul, Nat.cast_pow, Nat.cast_ofNat]
    exact zpow_natCast (10 : ℚ) 1000
  obtain ⟨stepCount, hcount, heq⟩ := roundDownToStep_of_ne_zero hchecked
    fun hzero => one_ne_zero (Dec.value_eq_zero.mp hzero)
  rw [hvalue, Int.floor_natCast, Int.natCast_inj] at hcount
  refine ⟨hchecked, _, heq, roundDownToStep_of_not_checked ?_⟩
  rw [checked_result_iff heq, not_le, hcount, mul_one]
  exact lt_digitCount_powerOfTen 1000 false 0

/-! ### The quantity of an order -/

/-- `infer_okx_derivatives_inst_type`, for the parts of a symbol between its dashes. -/
def inferOkxDerivativesInstType (symbol : List String) : Option InstrumentType :=
  if 2 ≤ symbol.length ∧ symbol.getLast? = some "SWAP" then some .swap
  else
    let tail := symbol.getLast?.getD ""
    if tail ≠ "" ∧ tail.toList.all Char.isDigit then some .futures else none

def derivativeInstrumentMetadataRequired : ValueError :=
  { text := "derivative_instrument_metadata_required" }

def executionContract (symbol : List String) (instrument : Option SpelledContract) :
    Except ValueError (Option SpelledContract) :=
  match instrument with
  | none => do
    raiseIf (inferOkxDerivativesInstType symbol).isSome derivativeInstrumentMetadataRequired
    return none
  | some contract => do
    raiseIf (contract.symbol ≠ symbol) { text := "instrument_identity_mismatch" }
    raiseIf (contract.contractType = .inverse) { text := "inverse_execution_quantity_unsupported" }
    return some contract

def exchangeQuantityFromInternal (symbol : List String) (quantity : Dec)
    (instrument : Option SpelledContract) : Except ValueError Dec := do
  match ← executionContract symbol instrument with
  | none => return quantity
  | some contract => contract.exchangeQuantity quantity none

def internalQuantityFromExchange (symbol : List String) (quantity : Dec)
    (instrument : Option SpelledContract) : Except ValueError Dec := do
  match ← executionContract symbol instrument with
  | none => return quantity
  | some contract => contract.baseQuantity quantity none

/-- The first half of `quantized_internal_quantity`: whether the exchange quantity is negative, and
`rounded_exchange_quantity`. -/
def roundedExchangeQuantity (symbol : List String) (quantity : Dec) (contract : SpelledContract) :
    Except ValueError (Bool × Dec) := do
  let exchangeQuantity ← exchangeQuantityFromInternal symbol quantity (some contract)
  let step := if contract.lotSizeDecimal.value < 0 then Dec.zero else contract.lotSizeDecimal
  let rounded ← roundDownToStep exchangeQuantity.copyAbs step
  return (exchangeQuantity.value < 0, rounded)

def quantizedInternalQuantity (symbol : List String) (quantity : Dec)
    (instrument : Option SpelledContract) : Except ValueError Dec :=
  match instrument with
  | none => do
    raiseIf (inferOkxDerivativesInstType symbol).isSome derivativeInstrumentMetadataRequired
    return quantity
  | some contract => do
    let (negative, roundedExchange) ← roundedExchangeQuantity symbol quantity contract
    let roundedInternal ← internalQuantityFromExchange symbol roundedExchange (some contract)
    return if negative then roundedInternal.copyNegate else roundedInternal

/-! ### What the quantity of an order comes to -/

def exchangeSize (contract : SpelledContract) (size : ℚ) : ℚ :=
  if contract.contractType = .spot then size else toDigits 50 (size / contract.roundedFace)

def baseSize (contract : SpelledContract) (quantity : ℚ) : ℚ :=
  if contract.contractType = .spot then quantity else toDigits 50 (quantity * contract.roundedFace)

@[simp] theorem baseSize_zero (contract : SpelledContract) : baseSize contract 0 = 0 := by
  unfold baseSize
  split
  · rfl
  · rw [zero_mul, toDigits_zero]

section Conversions

variable {contract : SpelledContract} {symbol : List String} {x y : Dec}

theorem executionContract_eq_ok {found : Option SpelledContract}
    (h : executionContract symbol (some contract) = .ok found) :
    found = some contract ∧ contract.contractType ≠ .inverse := by
  unfold executionContract at h
  obtain ⟨_, -, h⟩ := bind_eq_ok.mp h
  obtain ⟨_, hinverse, h⟩ := bind_eq_ok.mp h
  exact ⟨(pure_eq_ok.mp h).symm, raiseIf_eq_ok.mp hinverse⟩

theorem linear_of_ne (hspot : contract.contractType ≠ .spot)
    (hinverse : contract.contractType ≠ .inverse) : contract.contractType = .linear := by
  cases h : contract.contractType with
  | spot => exact absurd h hspot
  | linear => rfl
  | inverse => exact absurd h hinverse

theorem exchangeQuantityFromInternal_eq_ok
    (h : exchangeQuantityFromInternal symbol x (some contract) = .ok y) :
    |y.value| = exchangeSize contract |x.value| ∧ (y.value < 0 → x.value < 0) ∧
      (0 < y.value → 0 < x.value) ∧ 0 < contract.roundedFace := by
  unfold exchangeQuantityFromInternal at h
  obtain ⟨found, hfound, h⟩ := bind_eq_ok.mp h
  obtain ⟨rfl, hinverse⟩ := executionContract_eq_ok hfound
  unfold exchangeSize
  split
  · next hspot =>
    have hsame : x = y := by
      dsimp only at h
      unfold SpelledContract.exchangeQuantity at h
      rw [hspot] at h
      exact Except.ok.inj h
    rw [hsame]
    exact ⟨rfl, id, id, (SpelledContract.roundedFace_of_spot hspot) ▸ one_pos⟩
  · next hspot =>
    obtain ⟨hvalue, hface⟩ :=
      SpelledContract.value_exchangeQuantity_linear (linear_of_ne hspot hinverse) h
    rw [hvalue]
    refine ⟨?_, fun hneg => ?_, fun hpos => ?_, hface⟩
    · rw [← abs_toDigits, abs_div, abs_of_pos hface]
    · by_contra hle
      exact absurd (toDigits_nonneg (div_nonneg (not_lt.mp hle) hface.le)) (not_le.mpr hneg)
    · by_contra hle
      exact absurd (toDigits_nonpos (div_nonpos_of_nonpos_of_nonneg (not_lt.mp hle) hface.le))
        (not_le.mpr hpos)

theorem internalQuantityFromExchange_eq_ok (hx : 0 ≤ x.value)
    (h : internalQuantityFromExchange symbol x (some contract) = .ok y) :
    y.value = baseSize contract x.value ∧ 0 ≤ y.value := by
  unfold internalQuantityFromExchange at h
  obtain ⟨found, hfound, h⟩ := bind_eq_ok.mp h
  obtain ⟨rfl, hinverse⟩ := executionContract_eq_ok hfound
  unfold baseSize
  split
  · next hspot =>
    have hsame : x = y := by
      dsimp only at h
      unfold SpelledContract.baseQuantity at h
      rw [hspot] at h
      exact Except.ok.inj h
    rw [← hsame]
    exact ⟨rfl, hx⟩
  · next hspot =>
    obtain ⟨hvalue, hface⟩ :=
      SpelledContract.value_baseQuantity_linear (linear_of_ne hspot hinverse) h
    rw [hvalue]
    exact ⟨rfl, toDigits_nonneg (mul_nonneg hx hface.le)⟩

theorem roundedExchangeQuantity_eq_ok {negative : Bool} {lots : Dec}
    (h : roundedExchangeQuantity symbol x contract = .ok (negative, lots)) :
    lots.value = floorTo contract.lotSize (exchangeSize contract |x.value|) ∧ 0 ≤ lots.value ∧
      (negative = true → x.value < 0) ∧ (negative = false → lots.value ≠ 0 → 0 < x.value) ∧
      0 < contract.roundedFace := by
  unfold roundedExchangeQuantity at h
  obtain ⟨exchange, hexchange, h⟩ := bind_eq_ok.mp h
  obtain ⟨hsize, hneg, hpos, hface⟩ := exchangeQuantityFromInternal_eq_ok hexchange
  have hstep : (if contract.lotSizeDecimal.value < 0 then Dec.zero else contract.lotSizeDecimal) =
      contract.lotSizeDecimal := if_neg (not_lt.mpr SpelledContract.lotSize_pos.le)
  dsimp only at h
  rw [hstep] at h
  obtain ⟨rounded, hrounded, h⟩ := bind_eq_ok.mp h
  obtain ⟨hnegative, rfl⟩ := Prod.mk.inj (pure_eq_ok.mp h)
  obtain ⟨hlot, hvalue⟩ := value_roundDownToStep hrounded (by rw [Dec.value_copyAbs]; positivity)
  rw [Dec.value_copyAbs, hsize, contract.value_lotSize] at hvalue
  rw [contract.value_lotSize] at hlot
  refine ⟨hvalue, ?_, fun h => ?_, fun h hlots => ?_, hface⟩
  · rw [hvalue, ← hsize]
    exact floorTo_nonneg hlot (abs_nonneg _)
  · rw [← hnegative] at h
    exact hneg (of_decide_eq_true h)
  · rw [← hnegative] at h
    have hge := not_lt.mp (of_decide_eq_false h)
    refine hpos (lt_of_le_of_ne hge fun hzero => hlots ?_)
    rw [hvalue, ← hsize, ← hzero, abs_zero, floorTo_zero]

theorem quantized_spec (h : quantizedInternalQuantity symbol x (some contract) = .ok y) :
    ∃ negative lots, roundedExchangeQuantity symbol x contract = .ok (negative, lots) ∧
      |y.value| = baseSize contract lots.value ∧
      (y.value = 0 ∨ SignType.sign y.value = SignType.sign x.value) := by
  unfold quantizedInternalQuantity at h
  obtain ⟨⟨negative, lots⟩, hrounded, h⟩ := bind_eq_ok.mp h
  obtain ⟨internal, hinternal, h⟩ := bind_eq_ok.mp h
  obtain rfl := pure_eq_ok.mp h
  obtain ⟨-, hlots, hneg, hpos, -⟩ := roundedExchangeQuantity_eq_ok hrounded
  obtain ⟨hvalue, hinternal⟩ := internalQuantityFromExchange_eq_ok hlots hinternal
  refine ⟨negative, lots, hrounded, ?_, or_iff_not_imp_left.mpr fun hne => ?_⟩
  · split
    · rw [Dec.value_copyNegate, abs_neg, abs_of_nonneg hinternal, hvalue]
    · rw [abs_of_nonneg hinternal, hvalue]
  · cases negative with
    | true =>
      rw [if_pos rfl, Dec.value_copyNegate] at hne ⊢
      rw [sign_neg (hneg rfl)]
      refine sign_neg (neg_neg_of_pos (lt_of_le_of_ne hinternal fun hzero => hne ?_))
      rw [← hzero, neg_zero]
    | false =>
      rw [if_neg Bool.false_ne_true] at hne ⊢
      have hsome : lots.value ≠ 0 := by
        intro hzero
        rw [hvalue, hzero, baseSize_zero] at hne
        exact hne rfl
      rw [sign_pos (hpos rfl hsome), sign_pos (lt_of_le_of_ne hinternal (Ne.symm hne))]

end Conversions

/-! ### Orders that are not enlarged -/

/-- What is asked of the quantity `y` that an order for `x` is quantized to, and of the quantity `z`
that `y` is quantized to. -/
structure NeverEnlarged (symbol : List String) (contract : SpelledContract) (x y z : Dec) : Prop where
  sign : y.value = 0 ∨ SignType.sign y.value = SignType.sign x.value
  smaller : |y.value| ≤ |x.value|
  again : z.value = y.value
  noneCreated : ∀ negative lots, roundedExchangeQuantity symbol x contract = .ok (negative, lots) →
    lots.value ≤ |x.value| / contract.roundedFace

/-- The size of an order can be divided by the face value without reaching a lot, and what its lots are
worth is neither rounded beyond it nor divided back to other lots. The last two can only fail where
the worth of lots has more than fifty digits. -/
structure NotRoundedUp (lot face size : ℚ) : Prop where
  noLotReached : ∀ k : ℕ, size / face < k * lot → toDigits 50 (size / face) < k * lot
  worth : toDigits 50 (floorTo lot (toDigits 50 (size / face)) * face) ≤ size
  dividedBack : ∀ w, w = toDigits 50 (floorTo lot (toDigits 50 (size / face)) * face) →
    toDigits 50 (floorTo lot (toDigits 50 (w / face)) * face) = w

/-- The lots up to the one after a size can be written with fifty digits, and their worth too. -/
def LotsWritten (lot face size : ℚ) : Prop :=
  ∀ k : ℕ, k * lot ≤ size / face + lot → HasDigits 50 (k * lot) ∧ HasDigits 50 (k * lot * face)

section Sizes

variable {lot face size : ℚ}

theorem floorTo_le_iff (hlot : 0 < lot) (hq : 0 ≤ toDigits 50 (size / face)) :
    floorTo lot (toDigits 50 (size / face)) ≤ size / face ↔
      ∀ k : ℕ, size / face < k * lot → toDigits 50 (size / face) < k * lot := by
  obtain ⟨⟨⟨n, hn⟩, hbelow⟩, hgreatest⟩ := isGreatest_floor_mul hlot hq
  constructor
  · intro hle k hk
    by_contra hge
    have hin := hgreatest ⟨⟨k, rfl⟩, not_lt.mp hge⟩
    exact absurd (hk.trans_le (hin.trans hle)) (lt_irrefl _)
  · intro hnone
    by_contra hlt
    unfold floorTo at hlt
    rw [hn] at hlt hbelow
    exact absurd (hnone n (not_le.mp hlt)) (not_lt.mpr hbelow)

/-- **Where the lots can be written, it is only the next lot that may be reached.** -/
theorem notRoundedUp_iff (hlot : 0 < lot) (hface : 0 < face) (hsize : 0 ≤ size)
    (hwritten : LotsWritten lot face size) :
    NotRoundedUp lot face size ↔
      toDigits 50 (size / face) < (⌊size / face / lot⌋ + 1) * lot := by
  have hexact : 0 ≤ size / face := div_nonneg hsize hface.le
  obtain ⟨m, hm⟩ := Int.eq_ofNat_of_zero_le (Int.floor_nonneg.mpr (div_nonneg hexact hlot.le))
  have hlow : (m : ℚ) * lot ≤ size / face := by
    have h := floorTo_le hlot (size / face)
    unfold floorTo at h
    rwa [hm, Int.cast_natCast] at h
  have hhigh : size / face < ((m : ℚ) + 1) * lot := by
    have h := Int.lt_floor_add_one (size / face / lot)
    rwa [hm, Int.cast_natCast, div_lt_iff₀ hlot] at h
  obtain ⟨hlots, hworth⟩ := hwritten m (hlow.trans (le_add_of_nonneg_right hlot.le))
  rw [hm, Int.cast_natCast]
  constructor
  · intro h
    have hnext := h.noLotReached (m + 1)
    push_cast at hnext
    exact hnext hhigh
  · intro hbelow
    have hheld : floorTo lot (toDigits 50 (size / face)) = m * lot := by
      rw [← Int.cast_natCast m]
      refine floorTo_eq hlot ?_ (by rwa [Int.cast_natCast])
      rw [Int.cast_natCast]
      exact le_toDigits_of_hasDigits (by norm_num) hlots hlow
    have hkept : toDigits 50 (m * lot * face) = m * lot * face :=
      toDigits_of_hasDigits (by norm_num) hworth
    refine ⟨?_, ?_, ?_⟩
    · rw [← floorTo_le_iff hlot (toDigits_nonneg hexact), hheld]
      exact hlow
    · rw [hheld, hkept]
      exact (le_div_iff₀ hface).mp hlow
    · rintro w rfl
      rw [hheld, hkept, mul_div_cancel_right₀ _ hface.ne', toDigits_of_hasDigits (by norm_num) hlots,
        ← Int.cast_natCast m]
      rw [floorTo_eq hlot le_rfl (mul_lt_mul_of_pos_right (lt_add_one _) hlot), Int.cast_natCast, hkept]

end Sizes

section Orders

variable {contract : SpelledContract} {symbol : List String} {x y z : Dec}

theorem eq_of_abs_eq_of_sign {a b : ℚ} (habs : |a| = |b|)
    (hsign : a = 0 ∨ SignType.sign a = SignType.sign b) : a = b := by
  rcases hsign with hzero | hsign
  · rw [hzero, abs_zero] at habs
    rw [hzero, abs_eq_zero.mp habs.symm]
  · rw [← sign_mul_abs a, ← sign_mul_abs b, hsign, habs]

theorem neverEnlarged_iff_sizes (hy : quantizedInternalQuantity symbol x (some contract) = .ok y)
    (hz : quantizedInternalQuantity symbol y (some contract) = .ok z) :
    NeverEnlarged symbol contract x y z ↔
      floorTo contract.lotSize (exchangeSize contract |x.value|) ≤ |x.value| / contract.roundedFace ∧
      baseSize contract (floorTo contract.lotSize (exchangeSize contract |x.value|)) ≤ |x.value| ∧
      ∀ w, w = baseSize contract (floorTo contract.lotSize (exchangeSize contract |x.value|)) →
        baseSize contract (floorTo contract.lotSize (exchangeSize contract w)) = w := by
  obtain ⟨negative, lots, hlots, hsize, hsign⟩ := quantized_spec hy
  obtain ⟨negative', again, hagain, hsize', hsign'⟩ := quantized_spec hz
  have hvalue := (roundedExchangeQuantity_eq_ok hlots).1
  have hvalue' := (roundedExchangeQuantity_eq_ok hagain).1
  rw [hvalue] at hsize
  rw [hvalue'] at hsize'
  rw [← hsize, ← hvalue]
  constructor
  · intro h
    refine ⟨h.noneCreated negative lots hlots, h.smaller, ?_⟩
    rintro w rfl
    rw [← hsize', h.again]
  · rintro ⟨hcreated, hsmaller, hstable⟩
    refine ⟨hsign, hsmaller, eq_of_abs_eq_of_sign ?_ hsign', ?_⟩
    · rw [hsize', hstable _ rfl]
    · intro negative'' lots' hlots'
      obtain ⟨-, rfl⟩ := Prod.mk.inj (Except.ok.inj (hlots.symm.trans hlots'))
      exact hcreated

end Orders

def wholeCoinSwap : SpelledContract where
  symbol := ["BTC", "USDT", "SWAP"]
  instrumentType := .swap
  contractType := .linear
  baseCurrency := "BTC"
  quoteCurrency := "USDT"
  settleCurrency := "USDT"
  contractValue := 1
  contractMultiplier := 1
  contractValueCurrency := "BTC"
  lotSize := 1
  minSize := 1
  tickSize := 1 / 10
  valid := by decide +kernel
  contractValueDecimal := ⟨false, 1, 0⟩
  contractMultiplierDecimal := ⟨false, 1, 0⟩
  lotSizeDecimal := ⟨false, 1, 0⟩
  minSizeDecimal := ⟨false, 1, 0⟩
  tickSizeDecimal := ⟨false, 1, -1⟩
  value_contractValue := SpelledContract.value_unit
  value_contractMultiplier := SpelledContract.value_unit
  value_lotSize := SpelledContract.value_unit
  value_minSize := SpelledContract.value_unit
  value_tickSize := SpelledContract.value_tenth

end Aats.Execution
