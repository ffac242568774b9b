import Aats.Domain.InstrumentContract
import Aats.Lib.DecimalText
import Aats.Lib.Rounding

/-!
# Lots and ticks

A rounded quotient may be a whole number where the exact one is just below, so the decisions about lots
and ticks are made with exact fractions. The fraction of a decimal with a huge exponent is too large to
work with, and is refused before it is made.

## Main results
* `fillableExchangeQuantity_spec` — **what can be filled is the greatest multiple of the lot**.
* `executionPrice_spec` — **a price is aligned to the next tick on the adverse side**.
-/

namespace Aats.Domain

open DecimalText Fallible

/-! ### Exact fractions -/

def discreteDecimalComplexityLimit : ℕ := 10000

/-- `len(digits) + abs(exponent)`. -/
def complexity (number : Dec) : ℕ := number.digitCount + number.exponent.natAbs

def discreteArithmeticTooLarge : ValueError := { text := "contract_discrete_arithmetic_too_large" }

def discreteFraction (number : Dec) : Except ValueError ℚ := do
  raiseIf (discreteDecimalComplexityLimit < complexity number) discreteArithmeticTooLarge
  return number.value

def integerStepDecimal (stepCount : ℤ) (step : Dec) : Except ValueError Dec := do
  raiseIf (stepCount < 0) { text := "contract_arithmetic_invalid" }
  if stepCount = 0 then return Dec.zero
  let product := Dec.trimmed
    { negative := false, coefficient := stepCount.toNat * step.coefficient, exponent := step.exponent }
  raiseIf (discreteDecimalComplexityLimit < complexity product) discreteArithmeticTooLarge
  return product

/-- A decimal that is not too large to work with. -/
def Manageable (number : Dec) : Prop := complexity number ≤ discreteDecimalComplexityLimit

/-- A figure whose shortest decimal is not too large to work with. -/
def ManageableValue (value : ℚ) : Prop :=
  ∃ number : Dec, number.value = value ∧ number.trimmed = number ∧ Manageable number

theorem discreteFraction_of_manageable {number : Dec} (h : Manageable number) :
    discreteFraction number = .ok number.value := by
  unfold discreteFraction
  rw [raiseIf_of_not _ (not_lt.mpr h)]
  rfl

theorem discreteFraction_of_not_manageable {number : Dec} (h : ¬ Manageable number) :
    discreteFraction number = .error discreteArithmeticTooLarge := by
  unfold discreteFraction raiseIf
  rw [if_pos (not_le.mp h)]
  rfl

theorem manageableValue_zero : ManageableValue 0 :=
  ⟨Dec.zero, Dec.value_zero, rfl, by unfold Manageable; decide⟩

theorem manageableValue_iff (number : Dec) :
    ManageableValue number.value ↔ Manageable number.trimmed := by
  constructor
  · rintro ⟨other, heq, htrimmed, hsmall⟩
    rw [Dec.trimmed_eq_of_value_eq heq.symm, htrimmed]
    exact hsmall
  · exact fun hsmall => ⟨number.trimmed, Dec.value_trimmed _, Dec.trimmed_trimmed _, hsmall⟩

theorem returned_if_manageable {number : Dec} {value : ℚ} (hvalue : number.value = value) :
    (ManageableValue value →
      ∃ result, (do
          raiseIf (discreteDecimalComplexityLimit < complexity number.trimmed) discreteArithmeticTooLarge
          return number.trimmed) = .ok result ∧ result.value = value) ∧
    (¬ManageableValue value →
      (do raiseIf (discreteDecimalComplexityLimit < complexity number.trimmed) discreteArithmeticTooLarge
          return number.trimmed : Except ValueError Dec) = .error discreteArithmeticTooLarge) := by
  rw [← hvalue, manageableValue_iff]
  constructor
  · intro hsmall
    refine ⟨number.trimmed, ?_, Dec.value_trimmed _⟩
    rw [raiseIf_of_not _ (not_lt.mpr hsmall)]
    rfl
  · intro hlarge
    unfold raiseIf
    rw [if_pos (not_le.mp hlarge)]
    rfl

section IntegerSteps

variable {step : Dec} {stepCount : ℤ}

theorem negative_of_value_pos (h : 0 < step.value) : step.negative = false := by
  cases hsign : step.negative with
  | false => rfl
  | true =>
    unfold Dec.value at h
    rw [hsign, if_pos rfl] at h
    have hnonneg : 0 ≤ (step.coefficient : ℚ) * (10 : ℚ) ^ step.exponent :=
      mul_nonneg (Nat.cast_nonneg _) (zpow_pos (by norm_num) _).le
    linarith

theorem value_integerStep (hstep : 0 < step.value) (hcount : 0 ≤ stepCount) :
    Dec.value { negative := false, coefficient := stepCount.toNat * step.coefficient
                exponent := step.exponent } = stepCount * step.value := by
  have hcast : ((stepCount.toNat : ℕ) : ℚ) = stepCount := by
    exact_mod_cast Int.toNat_of_nonneg hcount
  unfold Dec.value
  rw [negative_of_value_pos hstep, if_neg Bool.false_ne_true]
  push_cast
  rw [hcast]
  ring

theorem integerStepDecimal_spec (hstep : 0 < step.value) (hcount : 0 ≤ stepCount) :
    (ManageableValue (stepCount * step.value) →
      ∃ product, integerStepDecimal stepCount step = .ok product ∧
        product.value = stepCount * step.value) ∧
    (¬ ManageableValue (stepCount * step.value) →
      integerStepDecimal stepCount step = .error discreteArithmeticTooLarge) := by
  have hvalue := value_integerStep hstep hcount
  generalize hproduct : Dec.mk false (stepCount.toNat * step.coefficient) step.exponent = product
    at hvalue
  unfold integerStepDecimal
  rw [raiseIf_of_not _ (not_lt.mpr hcount), ok_bind, hproduct]
  by_cases hzero : stepCount = 0
  · have hnothing : (stepCount : ℚ) * step.value = 0 := by
      rw [hzero, Int.cast_zero, zero_mul]
    rw [if_pos hzero, hnothing]
    exact ⟨fun _ => ⟨Dec.zero, rfl, Dec.value_zero⟩, fun hlarge => absurd manageableValue_zero hlarge⟩
  · rw [if_neg hzero]
    exact returned_if_manageable hvalue

end IntegerSteps

/-! ### The decisions -/

/-- An `InstrumentContract` with the decimals that its figures are spelled as. -/
structure SpelledContract extends InstrumentContract where
  contractValueDecimal : Dec
  contractMultiplierDecimal : Dec
  lotSizeDecimal : Dec
  minSizeDecimal : Dec
  tickSizeDecimal : Dec
  value_contractValue : contractValueDecimal.value = contractValue
  value_contractMultiplier : contractMultiplierDecimal.value = contractMultiplier
  value_lotSize : lotSizeDecimal.value = lotSize
  value_minSize : minSizeDecimal.value = minSize
  value_tickSize : tickSizeDecimal.value = tickSize

namespace SpelledContract

variable (contract : SpelledContract)

def executionPrice (referencePrice : Dec) (side : Side) (slippageBps : Dec) :
    Except ValueError Dec := do
  let _ ← InstrumentContract.requiredPrice referencePrice.value
  raiseIf (slippageBps.value < 0 ∨ 10000 ≤ slippageBps.value) { text := "slippage_bps_invalid" }
  let price ← discreteFraction referencePrice
  let bps ← discreteFraction slippageBps
  let target := price * (1 + (if side = .buy then bps else -bps) / 10000)
  raiseIf (target ≤ 0) { text := "contract_arithmetic_invalid" }
  let tickRatio := target / (← discreteFraction contract.tickSizeDecimal)
  let tickCount := if side = .buy then -(-tickRatio.num / tickRatio.den)
    else tickRatio.num / tickRatio.den
  let aligned ← integerStepDecimal tickCount contract.tickSizeDecimal
  raiseIf (aligned.value ≤ 0) { text := "contract_arithmetic_invalid" }
  return aligned

def fillableExchangeQuantity (requestedQuantity availableQuantity maxParticipation : Dec) :
    Except ValueError Dec := do
  let _ ← InstrumentContract.positiveDecimal requestedQuantity.value "requested_quantity"
  let _ ← InstrumentContract.positiveDecimal availableQuantity.value "available_quantity"
  let _ ← InstrumentContract.positiveDecimal maxParticipation.value "max_participation"
  raiseIf (1 < maxParticipation.value) { text := "max_participation_invalid" }
  let cap := (← discreteFraction availableQuantity) * (← discreteFraction maxParticipation)
  let candidate := min (← discreteFraction requestedQuantity) cap
  let lot ← discreteFraction contract.lotSizeDecimal
  let lotCount := candidate.num * lot.den / (candidate.den * lot.num)
  let aligned ← integerStepDecimal lotCount contract.lotSizeDecimal
  return if aligned.value < contract.minSize then Dec.zero else aligned

variable {contract} {requested available participation price bps : Dec}

theorem lotSize_pos : 0 < contract.lotSizeDecimal.value := by
  rw [contract.value_lotSize]
  exact contract.toInstrumentContract.lotSize_pos

theorem tickSize_pos : 0 < contract.tickSizeDecimal.value := by
  rw [contract.value_tickSize]
  exact contract.toInstrumentContract.tickSize_pos

/-! ### What can be filled -/

theorem floor_div_eq {a b : ℚ} (hb : 0 < b) : a.num * b.den / (a.den * b.num) = ⌊a / b⌋ := by
  have hbottom : 0 < (a.den : ℤ) * b.num :=
    mul_pos (by exact_mod_cast a.den_pos) (Rat.num_pos.mpr hb)
  have hbottom' : (0 : ℚ) < (a.den : ℚ) * b.num := by exact_mod_cast hbottom
  have hquotient : a / b = ((a.num * b.den : ℤ) : ℚ) / ((a.den * b.num : ℤ) : ℚ) := by
    conv_lhs => rw [← Rat.num_div_den a, ← Rat.num_div_den b]
    push_cast
    rw [div_div_div_eq]
  symm
  rw [Int.floor_eq_iff, hquotient]
  push_cast
  rw [le_div_iff₀ hbottom', div_lt_iff₀ hbottom']
  constructor
  · exact_mod_cast Int.ediv_mul_le (a.num * b.den) hbottom.ne'
  · exact_mod_cast Int.lt_ediv_add_one_mul_self (a.num * b.den) hbottom

/-- What the decisions about a filled quantity work with can be worked with. -/
structure FillManageable (contract : SpelledContract) (requested available participation : Dec) :
    Prop where
  requested : Manageable requested
  available : Manageable available
  participation : Manageable participation
  lotSize : Manageable contract.lotSizeDecimal

section Fill

variable (hrequested : 0 < requested.value) (havailable : 0 < available.value)
  (hparticipation : 0 < participation.value) (hone : participation.value ≤ 1)
include hrequested havailable hparticipation hone

theorem fillableExchangeQuantity_of_not_manageable
    (h : ¬ FillManageable contract requested available participation) :
    contract.fillableExchangeQuantity requested available participation =
      .error discreteArithmeticTooLarge := by
  unfold fillableExchangeQuantity
  rw [InstrumentContract.positiveDecimal_of_pos hrequested,
    InstrumentContract.positiveDecimal_of_pos havailable,
    InstrumentContract.positiveDecimal_of_pos hparticipation]
  simp only [ok_bind, raiseIf_of_not _ (not_lt.mpr hone)]
  by_cases h₁ : Manageable available
  swap
  · rw [discreteFraction_of_not_manageable h₁, error_bind]
  by_cases h₂ : Manageable participation
  swap
  · rw [discreteFraction_of_manageable h₁, ok_bind, discreteFraction_of_not_manageable h₂,
      error_bind]
  by_cases h₃ : Manageable requested
  swap
  · rw [discreteFraction_of_manageable h₁, ok_bind, discreteFraction_of_manageable h₂, ok_bind,
      discreteFraction_of_not_manageable h₃, error_bind]
  have h₄ : ¬ Manageable contract.lotSizeDecimal := fun h₄ => h ⟨h₃, h₁, h₂, h₄⟩
  rw [discreteFraction_of_manageable h₁, ok_bind, discreteFraction_of_manageable h₂, ok_bind,
    discreteFraction_of_manageable h₃, ok_bind, discreteFraction_of_not_manageable h₄, error_bind]

theorem fillableExchangeQuantity_of_manageable
    (h : FillManageable contract requested available participation) :
    contract.fillableExchangeQuantity requested available participation = (do
      let aligned ← integerStepDecimal
        ⌊min requested.value (available.value * participation.value) / contract.lotSize⌋
        contract.lotSizeDecimal
      return if aligned.value < contract.minSize then Dec.zero else aligned) := by
  unfold fillableExchangeQuantity
  rw [InstrumentContract.positiveDecimal_of_pos hrequested,
    InstrumentContract.positiveDecimal_of_pos havailable,
    InstrumentContract.positiveDecimal_of_pos hparticipation]
  simp only [ok_bind, raiseIf_of_not _ (not_lt.mpr hone),
    discreteFraction_of_manageable h.available, discreteFraction_of_manageable h.participation,
    discreteFraction_of_manageable h.requested, discreteFraction_of_manageable h.lotSize,
    contract.value_lotSize, floor_div_eq contract.toInstrumentContract.lotSize_pos]

end Fill

/-- **What can be filled is the greatest multiple of the lot that is requested and available**, or
nothing if that is less than the smallest order. It is refused only if the inputs or the multiple are
too large to work with. -/
theorem fillableExchangeQuantity_spec (hrequested : 0 < requested.value)
    (havailable : 0 < available.value) (hparticipation : 0 < participation.value)
    (hone : participation.value ≤ 1) :
    ∃ largest, IsGreatest {q | (∃ n : ℕ, q = n * contract.lotSize) ∧
        q ≤ min requested.value (available.value * participation.value)} largest ∧
      (FillManageable contract requested available participation ∧ ManageableValue largest →
        ∃ result,
          contract.fillableExchangeQuantity requested available participation = .ok result ∧
            result.value = if largest < contract.minSize then 0 else largest) ∧
      (¬ (FillManageable contract requested available participation ∧ ManageableValue largest) →
        contract.fillableExchangeQuantity requested available participation =
          .error discreteArithmeticTooLarge) := by
  have hlot := contract.toInstrumentContract.lotSize_pos
  let bound := min requested.value (available.value * participation.value)
  have hbound : 0 ≤ bound := le_min hrequested.le (mul_pos havailable hparticipation).le
  have hcount : 0 ≤ ⌊bound / contract.lotSize⌋ := Int.floor_nonneg.mpr (div_nonneg hbound hlot.le)
  refine ⟨⌊bound / contract.lotSize⌋ * contract.lotSize,
    Rounding.isGreatest_floor_mul hlot hbound, ?_⟩
  have hsteps := integerStepDecimal_spec (contract.lotSize_pos) hcount
  rw [contract.value_lotSize] at hsteps
  by_cases hmanageable : FillManageable contract requested available participation
  swap
  · exact ⟨fun h => absurd h.1 hmanageable, fun _ => fillableExchangeQuantity_of_not_manageable
      hrequested havailable hparticipation hone hmanageable⟩
  rw [and_iff_right hmanageable, fillableExchangeQuantity_of_manageable hrequested havailable
    hparticipation hone hmanageable]
  refine ⟨fun hsmall => ?_, fun hlarge => ?_⟩
  · obtain ⟨aligned, haligned, hvalue⟩ := hsteps.1 hsmall
    rw [haligned, ok_bind, hvalue]
    refine ⟨_, rfl, ?_⟩
    split
    · exact Dec.value_zero
    · exact hvalue
  · rw [hsteps.2 hlarge, error_bind]

theorem value_unit : Dec.value ⟨false, 1, 0⟩ = 1 := by decide +kernel

theorem value_tenth : Dec.value ⟨false, 1, -1⟩ = 1 / 10 := by decide +kernel

/-- A spot contract with a lot of 0.01 and a tick of 0.1. -/
def centLotSpot : SpelledContract where
  symbol := ["BTC", "USDT"]
  instrumentType := .spot
  contractType := .spot
  baseCurrency := "BTC"
  quoteCurrency := "USDT"
  settleCurrency := "USDT"
  contractValue := 1
  contractMultiplier := 1
  contractValueCurrency := "BTC"
  lotSize := 1 / 100
  minSize := 1 / 100
  tickSize := 1 / 10
  valid := by decide +kernel
  contractValueDecimal := ⟨false, 1, 0⟩
  contractMultiplierDecimal := ⟨false, 1, 0⟩
  lotSizeDecimal := ⟨false, 1, -2⟩
  minSizeDecimal := ⟨false, 1, -2⟩
  tickSizeDecimal := ⟨false, 1, -1⟩
  value_contractValue := value_unit
  value_contractMultiplier := value_unit
  value_lotSize := by decide +kernel
  value_minSize := by decide +kernel
  value_tickSize := value_tenth

theorem fillableExchangeQuantity_spec_third :
    ∃ largest, IsGreatest {q | (∃ n : ℕ, q = n * centLotSpot.lotSize) ∧
        q ≤ min (Dec.value ⟨false, 1239, -3⟩) (Dec.value ⟨false, 3, 0⟩ * Dec.value ⟨false, 333, -3⟩)}
        largest ∧
      (FillManageable centLotSpot ⟨false, 1239, -3⟩ ⟨false, 3, 0⟩ ⟨false, 333, -3⟩ ∧
          ManageableValue largest →
        ∃ result, centLotSpot.fillableExchangeQuantity ⟨false, 1239, -3⟩ ⟨false, 3, 0⟩
          ⟨false, 333, -3⟩ = .ok result ∧
          result.value = if largest < centLotSpot.minSize then 0 else largest) :=
  (fillableExchangeQuantity_spec (by decide +kernel) (by decide +kernel) (by decide +kernel)
    (by decide +kernel)).imp fun _ h => ⟨h.1, h.2.1⟩

theorem value_powerOfTen_pos (exponent : ℤ) : 0 < Dec.value ⟨false, 1, exponent⟩ := by
  unfold Dec.value
  rw [if_neg Bool.false_ne_true, Nat.cast_one, one_mul]
  exact zpow_pos (by norm_num) _

theorem not_manageable_powerOfTen : ¬ Manageable ⟨false, 1, 10000⟩ := by
  unfold Manageable
  decide +kernel

/-- **A huge request is refused**, even if there is little to fill it with. -/
theorem fillableExchangeQuantity_not_total :
    ¬ ∀ (contract : SpelledContract) (requested available participation : Dec),
      0 < requested.value → 0 < available.value → 0 < participation.value →
      participation.value ≤ 1 →
      ∃ result largest,
        contract.fillableExchangeQuantity requested available participation = .ok result ∧
        IsGreatest {q | (∃ n : ℕ, q = n * contract.lotSize) ∧
          q ≤ min requested.value (available.value * participation.value)} largest ∧
        result.value = if largest < contract.minSize then 0 else largest := by
  intro h
  have hone : 0 < Dec.value ⟨false, 1, 0⟩ ∧ Dec.value ⟨false, 1, 0⟩ ≤ 1 := by decide +kernel
  obtain ⟨result, largest, hresult, -⟩ := h centLotSpot ⟨false, 1, 10000⟩ ⟨false, 1, 0⟩ ⟨false, 1, 0⟩
    (value_powerOfTen_pos _) hone.1 hone.1 hone.2
  rw [fillableExchangeQuantity_of_not_manageable (value_powerOfTen_pos _) hone.1 hone.1 hone.2
    fun hall => not_manageable_powerOfTen hall.requested] at hresult
  cases hresult

/-! ### Execution prices -/

def slippedPrice (price bps : Dec) (side : Side) : ℚ :=
  price.value * (1 + (if side = .buy then bps.value else -bps.value) / 10000)

/-- A price on the ticks that is adverse to the side: the next one above for a buy, and below for a
sell. -/
def AdverseTick (tick target : ℚ) : Side → ℚ → Prop
  | .buy, aligned => IsLeast {q | (∃ n : ℕ, q = n * tick) ∧ target ≤ q} aligned
  | .sell, aligned => IsGreatest {q | (∃ n : ℕ, q = n * tick) ∧ q ≤ target} aligned

def tickCountOf (tick target : ℚ) : Side → ℤ
  | .buy => ⌈target / tick⌉
  | .sell => ⌊target / tick⌋

section Ticks

variable {tick target aligned : ℚ} {side : Side}

theorem adverseTick_tickCountOf (htick : 0 < tick) (htarget : 0 ≤ target) (side : Side) :
    AdverseTick tick target side (tickCountOf tick target side * tick) := by
  cases side with
  | buy => exact Rounding.isLeast_ceil_mul htick htarget
  | sell => exact Rounding.isGreatest_floor_mul htick htarget

theorem AdverseTick.within (htick : 0 < tick) (htarget : 0 ≤ target)
    (h : AdverseTick tick target side aligned) :
    |aligned - target| < tick ∧ (if side = .buy then target ≤ aligned else aligned ≤ target) := by
  cases side with
  | buy =>
    have heq : aligned = ⌈target / tick⌉ * tick :=
      h.unique (Rounding.isLeast_ceil_mul htick htarget)
    have habove : target ≤ aligned := h.1.2
    refine ⟨?_, by rwa [if_pos rfl]⟩
    rw [abs_of_nonneg (by linarith), heq, sub_lt_iff_lt_add]
    have hceil := mul_lt_mul_of_pos_right (Int.ceil_lt_add_one (target / tick)) htick
    rw [add_mul, div_mul_cancel₀ _ htick.ne', one_mul] at hceil
    linarith
  | sell =>
    have heq : aligned = ⌊target / tick⌋ * tick :=
      h.unique (Rounding.isGreatest_floor_mul htick htarget)
    have hbelow : aligned ≤ target := h.1.2
    refine ⟨?_, by rwa [if_neg nofun]⟩
    rw [abs_of_nonpos (by linarith), heq]
    have hfloor := mul_lt_mul_of_pos_right (Int.lt_floor_add_one (target / tick)) htick
    rw [add_mul, div_mul_cancel₀ _ htick.ne', one_mul] at hfloor
    linarith

end Ticks

theorem slippedPrice_pos (hprice : 0 < price.value) (hbps : 0 ≤ bps.value)
    (hless : bps.value < 10000) (side : Side) : 0 < slippedPrice price bps side := by
  refine mul_pos hprice ?_
  split
  · linarith
  · linarith

/-- What the decisions about a price work with can be worked with. -/
structure PriceManageable (contract : SpelledContract) (price bps : Dec) : Prop where
  price : Manageable price
  bps : Manageable bps
  tickSize : Manageable contract.tickSizeDecimal

section Price

variable (side : Side) (hprice : 0 < price.value) (hbps : 0 ≤ bps.value)
  (hless : bps.value < 10000)
include hprice hbps hless

theorem executionPrice_of_not_manageable (h : ¬ PriceManageable contract price bps) :
    contract.executionPrice price side bps = .error discreteArithmeticTooLarge := by
  have hvalid : ¬ (bps.value < 0 ∨ 10000 ≤ bps.value) :=
    not_or.mpr ⟨not_lt.mpr hbps, not_le.mpr hless⟩
  have hslipped : ¬ slippedPrice price bps side ≤ 0 :=
    not_le.mpr (slippedPrice_pos hprice hbps hless side)
  unfold slippedPrice at hslipped
  unfold executionPrice
  rw [InstrumentContract.requiredPrice_of_pos hprice]
  simp only [ok_bind, raiseIf_of_not _ hvalid]
  by_cases h₁ : Manageable price
  swap
  · rw [discreteFraction_of_not_manageable h₁, error_bind]
  by_cases h₂ : Manageable bps
  swap
  · rw [discreteFraction_of_manageable h₁, ok_bind, discreteFraction_of_not_manageable h₂,
      error_bind]
  have h₃ : ¬ Manageable contract.tickSizeDecimal := fun h₃ => h ⟨h₁, h₂, h₃⟩
  simp only [discreteFraction_of_manageable h₁, discreteFraction_of_manageable h₂,
    discreteFraction_of_not_manageable h₃, ok_bind, raiseIf_of_not _ hslipped, error_bind]

theorem executionPrice_of_manageable (h : PriceManageable contract price bps) :
    contract.executionPrice price side bps = (do
      let aligned ← integerStepDecimal
        (tickCountOf contract.tickSize (slippedPrice price bps side) side) contract.tickSizeDecimal
      raiseIf (aligned.value ≤ 0) { text := "contract_arithmetic_invalid" }
      return aligned) := by
  have hvalid : ¬ (bps.value < 0 ∨ 10000 ≤ bps.value) :=
    not_or.mpr ⟨not_lt.mpr hbps, not_le.mpr hless⟩
  have hslipped : ¬ slippedPrice price bps side ≤ 0 :=
    not_le.mpr (slippedPrice_pos hprice hbps hless side)
  have hticks : (if side = .buy then
      -(-(slippedPrice price bps side / contract.tickSize).num /
        (slippedPrice price bps side / contract.tickSize).den)
      else (slippedPrice price bps side / contract.tickSize).num /
        (slippedPrice price bps side / contract.tickSize).den) =
      tickCountOf contract.tickSize (slippedPrice price bps side) side := by
    cases side with
    | buy => rw [if_pos rfl, ← Rat.ceil_def']; rfl
    | sell => rw [if_neg nofun, ← Rat.floor_def']; rfl
  unfold slippedPrice at hslipped hticks ⊢
  unfold executionPrice
  rw [InstrumentContract.requiredPrice_of_pos hprice]
  simp only [ok_bind, raiseIf_of_not _ hvalid, discreteFraction_of_manageable h.price,
    discreteFraction_of_manageable h.bps, discreteFraction_of_manageable h.tickSize,
    raiseIf_of_not _ hslipped, contract.value_tickSize, hticks]

end Price

/-- **A price is aligned to the next tick on the adverse side**: less than a tick away from the price
that the trade slips to, and never better than it. It is refused if there is no positive tick, or if
the inputs or the price are too large to work with, and for no other reason. -/
theorem executionPrice_spec (side : Side) (hprice : 0 < price.value) (hbps : 0 ≤ bps.value)
    (hless : bps.value < 10000) :
    ∃ aligned, AdverseTick contract.tickSize (slippedPrice price bps side) side aligned ∧
      |aligned - slippedPrice price bps side| < contract.tickSize ∧
      (if side = .buy then price.value ≤ aligned else aligned ≤ price.value) ∧
      (aligned = 0 ↔ side = .sell ∧ slippedPrice price bps side < contract.tickSize) ∧
      (PriceManageable contract price bps ∧ ManageableValue aligned →
        (0 < aligned → ∃ result, contract.executionPrice price side bps = .ok result ∧
          result.value = aligned) ∧
        (aligned = 0 → contract.executionPrice price side bps =
          .error { text := "contract_arithmetic_invalid" })) ∧
      (¬ (PriceManageable contract price bps ∧ ManageableValue aligned) →
        contract.executionPrice price side bps = .error discreteArithmeticTooLarge) := by
  have htick := contract.toInstrumentContract.tickSize_pos
  have htarget := slippedPrice_pos hprice hbps hless side
  have hadverse := adverseTick_tickCountOf htick htarget.le side
  obtain ⟨hnear, hside⟩ := hadverse.within htick htarget.le
  have hcount : 0 ≤ tickCountOf contract.tickSize (slippedPrice price bps side) side := by
    cases side with
    | buy => exact Int.ceil_nonneg (div_nonneg htarget.le htick.le)
    | sell => exact Int.floor_nonneg.mpr (div_nonneg htarget.le htick.le)
  have hsteps := integerStepDecimal_spec contract.tickSize_pos hcount
  rw [contract.value_tickSize] at hsteps
  refine ⟨_, hadverse, hnear, ?_, ?_, ?_⟩
  · -- the slippage itself is adverse
    cases side with
    | buy =>
      rw [if_pos rfl] at hside ⊢
      refine le_trans ?_ hside
      unfold slippedPrice
      rw [if_pos rfl]
      exact le_mul_of_one_le_right hprice.le (by linarith)
    | sell =>
      rw [if_neg nofun] at hside ⊢
      refine hside.trans ?_
      unfold slippedPrice
      rw [if_neg nofun]
      exact mul_le_of_le_one_right hprice.le (by linarith)
  · cases side with
    | buy =>
      rw [if_pos rfl] at hside
      exact iff_of_false (htarget.trans_le hside).ne' fun h => absurd h.1 nofun
    | sell =>
      rw [mul_eq_zero_iff_right htick.ne', Int.cast_eq_zero, and_iff_right rfl]
      unfold tickCountOf
      rw [Int.floor_eq_zero_iff, Set.mem_Ico, and_iff_right (div_nonneg htarget.le htick.le),
        div_lt_one htick]
  · by_cases hmanageable : PriceManageable contract price bps
    swap
    · exact ⟨fun h => absurd h.1 hmanageable, fun _ =>
        executionPrice_of_not_manageable side hprice hbps hless hmanageable⟩
    rw [and_iff_right hmanageable, executionPrice_of_manageable side hprice hbps hless hmanageable]
    refine ⟨fun hsmall => ?_, fun hlarge => ?_⟩
    · obtain ⟨aligned, haligned, hvalue⟩ := hsteps.1 hsmall
      rw [haligned, ok_bind, hvalue]
      refine ⟨fun hpos => ⟨aligned, ?_, hvalue⟩, fun hzero => ?_⟩
      · rw [raiseIf_of_not _ (not_le.mpr hpos)]
        rfl
      · unfold raiseIf
        rw [if_pos hzero.le]
        rfl
    · rw [hsteps.2 hlarge, error_bind]

theorem executionPrice_spec_fiveBps :
    ∃ aligned, AdverseTick centLotSpot.tickSize
        (slippedPrice ⟨false, 10001, -2⟩ ⟨false, 5, 0⟩ .buy) .buy aligned ∧
      |aligned - slippedPrice ⟨false, 10001, -2⟩ ⟨false, 5, 0⟩ .buy| < centLotSpot.tickSize :=
  (executionPrice_spec .buy (by decide +kernel) (by decide +kernel) (by decide +kernel)).imp
    fun _ h => ⟨h.1, h.2.1⟩

/-- **A huge price is refused**, even if it lies on a tick. -/
theorem executionPrice_not_total :
    ¬ ∀ (contract : SpelledContract) (price bps : Dec) (side : Side),
      0 < price.value → 0 ≤ bps.value → bps.value < 10000 →
      (∃ n : ℕ, 0 < n ∧ n * contract.tickSize ≤ slippedPrice price bps side) →
      ∃ result, contract.executionPrice price side bps = .ok result ∧
        AdverseTick contract.tickSize (slippedPrice price bps side) side result.value := by
  intro h
  have hzero : 0 ≤ Dec.value ⟨false, 0, 0⟩ ∧ Dec.value ⟨false, 0, 0⟩ < 10000 := by decide +kernel
  have htick : ∃ n : ℕ, 0 < n ∧ n * centLotSpot.tickSize ≤
      slippedPrice ⟨false, 1, 10000⟩ ⟨false, 0, 0⟩ .sell := by
    refine ⟨1, one_pos, ?_⟩
    have hslipped : slippedPrice ⟨false, 1, 10000⟩ ⟨false, 0, 0⟩ .sell = (10 : ℚ) ^ (10000 : ℤ) := by
      simp [slippedPrice, Dec.value]
    rw [hslipped]
    calc ((1 : ℕ) : ℚ) * centLotSpot.tickSize ≤ (10 : ℚ) ^ (0 : ℤ) := by
          rw [zpow_zero]
          decide +kernel
      _ ≤ (10 : ℚ) ^ (10000 : ℤ) := zpow_le_zpow_right₀ (by norm_num) (by norm_num)
  obtain ⟨result, hresult, -⟩ := h centLotSpot ⟨false, 1, 10000⟩ ⟨false, 0, 0⟩ .sell
    (value_powerOfTen_pos _) hzero.1 hzero.2 htick
  rw [executionPrice_of_not_manageable .sell (value_powerOfTen_pos _) hzero.1 hzero.2
    fun hall => not_manageable_powerOfTen hall.price] at hresult
  cases hresult

end SpelledContract

end Aats.Domain
