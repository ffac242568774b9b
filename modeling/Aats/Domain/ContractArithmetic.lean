import Aats.Domain.DiscreteArithmetic
import Aats.Lib.DecimalContext

/-!
# Contract arithmetic with fifty digits

What a contract is worth is multiplied out, and a quantity is converted to contracts and back, in one
decimal context: each of these results is the exact one rounded half to even to fifty digits. The
comparison of a quantity with a lot is not made here, see `Aats.Domain.DiscreteArithmetic`.

## Main results
* `value_baseQuantity_linear`, `value_exchangeQuantity_linear` — **what a conversion returns is rounded
  once**, and the face value it uses too.
-/

namespace Aats.Domain

open DecimalText Fallible Rounding

def arithmeticContext : DecimalText.Context where
  precision := 50
  precision_pos := by decide
  eMin := -999999
  eMax := 999999

def arithmeticResult (operation : Except Signal Dec) (reason : String) (requirePositive : Bool) :
    Except ValueError Dec := do
  let resolved ← operation.mapError fun _ => { text := reason }
  raiseIf (requirePositive ∧ resolved.value ≤ 0) { text := reason }
  return resolved

theorem arithmeticResult_eq_ok {operation : Except Signal Dec} {reason : String}
    {requirePositive : Bool} {result : Dec} :
    arithmeticResult operation reason requirePositive = .ok result ↔
      operation = .ok result ∧ (requirePositive → 0 < result.value) := by
  simp only [arithmeticResult, bind_eq_ok, mapError_eq_ok, raiseIf_eq_ok, pure_eq_ok, not_and, not_le]
  constructor
  · rintro ⟨resolved, hoperation, _, hpositive, rfl⟩
    exact ⟨hoperation, hpositive⟩
  · rintro ⟨hoperation, hpositive⟩
    exact ⟨result, hoperation, (), hpositive, rfl⟩

/-- `_required_price`. -/
def requiredDecimalPrice (referencePrice : Option Dec) : Except ValueError Dec :=
  match referencePrice with
  | none => .error { text := "inverse_quantity_requires_reference_price" }
  | some price => do
    let _ ← InstrumentContract.requiredPrice price.value
    return price

namespace SpelledContract

variable (contract : SpelledContract)

def faceValue : Except ValueError Dec :=
  arithmeticResult
    (arithmeticContext.mul contract.contractValueDecimal contract.contractMultiplierDecimal)
    "contract_face_value_invalid" true

def baseQuantity (exchangeQuantity : Dec) (referencePrice : Option Dec) : Except ValueError Dec :=
  match contract.contractType with
  | .spot => .ok exchangeQuantity
  | .linear => do
    let faceValue ← contract.faceValue
    arithmeticResult (arithmeticContext.mul exchangeQuantity faceValue)
      "contract_arithmetic_invalid" false
  | .inverse => do
    let price ← requiredDecimalPrice referencePrice
    let faceValue ← contract.faceValue
    arithmeticResult
      (do arithmeticContext.div (← arithmeticContext.mul exchangeQuantity faceValue) price)
      "contract_arithmetic_invalid" false

def exchangeQuantity (baseQuantity : Dec) (referencePrice : Option Dec) : Except ValueError Dec :=
  match contract.contractType with
  | .spot => .ok baseQuantity
  | .linear => do
    let faceValue ← contract.faceValue
    arithmeticResult (arithmeticContext.div baseQuantity faceValue)
      "contract_arithmetic_invalid" false
  | .inverse => do
    let price ← requiredDecimalPrice referencePrice
    let faceValue ← contract.faceValue
    arithmeticResult
      (do arithmeticContext.div (← arithmeticContext.mul baseQuantity price) faceValue)
      "contract_arithmetic_invalid" false

/-- What one contract is worth, with fifty digits. -/
def roundedFace : ℚ := toDigits 50 (contract.contractValue * contract.contractMultiplier)

variable {contract} {x y face : Dec} {referencePrice : Option Dec}

theorem faceValue_eq_ok (h : contract.faceValue = .ok face) :
    face.value = contract.roundedFace ∧ 0 < face.value := by
  obtain ⟨hproduct, hpositive⟩ := arithmeticResult_eq_ok.mp h
  refine ⟨?_, hpositive rfl⟩
  rw [Context.value_mul hproduct, contract.value_contractValue, contract.value_contractMultiplier]
  rfl

theorem roundedFace_of_spot (h : contract.contractType = .spot) : contract.roundedFace = 1 := by
  obtain ⟨hvalue, hmultiplier⟩ := contract.toInstrumentContract.face_of_spot h
  unfold roundedFace
  rw [hvalue, hmultiplier, one_mul]
  exact toDigits_of_hasDigits (by norm_num) ⟨1, 0, by norm_num, by norm_num⟩

theorem value_baseQuantity_linear (hlinear : contract.contractType = .linear)
    (h : contract.baseQuantity x referencePrice = .ok y) :
    y.value = toDigits 50 (x.value * contract.roundedFace) ∧ 0 < contract.roundedFace := by
  unfold baseQuantity at h
  rw [hlinear] at h
  obtain ⟨face, hface, hresult⟩ := bind_eq_ok.mp h
  obtain ⟨hvalue, hpositive⟩ := faceValue_eq_ok hface
  rw [Context.value_mul (arithmeticResult_eq_ok.mp hresult).1, ← hvalue]
  exact ⟨rfl, hpositive⟩

theorem value_exchangeQuantity_linear (hlinear : contract.contractType = .linear)
    (h : contract.exchangeQuantity x referencePrice = .ok y) :
    y.value = toDigits 50 (x.value / contract.roundedFace) ∧ 0 < contract.roundedFace := by
  unfold exchangeQuantity at h
  rw [hlinear] at h
  obtain ⟨face, hface, hresult⟩ := bind_eq_ok.mp h
  obtain ⟨hvalue, hpositive⟩ := faceValue_eq_ok hface
  rw [Context.value_div (arithmeticResult_eq_ok.mp hresult).1, ← hvalue]
  exact ⟨rfl, hpositive⟩

end SpelledContract

end Aats.Domain
