import Aats.Domain.DiscreteArithmetic
import Mathlib.Data.Nat.Prime.Basic

/-!
# Exact sums

`_exact_decimal_sum` of `domain/instrument_contract.py`: decimals are added as fractions, and the sum is
spelled as a decimal again. Its denominator divides a power of ten, so taking out the twos and the
fives leaves one.

## Main results
* `divideOut_spec` — a loop ends when the factor is gone, with its power counted.
* `exactDecimalSum_spec` — **the sum is exact, in any order, and the consistency error is unreachable**.
-/

namespace Aats.Domain

open DecimalText Fallible

/-- `while n % p == 0`: `n //= p` and `count += 1`, in a number of steps. -/
def divideOut (p : ℕ) : ℕ → ℕ → ℕ → ℕ × ℕ
  | 0, n, count => (n, count)
  | steps + 1, n, count => if n % p = 0 then divideOut p steps (n / p) (count + 1) else (n, count)

def contractArithmeticInvalid : ValueError := { text := "contract_arithmetic_invalid" }

def exactDecimalSum (values : List Dec) : Except ValueError Dec := do
  let fractions ← values.mapM discreteFraction
  let total := fractions.sum
  if total = 0 then return Dec.zero
  -- a denominator has fewer factors than it counts
  let twos := divideOut 2 total.den total.den 0
  let fives := divideOut 5 twos.1 twos.1 0
  raiseIf (fives.1 ≠ 1) contractArithmeticInvalid
  let scale := max twos.2 fives.2
  let coefficient := total.num * 2 ^ (scale - twos.2) * 5 ^ (scale - fives.2)
  let canonical := Dec.trimmed
    { negative := coefficient < 0, coefficient := coefficient.natAbs, exponent := -scale }
  raiseIf (discreteDecimalComplexityLimit < complexity canonical) discreteArithmeticTooLarge
  return canonical

/-! ### Factors of the denominator -/

theorem divideOut_spec {p : ℕ} (hp : 2 ≤ p) {steps n : ℕ} (count : ℕ) (hn : 0 < n)
    (hsteps : n ≤ steps) :
    ∃ rest k, divideOut p steps n count = (rest, count + k) ∧ n = rest * p ^ k ∧ ¬p ∣ rest := by
  induction steps generalizing n count with
  | zero => omega
  | succ steps ih =>
    unfold divideOut
    split
    · next hmod =>
      have hdvd : p ∣ n := Nat.dvd_of_mod_eq_zero hmod
      have hless : n / p < n := Nat.div_lt_self hn (by omega)
      obtain ⟨rest, k, heq, hpower, hgone⟩ :=
        ih (count + 1) (Nat.div_pos (Nat.le_of_dvd hn hdvd) (by omega)) (by omega)
      refine ⟨rest, k + 1, by rw [heq, add_assoc, add_comm 1], ?_, hgone⟩
      rw [pow_succ, ← mul_assoc, ← hpower, Nat.div_mul_cancel hdvd]
    · next hmod =>
      exact ⟨n, 0, rfl, by rw [pow_zero, mul_one], mt Nat.mod_eq_zero_of_dvd hmod⟩

theorem den_value_dvd (number : Dec) : number.value.den ∣ 10 ^ number.exponent.natAbs := by
  have hsigned : ∃ n : ℤ, number.value = n * (10 : ℚ) ^ number.exponent := by
    refine ⟨if number.negative then -(number.coefficient : ℤ) else number.coefficient, ?_⟩
    unfold Dec.value
    split <;> push_cast <;> rfl
  obtain ⟨n, hvalue⟩ := hsigned
  rcases le_total 0 number.exponent with hexp | hexp
  · have hint : number.value = ((n * 10 ^ number.exponent.toNat : ℤ) : ℚ) := by
      rw [hvalue]
      push_cast
      rw [← zpow_natCast, Int.toNat_of_nonneg hexp]
    rw [hint, Rat.den_intCast]
    exact one_dvd _
  · have hdiv : number.value = Rat.divInt n ((10 ^ number.exponent.natAbs : ℕ) : ℤ) := by
      rw [hvalue, Rat.divInt_eq_div]
      push_cast
      rw [← zpow_natCast, Int.ofNat_natAbs_of_nonpos hexp, zpow_neg, div_inv_eq_mul]
    rw [hdiv]
    exact Int.natCast_dvd_natCast.mp (Rat.den_dvd n _)

theorem den_sum_dvd (values : List Dec) : ∃ places, (values.map Dec.value).sum.den ∣ 10 ^ places := by
  induction values with
  | nil => exact ⟨0, by simp⟩
  | cons number rest ih =>
    obtain ⟨places, hrest⟩ := ih
    refine ⟨number.exponent.natAbs + places, ?_⟩
    rw [List.map_cons, List.sum_cons, pow_add]
    exact (Rat.add_den_dvd _ _).trans (mul_dvd_mul (den_value_dvd number) hrest)

/-- **Nothing but twos and fives is in a divisor of a power of ten.** -/
theorem divideOut_of_dvd_pow {n places : ℕ} (h : n ∣ 10 ^ places) :
    ∃ a b, divideOut 2 n n 0 = (5 ^ b, a) ∧ divideOut 5 (5 ^ b) (5 ^ b) 0 = (1, b) ∧
      n = 2 ^ a * 5 ^ b := by
  have hn : 0 < n := Nat.pos_of_dvd_of_pos h (by positivity)
  obtain ⟨odd, a, htwos, hodd, hnotwo⟩ := divideOut_spec (p := 2) le_rfl 0 hn le_rfl
  have hoddpos : 0 < odd := Nat.pos_of_ne_zero fun hzero => hnotwo (hzero ▸ dvd_zero 2)
  obtain ⟨rest, b, hfives, hpower, hnofive⟩ :=
    divideOut_spec (p := 5) (by decide) 0 hoddpos le_rfl
  -- what is left divides a power of ten and has no factor in common with ten
  have hrest : rest = 1 := by
    have hdvd : rest ∣ 10 ^ places :=
      (Dvd.intro _ hpower.symm).trans ((Dvd.intro _ hodd.symm).trans h)
    have htwo : Nat.Coprime rest 2 :=
      ((Nat.Prime.coprime_iff_not_dvd Nat.prime_two).mpr
        fun hdvd => hnotwo (hdvd.trans (Dvd.intro _ hpower.symm))).symm
    have hfive : Nat.Coprime rest 5 :=
      ((Nat.Prime.coprime_iff_not_dvd Nat.prime_five).mpr hnofive).symm
    exact ((htwo.mul_right hfive).pow_right places).eq_one_of_dvd hdvd
  rw [hrest, one_mul] at hpower
  rw [hrest, zero_add, hpower] at hfives
  rw [zero_add, hpower] at htwos
  exact ⟨a, b, htwos, hfives, by rw [hodd, hpower, mul_comm]⟩

/-! ### The sum -/

theorem value_scaled {total : ℚ} {a b : ℕ} (hden : total.den = 2 ^ a * 5 ^ b) :
    Dec.value
      { negative := total.num * 2 ^ (max a b - a) * 5 ^ (max a b - b) < 0
        coefficient := (total.num * 2 ^ (max a b - a) * 5 ^ (max a b - b)).natAbs
        exponent := -(max a b : ℕ) } = total := by
  have hsigned : ∀ n : ℤ, (if n < 0 then -((n.natAbs : ℕ) : ℚ) else (n.natAbs : ℕ)) = n := by
    intro n
    rw [Nat.cast_natAbs]
    split
    · next hneg => rw [abs_of_neg hneg, Int.cast_neg, neg_neg]
    · next hpos => rw [abs_of_nonneg (not_lt.mp hpos)]
  have hten : (10 : ℚ) ^ (max a b) =
      2 ^ (max a b - a) * 2 ^ a * (5 ^ (max a b - b) * 5 ^ b) := by
    rw [← pow_add, ← pow_add, Nat.sub_add_cancel (le_max_left a b),
      Nat.sub_add_cancel (le_max_right a b), ← mul_pow]
    norm_num
  unfold Dec.value
  simp only [decide_eq_true_eq]
  rw [hsigned, zpow_neg, zpow_natCast, ← div_eq_mul_inv, hten]
  conv_rhs => rw [← Rat.num_div_den total, hden]
  push_cast
  field_simp

theorem mapM_discreteFraction {values : List Dec} (h : ∀ number ∈ values, Manageable number) :
    values.mapM discreteFraction = .ok (values.map Dec.value) := by
  induction values with
  | nil => rfl
  | cons number rest ih =>
    obtain ⟨hnumber, hrest⟩ := List.forall_mem_cons.mp h
    rw [List.mapM_cons, discreteFraction_of_manageable hnumber, ok_bind, ih hrest]
    rfl

theorem mapM_discreteFraction_error {values : List Dec}
    (h : ¬∀ number ∈ values, Manageable number) :
    values.mapM discreteFraction = .error discreteArithmeticTooLarge := by
  induction values with
  | nil => exact absurd (fun _ hmem => absurd hmem List.not_mem_nil) h
  | cons number rest ih =>
    rw [List.mapM_cons]
    by_cases hnumber : Manageable number
    · have hrest := mt (fun hall => List.forall_mem_cons.mpr ⟨hnumber, hall⟩) h
      rw [discreteFraction_of_manageable hnumber, ok_bind, ih hrest]
      rfl
    · rw [discreteFraction_of_not_manageable hnumber]
      rfl

theorem exactDecimalSum_of_manageable {values : List Dec}
    (h : ∀ number ∈ values, Manageable number) :
    (ManageableValue (values.map Dec.value).sum →
      ∃ total, exactDecimalSum values = .ok total ∧ total.value = (values.map Dec.value).sum) ∧
    (¬ManageableValue (values.map Dec.value).sum →
      exactDecimalSum values = .error discreteArithmeticTooLarge) := by
  obtain ⟨places, hdvd⟩ := den_sum_dvd values
  unfold exactDecimalSum
  rw [mapM_discreteFraction h, ok_bind]
  generalize (values.map Dec.value).sum = total at hdvd ⊢
  dsimp only
  by_cases hzero : total = 0
  · rw [if_pos hzero, hzero]
    exact ⟨fun _ => ⟨Dec.zero, rfl, Dec.value_zero⟩, fun hlarge => absurd manageableValue_zero hlarge⟩
  · obtain ⟨a, b, htwos, hfives, hden⟩ := divideOut_of_dvd_pow hdvd
    rw [if_neg hzero, htwos]
    dsimp only
    rw [hfives, raiseIf_of_not _ (not_not.mpr rfl), ok_bind]
    exact returned_if_manageable (value_scaled hden)

/-- **A sum of decimals is exact.**  It depends on the decimals only, not on their order, and its
consistency error is unreachable. -/
theorem exactDecimalSum_spec (values : List Dec) :
    ((∀ number ∈ values, Manageable number) → ManageableValue (values.map Dec.value).sum →
      ∃ total, exactDecimalSum values = .ok total ∧ total.value = (values.map Dec.value).sum) ∧
    (¬((∀ number ∈ values, Manageable number) ∧ ManageableValue (values.map Dec.value).sum) →
      exactDecimalSum values = .error discreteArithmeticTooLarge) ∧
    (∀ others : List Dec, others.Perm values → exactDecimalSum others = exactDecimalSum values) ∧
    exactDecimalSum values ≠ .error contractArithmeticInvalid := by
  by_cases hall : ∀ number ∈ values, Manageable number
  · obtain ⟨hfits, hlarge⟩ := exactDecimalSum_of_manageable hall
    refine ⟨fun _ => hfits, fun hnot => hlarge fun hsum => hnot ⟨hall, hsum⟩, fun others hperm => ?_, ?_⟩
    · have hothers : ∀ number ∈ others, Manageable number :=
        fun number hmem => hall number (hperm.mem_iff.mp hmem)
      unfold exactDecimalSum
      rw [mapM_discreteFraction hall, mapM_discreteFraction hothers, ok_bind, ok_bind,
        (hperm.map Dec.value).sum_eq]
    · intro herror
      by_cases hsum : ManageableValue (values.map Dec.value).sum
      · obtain ⟨total, htotal, -⟩ := hfits hsum
        rw [htotal] at herror
        cases herror
      · rw [hlarge hsum] at herror
        exact absurd herror (by decide)
  · have hrefused : exactDecimalSum values = .error discreteArithmeticTooLarge := by
      unfold exactDecimalSum
      rw [mapM_discreteFraction_error hall]
      rfl
    refine ⟨fun h => absurd h hall, fun _ => hrefused, fun others hperm => ?_, ?_⟩
    · have hothers : ¬∀ number ∈ others, Manageable number :=
        fun h => hall fun number hmem => h number (hperm.mem_iff.mpr hmem)
      rw [hrefused]
      unfold exactDecimalSum
      rw [mapM_discreteFraction_error hothers]
      rfl
    · rw [hrefused]
      exact fun herror => absurd herror (by decide)

end Aats.Domain
