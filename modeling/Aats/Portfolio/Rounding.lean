import Aats.Lib.Rounding
import Aats.Portfolio.Snapshots

/-!
# Rounding to twelve decimals

`quantize_decimal` sets what counts as zero to zero and rounds everything else to a multiple of the
tolerance, half to even.

## Main results
* `abs_quantizeDecimal_sub` — **rounding moves a figure by at most the tolerance**.
-/

namespace Aats.Portfolio

open Holdings (OnGrid)

theorem quantizeDecimal_eq (x : ℚ) :
    quantizeDecimal x = if |x| ≤ epsilon12 then 0 else Rounding.toStep epsilon12 x := by
  have hround : roundHalfEven (x * 10 ^ 12) = Rounding.halfEven (x / epsilon12) := by
    unfold epsilon12
    rw [div_div_eq_mul_div, div_one]
    rfl
  unfold quantizeDecimal Rounding.toStep isEffectivelyZero
  rw [hround]
  simp only [decide_eq_true_eq]
  split
  · rfl
  · unfold epsilon12
    ring

theorem quantizeDecimal_of_abs_le {x : ℚ} (h : |x| ≤ epsilon12) : quantizeDecimal x = 0 := by
  rw [quantizeDecimal_eq, if_pos h]

theorem quantizeDecimal_of_lt_abs {x : ℚ} (h : epsilon12 < |x|) :
    quantizeDecimal x = Rounding.toStep epsilon12 x := by
  rw [quantizeDecimal_eq, if_neg (not_le.mpr h)]

theorem abs_quantizeDecimal_sub (x : ℚ) : |quantizeDecimal x - x| ≤ epsilon12 := by
  rcases le_or_gt |x| epsilon12 with h | h
  · rwa [quantizeDecimal_of_abs_le h, zero_sub, abs_neg]
  · rw [quantizeDecimal_of_lt_abs h]
    have hround := Rounding.abs_toStep_sub epsilon12_pos x
    linarith [epsilon12_pos]

theorem abs_quantizeDecimal_sub_of_lt {x : ℚ} (h : epsilon12 < |x|) :
    |quantizeDecimal x - x| ≤ epsilon12 / 2 := by
  rw [quantizeDecimal_of_lt_abs h]
  exact Rounding.abs_toStep_sub epsilon12_pos x

theorem quantizeDecimal_neg (x : ℚ) : quantizeDecimal (-x) = -quantizeDecimal x := by
  rw [quantizeDecimal_eq, quantizeDecimal_eq, abs_neg, Rounding.toStep_neg]
  split
  · rw [neg_zero]
  · rfl

theorem onGrid_quantizeDecimal (x : ℚ) : OnGrid epsilon12 (quantizeDecimal x) := by
  rw [quantizeDecimal_eq]
  split
  · exact ⟨0, by simp⟩
  · exact ⟨Rounding.halfEven (x / epsilon12), rfl⟩

theorem quantizeDecimal_nonneg {x : ℚ} (h : 0 ≤ x) : 0 ≤ quantizeDecimal x := by
  rw [quantizeDecimal_eq]
  split
  · exact le_refl 0
  · have hround : (0 : ℚ) ≤ Rounding.halfEven (x / epsilon12) := by
      exact_mod_cast Rounding.halfEven_nonneg (div_nonneg h epsilon12_pos.le)
    exact mul_nonneg hround epsilon12_pos.le

theorem quantizeDecimal_nonpos {x : ℚ} (h : x ≤ 0) : quantizeDecimal x ≤ 0 := by
  have hneg := quantizeDecimal_nonneg (neg_nonneg.mpr h)
  rw [quantizeDecimal_neg] at hneg
  linarith

theorem abs_quantizeDecimal_le {x bound : ℚ} (hbound : OnGrid epsilon12 bound) (h : |x| ≤ bound) :
    |quantizeDecimal x| ≤ bound := by
  obtain ⟨n, rfl⟩ := hbound
  rw [quantizeDecimal_eq]
  split
  · rw [abs_zero]
    exact (abs_nonneg x).trans h
  · exact Rounding.abs_toStep_le epsilon12_pos h

theorem quantizeDecimal_of_onGrid {x : ℚ} (hgrid : OnGrid epsilon12 x) (h : epsilon12 < |x|) :
    quantizeDecimal x = x := by
  obtain ⟨n, rfl⟩ := hgrid
  rw [quantizeDecimal_of_lt_abs h, Rounding.toStep_of_multiple epsilon12_pos]

end Aats.Portfolio
