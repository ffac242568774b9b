import Aats.Lib.Rounding
import Mathlib.Algebra.Field.Rat
import Mathlib.Algebra.Order.Ring.Rat
import Mathlib.Data.Rat.Floor

/-!
# Rounding to significant bits

A number as a binary floating-point format of unbounded exponent holds it: rounded half to even to a
number of significant bits. What matters here is the whole part: it is kept, except just below an
integer that the number is rounded up to.

## Main definitions
* `truncate x` — the whole part of `x`, as a conversion to an integer takes it.

## Main results
* `floor_toBits` — **the whole part of what is rounded**.
-/

namespace Rounding

section Bits

variable {K : Type*} [Field K] [LinearOrder K] [IsStrictOrderedRing K] [FloorRing K]
variable {bits : ℕ} {x : K}

/-- The whole part of a number, towards zero. -/
def truncate (x : K) : ℤ := if 0 ≤ x then ⌊x⌋ else ⌈x⌉

@[simp] theorem truncate_intCast (n : ℤ) : truncate (n : K) = n := by
  unfold truncate
  rw [Int.floor_intCast, Int.ceil_intCast, ite_self]

omit [IsStrictOrderedRing K] in
theorem truncate_of_nonneg (h : 0 ≤ x) : truncate x = ⌊x⌋ := if_pos h

theorem two_zpow_pos (e : ℤ) : (0 : K) < (2 : K) ^ e := zpow_pos (by norm_num) e

theorem log_lt_of_abs_lt {e : ℤ} (hx : x ≠ 0) (h : |x| < (2 : K) ^ e) : Int.log 2 |x| < e := by
  have hlow := Int.zpow_log_le_self (R := K) (b := 2) (by norm_num) (abs_pos.mpr hx)
  have hlow : (2 : K) ^ Int.log 2 |x| ≤ |x| := by exact_mod_cast hlow
  exact (zpow_lt_zpow_iff_right₀ (by norm_num : (1 : K) < 2)).mp (hlow.trans_lt h)

theorem toBits_intCast {n : ℤ} (h : |n| < 2 ^ bits) : toBits bits (n : K) = n := by
  by_cases hzero : n = 0
  · rw [hzero, Int.cast_zero]
    exact toStep_zero
  have hsize : |(n : K)| < (2 : K) ^ (bits : ℤ) := by
    rw [zpow_natCast]
    exact_mod_cast h
  have hlog := log_lt_of_abs_lt (by exact_mod_cast hzero) hsize
  obtain ⟨k, hk⟩ : ∃ k : ℕ, lastBit bits (n : K) = -k := by
    refine ⟨(-lastBit bits (n : K)).toNat, ?_⟩
    unfold lastBit
    omega
  have hmultiple : (n : K) = ((n * 2 ^ k : ℤ) : K) * (2 : K) ^ lastBit bits (n : K) := by
    rw [hk, zpow_neg, zpow_natCast]
    push_cast
    field_simp
  have hkept := toStep_of_multiple (two_zpow_pos (K := K) (lastBit bits (n : K))) (n * 2 ^ k)
  rwa [← hmultiple] at hkept

/-- **The whole part of what is rounded**: the next integer, if it is not further than half of the
last bit, and otherwise the whole part of the number. -/
theorem floor_toBits (hx : 0 < x) (hsize : x < (2 : K) ^ ((bits : ℤ) - 1)) :
    ⌊toBits bits x⌋ =
      if (⌊x⌋ : K) + 1 - x ≤ (2 : K) ^ (Int.log 2 x - bits) then ⌊x⌋ + 1 else ⌊x⌋ := by
  have habs : |x| = x := abs_of_pos hx
  have hlog := log_lt_of_abs_lt hx.ne' (habs.symm ▸ hsize)
  rw [habs] at hlog
  -- the bit is a half or smaller, so that the next integer is an even multiple of it
  obtain ⟨k, hk⟩ : ∃ k : ℕ, lastBit bits x = -((k : ℤ) + 1) := by
    refine ⟨(-lastBit bits x - 1).toNat, ?_⟩
    unfold lastBit
    rw [habs]
    omega
  have hhalf : (2 : K) ^ (Int.log 2 x - bits) = (2 : K) ^ lastBit bits x / 2 := by
    unfold lastBit
    rw [habs, zpow_add_one₀ (by norm_num)]
    ring
  have hbit := two_zpow_pos (K := K) (lastBit bits x)
  have hpow : (2 : K) ^ lastBit bits x * 2 ^ (k + 1) = 1 := by
    rw [hk, zpow_neg, ← Nat.cast_succ, zpow_natCast]
    exact inv_mul_cancel₀ (by positivity)
  rw [hhalf]
  unfold toBits toStep
  set bit := (2 : K) ^ lastBit bits x
  have hscale : ∀ n : ℤ, ((n * 2 ^ (k + 1) : ℤ) : K) * bit = n := fun n => by
    push_cast
    calc (n : K) * 2 ^ (k + 1) * bit = n * (bit * 2 ^ (k + 1)) := by ring
      _ = n := by rw [hpow, mul_one]
  have hmono : ∀ n : ℤ, (n : K) ≤ x → n * 2 ^ (k + 1) ≤ halfEven (x / bit) := fun n hn => by
    rw [← halfEven_intCast (K := K) (n * 2 ^ (k + 1))]
    exact halfEven_mono ((le_div_iff₀ hbit).mpr ((hscale n).trans_le hn))
  have hlow : (⌊x⌋ : K) ≤ halfEven (x / bit) * bit := by
    rw [← hscale ⌊x⌋]
    refine mul_le_mul_of_nonneg_right ?_ hbit.le
    exact_mod_cast hmono ⌊x⌋ (Int.floor_le x)
  have hnext : x / bit ≤ (((⌊x⌋ + 1) * 2 ^ (k + 1) : ℤ) : K) := by
    rw [div_le_iff₀ hbit, hscale]
    push_cast
    exact (Int.lt_floor_add_one x).le
  have hdist : (((⌊x⌋ + 1) * 2 ^ (k + 1) : ℤ) : K) - x / bit = (⌊x⌋ + 1 - x) / bit := by
    have hmul := hscale (⌊x⌋ + 1)
    rw [← mul_right_cancel_iff_of_pos hbit, sub_mul, hmul, div_mul_cancel₀ _ hbit.ne',
      div_mul_cancel₀ _ hbit.ne']
    push_cast
    ring
  split
  · next hnear =>
    have hnear' : |(((⌊x⌋ + 1) * 2 ^ (k + 1) : ℤ) : K) - x / bit| ≤ 1 / 2 := by
      rw [abs_of_nonneg (sub_nonneg.mpr hnext), hdist, div_le_iff₀ hbit]
      linarith
    have heq : halfEven (x / bit) = (⌊x⌋ + 1) * 2 ^ (k + 1) := by
      rcases hnear'.lt_or_eq with hlt | htie
      · exact eq_halfEven hlt
      · refine eq_halfEven_of_tie htie ?_
        rw [pow_succ, ← mul_assoc]
        exact Int.mul_emod_left _ 2
    rw [heq, hscale, Int.floor_intCast]
  · next hfar =>
    have hless : halfEven (x / bit) < (⌊x⌋ + 1) * 2 ^ (k + 1) := by
      by_contra hge
      have hround := abs_le.mp (abs_halfEven_sub (x / bit))
      have hge' : (((⌊x⌋ + 1) * 2 ^ (k + 1) : ℤ) : K) ≤ halfEven (x / bit) := by
        exact_mod_cast not_lt.mp hge
      apply hfar
      have hle : (⌊x⌋ + 1 - x) / bit ≤ 1 / 2 := by linarith
      rw [div_le_iff₀ hbit] at hle
      linarith
    rw [Int.floor_eq_iff]
    refine ⟨hlow, ?_⟩
    calc (halfEven (x / bit) : K) * bit
        < (((⌊x⌋ + 1) * 2 ^ (k + 1) : ℤ) : K) * bit := by
          refine mul_lt_mul_of_pos_right ?_ hbit
          exact_mod_cast hless
      _ = ⌊x⌋ + 1 := by
          rw [hscale]
          push_cast
          rfl

theorem toBits_nonneg (h : 0 ≤ x) : 0 ≤ toBits bits x := by
  have hmono := toStep_mono (two_zpow_pos (K := K) (lastBit bits x)) h
  rwa [toStep_zero] at hmono

end Bits

/-! ### Quotients of natural numbers -/

theorem floor_toBits_div {bits n d : ℕ} (hd : 0 < d) (hle : d ≤ n)
    (hsize : n / d < 2 ^ (bits - 1)) (hbits : 1 ≤ bits) :
    ⌊toBits bits ((n : ℚ) / d)⌋ =
      ((if ((n / d + 1) * d - n) * 2 ^ bits ≤ d * 2 ^ Nat.log 2 (n / d) then n / d + 1
        else n / d : ℕ) : ℤ) := by
  have hd' : (0 : ℚ) < d := by exact_mod_cast hd
  have hone : (1 : ℚ) ≤ (n : ℚ) / d := (one_le_div hd').mpr (by exact_mod_cast hle)
  have hfloor : ⌊(n : ℚ) / d⌋ = (n / d : ℕ) :=
    (Rat.floor_natCast_div_natCast n d).trans (Int.natCast_ediv n d).symm
  have hnat : ⌊(n : ℚ) / d⌋₊ = n / d := by
    rw [← Int.floor_toNat, hfloor, Int.toNat_natCast]
  have hlog : Int.log 2 ((n : ℚ) / d) = Nat.log 2 (n / d) := by
    rw [Int.log_of_one_le_right 2 hone, hnat]
  have hover : n ≤ (n / d + 1) * d := by
    have hdiv := Nat.div_add_mod n d
    have hmod := Nat.mod_lt n hd
    nlinarith
  have hpow : (n : ℚ) / d < (2 : ℚ) ^ ((bits : ℤ) - 1) := by
    have hcast : ((bits : ℤ) - 1) = ((bits - 1 : ℕ) : ℤ) := by omega
    have hlt := Nat.lt_floor_add_one ((n : ℚ) / d)
    rw [hnat] at hlt
    rw [hcast, zpow_natCast]
    refine hlt.trans_le ?_
    exact_mod_cast hsize
  rw [floor_toBits (by linarith) hpow, hfloor, hlog]
  generalize n / d = quotient at *
  have hscale : (d : ℚ) * ((quotient : ℚ) + 1 - (n : ℚ) / d) = (quotient + 1) * d - n := by
    field_simp
  have hiff : ((quotient : ℤ) : ℚ) + 1 - (n : ℚ) / d ≤ (2 : ℚ) ^ ((Nat.log 2 quotient : ℤ) - bits) ↔
      ((quotient + 1) * d - n) * 2 ^ bits ≤ d * 2 ^ Nat.log 2 quotient := by
    rw [zpow_sub₀ (by norm_num), zpow_natCast, zpow_natCast, le_div_iff₀ (by positivity),
      ← mul_le_mul_iff_of_pos_left hd', ← mul_assoc, Int.cast_natCast, hscale,
      ← Nat.cast_le (α := ℚ)]
    push_cast [Nat.cast_sub hover]
    rfl
  by_cases hcond : ((quotient + 1) * d - n) * 2 ^ bits ≤ d * 2 ^ Nat.log 2 quotient
  · rw [if_pos hcond, if_pos (hiff.mpr hcond), Nat.cast_succ]
  · rw [if_neg hcond, if_neg (fun h => hcond (hiff.mp h))]

end Rounding
