import Mathlib.Algebra.Order.Floor.Ring
import Mathlib.Algebra.Order.Round
import Mathlib.Data.Int.Log
import Mathlib.Tactic.FieldSimp
import Mathlib.Tactic.Linarith
import Mathlib.Tactic.Ring

/-!
# Rounding half to even

The nearest integer, with a tie going to the even one, and the same on a grid of steps and to a number
of significant digits.

## Main definitions
* `halfEven x` — `x` rounded to an integer.
* `toStep step x` — `x` rounded to a multiple of `step`.
* `floorTo step x`, `truncateTo step x` — the multiple of `step` that `x` is floored or cut to.
* `toDigits digits x`, `toBits bits x` — `x` rounded to significant digits or bits.
* `HasDigits digits x` — `x` can be written with so many digits.

## Main results
* `halfEven_neg`, `halfEven_mono` — **rounding is odd and monotone**.
* `abs_toStep_le` — a number that is not beyond a multiple is not rounded beyond it.
* `isTruncation_truncateTo`, `truncateTo_mono` — **the largest multiple within a number**.
* `toDigits_mono`, `toDigits_of_hasDigits` — **rounding to digits is monotone, and keeps what has the
  digits**.
-/

namespace Rounding

variable {K : Type*} [Field K] [LinearOrder K] [IsStrictOrderedRing K] [FloorRing K]

def halfEven (x : K) : ℤ :=
  let low := ⌊x⌋
  let rest := x - low
  if rest < 1 / 2 then low
  else if 1 / 2 < rest then low + 1
  else if low % 2 = 0 then low
  else low + 1

variable {x y : K} {n : ℤ}

theorem abs_halfEven_sub (x : K) : |(halfEven x : K) - x| ≤ 1 / 2 := by
  have hlow := Int.floor_le x
  have hhigh := Int.lt_floor_add_one x
  unfold halfEven
  simp only []
  rw [abs_le]
  split
  · constructor <;> linarith
  · split
    · push_cast
      constructor <;> linarith
    · split
      · constructor <;> linarith
      · push_cast
        constructor <;> linarith

theorem even_halfEven (h : |(halfEven x : K) - x| = 1 / 2) : halfEven x % 2 = 0 := by
  have hlow := Int.floor_le x
  have hhigh := Int.lt_floor_add_one x
  unfold halfEven at h ⊢
  simp only [] at h ⊢
  split at h
  · next hrest =>
    rw [abs_of_nonpos (by linarith)] at h
    linarith
  · next hrest =>
    split at h
    · next hmore =>
      push_cast at h
      rw [abs_of_nonneg (by linarith)] at h
      linarith
    · next hmore =>
      rw [if_neg hrest, if_neg hmore]
      split
      · next heven => exact heven
      · omega

theorem eq_halfEven (h : |(n : K) - x| < 1 / 2) : halfEven x = n := by
  have hround := abs_le.mp (abs_halfEven_sub x)
  have hnear := abs_lt.mp h
  have hless : (halfEven x : K) < (n + 1 : ℤ) := by
    push_cast
    linarith
  have hmore : ((n - 1 : ℤ) : K) < halfEven x := by
    push_cast
    linarith
  have hless' := Int.cast_lt.mp hless
  have hmore' := Int.cast_lt.mp hmore
  omega

theorem eq_halfEven_of_tie (h : |(n : K) - x| = 1 / 2) (heven : n % 2 = 0) : halfEven x = n := by
  by_contra hne
  have hround := abs_le.mp (abs_halfEven_sub x)
  have htie : |(halfEven x : K) - x| = 1 / 2 ∧ (halfEven x = n + 1 ∨ halfEven x = n - 1) := by
    rcases abs_cases ((n : K) - x) with ⟨habs, -⟩ | ⟨habs, -⟩
    · have hlow : ((n - 2 : ℤ) : K) < halfEven x := by
        push_cast
        linarith
      have hhigh : (halfEven x : K) ≤ n := by linarith
      have hlow' := Int.cast_lt.mp hlow
      have hhigh' := Int.cast_le.mp hhigh
      have heq : halfEven x = n - 1 := by omega
      refine ⟨?_, Or.inr heq⟩
      rw [heq]
      push_cast
      rw [abs_of_nonpos (by linarith)]
      linarith
    · have hlow : (n : K) ≤ halfEven x := by linarith
      have hhigh : (halfEven x : K) < (n + 2 : ℤ) := by
        push_cast
        linarith
      have hlow' := Int.cast_le.mp hlow
      have hhigh' := Int.cast_lt.mp hhigh
      have heq : halfEven x = n + 1 := by omega
      refine ⟨?_, Or.inl heq⟩
      rw [heq]
      push_cast
      rw [abs_of_nonneg (by linarith)]
      linarith
  have hparity := even_halfEven htie.1
  rcases htie.2 with h | h
  · omega
  · omega

@[simp] theorem halfEven_intCast (n : ℤ) : halfEven (n : K) = n :=
  eq_halfEven (by simp)

@[simp] theorem halfEven_zero : halfEven (0 : K) = 0 := by
  have h := halfEven_intCast (K := K) 0
  rwa [Int.cast_zero] at h

theorem halfEven_neg (x : K) : halfEven (-x) = -halfEven x := by
  have hflip : |((-halfEven x : ℤ) : K) - -x| = |(halfEven x : K) - x| := by
    push_cast
    rw [← abs_neg]
    congr 1
    ring
  rcases (abs_halfEven_sub x).lt_or_eq with h | h
  · exact eq_halfEven (hflip.trans_lt h)
  · have heven := even_halfEven h
    exact eq_halfEven_of_tie (hflip.trans h) (by omega)

theorem halfEven_mono (h : x ≤ y) : halfEven x ≤ halfEven y := by
  by_contra hless
  have hx := abs_le.mp (abs_halfEven_sub x)
  have hy := abs_le.mp (abs_halfEven_sub y)
  have hgap : (halfEven y : K) + 1 ≤ halfEven x := by
    exact_mod_cast Int.add_one_le_iff.mpr (not_le.mp hless)
  -- two ties at one number are rounded to one integer
  have heq : x = y := by linarith
  exact hless (heq ▸ le_refl _)

theorem halfEven_nonneg (h : 0 ≤ x) : 0 ≤ halfEven x := by
  have hmono := halfEven_mono h
  rwa [halfEven_zero] at hmono

theorem abs_halfEven_le (h : |x| ≤ n) : |halfEven x| ≤ n := by
  obtain ⟨hlow, hhigh⟩ := abs_le.mp h
  have hlow' := halfEven_mono hlow
  have hhigh' := halfEven_mono hhigh
  rw [halfEven_intCast] at hhigh'
  rw [halfEven_neg, halfEven_intCast] at hlow'
  exact abs_le.mpr ⟨hlow', hhigh'⟩

/-! ### On a grid -/

/-- Rounding to a multiple of a step, half to even. -/
def toStep (step x : K) : K := halfEven (x / step) * step

variable {step : K}

theorem abs_toStep_sub (hstep : 0 < step) (x : K) : |toStep step x - x| ≤ step / 2 := by
  have hround := abs_halfEven_sub (x / step)
  have hscale : toStep step x - x = ((halfEven (x / step) : K) - x / step) * step := by
    unfold toStep
    field_simp
  rw [hscale, abs_mul, abs_of_pos hstep]
  calc |(halfEven (x / step) : K) - x / step| * step
      ≤ 1 / 2 * step := mul_le_mul_of_nonneg_right hround hstep.le
    _ = step / 2 := by ring

@[simp] theorem toStep_zero : toStep step 0 = 0 := by
  unfold toStep
  rw [zero_div, halfEven_zero, Int.cast_zero, zero_mul]

theorem toStep_neg (step x : K) : toStep step (-x) = -toStep step x := by
  unfold toStep
  rw [neg_div, halfEven_neg]
  push_cast
  ring

theorem toStep_mono (hstep : 0 < step) (h : x ≤ y) : toStep step x ≤ toStep step y := by
  have hround : (halfEven (x / step) : K) ≤ halfEven (y / step) := by
    exact_mod_cast halfEven_mono (div_le_div_of_nonneg_right h hstep.le)
  exact mul_le_mul_of_nonneg_right hround hstep.le

theorem toStep_of_multiple (hstep : 0 < step) (n : ℤ) : toStep step (n * step) = n * step := by
  unfold toStep
  rw [mul_div_cancel_right₀ _ hstep.ne', halfEven_intCast]

theorem abs_toStep_le (hstep : 0 < step) (h : |x| ≤ n * step) : |toStep step x| ≤ n * step := by
  have hscaled : |x / step| ≤ n := by
    rw [abs_div, abs_of_pos hstep]
    exact (div_le_iff₀ hstep).mpr h
  have hround : |(halfEven (x / step) : K)| ≤ n := by
    exact_mod_cast abs_halfEven_le hscaled
  unfold toStep
  rw [abs_mul, abs_of_pos hstep]
  exact mul_le_mul_of_nonneg_right hround hstep.le

theorem isGreatest_floor_mul (hstep : 0 < step) (hx : 0 ≤ x) :
    IsGreatest {q | (∃ n : ℕ, q = n * step) ∧ q ≤ x} (⌊x / step⌋ * step) := by
  obtain ⟨count, hcount⟩ := Int.eq_ofNat_of_zero_le (Int.floor_nonneg.mpr (div_nonneg hx hstep.le))
  refine ⟨⟨⟨count, by rw [hcount, Int.cast_natCast]⟩, ?_⟩, ?_⟩
  · rw [← le_div_iff₀ hstep]
    exact Int.floor_le _
  · rintro q ⟨⟨n, rfl⟩, hle⟩
    refine mul_le_mul_of_nonneg_right ?_ hstep.le
    rw [← Int.cast_natCast n, Int.cast_le, Int.le_floor, le_div_iff₀ hstep, Int.cast_natCast]
    exact hle

def floorTo (step x : K) : K := ⌊x / step⌋ * step

theorem floorTo_le (hstep : 0 < step) (x : K) : floorTo step x ≤ x :=
  (le_div_iff₀ hstep).mp (Int.floor_le _)

theorem floorTo_nonneg (hstep : 0 < step) (hx : 0 ≤ x) : 0 ≤ floorTo step x := by
  have hcount : (0 : K) ≤ ⌊x / step⌋ := by
    exact_mod_cast Int.floor_nonneg.mpr (div_nonneg hx hstep.le)
  exact mul_nonneg hcount hstep.le

@[simp] theorem floorTo_zero (step : K) : floorTo step 0 = 0 := by
  unfold floorTo
  rw [zero_div, Int.floor_zero, Int.cast_zero, zero_mul]

theorem floorTo_eq (hstep : 0 < step) (hlow : n * step ≤ x) (hhigh : x < (n + 1) * step) :
    floorTo step x = n * step := by
  unfold floorTo
  rw [Int.floor_eq_iff.mpr ⟨(le_div_iff₀ hstep).mpr hlow, (div_lt_iff₀ hstep).mpr hhigh⟩]

theorem floorTo_floorTo (hstep : 0 < step) (x : K) : floorTo step (floorTo step x) = floorTo step x :=
  floorTo_eq hstep le_rfl (mul_lt_mul_of_pos_right (lt_add_one _) hstep)

theorem floorTo_mono (hstep : 0 < step) (h : x ≤ y) : floorTo step x ≤ floorTo step y := by
  unfold floorTo
  have hcount : (⌊x / step⌋ : K) ≤ ⌊y / step⌋ := by
    exact_mod_cast Int.floor_le_floor (div_le_div_of_nonneg_right h hstep.le)
  exact mul_le_mul_of_nonneg_right hcount hstep.le

theorem le_floorTo (hstep : 0 < step) (h : n * step ≤ x) : n * step ≤ floorTo step x := by
  unfold floorTo
  have hcount : (n : K) ≤ ⌊x / step⌋ := by
    exact_mod_cast Int.le_floor.mpr ((le_div_iff₀ hstep).mpr h)
  exact mul_le_mul_of_nonneg_right hcount hstep.le

/-- The multiple of a step that a number is cut to, towards zero. -/
def truncateTo (step x : K) : K := if x < 0 then -floorTo step (-x) else floorTo step x

structure IsTruncation (step x q : K) : Prop where
  multiple : ∃ n : ℤ, q = n * step
  nonneg : 0 ≤ x → 0 ≤ q
  nonpos : x ≤ 0 → q ≤ 0
  within : |q| ≤ |x|
  largest : ∀ n : ℤ, |n * step| ≤ |x| → |n * step| ≤ |q|

omit [IsStrictOrderedRing K] in
theorem truncateTo_of_nonneg (step : K) (hx : 0 ≤ x) : truncateTo step x = floorTo step x :=
  if_neg (not_lt.mpr hx)

theorem truncateTo_neg (step x : K) : truncateTo step (-x) = -truncateTo step x := by
  unfold truncateTo
  rcases lt_trichotomy x 0 with hx | rfl | hx
  · rw [if_pos hx, if_neg (by simpa using hx.le), neg_neg]
  · simp
  · rw [if_neg hx.not_gt, if_pos (by simpa using hx), neg_neg]

theorem isTruncation_truncateTo (hstep : 0 < step) (x : K) :
    IsTruncation step x (truncateTo step x) := by
  have hsize : ∀ n : ℤ, |n * step| = (|n| : ℤ) * step := fun n => by
    rw [abs_mul, abs_of_pos hstep, Int.cast_abs]
  rcases lt_or_ge x 0 with hx | hx
  · have hfloor := floorTo_nonneg hstep (neg_nonneg.mpr hx.le)
    have hcut : truncateTo step x = -floorTo step (-x) := if_pos hx
    refine ⟨⟨-⌊-x / step⌋, ?_⟩, fun h => absurd hx h.not_gt, fun _ => ?_, ?_, fun n hn => ?_⟩
    · rw [hcut, Int.cast_neg, neg_mul]
      rfl
    · rw [hcut]
      exact neg_nonpos.mpr hfloor
    · rw [hcut, abs_neg, abs_of_nonneg hfloor, abs_of_neg hx]
      exact floorTo_le hstep _
    · rw [hcut, abs_neg, abs_of_nonneg hfloor, hsize]
      rw [hsize, abs_of_neg hx] at hn
      exact le_floorTo hstep hn
  · have hfloor := floorTo_nonneg hstep hx
    have hcut := truncateTo_of_nonneg step hx
    refine ⟨⟨⌊x / step⌋, ?_⟩, fun _ => ?_, fun h => ?_, ?_, fun n hn => ?_⟩
    · rw [hcut]
      rfl
    · rw [hcut]
      exact hfloor
    · rw [le_antisymm h hx, truncateTo_of_nonneg step le_rfl, floorTo_zero]
    · rw [hcut, abs_of_nonneg hfloor, abs_of_nonneg hx]
      exact floorTo_le hstep x
    · rw [hcut, abs_of_nonneg hfloor, hsize]
      rw [hsize, abs_of_nonneg hx] at hn
      exact le_floorTo hstep hn

theorem truncateTo_mono (hstep : 0 < step) (h : x ≤ y) : truncateTo step x ≤ truncateTo step y := by
  rcases lt_or_ge y 0 with hy | hy
  · unfold truncateTo
    rw [if_pos (h.trans_lt hy), if_pos hy]
    exact neg_le_neg (floorTo_mono hstep (neg_le_neg h))
  · rcases lt_or_ge x 0 with hx | hx
    · exact ((isTruncation_truncateTo hstep x).nonpos hx.le).trans
        ((isTruncation_truncateTo hstep y).nonneg hy)
    · rw [truncateTo_of_nonneg step hx, truncateTo_of_nonneg step hy]
      exact floorTo_mono hstep h

theorem truncateTo_truncateTo (hstep : 0 < step) (x : K) :
    truncateTo step (truncateTo step x) = truncateTo step x := by
  rcases le_total 0 x with hx | hx
  · rw [truncateTo_of_nonneg step hx, truncateTo_of_nonneg step (floorTo_nonneg hstep hx),
      floorTo_floorTo hstep]
  · obtain ⟨y, rfl⟩ : ∃ y, x = -y := ⟨-x, (neg_neg x).symm⟩
    have hy : 0 ≤ y := neg_nonpos.mp hx
    rw [truncateTo_neg, truncateTo_neg, truncateTo_of_nonneg step hy,
      truncateTo_of_nonneg step (floorTo_nonneg hstep hy), floorTo_floorTo hstep]

theorem isLeast_ceil_mul (hstep : 0 < step) (hx : 0 ≤ x) :
    IsLeast {q | (∃ n : ℕ, q = n * step) ∧ x ≤ q} (⌈x / step⌉ * step) := by
  obtain ⟨count, hcount⟩ := Int.eq_ofNat_of_zero_le (Int.ceil_nonneg (div_nonneg hx hstep.le))
  refine ⟨⟨⟨count, by rw [hcount, Int.cast_natCast]⟩, ?_⟩, ?_⟩
  · rw [← div_le_iff₀ hstep]
    exact Int.le_ceil _
  · rintro q ⟨⟨n, rfl⟩, hle⟩
    refine mul_le_mul_of_nonneg_right ?_ hstep.le
    rw [← Int.cast_natCast n, Int.cast_le, Int.ceil_le, div_le_iff₀ hstep, Int.cast_natCast]
    exact hle

/-! ### To significant digits -/

def lastPlace (digits : ℕ) (x : K) : ℤ := Int.log 10 |x| - digits + 1

/-- Rounding to a number of significant digits, half to even. -/
def toDigits (digits : ℕ) (x : K) : K := toStep ((10 : K) ^ lastPlace digits x) x

def HasDigits (digits : ℕ) (x : K) : Prop :=
  ∃ (n : ℤ) (e : ℤ), |n| ≤ 10 ^ digits ∧ x = n * (10 : K) ^ e

def lastBit (bits : ℕ) (x : K) : ℤ := Int.log 2 |x| - bits + 1

/-- Rounding to a number of significant bits, half to even. -/
def toBits (bits : ℕ) (x : K) : K := toStep ((2 : K) ^ lastBit bits x) x

variable {digits : ℕ}

theorem ten_zpow_pos (e : ℤ) : (0 : K) < (10 : K) ^ e := zpow_pos (by norm_num) e

theorem ten_ne_zero : (10 : K) ≠ 0 := by
  have h := ten_zpow_pos (K := K) 1
  rw [zpow_one] at h
  exact h.ne'

theorem abs_lt_succ_log (x : K) : |x| < (10 : K) ^ (Int.log 10 |x| + 1) := by
  have h := Int.lt_zpow_succ_log_self (R := K) (b := 10) (by norm_num) |x|
  exact_mod_cast h

theorem pow_log_le_abs (h : x ≠ 0) : (10 : K) ^ Int.log 10 |x| ≤ |x| := by
  have h := Int.zpow_log_le_self (R := K) (b := 10) (by norm_num) (abs_pos.mpr h)
  exact_mod_cast h

@[simp] theorem toDigits_zero (digits : ℕ) : toDigits digits (0 : K) = 0 := toStep_zero

theorem toDigits_neg (digits : ℕ) (x : K) : toDigits digits (-x) = -toDigits digits x := by
  unfold toDigits lastPlace
  rw [abs_neg, toStep_neg]

theorem exists_mul_zpow {e f : ℤ} (h : e ≤ f) (n : ℤ) :
    ∃ m : ℤ, (n : K) * (10 : K) ^ f = m * (10 : K) ^ e := by
  obtain ⟨k, rfl⟩ := Int.le.dest h
  refine ⟨n * 10 ^ k, ?_⟩
  rw [zpow_add₀ ten_ne_zero, zpow_natCast]
  push_cast
  ring

theorem pow_mul_lastPlace (digits : ℕ) (x : K) :
    ((10 ^ digits : ℤ) : K) * (10 : K) ^ lastPlace digits x = (10 : K) ^ (Int.log 10 |x| + 1) := by
  unfold lastPlace
  push_cast
  rw [← zpow_natCast, ← zpow_add₀ ten_ne_zero]
  congr 1
  ring

theorem toDigits_of_hasDigits (hdigits : 1 ≤ digits) (h : HasDigits digits x) :
    toDigits digits x = x := by
  obtain ⟨n, e, hn, hx⟩ := h
  by_cases hzero : x = 0
  · rw [hzero, toDigits_zero]
  have habs : |x| = |(n : K)| * (10 : K) ^ e := by
    rw [hx, abs_mul, abs_of_pos (ten_zpow_pos (K := K) e)]
  -- a coefficient of one digit more is a power of ten, whose last place is one higher
  obtain ⟨m, hm⟩ : ∃ m : ℤ, x = m * (10 : K) ^ lastPlace digits x := by
    rcases hn.lt_or_eq with hless | heq
    · have hbound : (10 : K) ^ Int.log 10 |x| < (10 : K) ^ (digits + e : ℤ) := by
        refine (pow_log_le_abs hzero).trans_lt ?_
        rw [habs, zpow_add₀ ten_ne_zero, zpow_natCast]
        refine mul_lt_mul_of_pos_right ?_ (ten_zpow_pos e)
        exact_mod_cast hless
      have hlog := (zpow_lt_zpow_iff_right₀ (by norm_num : (1 : K) < 10)).mp hbound
      have hplace : lastPlace digits x ≤ e := by
        unfold lastPlace
        omega
      rw [hx] at hplace ⊢
      exact exists_mul_zpow hplace n
    · have hpow : |x| = (10 : K) ^ (digits + e : ℤ) := by
        rw [habs, zpow_add₀ ten_ne_zero, zpow_natCast]
        congr 1
        exact_mod_cast heq
      have hlog : Int.log 10 |x| = digits + e := by
        rw [hpow]
        have h := Int.log_zpow (R := K) (b := 10) (by norm_num) (digits + e : ℤ)
        exact_mod_cast h
      have hplace : lastPlace digits x = e + 1 := by
        unfold lastPlace
        rw [hlog]
        ring
      obtain ⟨k, hk⟩ : ∃ k : ℤ, n = k * 10 := by
        obtain ⟨j, rfl⟩ : ∃ j, digits = j + 1 := ⟨digits - 1, by omega⟩
        rw [pow_succ] at heq
        rcases abs_choice n with hsign | hsign
        · exact ⟨10 ^ j, by rw [← hsign, heq]⟩
        · exact ⟨-10 ^ j, by rw [← neg_neg n, ← hsign, heq]; ring⟩
      refine ⟨k, ?_⟩
      rw [hplace, hx, hk, zpow_add_one₀ ten_ne_zero]
      push_cast
      ring
  unfold toDigits
  have hkept := toStep_of_multiple (ten_zpow_pos (K := K) (lastPlace digits x)) m
  rwa [← hm] at hkept

theorem toDigits_nonneg (h : 0 ≤ x) : 0 ≤ toDigits digits x := by
  have hmono := toStep_mono (ten_zpow_pos (K := K) (lastPlace digits x)) h
  rwa [toStep_zero] at hmono

theorem toDigits_nonpos (h : x ≤ 0) : toDigits digits x ≤ 0 := by
  have hneg : 0 ≤ toDigits digits (-x) := toDigits_nonneg (neg_nonneg.mpr h)
  rw [toDigits_neg] at hneg
  linarith

theorem abs_toDigits (digits : ℕ) (x : K) : toDigits digits |x| = |toDigits digits x| := by
  rcases abs_cases x with ⟨habs, hsign⟩ | ⟨habs, hsign⟩
  · rw [habs, abs_of_nonneg (toDigits_nonneg hsign)]
  · rw [habs, toDigits_neg, abs_of_nonpos (toDigits_nonpos hsign.le)]

theorem toDigits_le_pow (digits : ℕ) (x : K) :
    toDigits digits x ≤ (10 : K) ^ (Int.log 10 |x| + 1) := by
  have hnext := abs_toStep_le (ten_zpow_pos (K := K) (lastPlace digits x))
    (x := x) (n := 10 ^ digits) (by rw [pow_mul_lastPlace]; exact (abs_lt_succ_log x).le)
  rw [pow_mul_lastPlace] at hnext
  exact (le_abs_self _).trans hnext

theorem pow_le_toDigits (hdigits : 1 ≤ digits) (h : 0 < x) :
    (10 : K) ^ Int.log 10 |x| ≤ toDigits digits x := by
  have hplace : lastPlace digits x ≤ Int.log 10 |x| := by
    unfold lastPlace
    omega
  obtain ⟨m, hm⟩ := exists_mul_zpow (K := K) hplace 1
  rw [Int.cast_one, one_mul] at hm
  have hlow := pow_log_le_abs h.ne'
  rw [abs_of_pos h] at hlow hm hplace ⊢
  have hmono := toStep_mono (ten_zpow_pos (K := K) (lastPlace digits x)) hlow
  have hkept := toStep_of_multiple (ten_zpow_pos (K := K) (lastPlace digits x)) m
  rw [← hm] at hkept
  rw [← hkept]
  exact hmono

/-- **Rounding to digits is monotone**, also where the last place changes. -/
theorem toDigits_mono_of_pos (hdigits : 1 ≤ digits) (hx : 0 < x) (h : x ≤ y) :
    toDigits digits x ≤ toDigits digits y := by
  have hy := hx.trans_le h
  have hlog : Int.log 10 |x| ≤ Int.log 10 |y| := by
    rw [abs_of_pos hx, abs_of_pos hy]
    exact Int.log_mono_right hx h
  rcases hlog.lt_or_eq with hless | heq
  · calc toDigits digits x ≤ (10 : K) ^ (Int.log 10 |x| + 1) := toDigits_le_pow digits x
      _ ≤ (10 : K) ^ Int.log 10 |y| := zpow_le_zpow_right₀ (by norm_num) (by omega)
      _ ≤ toDigits digits y := pow_le_toDigits hdigits hy
  · unfold toDigits lastPlace
    rw [heq]
    exact toStep_mono (ten_zpow_pos _) h

theorem toDigits_mono (hdigits : 1 ≤ digits) (h : x ≤ y) :
    toDigits digits x ≤ toDigits digits y := by
  rcases lt_or_ge 0 x with hx | hx
  · exact toDigits_mono_of_pos hdigits hx h
  · have hlow : toDigits digits x ≤ 0 := toDigits_nonpos hx
    rcases lt_or_ge y 0 with hy | hy
    · have hflip := toDigits_mono_of_pos hdigits (neg_pos.mpr hy) (neg_le_neg h)
      rw [toDigits_neg, toDigits_neg] at hflip
      linarith
    · exact hlow.trans (toDigits_nonneg hy)

theorem le_toDigits_of_hasDigits (hdigits : 1 ≤ digits) (hx : HasDigits digits x) (h : x ≤ y) :
    x ≤ toDigits digits y := by
  have hmono := toDigits_mono hdigits h
  rwa [toDigits_of_hasDigits hdigits hx] at hmono

end Rounding
