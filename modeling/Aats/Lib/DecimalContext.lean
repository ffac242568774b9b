import Aats.Lib.DecimalText
import Aats.Lib.Rounding
import Mathlib.Algebra.Field.Rat
import Mathlib.Algebra.Order.Ring.Rat
import Mathlib.Data.Rat.Floor

/-!
# Decimal arithmetic in a context

An operation of the general decimal arithmetic computes with the exact result and then fits it to a
context: it is rounded to the precision, and written with the exponent that is nearest to the ideal one
of the operation if nothing is lost by that. What is too large for the context, or is rounded where
the context has fewer digits, signals.

## Main results
* `value_mul`, `value_div` — **the result is the exact one, rounded half to even**.
-/

namespace DecimalText

open Rounding

/-- A context that rounds half to even and traps its signals. -/
structure Context where
  precision : ℕ
  precision_pos : 1 ≤ precision
  eMin : ℤ
  eMax : ℤ

inductive Signal
  | divisionByZero
  | overflow
  | underflow
  deriving DecidableEq, Repr

namespace Context

variable (context : Context)

def etiny : ℤ := context.eMin - context.precision + 1

def place (exact : ℚ) : ℤ := max (lastPlace context.precision exact) context.etiny

/-- What is rounded up to one digit more has a zero to give up. -/
def carry (coefficient place : ℤ) : ℕ × ℤ :=
  if coefficient = 10 ^ context.precision then (10 ^ (context.precision - 1), place + 1)
  else (coefficient.toNat, place)

/-- The size of an exact result and its sign, fitted to the context. -/
def finalize (negative : Bool) (exact : ℚ) (ideal : ℤ) : Except Signal Dec :=
  if exact = 0 then
    .ok { negative, coefficient := 0, exponent := max (min ideal context.eMax) context.etiny }
  else
    let place := context.place exact
    let scaled := exact / (10 : ℚ) ^ place
    let coefficient := halfEven scaled
    if (coefficient : ℚ) = scaled then
      if context.eMax < Int.log 10 exact then .error .overflow
      else
        -- the zeros that stand behind the ideal exponent are not written
        let written := Dec.trimZeros (ideal - place).toNat coefficient.toNat place
        .ok { negative, coefficient := written.1, exponent := written.2 }
    else if lastPlace context.precision exact < context.etiny then .error .underflow
    else
      let written := context.carry coefficient place
      if context.eMax < written.2 + context.precision - 1 then .error .overflow
      else .ok { negative, coefficient := written.1, exponent := written.2 }

def mul (a b : Dec) : Except Signal Dec :=
  context.finalize (a.negative ^^ b.negative) (|a.value| * |b.value|) (a.exponent + b.exponent)

def div (a b : Dec) : Except Signal Dec :=
  if b.coefficient = 0 then .error .divisionByZero
  else
    context.finalize (a.negative ^^ b.negative) (|a.value| / |b.value|) (a.exponent - b.exponent)

end Context

def signed (negative : Bool) (size : ℚ) : ℚ := if negative then -size else size

namespace Dec

theorem value_eq_signed (d : Dec) :
    d.value = signed d.negative (d.coefficient * (10 : ℚ) ^ d.exponent) := by
  unfold value signed
  split
  · rw [neg_mul]
  · rfl

theorem size_nonneg (d : Dec) : 0 ≤ (d.coefficient : ℚ) * (10 : ℚ) ^ d.exponent :=
  mul_nonneg (Nat.cast_nonneg _) (ten_zpow_pos _).le

theorem abs_value (d : Dec) : |d.value| = d.coefficient * (10 : ℚ) ^ d.exponent := by
  rw [value_eq_signed]
  unfold signed
  split
  · rw [abs_neg, abs_of_nonneg d.size_nonneg]
  · exact abs_of_nonneg d.size_nonneg

theorem value_eq_signed_abs (d : Dec) : d.value = signed d.negative |d.value| := by
  rw [abs_value, value_eq_signed]

def copyAbs (d : Dec) : Dec := { d with negative := false }

def copyNegate (d : Dec) : Dec := { d with negative := !d.negative }

@[simp] theorem value_copyAbs (d : Dec) : d.copyAbs.value = |d.value| := by
  rw [abs_value]
  rfl

@[simp] theorem value_copyNegate (d : Dec) : d.copyNegate.value = -d.value := by
  unfold copyNegate value
  cases d.negative with
  | false =>
    show -(d.coefficient : ℚ) * _ = -((d.coefficient : ℚ) * _)
    rw [neg_mul]
  | true =>
    show (d.coefficient : ℚ) * _ = -(-(d.coefficient : ℚ) * _)
    rw [neg_mul, neg_neg]

end Dec

namespace Context

variable {context : Context} {negative : Bool} {exact : ℚ} {ideal : ℤ} {d : Dec}

theorem toDigits_of_exact (h : (halfEven (exact / (10 : ℚ) ^ context.place exact) : ℚ) =
    exact / (10 : ℚ) ^ context.place exact) : toDigits context.precision exact = exact := by
  have hexact : exact =
      halfEven (exact / (10 : ℚ) ^ context.place exact) * (10 : ℚ) ^ context.place exact := by
    rw [h, div_mul_cancel₀ _ (ten_zpow_pos (K := ℚ) _).ne']
  obtain ⟨m, hm⟩ := exists_mul_zpow (K := ℚ)
    (le_max_left (lastPlace context.precision exact) context.etiny)
    (halfEven (exact / (10 : ℚ) ^ context.place exact))
  have hmultiple : exact = m * (10 : ℚ) ^ lastPlace context.precision exact := by
    rw [← hm]
    exact hexact
  unfold toDigits
  have hkept := toStep_of_multiple (ten_zpow_pos (K := ℚ) (lastPlace context.precision exact)) m
  rwa [← hmultiple] at hkept

theorem value_carry {coefficient : ℤ} (place : ℤ) (h : 0 ≤ coefficient) :
    ((context.carry coefficient place).1 : ℚ) * (10 : ℚ) ^ (context.carry coefficient place).2 =
      coefficient * (10 : ℚ) ^ place := by
  unfold carry
  split
  · next hcarried =>
    obtain ⟨j, hj⟩ : ∃ j, context.precision = j + 1 :=
      ⟨context.precision - 1, (Nat.sub_add_cancel context.precision_pos).symm⟩
    rw [hcarried, hj, Nat.add_sub_cancel, zpow_add_one₀ ten_ne_zero, pow_succ]
    push_cast
    ring
  · have hcast : ((coefficient.toNat : ℕ) : ℚ) = coefficient := by
      exact_mod_cast Int.toNat_of_nonneg h
    rw [hcast]

theorem value_finalize (hnonneg : 0 ≤ exact)
    (h : context.finalize negative exact ideal = .ok d) :
    d.value = signed negative (toDigits context.precision exact) := by
  unfold finalize at h
  split at h
  · next hzero =>
    obtain rfl := Except.ok.inj h
    rw [hzero, toDigits_zero, Dec.value_eq_signed, Nat.cast_zero, zero_mul]
  · next hne =>
    dsimp only at h
    have hsize : 0 ≤ halfEven (exact / (10 : ℚ) ^ context.place exact) :=
      halfEven_nonneg (div_nonneg hnonneg (ten_zpow_pos _).le)
    have hcast : ((halfEven (exact / (10 : ℚ) ^ context.place exact)).toNat : ℚ) =
        halfEven (exact / (10 : ℚ) ^ context.place exact) := by
      exact_mod_cast Int.toNat_of_nonneg hsize
    split at h
    · next hexact =>
      split at h
      · cases h
      · obtain rfl := Except.ok.inj h
        rw [toDigits_of_exact hexact, Dec.value_eq_signed, trimZeros_value, hcast, hexact,
          div_mul_cancel₀ _ (ten_zpow_pos (K := ℚ) _).ne']
    · split at h
      · cases h
      next hnormal =>
      have hplace : context.place exact = lastPlace context.precision exact :=
        max_eq_left (not_lt.mp hnormal)
      have hrounded : toDigits context.precision exact =
          halfEven (exact / (10 : ℚ) ^ context.place exact) * (10 : ℚ) ^ context.place exact := by
        rw [hplace]
        rfl
      split at h
      · cases h
      obtain rfl := Except.ok.inj h
      rw [hrounded, Dec.value_eq_signed, value_carry _ hsize]

theorem value_mul {a b : Dec} (h : context.mul a b = .ok d) :
    d.value = toDigits context.precision (a.value * b.value) := by
  rw [value_finalize (mul_nonneg (abs_nonneg _) (abs_nonneg _)) h, a.value_eq_signed_abs,
    b.value_eq_signed_abs]
  unfold signed
  cases a.negative <;> cases b.negative <;>
    simp [toDigits_neg, abs_neg, abs_abs]

theorem value_div {a b : Dec} (h : context.div a b = .ok d) :
    d.value = toDigits context.precision (a.value / b.value) := by
  unfold div at h
  split at h
  · cases h
  rw [value_finalize (div_nonneg (abs_nonneg _) (abs_nonneg _)) h, a.value_eq_signed_abs,
    b.value_eq_signed_abs]
  unfold signed
  cases a.negative <;> cases b.negative <;>
    simp [toDigits_neg, abs_neg, abs_abs, neg_div, div_neg]

end Context

end DecimalText
