import Mathlib.Algebra.Order.Field.Basic
import Mathlib.Data.List.TakeDrop
import Mathlib.Tactic.Linarith
import Mathlib.Tactic.Ring

/-!
# Decimal numbers and their text

A decimal number is a sign, a coefficient and a power of ten, so that one value has many of them:
`15e-1` and `150e-2`. Only one has a coefficient that does not end in a zero, and its text is the
canonical one.

## Main definitions
* `Dec.trimmed` — the number without the zeros at the end of its coefficient.

## Main results
* `readDec_canonicalText` — **the canonical text is read as the trimmed number**.
-/

namespace DecimalText

structure Dec where
  negative : Bool
  coefficient : ℕ
  exponent : ℤ
  deriving DecidableEq, Repr

namespace Dec

def value (d : Dec) : ℚ :=
  (if d.negative then -(d.coefficient : ℚ) else d.coefficient) * (10 : ℚ) ^ d.exponent

/-- Zero, as `Decimal("0")`. -/
def zero : Dec := { negative := false, coefficient := 0, exponent := 0 }

/-- A coefficient and an exponent without the last zeros, in a number of steps. -/
def trimZeros : ℕ → ℕ → ℤ → ℕ × ℤ
  | 0, c, e => (c, e)
  | steps + 1, c, e => if c % 10 = 0 then trimZeros steps (c / 10) (e + 1) else (c, e)

def digitCount (d : Dec) : ℕ := (Nat.toDigits 10 d.coefficient).length

/-- The number without the zeros at the end of its coefficient; zero has only one spelling. -/
def trimmed (d : Dec) : Dec :=
  if d.coefficient = 0 then zero
  else
    let p := trimZeros d.digitCount d.coefficient d.exponent
    { negative := d.negative, coefficient := p.1, exponent := p.2 }

end Dec

/-! ### Trimming -/

open Dec

theorem trimZeros_value (steps c : ℕ) (e : ℤ) :
    ((trimZeros steps c e).1 : ℚ) * (10 : ℚ) ^ (trimZeros steps c e).2 = c * (10 : ℚ) ^ e := by
  induction steps generalizing c e with
  | zero => rfl
  | succ steps ih =>
    rw [trimZeros]
    split
    · next hmod =>
      have hc : (c : ℚ) = (c / 10 : ℕ) * 10 := by
        have hdvd : c / 10 * 10 = c := Nat.div_mul_cancel (Nat.dvd_of_mod_eq_zero hmod)
        exact_mod_cast hdvd.symm
      rw [ih, zpow_add_one₀ (by norm_num), hc]
      ring
    · rfl

theorem trimZeros_mod {steps c : ℕ} (e : ℤ) (hpos : 0 < c) (hlt : c < 10 ^ steps) :
    (trimZeros steps c e).1 % 10 ≠ 0 := by
  induction steps generalizing c e with
  | zero => omega
  | succ steps ih =>
    rw [trimZeros]
    split
    · next hmod =>
      have hdvd : c / 10 * 10 = c := Nat.div_mul_cancel (Nat.dvd_of_mod_eq_zero hmod)
      have hdiv : c / 10 < 10 ^ steps := by
        rw [pow_succ] at hlt
        omega
      exact ih (e + 1) (by omega) hdiv
    · next hmod => exact hmod

theorem trimZeros_of_mod {c : ℕ} (steps : ℕ) (e : ℤ) (h : c % 10 ≠ 0) :
    trimZeros steps c e = (c, e) := by
  cases steps with
  | zero => rfl
  | succ steps => rw [trimZeros, if_neg h]

theorem lt_pow_digitCount (d : Dec) : d.coefficient < 10 ^ d.digitCount :=
  (Nat.length_toDigits_le_iff (by norm_num) Nat.length_toDigits_pos).mp le_rfl

namespace Dec

@[simp] theorem value_zero : zero.value = 0 := by
  simp [value, zero]

theorem value_eq_zero {d : Dec} : d.value = 0 ↔ d.coefficient = 0 := by
  have hpow : (10 : ℚ) ^ d.exponent ≠ 0 := zpow_ne_zero _ (by norm_num)
  unfold value
  split <;> simp [hpow]

@[simp] theorem trimmed_of_zero {d : Dec} (h : d.coefficient = 0) : d.trimmed = zero := if_pos h

theorem trimmed_of_ne_zero {d : Dec} (h : d.coefficient ≠ 0) : d.trimmed =
    { negative := d.negative
      coefficient := (trimZeros d.digitCount d.coefficient d.exponent).1
      exponent := (trimZeros d.digitCount d.coefficient d.exponent).2 } := if_neg h

theorem trimmed_mod {d : Dec} (h : d.coefficient ≠ 0) : d.trimmed.coefficient % 10 ≠ 0 := by
  rw [trimmed_of_ne_zero h]
  exact trimZeros_mod d.exponent (Nat.pos_of_ne_zero h) (lt_pow_digitCount d)

theorem trimmed_coefficient_eq_zero {d : Dec} : d.trimmed.coefficient = 0 ↔ d.coefficient = 0 := by
  constructor
  · intro h
    by_contra hne
    exact trimmed_mod hne (by rw [h])
  · intro h
    rw [trimmed_of_zero h]
    rfl

theorem value_trimmed (d : Dec) : d.trimmed.value = d.value := by
  by_cases h : d.coefficient = 0
  · rw [trimmed_of_zero h, value_zero, value_eq_zero.mpr h]
  · have htrim := trimZeros_value d.digitCount d.coefficient d.exponent
    rw [trimmed_of_ne_zero h]
    unfold value
    cases d.negative with
    | false => exact htrim
    | true =>
      simp only [if_true, neg_mul]
      rw [htrim]

theorem trimmed_eq_self {d : Dec} (h : d.coefficient % 10 ≠ 0) : d.trimmed = d := by
  have hne : d.coefficient ≠ 0 := by
    rintro h0
    rw [h0] at h
    exact h rfl
  rw [trimmed_of_ne_zero hne, trimZeros_of_mod _ _ h]

@[simp] theorem trimmed_trimmed (d : Dec) : d.trimmed.trimmed = d.trimmed := by
  by_cases h : d.coefficient = 0
  · rw [trimmed_of_zero h]
    rfl
  · exact trimmed_eq_self (trimmed_mod h)

theorem exponent_le_of_mul_eq {c c' : ℕ} {e e' : ℤ} (hmod : c % 10 ≠ 0)
    (h : (c : ℚ) * (10 : ℚ) ^ e = c' * (10 : ℚ) ^ e') : e' ≤ e := by
  by_contra hlt
  obtain ⟨k, hk⟩ : ∃ k : ℕ, e' = e + (k + 1 : ℕ) := ⟨(e' - e - 1).toNat, by omega⟩
  have hpow : (10 : ℚ) ^ e ≠ 0 := zpow_ne_zero _ (by norm_num)
  rw [hk, zpow_add₀ (by norm_num), mul_comm ((10 : ℚ) ^ e), ← mul_assoc] at h
  have hc : (c : ℚ) = c' * (10 : ℚ) ^ (k + 1) := by
    have := mul_right_cancel₀ hpow h
    rwa [zpow_natCast] at this
  have hnat : c = c' * 10 ^ (k + 1) := by exact_mod_cast hc
  apply hmod
  rw [hnat, pow_succ, ← mul_assoc]
  exact Nat.mul_mod_left _ _

theorem trimmed_eq_of_value_eq {d d' : Dec} (h : d.value = d'.value) : d.trimmed = d'.trimmed := by
  by_cases h0 : d.coefficient = 0
  · have h0' : d'.coefficient = 0 := value_eq_zero.mp (h ▸ value_eq_zero.mpr h0)
    rw [trimmed_of_zero h0, trimmed_of_zero h0']
  have h0' : d'.coefficient ≠ 0 := fun hz => h0 (value_eq_zero.mp (h.trans (value_eq_zero.mpr hz)))
  have hmod := trimmed_mod h0
  have hmod' := trimmed_mod h0'
  have hval : d.trimmed.value = d'.trimmed.value := by rw [value_trimmed, value_trimmed, h]
  generalize d.trimmed = t at *
  generalize d'.trimmed = t' at *
  obtain ⟨neg, c, e⟩ := t
  obtain ⟨neg', c', e'⟩ := t'
  simp only [value] at hval hmod hmod'
  have hc : (0 : ℚ) < c := by
    have : 0 < c := by omega
    exact_mod_cast this
  have hc' : (0 : ℚ) < c' := by
    have : 0 < c' := by omega
    exact_mod_cast this
  have hp : (0 : ℚ) < 10 ^ e := zpow_pos (by norm_num) _
  have hp' : (0 : ℚ) < 10 ^ e' := zpow_pos (by norm_num) _
  have hmul : (0 : ℚ) < c * 10 ^ e := mul_pos hc hp
  have hmul' : (0 : ℚ) < c' * 10 ^ e' := mul_pos hc' hp'
  -- a positive number is no negative one
  obtain ⟨hneg, heq⟩ : neg = neg' ∧ (c : ℚ) * 10 ^ e = c' * 10 ^ e' := by
    cases neg <;> cases neg' <;>
      simp only [if_true, if_false, Bool.false_eq_true, neg_mul, neg_inj] at hval
    · exact ⟨rfl, hval⟩
    · linarith
    · linarith
    · exact ⟨rfl, hval⟩
  have hexp : e = e' :=
    le_antisymm (exponent_le_of_mul_eq hmod' heq.symm) (exponent_le_of_mul_eq hmod heq)
  subst hexp hneg
  have hcc : (c : ℚ) = c' := mul_right_cancel₀ hp.ne' heq
  have hnat : c = c' := by exact_mod_cast hcc
  rw [hnat]

end Dec

/-! ### The text -/

def intText (i : ℤ) : List Char :=
  (if i < 0 then ['-'] else []) ++ Nat.toDigits 10 i.natAbs

def plainText (d : Dec) : List Char :=
  if d.coefficient = 0 then ['0']
  else (if d.negative then ['-'] else []) ++ Nat.toDigits 10 d.coefficient ++
    'e' :: intText d.exponent

def canonicalText (d : Dec) : List Char := plainText d.trimmed

def readSign : List Char → Bool × List Char
  | '-' :: rest => (true, rest)
  | '+' :: rest => (false, rest)
  | text => (false, text)

def readExponent : List Char → Option ℤ
  | [] => some 0
  | letter :: rest =>
    if letter = 'e' ∨ letter = 'E' then
      let p := readSign rest
      if p.2 ≠ [] ∧ p.2.all Char.isDigit then
        let n : ℤ := Nat.ofDigitChars 10 p.2 0
        some (if p.1 then -n else n)
      else none
    else none

def readFraction : List Char → List Char × List Char
  | '.' :: rest => rest.span Char.isDigit
  | text => ([], text)

/-- A number: its sign, its digits with or without a point, and its exponent. -/
def readDec (text : List Char) : Option Dec :=
  let signed := readSign text
  let whole := signed.2.span Char.isDigit
  let fraction := readFraction whole.2
  if whole.1 ++ fraction.1 = [] then none
  else
    match readExponent fraction.2 with
    | none => none
    | some exponent =>
      some
        { negative := signed.1
          coefficient := Nat.ofDigitChars 10 (whole.1 ++ fraction.1) 0
          exponent := exponent - fraction.1.length }

/-! ### Reading the canonical text -/

theorem all_isDigit_toDigits (n : ℕ) : (Nat.toDigits 10 n).all Char.isDigit = true :=
  List.all_eq_true.mpr fun _ h => Nat.isDigit_of_mem_toDigits (by norm_num) (by norm_num) h

theorem readSign_of_isDigit {c : Char} (rest : List Char) (h : c.isDigit = true) :
    readSign (c :: rest) = (false, c :: rest) := by
  unfold readSign
  split
  · next heq => injection heq with hc; subst hc; cases h
  · next heq => injection heq with hc; subst hc; cases h
  · rfl

theorem readSign_toDigits (negative : Bool) (n : ℕ) (rest : List Char) :
    readSign ((if negative then ['-'] else []) ++ Nat.toDigits 10 n ++ rest) =
      (negative, Nat.toDigits 10 n ++ rest) := by
  cases negative with
  | true => rfl
  | false =>
    obtain ⟨c, cs, hcs⟩ := List.exists_cons_of_ne_nil (Nat.toDigits_ne_nil (n := n) (b := 10))
    have hc : c.isDigit = true :=
      List.all_eq_true.mp (all_isDigit_toDigits n) c (hcs ▸ List.mem_cons_self)
    rw [hcs]
    exact readSign_of_isDigit _ hc

theorem span_isDigit {digits rest : List Char} (h : digits.all Char.isDigit = true)
    (hrest : ∀ c, rest.head? = some c → c.isDigit = false) :
    (digits ++ rest).span Char.isDigit = (digits, rest) := by
  rw [List.span_eq_takeWhile_dropWhile]
  have hall : ∀ c ∈ digits, c.isDigit = true := List.all_eq_true.mp h
  rw [List.takeWhile_append_of_pos hall, List.dropWhile_append_of_pos hall]
  cases rest with
  | nil => simp
  | cons c cs =>
    have hc := hrest c rfl
    rw [List.takeWhile_cons_of_neg (by simp [hc]), List.dropWhile_cons_of_neg (by simp [hc])]
    simp

theorem readExponent_intText (i : ℤ) : readExponent ('e' :: intText i) = some i := by
  have hsign : readSign (intText i) = (decide (i < 0), Nat.toDigits 10 i.natAbs) := by
    have := readSign_toDigits (decide (i < 0)) i.natAbs []
    simpa only [intText, List.append_nil, decide_eq_true_eq] using this
  rw [readExponent, if_pos (.inl rfl), hsign]
  simp only
  rw [if_pos ⟨Nat.toDigits_ne_nil, all_isDigit_toDigits _⟩, Nat.ofDigitChars_ten_toDigits]
  by_cases h : i < 0
  · simp only [h, decide_true, if_true, Option.some.injEq]
    omega
  · simp only [h, decide_false, Bool.false_eq_true, if_false, Option.some.injEq]
    omega

theorem mem_canonicalText {d : Dec} {c : Char} (h : c ∈ canonicalText d) :
    c.isDigit = true ∨ c = '-' ∨ c = 'e' := by
  have hdigits : ∀ n, c ∈ Nat.toDigits 10 n → c.isDigit = true := fun n hc =>
    List.all_eq_true.mp (all_isDigit_toDigits n) c hc
  have hsign : ∀ (p : Prop) [Decidable p], c ∈ (if p then ['-'] else []) → c = '-' := by
    intro p _ hc
    split at hc
    · exact List.mem_singleton.mp hc
    · cases hc
  unfold canonicalText plainText at h
  split at h
  · rw [List.mem_singleton.mp h]
    exact .inl (by decide)
  · rcases List.mem_append.mp h with h | h
    · rcases List.mem_append.mp h with h | h
      · exact .inr (.inl (hsign _ h))
      · exact .inl (hdigits _ h)
    · rcases List.mem_cons.mp h with h | h
      · exact .inr (.inr h)
      · rcases List.mem_append.mp h with h | h
        · exact .inr (.inl (hsign _ h))
        · exact .inl (hdigits _ h)

theorem canonicalText_ne_nil (d : Dec) : canonicalText d ≠ [] := by
  unfold canonicalText plainText
  split <;> simp

theorem length_canonicalText_le (d : Dec) : (canonicalText d).length ≤
    d.trimmed.digitCount + (Nat.toDigits 10 d.trimmed.exponent.natAbs).length + 3 := by
  have hsign : ∀ (p : Prop) [Decidable p], (if p then ['-'] else []).length ≤ 1 := by
    intro p _
    split <;> simp
  unfold canonicalText plainText intText Dec.digitCount
  split
  · simp
  · have h₁ := hsign (d.trimmed.negative = true)
    have h₂ := hsign (d.trimmed.exponent < 0)
    simp only [List.length_append, List.length_cons]
    omega

theorem readDec_canonicalText (d : Dec) : readDec (canonicalText d) = some d.trimmed := by
  unfold canonicalText plainText
  split
  · next h =>
    have h0 : d.coefficient = 0 := Dec.trimmed_coefficient_eq_zero.mp h
    rw [Dec.trimmed_of_zero h0]
    decide
  · next h =>
    have hspan : (Nat.toDigits 10 d.trimmed.coefficient ++ 'e' :: intText d.trimmed.exponent).span
        Char.isDigit =
          (Nat.toDigits 10 d.trimmed.coefficient, 'e' :: intText d.trimmed.exponent) := by
      refine span_isDigit (all_isDigit_toDigits _) fun c hc => ?_
      cases hc
      rfl
    have hfraction : readFraction ('e' :: intText d.trimmed.exponent) =
        ([], 'e' :: intText d.trimmed.exponent) := rfl
    simp only [readDec, readSign_toDigits, hspan, hfraction, List.append_nil,
      Nat.toDigits_ne_nil, if_false, readExponent_intText, Nat.ofDigitChars_ten_toDigits,
      List.length_nil, Nat.cast_zero, sub_zero]

end DecimalText
