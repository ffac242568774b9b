import Mathlib.Tactic.IntervalCases

/-!
# The Gregorian calendar

Days are numbered from the first of January of the year one, as `date.toordinal` does, with the
rules of the calendar extended to all years before they were in force.

## Main results
* `ymd2ord_ord2ymd` — **a day is found again from its year, its month and its day**.
* `ord2ymd_valid` — what `ord2ymd` gives is a day of the calendar.
* `ord2ymd_year_le` — the years up to a last one are those of the days up to its last.
-/

namespace Calendar

def isLeap (year : ℕ) : Bool := year % 4 = 0 ∧ (year % 100 ≠ 0 ∨ year % 400 = 0)

def daysBeforeYear (year : ℕ) : ℕ :=
  (year - 1) * 365 + (year - 1) / 4 - (year - 1) / 100 + (year - 1) / 400

def daysInMonth (leap : Bool) : ℕ → ℕ
  | 1 => 31
  | 2 => if leap then 29 else 28
  | 3 => 31
  | 4 => 30
  | 5 => 31
  | 6 => 30
  | 7 => 31
  | 8 => 31
  | 9 => 30
  | 10 => 31
  | 11 => 30
  | 12 => 31
  | _ => 0

def daysBeforeMonth (leap : Bool) (month : ℕ) : ℕ :=
  ((List.range (month - 1)).map fun k => daysInMonth leap (k + 1)).sum

def ymd2ord (year month day : ℕ) : ℕ :=
  daysBeforeYear year + daysBeforeMonth (isLeap year) month + day

/-- The month and the day of a day of the year, which are counted from zero. -/
def monthAndDay (leap : Bool) (n : ℕ) : ℕ × ℕ :=
  -- the estimate is the month or the one after it
  let month := (n + 50) / 32
  if n < daysBeforeMonth leap month then (month - 1, n - daysBeforeMonth leap (month - 1) + 1)
  else (month, n - daysBeforeMonth leap month + 1)

def ord2ymd (n : ℕ) : ℕ × ℕ × ℕ :=
  let n400 := (n - 1) / 146097
  let r400 := (n - 1) % 146097
  let n100 := r400 / 36524
  let r100 := r400 % 36524
  let n4 := r100 / 1461
  let r4 := r100 % 1461
  let n1 := r4 / 365
  let r1 := r4 % 365
  let year := n400 * 400 + 1 + n100 * 100 + n4 * 4 + n1
  if n1 = 4 ∨ n100 = 4 then (year - 1, 12, 31)
  else (year, monthAndDay (n1 = 3 ∧ (n4 ≠ 24 ∨ n100 = 3)) r1)

structure IsDay (year month day : ℕ) : Prop where
  year_pos : 1 ≤ year
  month_pos : 1 ≤ month
  month_le : month ≤ 12
  day_pos : 1 ≤ day
  day_le : day ≤ daysInMonth (isLeap year) month

instance (year month day : ℕ) : Decidable (IsDay year month day) :=
  decidable_of_iff (1 ≤ year ∧ 1 ≤ month ∧ month ≤ 12 ∧ 1 ≤ day ∧
      day ≤ daysInMonth (isLeap year) month)
    ⟨fun ⟨h₁, h₂, h₃, h₄, h₅⟩ => ⟨h₁, h₂, h₃, h₄, h₅⟩, fun ⟨h₁, h₂, h₃, h₄, h₅⟩ => ⟨h₁, h₂, h₃, h₄, h₅⟩⟩

theorem monthAndDay_spec : ∀ leap : Bool, ∀ n < 365 + leap.toNat,
    let p := monthAndDay leap n
    1 ≤ p.1 ∧ p.1 ≤ 12 ∧ 1 ≤ p.2 ∧ p.2 ≤ daysInMonth leap p.1 ∧
      daysBeforeMonth leap p.1 + p.2 = n + 1 := by
  decide +kernel

theorem daysBeforeYear_eq {a b c d : ℕ} (hb : b ≤ 3) (hc : c ≤ 24) (hd : d ≤ 3) :
    daysBeforeYear (a * 400 + 1 + b * 100 + c * 4 + d) =
      a * 146097 + b * 36524 + c * 1461 + d * 365 := by
  have hsub : a * 400 + 1 + b * 100 + c * 4 + d - 1 = a * 400 + b * 100 + c * 4 + d := by omega
  have h4 : (a * 400 + b * 100 + c * 4 + d) / 4 = a * 100 + b * 25 + c := by omega
  have h100 : (a * 400 + b * 100 + c * 4 + d) / 100 = a * 4 + b := by omega
  have h400 : (a * 400 + b * 100 + c * 4 + d) / 400 = a := by omega
  rw [daysBeforeYear, hsub, h4, h100, h400]
  omega

theorem isLeap_eq {a b c d : ℕ} (hb : b ≤ 3) (hc : c ≤ 24) (hd : d ≤ 3) :
    isLeap (a * 400 + 1 + b * 100 + c * 4 + d) = decide (d = 3 ∧ (c ≠ 24 ∨ b = 3)) := by
  simp only [isLeap, decide_eq_decide]
  omega

theorem monotone_daysBeforeYear : Monotone daysBeforeYear := by
  refine monotone_nat_of_le_succ fun year => ?_
  unfold daysBeforeYear
  omega

theorem ord2ymd_cases {n : ℕ} (hn : 1 ≤ n) : ∃ year r, 1 ≤ year ∧
    r < 365 + (isLeap year).toNat ∧ daysBeforeYear year + r + 1 = n ∧
    ord2ymd n = (year, monthAndDay (isLeap year) r) := by
  simp only [ord2ymd]
  set n400 := (n - 1) / 146097
  set r400 := (n - 1) % 146097
  set n100 := r400 / 36524
  set r100 := r400 % 36524
  set n4 := r100 / 1461
  set r4 := r100 % 1461
  have hsum : n = n400 * 146097 + n100 * 36524 + n4 * 1461 + r4 + 1 := by omega
  have hle4 : n4 ≤ 24 := by omega
  split
  · next hlast =>
    -- the last day of four years, or of four hundred
    obtain ⟨b, c, hb, hc, hleap, hyear, hday⟩ : ∃ b c, b ≤ 3 ∧ c ≤ 24 ∧ (c ≠ 24 ∨ b = 3) ∧
        n400 * 400 + 1 + n100 * 100 + n4 * 4 + r4 / 365 - 1 =
          n400 * 400 + 1 + b * 100 + c * 4 + 3 ∧
        n400 * 146097 + b * 36524 + c * 1461 + 3 * 365 + 365 + 1 = n := by
      rcases hlast with hlast | hlast
      · exact ⟨n100, n4, by omega, by omega, by omega, by omega, by omega⟩
      · exact ⟨3, 24, by omega, by omega, by omega, by omega, by omega⟩
    have hisLeap := isLeap_eq (a := n400) hb hc (le_refl 3)
    rw [decide_eq_true ⟨rfl, hleap⟩] at hisLeap
    have hmonth : monthAndDay true 365 = (12, 31) := by decide
    refine ⟨n400 * 400 + 1 + b * 100 + c * 4 + 3, 365, by omega, ?_, ?_, ?_⟩
    · rw [hisLeap]
      decide
    · rw [daysBeforeYear_eq hb hc (le_refl 3)]
      exact hday
    · rw [hisLeap, hmonth, hyear]
  · next hlast =>
    have hb : n100 ≤ 3 := by omega
    have hd : r4 / 365 ≤ 3 := by omega
    refine ⟨n400 * 400 + 1 + n100 * 100 + n4 * 4 + r4 / 365, r4 % 365, by omega, ?_, ?_, ?_⟩
    · have hmod : r4 % 365 < 365 := Nat.mod_lt _ (by norm_num)
      omega
    · rw [daysBeforeYear_eq hb hle4 hd]
      omega
    · rw [isLeap_eq hb hle4 hd]

theorem ord2ymd_valid {n : ℕ} (hn : 1 ≤ n) :
    IsDay (ord2ymd n).1 (ord2ymd n).2.1 (ord2ymd n).2.2 := by
  obtain ⟨year, r, hyear, hr, -, heq⟩ := ord2ymd_cases hn
  obtain ⟨h₁, h₂, h₃, h₄, -⟩ := monthAndDay_spec (isLeap year) r hr
  rw [heq]
  exact ⟨hyear, h₁, h₂, h₃, h₄⟩

/-- **A day is found again from its year, its month and its day.** -/
theorem ymd2ord_ord2ymd {n : ℕ} (hn : 1 ≤ n) :
    ymd2ord (ord2ymd n).1 (ord2ymd n).2.1 (ord2ymd n).2.2 = n := by
  obtain ⟨year, r, -, hr, hord, heq⟩ := ord2ymd_cases hn
  obtain ⟨-, -, -, -, hday⟩ := monthAndDay_spec (isLeap year) r hr
  rw [heq, ymd2ord]
  simp only
  omega

theorem ord2ymd_year_le {n year : ℕ} (hn : 1 ≤ n) (hle : n ≤ daysBeforeYear (year + 1)) :
    (ord2ymd n).1 ≤ year := by
  obtain ⟨y, r, -, -, hord, heq⟩ := ord2ymd_cases hn
  rw [heq]
  show y ≤ year
  by_contra hlt
  have hmono : daysBeforeYear (year + 1) ≤ daysBeforeYear y := monotone_daysBeforeYear (by omega)
  omega

end Calendar
