import Mathlib.Algebra.Ring.Divisibility.Basic
import Mathlib.Tactic.Ring
import Mathlib.Tactic.Linarith

/-!
# Half-open windows on a line

A list of windows, each from its start up to and without its end, that lie side by side; the
search for the window of a point by bisection; and the points of one residue class in a window.

## Main definitions
* `Tiles start finish a windows b` — the windows cover the line from `a` up to `b`, in this order.
* `bisect` — the search for the first index that a test refuses.

## Main results
* `Tiles.exists_contains`, `Tiles.pairwise` — **a point lies in exactly one of the windows**.
* `Tiles.bisect_spec` — **the bisection finds it**.
* `mem_residues`, `pairwise_residues` — **the points, each once and in their order**.
-/

namespace Windows

variable {σ τ : Type*} [LinearOrder τ] {start finish : σ → τ}

/-- The windows lie side by side from `a` to `b`, and none of them is empty. -/
def Tiles (start finish : σ → τ) : τ → List σ → τ → Prop
  | a, [], b => a = b
  | a, window :: rest, b =>
    start window = a ∧ start window < finish window ∧ Tiles start finish (finish window) rest b

def Contains (start finish : σ → τ) (window : σ) (t : τ) : Prop :=
  start window ≤ t ∧ t < finish window

@[simp] theorem tiles_nil {a b : τ} : Tiles start finish a [] b ↔ a = b := Iff.rfl

@[simp] theorem tiles_cons {a b : τ} {window : σ} {rest : List σ} :
    Tiles start finish a (window :: rest) b ↔
      start window = a ∧ start window < finish window ∧
        Tiles start finish (finish window) rest b := Iff.rfl

theorem tiles_append {a c : τ} {windows later : List σ} :
    Tiles start finish a (windows ++ later) c ↔
      ∃ b, Tiles start finish a windows b ∧ Tiles start finish b later c := by
  induction windows generalizing a with
  | nil => simp
  | cons window rest ih =>
    rw [List.cons_append, tiles_cons, ih]
    constructor
    · rintro ⟨hstart, hlt, b, hrest, hlater⟩
      exact ⟨b, ⟨hstart, hlt, hrest⟩, hlater⟩
    · rintro ⟨b, ⟨hstart, hlt, hrest⟩, hlater⟩
      exact ⟨hstart, hlt, b, hrest, hlater⟩

variable {a b t : τ} {windows : List σ} {window : σ}

namespace Tiles

theorem le (h : Tiles start finish a windows b) : a ≤ b := by
  induction windows generalizing a with
  | nil => exact le_of_eq h
  | cons window rest ih =>
    obtain ⟨rfl, hlt, hrest⟩ := h
    exact hlt.le.trans (ih hrest)

theorem bounds (h : Tiles start finish a windows b) :
    ∀ window ∈ windows, a ≤ start window ∧ start window < finish window ∧ finish window ≤ b := by
  induction windows generalizing a with
  | nil => simp
  | cons first rest ih =>
    obtain ⟨rfl, hlt, hrest⟩ := h
    intro window hmem
    rcases List.mem_cons.mp hmem with rfl | hmem
    · exact ⟨le_rfl, hlt, hrest.le⟩
    · obtain ⟨hle, hwindow, hend⟩ := ih hrest window hmem
      exact ⟨hlt.le.trans hle, hwindow, hend⟩

theorem pairwise (h : Tiles start finish a windows b) :
    windows.Pairwise fun first second => finish first ≤ start second := by
  induction windows generalizing a with
  | nil => exact .nil
  | cons first rest ih =>
    obtain ⟨-, -, hrest⟩ := h
    exact .cons (fun window hmem => (hrest.bounds window hmem).1) (ih hrest)

theorem exists_contains (h : Tiles start finish a windows b) (hfrom : a ≤ t) (hto : t < b) :
    ∃ window ∈ windows, Contains start finish window t := by
  induction windows generalizing a with
  | nil =>
    cases h
    exact absurd hto (not_lt.mpr hfrom)
  | cons first rest ih =>
    obtain ⟨rfl, -, hrest⟩ := h
    rcases lt_or_ge t (finish first) with hlt | hle
    · exact ⟨first, List.mem_cons_self, hfrom, hlt⟩
    · obtain ⟨window, hmem, hcontains⟩ := ih hrest hle
      exact ⟨window, List.mem_cons_of_mem _ hmem, hcontains⟩

theorem eq_of_contains (h : Tiles start finish a windows b) {other : σ} (hwindow : window ∈ windows)
    (hother : other ∈ windows) (hcontains : Contains start finish window t)
    (hcontains' : Contains start finish other t) : other = window := by
  have hapart : ∀ {first second : σ}, finish first ≤ start second →
      Contains start finish first t → ¬Contains start finish second t :=
    fun hle hfirst hsecond => absurd (hfirst.2.trans_le (hle.trans hsecond.1)) (lt_irrefl t)
  by_contra hne
  rcases List.pairwise_iff_getElem.mp h.pairwise with hpairs
  obtain ⟨i, hi, rfl⟩ := List.getElem_of_mem hwindow
  obtain ⟨j, hj, rfl⟩ := List.getElem_of_mem hother
  rcases lt_trichotomy i j with hlt | rfl | hlt
  · exact hapart (hpairs i j hi hj hlt) hcontains hcontains'
  · exact hne rfl
  · exact hapart (hpairs j i hj hi hlt) hcontains' hcontains

end Tiles

/-! ### Bisection -/

/-- The search between `lower` and `upper` for the first index that the test refuses. -/
def bisect (test : ℕ → Bool) (lower upper : ℕ) : ℕ :=
  if lower < upper then
    let middle := (lower + upper) / 2
    if test middle then bisect test (middle + 1) upper else bisect test lower middle
  else lower
  termination_by upper - lower

theorem bisect_spec {test : ℕ → Bool} {n : ℕ}
    (hanti : ∀ i j, i ≤ j → j < n → test j = true → test i = true) {lower upper : ℕ}
    (hle : lower ≤ upper) (hupper : upper ≤ n) (hlow : ∀ i < lower, test i = true)
    (hhigh : ∀ i, upper ≤ i → i < n → test i = false) :
    bisect test lower upper ≤ n ∧ (∀ i < bisect test lower upper, test i = true) ∧
      ∀ i, bisect test lower upper ≤ i → i < n → test i = false := by
  fun_induction bisect test lower upper with
  | case1 lower upper hlt middle htest ih =>
    refine ih (by omega) hupper (fun i hi => ?_) hhigh
    exact hanti i middle (by omega) (by omega) htest
  | case2 lower upper hlt middle htest ih =>
    refine ih (by omega) (by omega) hlow fun i hi hn => ?_
    by_contra htrue
    rw [Bool.not_eq_false] at htrue
    exact htest (hanti middle i hi hn htrue)
  | case3 lower upper hnot =>
    have heq : lower = upper := by omega
    subst heq
    exact ⟨hupper, hlow, hhigh⟩

/-- **The bisection finds the window of a point**: the last one that starts at the point or
before it. -/
theorem Tiles.bisect_spec (h : Tiles start finish a windows b) (hfrom : a ≤ t) (hto : t < b)
    {test : ℕ → Bool} (htest : ∀ i (hi : i < windows.length),
      test i = true ↔ start windows[i] ≤ t) :
    ∃ i, ∃ hi : i < windows.length, bisect test 0 windows.length = i + 1 ∧
      Contains start finish windows[i] t := by
  have hpairs := List.pairwise_iff_getElem.mp h.pairwise
  have hmono : ∀ i j (hi : i < windows.length) (hj : j < windows.length), i ≤ j →
      start windows[i] ≤ start windows[j] := by
    intro i j hi hj hij
    rcases hij.eq_or_lt with rfl | hlt
    · exact le_rfl
    · exact (h.bounds _ (List.getElem_mem hi)).2.1.le.trans (hpairs i j hi hj hlt)
  have hanti : ∀ i j, i ≤ j → j < windows.length → test j = true → test i = true := by
    intro i j hij hj htrue
    have hi := hij.trans_lt hj
    exact (htest i hi).mpr ((hmono i j hi hj hij).trans ((htest j hj).mp htrue))
  obtain ⟨hle, hlow, hhigh⟩ := Windows.bisect_spec hanti (Nat.zero_le _) le_rfl
    (fun i hi => absurd hi (Nat.not_lt_zero i)) (fun i hi hn => absurd hn (not_lt.mpr hi))
  -- the window of the point is the last one that the test accepts
  obtain ⟨window, hmem, hcontains⟩ := h.exists_contains hfrom hto
  obtain ⟨i, hi, rfl⟩ := List.getElem_of_mem hmem
  refine ⟨i, hi, ?_, hcontains⟩
  have haccepted : i < bisect test 0 windows.length := by
    by_contra hnot
    have hfalse := hhigh i (not_lt.mp hnot) hi
    rw [(htest i hi).mpr hcontains.1] at hfalse
    cases hfalse
  have hlast : bisect test 0 windows.length ≤ i + 1 := by
    by_contra hnot
    have hnext : i + 1 < windows.length := by omega
    have hstart := (htest (i + 1) hnext).mp (hlow (i + 1) (not_le.mp hnot))
    exact absurd (hcontains.2.trans_le (hpairs i (i + 1) hi hnext (Nat.lt_succ_self i)))
      (not_lt.mpr hstart)
  omega

/-! ### Residue classes -/

section Residues

variable {anchor cadence start finish t : ℤ}

/-- The first point at `start` or after it in the class of the anchor. -/
def firstResidue (anchor cadence start : ℤ) : ℤ :=
  anchor + -(-(start - anchor) / cadence) * cadence

/-- How many points of the class there are before `finish`. -/
def residueCount (anchor cadence start finish : ℤ) : ℕ :=
  if finish ≤ firstResidue anchor cadence start then 0
  else ((finish - firstResidue anchor cadence start - 1) / cadence + 1).toNat

def residues (anchor cadence start finish : ℤ) : List ℤ :=
  (List.range (residueCount anchor cadence start finish)).map fun ordinal : ℕ =>
    firstResidue anchor cadence start + ordinal * cadence

theorem dvd_firstResidue : cadence ∣ firstResidue anchor cadence start - anchor := by
  rw [firstResidue, add_sub_cancel_left]
  exact Dvd.intro_left _ rfl

theorem le_firstResidue (hcadence : 0 < cadence) : start ≤ firstResidue anchor cadence start := by
  have hmul := Int.ediv_mul_le (-(start - anchor)) hcadence.ne'
  rw [firstResidue, neg_mul]
  omega

theorem firstResidue_lt (hcadence : 0 < cadence) :
    firstResidue anchor cadence start < start + cadence := by
  have hmod := Int.emod_lt_of_pos (-(start - anchor)) hcadence
  have hdiv := Int.mul_ediv_add_emod (-(start - anchor)) cadence
  rw [mul_comm] at hdiv
  rw [firstResidue, neg_mul]
  omega

theorem mem_residues (hcadence : 0 < cadence) :
    t ∈ residues anchor cadence start finish ↔
      start ≤ t ∧ t < finish ∧ cadence ∣ t - anchor := by
  have hle : start ≤ firstResidue anchor cadence start := le_firstResidue hcadence
  have hlt : firstResidue anchor cadence start < start + cadence := firstResidue_lt hcadence
  have hdvd : cadence ∣ firstResidue anchor cadence start - anchor := dvd_firstResidue
  unfold residues residueCount
  generalize firstResidue anchor cadence start = first at *
  simp only [List.mem_map, List.mem_range]
  constructor
  · rintro ⟨ordinal, hordinal, rfl⟩
    split at hordinal
    · exact absurd hordinal (Nat.not_lt_zero _)
    · next hfinish =>
      have hcount : (ordinal : ℤ) ≤ (finish - first - 1) / cadence := by omega
      have hmul := (Int.le_ediv_iff_mul_le hcadence).mp hcount
      have hnonneg : 0 ≤ (ordinal : ℤ) * cadence := by positivity
      refine ⟨by omega, by omega, ?_⟩
      rw [add_sub_right_comm]
      exact dvd_add hdvd (Dvd.intro_left _ rfl)
  · rintro ⟨hstart, hfinish, hclass⟩
    obtain ⟨k, hk⟩ : cadence ∣ t - first := by
      have hsub := dvd_sub hclass hdvd
      rwa [sub_sub_sub_cancel_right] at hsub
    have hknonneg : 0 ≤ k := by
      by_contra hneg
      have hmul : cadence * k ≤ cadence * (-1) := by
        apply Int.mul_le_mul_of_nonneg_left _ hcadence.le
        omega
      omega
    have hfirst : ¬finish ≤ first := by
      have hmul : 0 ≤ cadence * k := by positivity
      omega
    have hcount : k ≤ (finish - first - 1) / cadence := by
      rw [Int.le_ediv_iff_mul_le hcadence, mul_comm]
      omega
    refine ⟨k.toNat, ?_, ?_⟩
    · rw [if_neg hfirst]
      omega
    · rw [Int.toNat_of_nonneg hknonneg, mul_comm]
      omega

theorem pairwise_residues (hcadence : 0 < cadence) :
    (residues anchor cadence start finish).Pairwise (· < ·) := by
  unfold residues
  refine List.pairwise_map.mpr (List.pairwise_lt_range.imp fun {i j} hlt => ?_)
  have hcast : (i : ℤ) + 1 ≤ j := by exact_mod_cast hlt
  nlinarith

end Residues

end Windows
