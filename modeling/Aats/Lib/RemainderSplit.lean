import Mathlib.Algebra.BigOperators.Group.List.Basic
import Mathlib.Tactic.Linarith
import Mathlib.Tactic.Ring

/-!
# A sum split into rounded parts

Every part is rounded on its own, but for the last one, which takes what the others leave.

## Main definitions
* `split round rest parts` — the shares of the parts in `rest`.

## Main results
* `forall₂_split` — **each is off by at most the errors of all roundings**.
-/

namespace RemainderSplit

variable {K : Type*} [CommRing K]

def split (round : K → K) : K → List K → List K
  | _, [] => []
  | rest, [_] => [rest]
  | rest, part :: next :: parts => round part :: split round (rest - round part) (next :: parts)

variable {round : K → K} {rest part share : K} {parts : List K}

theorem sum_split (part : K) (parts : List K) (rest : K) :
    (split round rest (part :: parts)).sum = rest := by
  induction parts generalizing part rest with
  | nil => simp [split]
  | cons next parts ih =>
    rw [split, List.sum_cons, ih, add_sub_cancel]

theorem length_split (rest : K) (parts : List K) :
    (split round rest parts).length = parts.length := by
  fun_induction split round rest parts with
  | case1 => rfl
  | case2 => rfl
  | case3 rest part next parts ih => rw [List.length_cons, ih, List.length_cons, List.length_cons, List.length_cons]

theorem mem_dropLast_split (h : share ∈ (split round rest parts).dropLast) :
    ∃ part ∈ parts, share = round part := by
  fun_induction split round rest parts with
  | case1 => simp at h
  | case2 => simp at h
  | case3 rest part next parts ih =>
    have hne : split round (rest - round part) (next :: parts) ≠ [] := by
      intro hnil
      simpa [hnil] using @length_split _ _ round (rest - round part) (next :: parts)
    rw [List.dropLast_cons_of_ne_nil hne, List.mem_cons] at h
    obtain rfl | h := h
    · exact ⟨part, List.mem_cons_self, rfl⟩
    · obtain ⟨other, hmem, rfl⟩ := ih h
      exact ⟨other, List.mem_cons_of_mem _ hmem, rfl⟩

theorem split_zero (hround : round 0 = 0) (hparts : ∀ part ∈ parts, part = 0)
    (h : share ∈ split round 0 parts) : share = 0 := by
  induction parts with
  | nil => simp [split] at h
  | cons part parts ih =>
    cases parts with
    | nil => simpa [split] using h
    | cons next parts =>
      rw [split, hparts part List.mem_cons_self, hround, sub_zero, List.mem_cons] at h
      rcases h with h | h
      · exact h
      · exact ih (fun other hother => hparts other (List.mem_cons_of_mem _ hother)) h

variable [LinearOrder K] [IsStrictOrderedRing K] {ε δ : K}

/-- What is left over and above the parts grows by one rounding error with each of them. -/
theorem forall₂_split (hround : ∀ x, |round x - x| ≤ ε)
    (hrest : |rest - (part :: parts).sum| ≤ δ) :
    List.Forall₂ (fun share part => |share - part| ≤ δ + parts.length * ε)
      (split round rest (part :: parts)) (part :: parts) := by
  have hε : 0 ≤ ε := (abs_nonneg _).trans (hround 0)
  induction parts generalizing part rest δ with
  | nil =>
    refine .cons ?_ .nil
    simpa using hrest
  | cons next parts ih =>
    have hδ : 0 ≤ δ := (abs_nonneg _).trans hrest
    have hlength : 0 ≤ (parts.length : K) * ε := mul_nonneg (Nat.cast_nonneg _) hε
    have hbound : δ + ((next :: parts).length : K) * ε = δ + ε + parts.length * ε := by
      push_cast [List.length_cons]
      ring
    rw [hbound]
    refine .cons ?_ (ih ?_)
    · linarith [hround part]
    · calc |rest - round part - (next :: parts).sum|
          = |(rest - (part :: next :: parts).sum) - (round part - part)| := by
            rw [List.sum_cons (a := part)]
            congr 1
            ring
        _ ≤ |rest - (part :: next :: parts).sum| + |round part - part| := abs_sub _ _
        _ ≤ δ + ε := add_le_add hrest (hround part)

end RemainderSplit
