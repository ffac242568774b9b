import Mathlib.Data.List.Basic

/-!
# Guarded checks

A list of checks, each a condition with what it reports when it holds, evaluated in order.

## Main results
* `mem_raised`, `raised_eq_nil` — a report is raised by the checks whose condition holds, and
  nothing is raised when none holds.
-/

namespace Checks

variable {ρ : Type*}

def raised (checks : List (Bool × ρ)) : List ρ := (checks.filter (·.1)).map (·.2)

@[simp] theorem raised_nil : raised ([] : List (Bool × ρ)) = [] := rfl

@[simp] theorem raised_cons (condition : Bool) (report : ρ) (checks : List (Bool × ρ)) :
    raised ((condition, report) :: checks) =
      if condition then report :: raised checks else raised checks := by
  cases condition with
  | true => simp [raised]
  | false => simp [raised]

theorem mem_raised {report : ρ} {checks : List (Bool × ρ)} :
    report ∈ raised checks ↔ (true, report) ∈ checks := by
  unfold raised
  constructor
  · intro h
    obtain ⟨⟨condition, reported⟩, hmem, rfl⟩ := List.mem_map.mp h
    obtain ⟨hmem, hcondition⟩ := List.mem_filter.mp hmem
    simp only at hcondition
    rwa [hcondition] at hmem
  · intro h
    exact List.mem_map.mpr ⟨(true, report), List.mem_filter.mpr ⟨h, rfl⟩, rfl⟩

theorem raised_eq_nil {checks : List (Bool × ρ)} :
    raised checks = [] ↔ ∀ check ∈ checks, check.1 = false := by
  simp [raised, List.filter_eq_nil_iff]

end Checks
