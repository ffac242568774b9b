import Aats.Lib.Runs
import Mathlib.Data.Fintype.Basic

/-!
# Tasks on a shared state

Any number of tasks that take turns on one shared state.  `advance shared me task input` is what
one task does between two of its await points: it may read and write the shared state and its
own local state, and it sees nothing of the other tasks.

## Main definitions
* `TasksInv` — an invariant of the shared state and one of every task against it.

## Main results
* `tasksInv_step` — a move of one task keeps such an invariant if the mover establishes it for
  itself and does not break it for the others.
-/

namespace Runs

variable {σ τ α : Type*} {n : ℕ}

/-- The shared state and the local states of `n` tasks. -/
structure Tasks (σ τ : Type*) (n : ℕ) where
  shared : σ
  task : Fin n → τ

def tasksStep (advance : σ → ℕ → τ → α → Option (σ × τ)) (s : Tasks σ τ n) (l : Fin n × α) :
    Option (Tasks σ τ n) :=
  match advance s.shared l.1 (s.task l.1) l.2 with
  | none => none
  | some (shared, task) => some { shared := shared, task := Function.update s.task l.1 task }

structure TasksInv (I : σ → Prop) (J : σ → ℕ → τ → Prop) (s : Tasks σ τ n) : Prop where
  shared : I s.shared
  each : ∀ i : Fin n, J s.shared i (s.task i)

variable {advance : σ → ℕ → τ → α → Option (σ × τ)} {I : σ → Prop} {J : σ → ℕ → τ → Prop}

theorem tasksStep_eq_some {s t : Tasks σ τ n} {i : Fin n} {a : α}
    (h : tasksStep advance s (i, a) = some t) :
    ∃ shared task, advance s.shared i (s.task i) a = some (shared, task) ∧
      t = { shared := shared, task := Function.update s.task i task } := by
  unfold tasksStep at h
  split at h
  · cases h
  · next shared task hadv =>
    injection h with h
    exact ⟨shared, task, hadv, h.symm⟩

/-- **A move of one task**: the mover establishes the invariant for itself and keeps it for the
others. -/
theorem tasksInv_step {s : Tasks σ τ n} {i : Fin n} {shared : σ} {task : τ}
    (hshared : I shared) (hmover : J shared i task)
    (hothers : ∀ j : Fin n, j ≠ i → J shared j (s.task j)) :
    TasksInv I J ({ shared := shared, task := Function.update s.task i task } : Tasks σ τ n) := by
  refine ⟨hshared, ?_⟩
  intro j
  show J shared (j : ℕ) (Function.update s.task i task j)
  by_cases hj : j = i
  · subst hj
    rw [Function.update_self]
    exact hmover
  · rw [Function.update_of_ne hj]
    exact hothers j hj

end Runs
