import Aats.Lib.Runs
import Mathlib.Algebra.BigOperators.Group.List.Basic
import Mathlib.Algebra.Order.Field.Basic
import Mathlib.Tactic.Linarith
import Mathlib.Tactic.Ring

/-!
# A queue of amounts

Amounts that enter a queue at its end and are taken from its front, in parts: an entry goes when no more
than a tolerance is left of it. A list of moves is first in, first out exactly if the queue takes it.

## Main definitions
* `Move`, `State`, `step` — entering and taking, the queue with those who are gone, and one move.

## Main results
* `entered_eq` — **entries go in the order in which they came**.
* `accounted_run` — **what came in is what was taken and what is left**; of those who are gone at most
  the tolerance was not taken, and nothing is taken of those behind the first.
-/

namespace FifoQueue

inductive Move (α K : Type*)
  | enter (id : α) (amount : K)
  | take (id : α) (amount : K)
  deriving DecidableEq

/-- The entries with what is left of them, first those that came first, and those who are gone. -/
structure State (α K : Type*) where
  queue : List (α × K) := []
  gone : List α := []
  deriving DecidableEq

/-! ### What the moves say of an entry -/

def entered {α K : Type*} : List (Move α K) → List α
  | [] => []
  | .enter id _ :: moves => id :: entered moves
  | .take _ _ :: moves => entered moves

theorem entered_append {α K : Type*} (moves more : List (Move α K)) :
    entered (moves ++ more) = entered moves ++ entered more := by
  induction moves with
  | nil => rfl
  | cons move moves ih =>
    cases move with
    | enter id amount => rw [List.cons_append, entered, entered, ih, List.cons_append]
    | take id amount => rw [List.cons_append, entered, entered, ih]

section Amounts

variable {α K : Type*} [DecidableEq α] [Field K]

def Move.brings (id : α) : Move α K → K
  | .enter other amount => if other = id then amount else 0
  | .take _ _ => 0

def Move.takes (id : α) : Move α K → K
  | .enter _ _ => 0
  | .take other amount => if other = id then amount else 0

def amountIn (id : α) (moves : List (Move α K)) : K := (moves.map (Move.brings id)).sum

def amountOut (id : α) (moves : List (Move α K)) : K := (moves.map (Move.takes id)).sum

variable {amount : K} {id other : α} {moves : List (Move α K)}

theorem takes_of_ne (h : other ≠ id) (amount : K) : (Move.take other amount).takes id = 0 := if_neg h

theorem brings_of_ne (h : other ≠ id) (amount : K) : (Move.enter other amount).brings id = 0 :=
  if_neg h

theorem amountIn_concat (id : α) (moves : List (Move α K)) (move : Move α K) :
    amountIn id (moves ++ [move]) = amountIn id moves + move.brings id := by
  simp [amountIn]

theorem amountOut_concat (id : α) (moves : List (Move α K)) (move : Move α K) :
    amountOut id (moves ++ [move]) = amountOut id moves + move.takes id := by
  simp [amountOut]

theorem amountIn_of_not_mem (h : id ∉ entered moves) : amountIn id moves = 0 := by
  induction moves with
  | nil => rfl
  | cons move moves ih =>
    cases move with
    | enter other amount =>
      rw [entered, List.mem_cons, not_or] at h
      have hrest : amountIn id moves = 0 := ih h.2
      unfold amountIn at hrest ⊢
      rw [List.map_cons, List.sum_cons, hrest, add_zero]
      exact if_neg (Ne.symm h.1)
    | take other amount =>
      have hrest : amountIn id moves = 0 := ih h
      unfold amountIn at hrest ⊢
      rw [List.map_cons, List.sum_cons, hrest, add_zero]
      rfl

end Amounts

/-! ### The queue -/

variable {α K : Type*} [DecidableEq α] [Field K] [LinearOrder K]

/-- One move; only what the first entry has can be taken. -/
def step (tolerance : K) (state : State α K) : Move α K → Option (State α K)
  | .enter id amount => some { state with queue := state.queue ++ [(id, amount)] }
  | .take id amount =>
    match state.queue with
    | [] => none
    | (first, held) :: rest =>
      if first = id ∧ 0 < amount ∧ amount ≤ held then
        if held - amount ≤ tolerance then some { queue := rest, gone := state.gone ++ [first] }
        else some { state with queue := (first, held - amount) :: rest }
      else none

variable {tolerance amount held : K} {id : α} {moves : List (Move α K)} {state next : State α K}

theorem step_take_cases (h : step tolerance state (.take id amount) = some next) :
    ∃ held rest, state.queue = (id, held) :: rest ∧ 0 < amount ∧ amount ≤ held ∧
      ((held - amount ≤ tolerance ∧ next = { queue := rest, gone := state.gone ++ [id] }) ∨
        (tolerance < held - amount ∧ next = { state with queue := (id, held - amount) :: rest })) := by
  unfold step at h
  dsimp only at h
  split at h
  · cases h
  · next first held rest hqueue =>
    split at h
    · next hfirst =>
      obtain ⟨rfl, hpos, hle⟩ := hfirst
      refine ⟨held, rest, hqueue, hpos, hle, ?_⟩
      split at h
      · next hdone => exact .inl ⟨hdone, (Option.some.inj h).symm⟩
      · next hmore => exact .inr ⟨not_le.mp hmore, (Option.some.inj h).symm⟩
    · cases h

theorem entered_eq (h : Runs.run (step tolerance) {} moves = some state) :
    state.gone ++ state.queue.map Prod.fst = entered moves := by
  induction moves using List.reverseRecOn generalizing state with
  | nil =>
    rw [Runs.run_nil, Option.some.injEq] at h
    subst h
    rfl
  | append_singleton moves move ih =>
    obtain ⟨before, hbefore, hstep⟩ := Runs.run_concat_eq_some.mp h
    rw [entered_append, ← ih hbefore]
    cases move with
    | enter id amount =>
      obtain rfl := Option.some.inj hstep
      simp [entered]
    | take id amount =>
      obtain ⟨held, rest, hqueue, -, -, ⟨-, rfl⟩ | ⟨-, rfl⟩⟩ := step_take_cases hstep
      · simp [hqueue, entered]
      · simp [hqueue, entered]

/-- What the moves so far say of the entries. -/
structure Accounted (tolerance : K) (moves : List (Move α K)) (state : State α K) : Prop where
  kept : ∀ entry ∈ state.queue, amountIn entry.1 moves = amountOut entry.1 moves + entry.2
  spent : ∀ id ∈ state.gone,
    amountOut id moves ≤ amountIn id moves ∧ amountIn id moves ≤ amountOut id moves + tolerance
  untouched : ∀ entry ∈ state.queue.tail, amountOut entry.1 moves = 0
  unknown : ∀ id ∉ entered moves, amountOut id moves = 0

section Steps

variable (h : Accounted tolerance moves state)
  (horder : state.gone ++ state.queue.map Prod.fst = entered moves)
include h horder

theorem accounted_enter (hfresh : id ∉ entered moves) :
    Accounted tolerance (moves ++ [.enter id amount])
      { state with queue := state.queue ++ [(id, amount)] } := by
  have hout : ∀ x, amountOut x (moves ++ [.enter id amount]) = amountOut x moves := by
    intro x
    rw [amountOut_concat]
    exact add_zero _
  have hin : ∀ x ∈ entered moves, amountIn x (moves ++ [.enter id amount]) = amountIn x moves := by
    intro x hx
    rw [amountIn_concat, brings_of_ne (by rintro rfl; exact hfresh hx), add_zero]
  have hold : ∀ entry ∈ state.queue, entry.1 ∈ entered moves := by
    intro entry hmem
    rw [← horder]
    exact List.mem_append_right _ (List.mem_map_of_mem hmem)
  refine ⟨?_, ?_, ?_, ?_⟩
  · intro entry hmem
    rw [hout]
    rcases List.mem_append.mp hmem with hmem | hmem
    · rw [hin _ (hold entry hmem)]
      exact h.kept entry hmem
    · rw [List.mem_singleton.mp hmem, amountIn_concat, amountIn_of_not_mem hfresh,
        h.unknown id hfresh]
      exact congrArg (0 + ·) (if_pos rfl)
  · intro x hmem
    rw [hout, hin x (horder ▸ List.mem_append_left _ hmem)]
    exact h.spent x hmem
  · intro entry hmem
    rw [hout]
    cases hqueue : state.queue with
    | nil =>
      rw [hqueue] at hmem
      exact absurd hmem List.not_mem_nil
    | cons first rest =>
      rw [hqueue, List.cons_append, List.tail_cons] at hmem
      rcases List.mem_append.mp hmem with hmem | hmem
      · exact h.untouched entry (by rwa [hqueue])
      · rw [List.mem_singleton.mp hmem]
        exact h.unknown id hfresh
  · intro x hx
    rw [entered_append, List.mem_append, not_or] at hx
    rw [hout]
    exact h.unknown x hx.1

variable [IsStrictOrderedRing K] (hnodup : (entered moves).Nodup) {rest : List (α × K)}
  (hqueue : state.queue = (id, held) :: rest)
include hnodup hqueue

theorem accounted_take (hle : amount ≤ held) :
    (held - amount ≤ tolerance →
      Accounted tolerance (moves ++ [.take id amount]) { queue := rest, gone := state.gone ++ [id] }) ∧
    Accounted tolerance (moves ++ [.take id amount])
      { state with queue := (id, held - amount) :: rest } := by
  have hin : ∀ x, amountIn x (moves ++ [.take id amount]) = amountIn x moves := by
    intro x
    rw [amountIn_concat]
    exact add_zero _
  have hout : ∀ x ≠ id, amountOut x (moves ++ [.take id amount]) = amountOut x moves := by
    intro x hx
    rw [amountOut_concat, takes_of_ne hx.symm, add_zero]
  have hself : amountOut id (moves ++ [.take id amount]) = amountOut id moves + amount := by
    rw [amountOut_concat]
    exact congrArg (_ + ·) (if_pos rfl)
  have hkept := h.kept (id, held) (hqueue ▸ List.mem_cons_self)
  dsimp only at hkept
  rw [hqueue, List.map_cons] at horder
  rw [← horder, List.nodup_append, List.nodup_cons] at hnodup
  obtain ⟨-, ⟨hid, -⟩, hdisjoint⟩ := hnodup
  have hrest : ∀ entry ∈ rest, entry.1 ≠ id :=
    fun entry hmem heq => hid (List.mem_map.mpr ⟨entry, hmem, heq⟩)
  have hgone : ∀ x ∈ state.gone, x ≠ id :=
    fun x hmem heq => hdisjoint x hmem id List.mem_cons_self heq
  have hentered : id ∈ entered moves := by
    rw [← horder]
    exact List.mem_append_right _ List.mem_cons_self
  have huntouched : ∀ entry ∈ rest, amountOut entry.1 (moves ++ [.take id amount]) = 0 := by
    intro entry hmem
    rw [hout _ (hrest entry hmem)]
    exact h.untouched entry (by rwa [hqueue])
  have hothers : ∀ entry ∈ rest,
      amountIn entry.1 (moves ++ [.take id amount]) =
        amountOut entry.1 (moves ++ [.take id amount]) + entry.2 := by
    intro entry hmem
    rw [hin, hout _ (hrest entry hmem)]
    exact h.kept entry (hqueue ▸ List.mem_cons_of_mem _ hmem)
  have hspent : ∀ x ∈ state.gone,
      amountOut x (moves ++ [.take id amount]) ≤ amountIn x (moves ++ [.take id amount]) ∧
        amountIn x (moves ++ [.take id amount]) ≤
          amountOut x (moves ++ [.take id amount]) + tolerance := by
    intro x hmem
    rw [hin, hout x (hgone x hmem)]
    exact h.spent x hmem
  have hunknown : ∀ x ∉ entered (moves ++ [.take id amount]),
      amountOut x (moves ++ [.take id amount]) = 0 := by
    intro x hx
    have hx' : x ∉ entered moves := by
      rw [entered_append] at hx
      exact fun hmem => hx (List.mem_append_left _ hmem)
    rw [hout x (fun heq => hx' (heq ▸ hentered))]
    exact h.unknown x hx'
  refine ⟨fun hdone => ⟨hothers, ?_, ?_, hunknown⟩, ⟨?_, hspent, huntouched, hunknown⟩⟩
  · intro x hmem
    rcases List.mem_append.mp hmem with hmem | hmem
    · exact hspent x hmem
    · rw [List.mem_singleton.mp hmem, hin, hself, hkept]
      constructor <;> linarith
  · intro entry hmem
    exact huntouched entry (List.mem_of_mem_tail hmem)
  · intro entry hmem
    rcases List.mem_cons.mp hmem with rfl | hmem
    · show amountIn id _ = amountOut id _ + (held - amount)
      rw [hin, hself, hkept]
      ring
    · exact hothers entry hmem

end Steps

theorem accounted_run [IsStrictOrderedRing K] (h : Runs.run (step tolerance) {} moves = some state)
    (hnodup : (entered moves).Nodup) : Accounted tolerance moves state := by
  induction moves using List.reverseRecOn generalizing state with
  | nil =>
    rw [Runs.run_nil, Option.some.injEq] at h
    subst h
    exact ⟨fun _ hmem => absurd hmem List.not_mem_nil, fun _ hmem => absurd hmem List.not_mem_nil,
      fun _ hmem => absurd hmem List.not_mem_nil, fun _ _ => rfl⟩
  | append_singleton moves move ih =>
    obtain ⟨before, hbefore, hstep⟩ := Runs.run_concat_eq_some.mp h
    have horder := entered_eq hbefore
    rw [entered_append, List.nodup_append] at hnodup
    have haccounted := ih hbefore hnodup.1
    cases move with
    | enter id amount =>
      obtain rfl := Option.some.inj hstep
      refine accounted_enter haccounted horder fun hmem => ?_
      exact hnodup.2.2 id hmem id List.mem_cons_self rfl
    | take id amount =>
      obtain ⟨held, rest, hqueue, -, hle, ⟨hdone, rfl⟩ | ⟨-, rfl⟩⟩ := step_take_cases hstep
      · exact (accounted_take haccounted horder hnodup.1 hqueue hle).1 hdone
      · exact (accounted_take haccounted horder hnodup.1 hqueue hle).2

end FifoQueue
