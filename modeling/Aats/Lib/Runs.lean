import Mathlib.Data.List.Induction

/-!
# Runs of a labelled machine

A machine is a partial step function `step : σ → ℓ → Option σ`: the label says which
party moves and what the environment answers, and `none` means that the label is not
enabled.  `run` folds a list of labels, `Meets` says that every step of a run was taken
in a state and with a label that satisfy a side condition, and the invariant rules turn
a fact about one step into a fact about every state of every run.

## Main definitions
* `run step s ls` — the state reached from `s` by the labels `ls`.
* `Meets step ok s ls` — every step of that run meets `ok`.

## Main results
* `run_invariant` — what every step keeps, every run keeps.
* `run_invariant_of_meets` — the same when the steps are only known to keep it under `ok`.
* `meets_iff_throughout` — the same when they keep it exactly under `ok`.
* `forall_prefix_iff` — a property of histories holds throughout one exactly if every entry of it
  keeps the property.
-/

namespace Runs

variable {σ ℓ : Type*}

/-- One party, and two or three, are numbered by literals. -/
scoped instance (priority := high) neZeroOne : @NeZero ℕ Zero.ofOfNat0 1 := ⟨Nat.one_ne_zero⟩

scoped instance (priority := high) neZeroTwo : @NeZero ℕ Zero.ofOfNat0 2 := ⟨Nat.succ_ne_zero 1⟩

scoped instance (priority := high) neZeroThree : @NeZero ℕ Zero.ofOfNat0 3 := ⟨Nat.succ_ne_zero 2⟩

/-! ### Runs -/

/-- The state a run of labels leads to; `none` when a label is not enabled. -/
def run (step : σ → ℓ → Option σ) : σ → List ℓ → Option σ
  | s, [] => some s
  | s, l :: ls =>
    match step s l with
    | none => none
    | some t => run step t ls

/-- Every step of the run is taken in a state and with a label that satisfy `ok`. -/
def Meets (step : σ → ℓ → Option σ) (ok : σ → ℓ → Prop) : σ → List ℓ → Prop
  | _, [] => True
  | s, l :: ls =>
    ok s l ∧
      match step s l with
      | none => True
      | some t => Meets step ok t ls

variable {step : σ → ℓ → Option σ} {ok : σ → ℓ → Prop} {I : σ → Prop}

@[simp] theorem run_nil (s : σ) : run step s [] = some s := rfl

theorem run_cons_eq_some {s t : σ} {l : ℓ} {ls : List ℓ} :
    run step s (l :: ls) = some t ↔ ∃ u, step s l = some u ∧ run step u ls = some t := by
  cases h : step s l with
  | none => simp [run, h]
  | some u => simp [run, h]

theorem run_append {s t : σ} {before after : List ℓ} (h : run step s before = some t) :
    run step s (before ++ after) = run step t after := by
  induction before generalizing s with
  | nil =>
    rw [run_nil, Option.some.injEq] at h
    rw [h, List.nil_append]
  | cons l before ih =>
    obtain ⟨u, hu, hrest⟩ := run_cons_eq_some.mp h
    rw [List.cons_append, run, hu]
    exact ih hrest

theorem run_append_eq_some {s t : σ} {before after : List ℓ} :
    run step s (before ++ after) = some t ↔
      ∃ u, run step s before = some u ∧ run step u after = some t := by
  induction before generalizing s with
  | nil => simp
  | cons l before ih =>
    rw [List.cons_append, run_cons_eq_some]
    simp only [ih, run_cons_eq_some]
    constructor
    · rintro ⟨u, hu, v, hv, ht⟩
      exact ⟨v, ⟨u, hu, hv⟩, ht⟩
    · rintro ⟨v, ⟨u, hu, hv⟩, ht⟩
      exact ⟨u, hu, v, hv, ht⟩

theorem run_concat_eq_some {s t : σ} {l : ℓ} {ls : List ℓ} :
    run step s (ls ++ [l]) = some t ↔ ∃ u, run step s ls = some u ∧ step u l = some t := by
  rw [run_append_eq_some]
  simp [run_cons_eq_some]

@[simp] theorem meets_nil (s : σ) : Meets step ok s [] := trivial

theorem meets_cons {s t : σ} {l : ℓ} {ls : List ℓ} (h : step s l = some t) :
    Meets step ok s (l :: ls) ↔ ok s l ∧ Meets step ok t ls := by
  simp [Meets, h]

theorem meets_of_forall {s : σ} {ls : List ℓ} (h : ∀ l ∈ ls, ∀ t, ok t l) :
    Meets step ok s ls := by
  induction ls generalizing s with
  | nil => exact trivial
  | cons l ls ih =>
    refine ⟨h l List.mem_cons_self s, ?_⟩
    cases step s l with
    | none => exact trivial
    | some t => exact ih fun m hm => h m (List.mem_cons_of_mem _ hm)

theorem meets_append {s t : σ} {before after : List ℓ} (h : run step s before = some t) :
    Meets step ok s (before ++ after) ↔ Meets step ok s before ∧ Meets step ok t after := by
  induction before generalizing s with
  | nil =>
    rw [run_nil, Option.some.injEq] at h
    rw [h, List.nil_append]
    exact (iff_of_eq (true_and _)).symm
  | cons l before ih =>
    obtain ⟨u, hu, hrest⟩ := run_cons_eq_some.mp h
    rw [List.cons_append, meets_cons hu, meets_cons hu, ih hrest, and_assoc]

instance decidableMeets [∀ s l, Decidable (ok s l)] :
    ∀ (s : σ) (ls : List ℓ), Decidable (Meets step ok s ls)
  | _, [] => .isTrue trivial
  | s, l :: ls =>
    match h : step s l with
    | none => decidable_of_iff (ok s l) (by simp [Meets, h])
    | some t =>
      have := decidableMeets t ls
      decidable_of_iff (ok s l ∧ Meets step ok t ls) (meets_cons h).symm

/-! ### Invariant rules -/

theorem run_invariant_of_meets (hstep : ∀ s l t, I s → ok s l → step s l = some t → I t)
    {s t : σ} {ls : List ℓ} (hs : I s) (hm : Meets step ok s ls) (hr : run step s ls = some t) :
    I t := by
  induction ls generalizing s with
  | nil =>
    rw [run_nil, Option.some.injEq] at hr
    exact hr ▸ hs
  | cons l ls ih =>
    obtain ⟨u, hu, hr'⟩ := run_cons_eq_some.mp hr
    obtain ⟨hok, hm'⟩ := (meets_cons hu).mp hm
    exact ih (hstep s l u hs hok hu) hm' hr'

theorem run_invariant (hstep : ∀ s l t, I s → step s l = some t → I t)
    {s t : σ} {ls : List ℓ} (hs : I s) (hr : run step s ls = some t) : I t := by
  induction ls generalizing s with
  | nil =>
    rw [run_nil, Option.some.injEq] at hr
    exact hr ▸ hs
  | cons l ls ih =>
    obtain ⟨u, hu, hr'⟩ := run_cons_eq_some.mp hr
    exact ih (hstep s l u hs hu) hr'

theorem meets_iff_throughout (hstep : ∀ s l t, I s → step s l = some t → (I t ↔ ok s l))
    {s t : σ} {ls : List ℓ} (hs : I s) (hr : run step s ls = some t) :
    Meets step ok s ls ↔
      ∀ before after u, ls = before ++ after → run step s before = some u → I u := by
  constructor
  · rintro hm before after u rfl hu
    exact run_invariant_of_meets (fun s l t hi hok hst => (hstep s l t hi hst).mpr hok) hs
      ((meets_append hu).mp hm).1 hu
  · intro h
    induction ls generalizing s with
    | nil => exact trivial
    | cons l ls ih =>
      obtain ⟨u, hu, hrest⟩ := run_cons_eq_some.mp hr
      have hi : I u := h [l] ls u rfl (run_cons_eq_some.mpr ⟨u, hu, rfl⟩)
      refine (meets_cons hu).mpr ⟨(hstep s l u hs hu).mp hi, ih hi hrest ?_⟩
      intro before after v hls hv
      exact h (l :: before) after v (by rw [hls, List.cons_append])
        (run_cons_eq_some.mpr ⟨u, hu, hv⟩)

/-! ### Histories -/

/-- What every entry keeps under its condition, and what shows the condition of the last entry: if
`I` carries the argument, then `P` holds of all beginnings of a history exactly if all its entries
meet their condition. -/
theorem forall_prefix_iff {P I : List ℓ → Prop} {ok : List ℓ → ℓ → Prop} {ls : List ℓ}
    (hnil : I []) (hempty : P [])
    (hkeep : ∀ before l after, ls = before ++ l :: after → I before → ok before l →
      I (before ++ [l]))
    (hlast : ∀ before l after, ls = before ++ l :: after → I before →
      (P (before ++ [l]) ↔ ok before l)) :
    (∀ before after, ls = before ++ after → P before) ↔
      ∀ before l after, ls = before ++ l :: after → ok before l := by
  constructor
  · intro h
    have hP : ∀ before l after, ls = before ++ l :: after → P (before ++ [l]) :=
      fun before l after hls => h (before ++ [l]) after (by simpa using hls)
    have hI : ∀ before after, ls = before ++ after → I before := by
      intro before
      induction before using List.reverseRecOn with
      | nil => exact fun _ _ => hnil
      | append_singleton before l ih =>
        intro after hls
        rw [List.append_assoc, List.singleton_append] at hls
        have hbefore := ih (l :: after) hls
        exact hkeep before l after hls hbefore
          ((hlast before l after hls hbefore).mp (hP before l after hls))
    intro before l after hls
    exact (hlast before l after hls (hI before _ hls)).mp (hP before l after hls)
  · intro h
    have hI : ∀ before after, ls = before ++ after → I before := by
      intro before
      induction before using List.reverseRecOn with
      | nil => exact fun _ _ => hnil
      | append_singleton before l ih =>
        intro after hls
        rw [List.append_assoc, List.singleton_append] at hls
        exact hkeep before l after hls (ih _ hls) (h before l after hls)
    intro before after hls
    cases before using List.reverseRecOn with
    | nil => exact hempty
    | append_singleton before l =>
      rw [List.append_assoc, List.singleton_append] at hls
      exact (hlast before l after hls (hI before _ hls)).mpr (h before l after hls)

end Runs
