import Mathlib.Tactic.TypeStar

/-!
# Computations that may fail

A computation that checks, computes and hands on, written with `do` in `Except`: what has happened
when it ends well.

## Main definitions
* `raiseIf condition e` — `if condition: raise e`.

## Main results
* `bind_eq_ok` — **a sequence ends well if its first part does, and then the rest on its value**.
* `mapError_eq_ok` — an error that is raised again under another name.
-/

namespace Fallible

variable {ε : Type*} {α β : Type}

theorem bind_eq_ok {x : Except ε α} {f : α → Except ε β} {b : β} :
    x >>= f = .ok b ↔ ∃ a, x = .ok a ∧ f a = .ok b := by
  cases x with
  | error e =>
    refine iff_of_false (fun h => ?_) ?_
    · cases h
    · rintro ⟨a, h, -⟩
      cases h
  | ok a =>
    constructor
    · exact fun h => ⟨a, rfl, h⟩
    · rintro ⟨a, ⟨⟩, h⟩
      exact h

theorem pure_eq_ok {a b : α} : (pure a : Except ε α) = .ok b ↔ a = b := by
  constructor
  · rintro ⟨⟩
    rfl
  · rintro rfl
    rfl

theorem ok_bind (a : α) (f : α → Except ε β) : (Except.ok a >>= f) = f a := rfl

theorem error_bind (e : ε) (f : α → Except ε β) : (Except.error e >>= f) = .error e := rfl

theorem mapError_eq_ok {ε' : Type*} {x : Except ε α} {f : ε → ε'} {a : α} :
    x.mapError f = .ok a ↔ x = .ok a := by
  cases x with
  | error e => exact iff_of_false (by rintro ⟨⟩) (by rintro ⟨⟩)
  | ok b => exact ⟨fun | rfl => rfl, fun | rfl => rfl⟩

/-- `if condition: raise e`. -/
def raiseIf (condition : Prop) [Decidable condition] (e : ε) : Except ε Unit :=
  if condition then .error e else .ok ()

theorem raiseIf_eq_ok {condition : Prop} [Decidable condition] {e : ε} {u : Unit} :
    raiseIf condition e = .ok u ↔ ¬condition := by
  unfold raiseIf
  by_cases h : condition
  · rw [if_pos h]
    exact iff_of_false (by rintro ⟨⟩) (not_not_intro h)
  · rw [if_neg h]
    exact iff_of_true rfl h

theorem raiseIf_of_not {condition : Prop} [Decidable condition] (e : ε) (h : ¬condition) :
    raiseIf condition e = .ok () := raiseIf_eq_ok.mpr h

theorem raiseIf_congr {condition other : Prop} [Decidable condition] [Decidable other] (e : ε)
    (h : condition ↔ other) : raiseIf condition e = raiseIf other e := by
  unfold raiseIf
  simp only [h]

def eachOf (f : α → Except ε Unit) : List α → Except ε Unit
  | [] => .ok ()
  | a :: rest => do
    f a
    eachOf f rest

theorem eachOf_eq_ok {f : α → Except ε Unit} {items : List α} :
    eachOf f items = .ok () ↔ ∀ a ∈ items, f a = .ok () := by
  induction items with
  | nil => simp [eachOf]
  | cons a items ih =>
    rw [eachOf, bind_eq_ok, List.forall_mem_cons, ← ih]
    constructor
    · rintro ⟨⟨⟩, hfirst, hrest⟩
      exact ⟨hfirst, hrest⟩
    · exact fun ⟨hfirst, hrest⟩ => ⟨(), hfirst, hrest⟩

end Fallible
