import Mathlib.Tactic.TypeStar

/-!
# Methods that change a state and may raise

A method of a mutable object as an `EStateM` program: what it assigned before it raises stays
assigned, unless it runs under a handler that puts a checkpoint back.

## Main definitions
* `restoring body` — `try: body` with `except: restore(checkpoint); raise`.
* `Restores x` — a call that raises leaves the state as it was.

## Main results
* `restoring_eq_ok` — the handler does not touch a body that ends well.
* `restores_restoring`, `Restores.lift_bind` — **how a method comes to leave the state alone when it
  raises**: checks first, then a guarded body.
-/

namespace Restoring

variable {ε σ α β : Type}

def lift (x : Except ε α) : EStateM ε σ α := fun s =>
  match x with
  | .ok a => .ok a s
  | .error e => .error e s

/-- `checkpoint = capture()`, then `try: body` with `except: restore(checkpoint); raise`. -/
def restoring (body : EStateM ε σ α) : EStateM ε σ α := do
  let checkpoint ← get
  tryCatch body fun e => do
    set checkpoint
    throw e

def Restores (x : EStateM ε σ α) : Prop :=
  ∀ s e t, x s = .error e t → t = s

variable {s t : σ} {a : α} {b : β}

theorem bind_eq_ok {x : EStateM ε σ α} {f : α → EStateM ε σ β} :
    (x >>= f) s = .ok b t ↔ ∃ a mid, x s = .ok a mid ∧ f a mid = .ok b t := by
  change EStateM.bind x f s = .ok b t ↔ _
  unfold EStateM.bind
  cases x s with
  | error e mid => exact iff_of_false nofun (by rintro ⟨_, _, ⟨⟩, -⟩)
  | ok a mid =>
    constructor
    · exact fun h => ⟨a, mid, rfl, h⟩
    · rintro ⟨_, _, ⟨⟩, h⟩
      exact h

theorem pure_eq_ok {a' : α} : (pure a : EStateM ε σ α) s = .ok a' t ↔ a' = a ∧ t = s := by
  constructor
  · rintro ⟨⟩
    exact ⟨rfl, rfl⟩
  · rintro ⟨rfl, rfl⟩
    rfl

theorem get_eq_ok {a : σ} : (get : EStateM ε σ σ) s = .ok a t ↔ a = s ∧ t = s := by
  constructor
  · rintro ⟨⟩
    exact ⟨rfl, rfl⟩
  · rintro ⟨rfl, rfl⟩
    rfl

theorem modify_eq_ok {f : σ → σ} {u : Unit} :
    (modify f : EStateM ε σ Unit) s = .ok u t ↔ t = f s := by
  constructor
  · rintro ⟨⟩
    rfl
  · rintro rfl
    rfl

theorem lift_eq_ok {x : Except ε α} :
    (lift x : EStateM ε σ α) s = .ok a t ↔ x = .ok a ∧ t = s := by
  cases x with
  | error e => exact iff_of_false nofun (by rintro ⟨⟨⟩, -⟩)
  | ok b =>
    constructor
    · rintro ⟨⟩
      exact ⟨rfl, rfl⟩
    · rintro ⟨⟨⟩, rfl⟩
      rfl

theorem restoring_eq_ok {body : EStateM ε σ α} :
    restoring body s = .ok a t ↔ body s = .ok a t := by
  change EStateM.tryCatch body _ s = .ok a t ↔ _
  unfold EStateM.tryCatch
  cases body s with
  | error e mid => exact iff_of_false nofun nofun
  | ok b mid => exact Iff.rfl

theorem restores_restoring (body : EStateM ε σ α) : Restores (restoring body) := by
  intro s e t h
  change EStateM.tryCatch body _ s = .error e t at h
  unfold EStateM.tryCatch at h
  cases hbody : body s with
  | error e' mid =>
    rw [hbody] at h
    cases h
    rfl
  | ok b mid =>
    rw [hbody] at h
    cases h

theorem Restores.lift_bind {x : Except ε α} {f : α → EStateM ε σ β}
    (h : ∀ a, x = .ok a → Restores (f a)) : Restores (lift x >>= f) := by
  intro s e t hraise
  change EStateM.bind (lift x) f s = .error e t at hraise
  unfold EStateM.bind lift at hraise
  cases x with
  | error e' =>
    cases hraise
    rfl
  | ok a => exact h a rfl s e t hraise

theorem Restores.get_bind {f : σ → EStateM ε σ β} (h : ∀ s, Restores (f s)) :
    Restores (get >>= f) := fun s e t hraise => h s s e t hraise

end Restoring
