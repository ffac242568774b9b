import Mathlib.Tactic.TypeStar

/-!
# Transactions that may be cut

A program over database sessions as an `EStateM` program: a statement writes to the working copy of
its session, `commit` makes the working copy durable, and the program may be cut before each of
them. What is durable is read off the committed copies, on every way the program can end.

## Main definitions
* `guarded body handler` — a program under a handler that looks at what was raised.
* `Triple pre program post raised` — from `pre` the program ends well in `post` or raises in
  `raised`.

## Main results
* `Triple.bind`, `Triple.ite`, `Triple.forM`, `Triple.guarded` — **the rules for composed
  programs**, with the states in which a cut program stops kept through each of them.
-/

namespace CrashTriple

/-! ### Sessions -/

/-- The durable copy of a database and the copy that an open transaction sees. -/
structure Session (δ : Type) where
  committed : δ
  working : δ

variable {δ : Type}

def Session.open (db : δ) : Session δ := ⟨db, db⟩

def Session.write (session : Session δ) (action : δ → δ) : Session δ :=
  { session with working := action session.working }

def Session.commit (session : Session δ) : Session δ := ⟨session.working, session.working⟩

def Session.rollback (session : Session δ) : Session δ := ⟨session.committed, session.committed⟩

@[simp] theorem Session.committed_write (session : Session δ) (action : δ → δ) :
    (session.write action).committed = session.committed := rfl

@[simp] theorem Session.working_write (session : Session δ) (action : δ → δ) :
    (session.write action).working = action session.working := rfl

@[simp] theorem Session.committed_rollback (session : Session δ) :
    session.rollback.committed = session.committed := rfl

/-! ### Programs -/

variable {ε σ α β : Type}

def statement (fault : Option ε) (action : σ → σ) : EStateM ε σ Unit :=
  match fault with
  | some e => throw e
  | none => modify action

/-- `try: body` with `except: handler`. -/
def guarded (body : EStateM ε σ α) (handler : ε → EStateM ε σ α) : EStateM ε σ α :=
  tryCatch body handler

/-- From every state in `pre` the program ends well in `post` or raises in `raised`. -/
def Triple (pre : σ → Prop) (program : EStateM ε σ α) (post : α → σ → Prop)
    (raised : ε → σ → Prop) : Prop :=
  ∀ s, pre s → match program s with
    | .ok a t => post a t
    | .error e t => raised e t

namespace Triple

variable {pre : σ → Prop} {post : α → σ → Prop} {raised : ε → σ → Prop}

theorem pure {a : α} (h : ∀ s, pre s → post a s) :
    Triple pre (Pure.pure a : EStateM ε σ α) post raised := h

theorem throw {e : ε} (h : ∀ s, pre s → raised e s) :
    Triple pre (MonadExcept.throw e : EStateM ε σ α) post raised := h

theorem bind {first : EStateM ε σ β} {rest : β → EStateM ε σ α} {mid : β → σ → Prop}
    (hfirst : Triple pre first mid raised) (hrest : ∀ b, Triple (mid b) (rest b) post raised) :
    Triple pre (first >>= rest) post raised := by
  intro s hs
  have hstep := hfirst s hs
  change match EStateM.bind first rest s with
    | .ok a t => post a t
    | .error e t => raised e t
  unfold EStateM.bind
  cases hrun : first s with
  | error e mid => simpa only [hrun] using hstep
  | ok b mid =>
    rw [hrun] at hstep
    exact hrest b mid hstep

theorem get_bind {rest : σ → EStateM ε σ α}
    (h : ∀ now, Triple (fun s => pre s ∧ s = now) (rest now) post raised) :
    Triple pre (get >>= rest) post raised :=
  fun s hs => h s s ⟨hs, rfl⟩

theorem consequence {program : EStateM ε σ α} {pre' : σ → Prop} {post' : α → σ → Prop}
    {raised' : ε → σ → Prop} (h : Triple pre' program post' raised')
    (hpre : ∀ s, pre s → pre' s) (hpost : ∀ a s, post' a s → post a s)
    (hraised : ∀ e s, raised' e s → raised e s) : Triple pre program post raised := by
  intro s hs
  have hrun := h s (hpre s hs)
  cases hprogram : program s with
  | ok a t =>
    rw [hprogram] at hrun
    exact hpost a t hrun
  | error e t =>
    rw [hprogram] at hrun
    exact hraised e t hrun

theorem strengthen {program : EStateM ε σ α} {pre' : σ → Prop}
    (h : Triple pre' program post raised) (hpre : ∀ s, pre s → pre' s) :
    Triple pre program post raised :=
  h.consequence hpre (fun _ _ hpost => hpost) (fun _ _ hraised => hraised)

theorem ite {condition : Prop} [Decidable condition] {yes no : EStateM ε σ α}
    (hyes : condition → Triple pre yes post raised)
    (hno : ¬ condition → Triple pre no post raised) :
    Triple pre (if condition then yes else no) post raised := by
  split
  · next h => exact hyes h
  · next h => exact hno h

theorem statement {fault : Option ε} {action : σ → σ} {after : σ → Prop}
    (hfault : ∀ e, fault = some e → ∀ s, pre s → raised e s)
    (haction : fault = none → ∀ s, pre s → after (action s)) :
    Triple pre (statement fault action) (fun _ => after) raised := by
  intro s hs
  cases fault with
  | some e => exact hfault e rfl s hs
  | none => exact haction rfl s hs

theorem forM {γ : Type} {body : γ → EStateM ε σ PUnit} (invariant : List γ → σ → Prop)
    (items : List γ)
    (hbody : ∀ item rest, item :: rest <:+ items →
      Triple (invariant (item :: rest)) (body item) (fun _ => invariant rest) raised) :
    Triple (invariant items) (items.forM body) (fun _ => invariant []) raised := by
  induction items with
  | nil => exact Triple.pure (fun _ hs => hs)
  | cons item rest ih =>
    exact (hbody item rest List.suffix_rfl).bind fun _ =>
      ih fun later rest' hsuffix => hbody later rest' (hsuffix.trans (List.suffix_cons item rest))

theorem guarded {body : EStateM ε σ α} {handler : ε → EStateM ε σ α} {raised' : ε → σ → Prop}
    (hbody : Triple pre body post raised')
    (hhandler : ∀ e, Triple (raised' e) (handler e) post raised) :
    Triple pre (guarded body handler) post raised := by
  intro s hs
  have hrun := hbody s hs
  change match EStateM.tryCatch body handler s with
    | .ok a t => post a t
    | .error e t => raised e t
  unfold EStateM.tryCatch
  cases hprogram : body s with
  | ok a t => simpa only [hprogram] using hrun
  | error e t =>
    rw [hprogram] at hrun
    exact hhandler e t hrun

end Triple

end CrashTriple
