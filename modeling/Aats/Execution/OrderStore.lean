import Aats.Execution.Obligations

/-!
# The stored order, its obligation and its fills

The transactions by which the order manager writes one order (`order_manager.py`,
`outbox.py`, `execution_repo_postgres.py`, `obligation_repo_postgres.py`). An order state is
merged into the stored one and refused with an exception if the status change is invalid;
a fill is inserted once per fill id; an obligation row is overwritten by the one passed in.
-/

namespace Aats.Execution

/-- What is persisted about one order: its state, its obligation and its fills. -/
structure OrderStore where
  order : OrderState
  obligation : Option OrderObligation := none
  fills : List FillEvent := []
  deriving DecidableEq

/-- The `ValueError` of `save_order_state_in_session`. -/
structure InvalidOrderStateTransition where
  current : OrderStatus
  next : OrderStatus
  deriving DecidableEq, Repr

/-! ### Repository writes -/

/-- `save_order_state_in_session` of a stored order: the merged state, or the exception. A
status regression is merged, only an invalid transition raises. -/
def saveOrderState (current incoming : OrderState) : Except InvalidOrderStateTransition OrderState :=
  if validateTransition (some current.status) incoming.status = .invalidTransition then
    .error { current := current.status, next := incoming.status }
  else .ok (merge (some current) incoming)

theorem saveOrderState_eq_ok {current incoming merged : OrderState}
    (h : saveOrderState current incoming = .ok merged) : merged = merge (some current) incoming := by
  unfold saveOrderState at h
  split at h
  · cases h
  · injection h with h
    exact h.symm

namespace OrderStore

def hasFill (store : OrderStore) (fillId : String) : Bool :=
  store.fills.any (·.fillId = fillId)

/-- `save_fill_in_session`: `INSERT ... ON CONFLICT (fill_id) DO NOTHING`, and whether a row
was inserted. -/
def saveFill (store : OrderStore) (fill : FillEvent) : Bool × OrderStore :=
  if store.hasFill fill.fillId then (false, store)
  else (true, { store with fills := store.fills ++ [fill] })

/-- `save_obligation_in_session` when there is something to save. -/
def saveObligation (store : OrderStore) (obligation : Option OrderObligation) : OrderStore :=
  match obligation with
  | none => store
  | some obligation => { store with obligation := some obligation }

@[simp] theorem saveFill_order (store : OrderStore) (fill : FillEvent) :
    (store.saveFill fill).2.order = store.order := by
  unfold saveFill
  split <;> rfl

@[simp] theorem saveFill_obligation (store : OrderStore) (fill : FillEvent) :
    (store.saveFill fill).2.obligation = store.obligation := by
  unfold saveFill
  split <;> rfl

@[simp] theorem saveObligation_order (store : OrderStore) (obligation : Option OrderObligation) :
    (store.saveObligation obligation).order = store.order := by
  cases obligation <;> rfl

@[simp] theorem saveObligation_none (store : OrderStore) : store.saveObligation none = store := rfl

@[simp] theorem saveObligation_some (store : OrderStore) (obligation : OrderObligation) :
    (store.saveObligation (some obligation)).obligation = some obligation := rfl

/-! ### Transactions -/

/-- `_persist_fill_sync`: the fill, and with it the previewed obligation. A duplicate fill
rolls back and writes neither. -/
def persistFillSync (store : OrderStore) (fill : FillEvent) (obligation : Option OrderObligation) :
    Bool × OrderStore :=
  match store.saveFill fill with
  | (false, _) => (false, store)
  | (true, saved) => (true, saved.saveObligation obligation)

def persistOrderStateSync (store : OrderStore) (orderState : OrderState)
    (obligation : Option OrderObligation) : Except InvalidOrderStateTransition OrderStore :=
  match saveOrderState store.order orderState with
  | .error e => .error e
  | .ok merged => .ok ({ store with order := merged }.saveObligation obligation)

/-- The fill loop of `_persist_order_state_with_fills_sync`: each fill that is really inserted
writes the obligation previewed for it. -/
def saveFillsWithObligations (store : OrderStore) :
    List FillEvent → List (Option OrderObligation) → OrderStore
  | fill :: fills, obligation :: obligations =>
    match store.saveFill fill with
    | (true, saved) => (saved.saveObligation obligation).saveFillsWithObligations fills obligations
    | (false, _) => store.saveFillsWithObligations fills obligations
  | _, _ => store

/-- `_persist_order_state_with_fills_sync`: order state, fills with their obligations and the
final obligation in one transaction. -/
def persistOrderStateWithFillsSync (store : OrderStore) (orderState : OrderState)
    (fills : List FillEvent) (obligationsPerFill : List (Option OrderObligation))
    (finalObligation : Option OrderObligation) : Except InvalidOrderStateTransition OrderStore :=
  match saveOrderState store.order orderState with
  | .error e => .error e
  | .ok merged =>
    .ok (({ store with order := merged }.saveFillsWithObligations fills
      obligationsPerFill).saveObligation finalObligation)

@[simp] theorem persistFillSync_order (store : OrderStore) (fill : FillEvent)
    (obligation : Option OrderObligation) :
    (store.persistFillSync fill obligation).2.order = store.order := by
  unfold persistFillSync
  split
  · rfl
  · next saved h =>
    rw [saveObligation_order, ← saveFill_order store fill, h]

@[simp] theorem saveFillsWithObligations_order (store : OrderStore) (fills : List FillEvent)
    (obligations : List (Option OrderObligation)) :
    (store.saveFillsWithObligations fills obligations).order = store.order := by
  induction fills generalizing store obligations with
  | nil => rfl
  | cons fill fills ih =>
    cases obligations with
    | nil => rfl
    | cons obligation obligations =>
      unfold saveFillsWithObligations
      split
      · next saved h =>
        rw [ih, saveObligation_order, ← saveFill_order store fill, h]
      · exact ih store obligations

theorem obligation_saveFillsWithObligations (store : OrderStore) (fills : List FillEvent)
    (obligations : List (Option OrderObligation)) :
    (store.saveFillsWithObligations fills obligations).obligation = store.obligation ∨
      (store.saveFillsWithObligations fills obligations).obligation ∈ obligations := by
  induction fills generalizing store obligations with
  | nil => exact .inl rfl
  | cons fill fills ih =>
    cases obligations with
    | nil => exact .inl rfl
    | cons obligation obligations =>
      unfold saveFillsWithObligations
      split
      · next saved h =>
        have hsaved : saved.obligation = store.obligation := by
          rw [← saveFill_obligation store fill, h]
        rcases ih (saved.saveObligation obligation) obligations with hi | hi
        · cases obligation with
          | none =>
            rw [saveObligation_none, hsaved] at hi
            exact .inl hi
          | some o => exact .inr (by rw [hi]; exact List.mem_cons_self)
        · exact .inr (List.mem_cons_of_mem _ hi)
      · rcases ih store obligations with hi | hi
        · exact .inl hi
        · exact .inr (List.mem_cons_of_mem _ hi)

end OrderStore

end Aats.Execution
