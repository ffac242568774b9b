import Aats.Lib.Runs
import Aats.Execution.OrderStore

/-!
# Releasing the reservation of an order

The order manager's operations on one order, each run to its end: a submit, sync or cancel
result with its fills, a single fill, and the status marks written before a submission or a
cancel. With the outbox publisher a result that brings fills is written by one transaction
whose obligation is finalized according to the *incoming* status; all other results are
written first and finalized according to the *persisted* status.

The two agree except in one case: an open incoming status whose filled quantity completes the
order. The merge then stores `FILLED`, but the single transaction does not release the
reservation, and nothing afterwards does (`leak_after_atomic_fill_up`).

## Main results
* `perform_keeps_releaseInv` — one operation outside that case keeps the reservation of a
  terminal order released.
* `no_reservation_leak` — so does every run of such operations.
-/

namespace Aats.Execution

open Runs

/-! ### The order manager's writes -/

/-- `_terminal_outbox_obligation`: an unfilled order that ends without fills is finalized in the
transaction that stores its state. -/
def terminalOutboxObligation (outbox : Bool) (store : OrderStore) (orderState : OrderState)
    (fills : List FillEvent) : Option OrderObligation :=
  if outbox = false then none
  else if fills ≠ [] then none
  else if orderState.status ∉ [OrderStatus.canceled, .rejected, .failed, .blocked, .dryRun,
      .expired] then none
  else if epsilon12 < |orderState.filledQty| then none
  else applyFinalizationToObligation orderState store.obligation

namespace OrderStore

def finalizeObligation (store : OrderStore) (orderState : OrderState) : OrderStore :=
  store.saveObligation (applyFinalizationToObligation orderState store.obligation)

/-- `_persist_fill`: preview the obligation, then write it with the fill. -/
def persistFill (store : OrderStore) (fill : FillEvent) : OrderStore :=
  (store.persistFillSync fill (store.obligation.map (applyFillToObligation fill))).2

def persistOrderStateWithFillsAtomic (store : OrderStore) (orderState : OrderState)
    (fills : List FillEvent) : Except InvalidOrderStateTransition OrderStore :=
  let preview := previewChainedFillObligationsAndFinalize store.obligation fills orderState
  store.persistOrderStateWithFillsSync orderState fills preview.1 preview.2

/-- `_persist_order_state`, then each fill, then `_finalize_obligation` of the persisted
state. -/
def persistOrderStateThenFills (outbox : Bool) (store : OrderStore) (orderState : OrderState)
    (fills : List FillEvent) : Except InvalidOrderStateTransition OrderStore :=
  match store.persistOrderStateSync orderState
      (terminalOutboxObligation outbox store orderState fills) with
  | .error e => .error e
  | .ok persisted => .ok ((fills.foldl persistFill persisted).finalizeObligation persisted.order)

/-- A result of the adapter (submit, sync or cancel): the single transaction if there is an
outbox and there are fills, the sequence otherwise. -/
def settleResult (outbox : Bool) (store : OrderStore) (orderState : OrderState)
    (fills : List FillEvent) : Except InvalidOrderStateTransition OrderStore :=
  if outbox = true ∧ fills ≠ [] then store.persistOrderStateWithFillsAtomic orderState fills
  else store.persistOrderStateThenFills outbox orderState fills

/-- `_persist_order_state` of the stored order with another status. -/
def markStatus (store : OrderStore) (status : OrderStatus) (now : Timestamp) :
    Except InvalidOrderStateTransition OrderStore :=
  store.persistOrderStateSync
    { store.order with
      status := status
      cancellationRequestedTs :=
        if status = .cancelPending then some now else store.order.cancellationRequestedTs
      lastUpdateTs := some now }
    none

end OrderStore

inductive Operation
  /-- A submit result, a sync batch or a cancel result. -/
  | result (orderState : OrderState) (fills : List FillEvent)
  | fill (f : FillEvent)
  /-- The `SUBMITTING` mark before a submission. -/
  | startSubmit (now : Timestamp)
  /-- The `CANCEL_PENDING` mark before a cancel. -/
  | requestCancel (now : Timestamp)

/-- The transaction of an operation; an exception means that nothing was written. -/
def Operation.write (outbox : Bool) (store : OrderStore) :
    Operation → Except InvalidOrderStateTransition OrderStore
  | .result orderState fills => store.settleResult outbox orderState fills
  | .fill f => .ok (store.persistFill f)
  | .startSubmit now => store.markStatus .submitting now
  | .requestCancel now => store.markStatus .cancelPending now

def perform (outbox : Bool) (store : OrderStore) (op : Operation) : Option OrderStore :=
  match op.write outbox store with
  | .ok next => some next
  | .error _ => some store

def OrderStore.opened (created : OrderState) (obligation : Option OrderObligation) : OrderStore where
  order := merge none created
  obligation := obligation

/-! ### The reservation of a terminal order -/

/-- No reservation leak: the obligation of a terminal order holds nothing. -/
def NoReservationLeak (store : OrderStore) : Prop :=
  store.order.status.isTerminal = true → ∀ o ∈ store.obligation, o.Settled

instance (store : OrderStore) : Decidable (NoReservationLeak store) :=
  inferInstanceAs (Decidable (_ → ∀ o ∈ store.obligation, _))

/-- The invariant of the runs: no leak, and an open order is not complete. -/
structure ReleaseInv (store : OrderStore) : Prop where
  released : NoReservationLeak store
  incomplete : store.order.status.isTerminal = false → ¬ store.order.Complete

/-- The operation is not a single transaction that fills up an open order under an open
status. -/
def Operation.NoAtomicFillUp (outbox : Bool) (store : OrderStore) : Operation → Prop
  | .result orderState fills =>
    ¬ (outbox = true ∧ fills ≠ [] ∧ orderState.status.isTerminal = false ∧
      store.order.status.isTerminal = false ∧ fillsUp store.order orderState)
  | _ => True

instance (outbox : Bool) (store : OrderStore) (op : Operation) :
    Decidable (op.NoAtomicFillUp outbox store) :=
  match op with
  | .result _ _ => inferInstanceAs (Decidable (¬ (_ ∧ _ ∧ _ ∧ _ ∧ _)))
  | .fill _ | .startSubmit _ | .requestCancel _ => .isTrue trivial

theorem incomplete_saveOrderState {current incoming merged : OrderState}
    (hc : current.status.isTerminal = false → ¬ current.Complete)
    (h : saveOrderState current incoming = .ok merged) :
    merged.status.isTerminal = false → ¬ merged.Complete := by
  intro hopen
  rw [saveOrderState_eq_ok h] at hopen ⊢
  exact not_complete_merge hc hopen

theorem settled_finalizeObligation (store : OrderStore) {orderState : OrderState}
    (h : orderState.status.isTerminal = true) :
    ∀ o ∈ (store.finalizeObligation orderState).obligation, o.Settled := by
  intro o ho
  unfold OrderStore.finalizeObligation at ho
  cases hfinal : applyFinalizationToObligation orderState store.obligation with
  | none =>
    rcases finalization_eq_none hfinal with hopen | hnone
    · rw [h] at hopen
      cases hopen
    · rw [hfinal, OrderStore.saveObligation_none, hnone] at ho
      cases ho
  | some final =>
    rw [hfinal, OrderStore.saveObligation_some, Option.mem_some_iff] at ho
    exact ho ▸ settled_finalization hfinal

@[simp] theorem finalizeObligation_order (store : OrderStore) (orderState : OrderState) :
    (store.finalizeObligation orderState).order = store.order :=
  OrderStore.saveObligation_order store _

@[simp] theorem persistFill_order (store : OrderStore) (fill : FillEvent) :
    (store.persistFill fill).order = store.order :=
  OrderStore.persistFillSync_order store fill _

@[simp] theorem foldl_persistFill_order (fills : List FillEvent) (store : OrderStore) :
    (fills.foldl OrderStore.persistFill store).order = store.order := by
  induction fills generalizing store with
  | nil => rfl
  | cons fill fills ih => rw [List.foldl_cons, ih, persistFill_order]

theorem settled_persistFill {store : OrderStore} (fill : FillEvent)
    (h : ∀ o ∈ store.obligation, o.Settled) : ∀ o ∈ (store.persistFill fill).obligation, o.Settled := by
  intro o ho
  unfold OrderStore.persistFill OrderStore.persistFillSync at ho
  split at ho
  · exact h o ho
  · next saved hs =>
    have hsaved : saved.obligation = store.obligation := by
      rw [← OrderStore.saveFill_obligation store fill, hs]
    cases hob : store.obligation with
    | none =>
      rw [hob, Option.map_none, OrderStore.saveObligation_none, hsaved, hob] at ho
      cases ho
    | some obligation =>
      rw [hob, Option.map_some, OrderStore.saveObligation_some, Option.mem_some_iff] at ho
      exact ho ▸ settled_applyFillToObligation fill (h obligation (by rw [hob]; rfl))

/-! ### One operation -/

theorem releaseInv_persistFill {store : OrderStore} (fill : FillEvent) (h : ReleaseInv store) :
    ReleaseInv (store.persistFill fill) where
  released := by
    intro ht
    rw [persistFill_order] at ht
    exact settled_persistFill fill (h.released ht)
  incomplete := by
    rw [persistFill_order]
    exact h.incomplete

theorem releaseInv_persistOrderStateThenFills {outbox : Bool} {store next : OrderStore}
    {orderState : OrderState} {fills : List FillEvent} (h : ReleaseInv store)
    (hw : store.persistOrderStateThenFills outbox orderState fills = .ok next) :
    ReleaseInv next := by
  unfold OrderStore.persistOrderStateThenFills OrderStore.persistOrderStateSync at hw
  cases hs : saveOrderState store.order orderState with
  | error e => simp [hs] at hw
  | ok merged =>
    simp only [hs, Except.ok.injEq, OrderStore.saveObligation_order] at hw
    subst hw
    constructor
    · intro ht
      rw [finalizeObligation_order, foldl_persistFill_order, OrderStore.saveObligation_order] at ht
      exact settled_finalizeObligation _ ht
    · rw [finalizeObligation_order, foldl_persistFill_order, OrderStore.saveObligation_order]
      exact incomplete_saveOrderState h.incomplete hs

theorem settled_saveFillsWithObligations {store : OrderStore}
    (h : ∀ o ∈ store.obligation, o.Settled) (fills : List FillEvent) :
    ∀ o ∈ (store.saveFillsWithObligations fills (chainFills store.obligation fills)).obligation,
      o.Settled := by
  intro o ho
  rcases store.obligation_saveFillsWithObligations fills (chainFills store.obligation fills) with
    hk | hk
  · rw [hk] at ho
    exact h o ho
  · rw [Option.mem_def.mp ho] at hk
    exact settled_of_mem_chainFills h hk

/-- The single transaction does not leak either, unless it fills up an open order under an
open status. -/
theorem releaseInv_persistOrderStateWithFillsAtomic {store next : OrderStore}
    {orderState : OrderState} {fills : List FillEvent} (h : ReleaseInv store)
    (hup : ¬ (orderState.status.isTerminal = false ∧ store.order.status.isTerminal = false ∧
      fillsUp store.order orderState))
    (hw : store.persistOrderStateWithFillsAtomic orderState fills = .ok next) :
    ReleaseInv next := by
  unfold OrderStore.persistOrderStateWithFillsAtomic OrderStore.persistOrderStateWithFillsSync
    previewChainedFillObligationsAndFinalize at hw
  cases hs : saveOrderState store.order orderState with
  | error e => simp [hs] at hw
  | ok merged =>
    simp only [hs, Except.ok.injEq] at hw
    subst hw
    have hmerged := saveOrderState_eq_ok hs
    constructor
    · intro ht o ho
      rw [OrderStore.saveObligation_order, OrderStore.saveFillsWithObligations_order] at ht
      cases hfinal : applyFinalizationToObligation orderState (chainEnd store.obligation fills) with
      | some final =>
        rw [hfinal, OrderStore.saveObligation_some, Option.mem_some_iff] at ho
        exact ho ▸ settled_finalization hfinal
      | none =>
        rw [hfinal, OrderStore.saveObligation_none] at ho
        -- not finalized: there was no obligation, or the order was terminal (and the
        -- obligation settled) before, since the update cannot have filled it up
        have hset : ∀ o ∈ store.obligation, o.Settled := by
          rcases finalization_eq_none hfinal with hin | hend
          · apply h.released
            by_contra hcur
            have hcur' : store.order.status.isTerminal = false := by simpa using hcur
            have hup' := (isTerminal_merge_iff hcur' hin).mp (hmerged ▸ ht)
            exact hup ⟨hin, hcur', hup'⟩
          · rw [eq_none_of_chainEnd hend]
            intro o ho
            cases ho
        have hbatch := @settled_saveFillsWithObligations { store with order := merged } hset fills
        exact hbatch o ho
    · rw [OrderStore.saveObligation_order, OrderStore.saveFillsWithObligations_order]
      exact incomplete_saveOrderState h.incomplete hs

theorem releaseInv_markStatus {store next : OrderStore} {status : OrderStatus} {now : Timestamp}
    (hopen : status.isTerminal = false) (h : ReleaseInv store)
    (hw : store.markStatus status now = .ok next) : ReleaseInv next := by
  unfold OrderStore.markStatus OrderStore.persistOrderStateSync at hw
  generalize hmark : ({ store.order with
      status := status
      cancellationRequestedTs :=
        if status = .cancelPending then some now else store.order.cancellationRequestedTs
      lastUpdateTs := some now } : OrderState) = mark at hw
  have hst : mark.status.isTerminal = false := by rw [← hmark]; exact hopen
  have hreq : mark.requestedQty = store.order.requestedQty := by rw [← hmark]
  have hfill : mark.filledQty = store.order.filledQty := by rw [← hmark]
  have hfees : mark.fees = store.order.fees := by rw [← hmark]
  cases hs : saveOrderState store.order mark with
  | error e => simp [hs] at hw
  | ok merged =>
    simp only [hs, Except.ok.injEq, OrderStore.saveObligation_none] at hw
    subst hw
    have hmerged := saveOrderState_eq_ok hs
    constructor
    · intro ht
      have hcur : store.order.status.isTerminal = true := by
        by_contra hcur
        have hcur' : store.order.status.isTerminal = false := by simpa using hcur
        have ht' : (merge (some store.order) mark).status.isTerminal = true := by
          rw [← hmerged]
          exact ht
        rw [isTerminal_merge_iff hcur' hst] at ht'
        exact not_fillsUp_of_same_quantities hreq hfill hfees (h.incomplete hcur') ht'
      exact h.released hcur
    · exact incomplete_saveOrderState h.incomplete hs

/-- **One operation keeps reservations released**, unless it is a single transaction that
fills up an open order under an open status. -/
theorem perform_keeps_releaseInv {outbox : Bool} (store : OrderStore) (op : Operation)
    (next : OrderStore) (h : ReleaseInv store) (hop : op.NoAtomicFillUp outbox store)
    (hstep : perform outbox store op = some next) : ReleaseInv next := by
  unfold perform at hstep
  cases hw : op.write outbox store with
  | error e =>
    rw [hw] at hstep
    injection hstep with hstep
    exact hstep ▸ h
  | ok written =>
    rw [hw] at hstep
    injection hstep with hstep
    subst hstep
    cases op with
    | result orderState fills =>
      simp only [Operation.write, OrderStore.settleResult] at hw
      split at hw
      · next hatomic =>
        refine releaseInv_persistOrderStateWithFillsAtomic h ?_ hw
        rintro ⟨hin, hcur, hup⟩
        exact hop ⟨hatomic.1, hatomic.2, hin, hcur, hup⟩
      · exact releaseInv_persistOrderStateThenFills h hw
    | fill f =>
      injection hw with hw
      exact hw ▸ releaseInv_persistFill f h
    | startSubmit now => exact releaseInv_markStatus rfl h hw
    | requestCancel now => exact releaseInv_markStatus rfl h hw

/-! ### Runs -/

theorem releaseInv_opened {created : OrderState} (obligation : Option OrderObligation)
    (hopen : (merge none created).status.isTerminal = false) :
    ReleaseInv (.opened created obligation) where
  released := by
    intro ht
    rw [OrderStore.opened, hopen] at ht
    cases ht
  incomplete := by
    intro _ hcomplete
    have hc : created.Complete := (complete_normalize_iff created).mp hcomplete
    rw [merge, normalize_status_of_complete hc] at hopen
    cases hopen

/-- **No reservation leak.**  In every run of operations on an order that was created open, in
which no single transaction fills up the open order under an open incoming status, the
obligation of a terminal order is settled. -/
theorem no_reservation_leak (outbox : Bool) (created : OrderState)
    (obligation : Option OrderObligation) (ops : List Operation) (store : OrderStore)
    (hopen : (merge none created).status.isTerminal = false)
    (hmeets : Meets (perform outbox) (fun s op => op.NoAtomicFillUp outbox s)
      (.opened created obligation) ops)
    (hrun : run (perform outbox) (.opened created obligation) ops = some store) :
    NoReservationLeak store :=
  (run_invariant_of_meets perform_keeps_releaseInv (releaseInv_opened obligation hopen) hmeets
    hrun).released

/-- An order for one coin with a reservation of 101, as it is created. -/
def coinOrder : OrderState where
  clientOrderId := "order-1"
  symbol := "BTC-USDT"
  status := .created
  requestedQty := 1
  remainingQty := 1

/-- The reservation of `coinOrder`: the price of 100 and a buffer for fee and slippage. -/
def coinReservation : OrderObligation where
  reserveCurrency := "USDT"
  reservedAmount := 101

/-- The fill of the whole order at 100 without a fee. -/
def coinFill : FillEvent where
  fillId := "fill-1"
  clientOrderId := "order-1"
  symbol := "BTC-USDT"
  side := .buy
  fillQty := 1
  fillPrice := 100
  feeAmount := 0

/-- An exchange update of `coinOrder` that reports the whole quantity filled. -/
def coinUpdate (status : OrderStatus) : OrderState :=
  { coinOrder with status := status, filledQty := 1, remainingQty := 0 }

/-- A submission and a sync batch that reports the order filled under the given status. -/
def coinOps (status : OrderStatus) : List Operation :=
  [.startSubmit 1, .result (coinUpdate status) [coinFill]]

/-- The store after `coinOps`. -/
def coinStore (status : OrderStatus) : OrderStore :=
  (run (perform true) (.opened coinOrder (some coinReservation)) (coinOps status)).getD
    (.opened coinOrder none)

/-- The same at a sync batch that reports the order `FILLED`: the order is stored so and the
buffer is released. -/
theorem no_reservation_leak_coin_filled :
    (coinStore .filled).order.status = .filled ∧ NoReservationLeak (coinStore .filled) :=
  ⟨by decide +kernel, no_reservation_leak true coinOrder (some coinReservation) (coinOps .filled)
    (coinStore .filled) (by decide +kernel) (by decide +kernel) (by decide +kernel)⟩

/-! ### The leak -/

/-- A sync batch reports the order `SUBMITTED` with its whole quantity filled. The order is
stored as `FILLED`, and the buffer of 1 stays reserved for good. -/
theorem leak_after_atomic_fill_up :
    ¬ ∀ (outbox : Bool) (created : OrderState) (obligation : Option OrderObligation)
        (ops : List Operation) (store : OrderStore),
      (merge none created).status.isTerminal = false →
      run (perform outbox) (.opened created obligation) ops = some store →
      NoReservationLeak store := by
  intro h
  have hleak := h true coinOrder (some coinReservation) (coinOps .submitted) (coinStore .submitted)
    (by decide +kernel) (by decide +kernel)
  revert hleak
  decide +kernel

end Aats.Execution
