import Aats.Recovery.OrderLedger

/-!
# Asking the exchange before the recovery

`recovery_control/exchange_order_reconciler.py`: every stuck order is looked up at the exchange. A
definite answer is merged into the stored order state; an answer that is missing, ambiguous or
cannot be written counts as unreachable.

## Main results
* `reconcileAll_eq` — **the loop treats every stuck order on its own**.
-/

namespace Aats.Recovery

open Execution KeyedList

/-! ### The exchange's answer -/

/-- The first entry of `data`, with its numbers as `_decimal_or_none` and `_okx_ts` read them. -/
structure OkxOrderData where
  state : String
  ordId : String := ""
  uTime : Option Timestamp := none
  accFillSz : Option ℚ := none
  avgPx : Option ℚ := none
  fee : Option ℚ := none
  deriving DecidableEq, Repr

/-- A response: `data` is absent if it is not a list, and `saysDoesNotExist` tells whether the
lower-case text of the response contains `does not exist`. -/
structure OrderResponse where
  code : String
  data : Option (List OkxOrderData) := none
  saysDoesNotExist : Bool := false
  deriving DecidableEq, Repr

/-- What `get_order` of the client gives. -/
inductive OrderAnswer
  | raised
  | answered (response : OrderResponse)
  deriving DecidableEq, Repr

/-- The update that `_interpret_exchange_response` returns. -/
structure OrderUpdate where
  state : OrderStatus
  venueOrderId : Option String := none
  exchangeStatus : Option String := none
  lastExchangeUpdateTs : Option Timestamp := none
  filledQty : Option ℚ := none
  averageFillPrice : Option ℚ := none
  fees : Option ℚ := none
  executionError : Option String := none
  deriving DecidableEq, Repr

/-- The update of an order that the exchange knows; an unknown exchange state is not touched. -/
def updateFromData (data : OkxOrderData) : Option OrderUpdate :=
  let okxState := data.state.toLower
  let venueOrderId := strOr (some data.ordId) none
  if okxState = "live" ∨ okxState = "partially_filled" then
    some
      { state := .submitted
        venueOrderId := venueOrderId
        exchangeStatus := some okxState
        lastExchangeUpdateTs := data.uTime }
  else if okxState = "filled" ∨ okxState = "canceled" ∨ okxState = "mmp_canceled" then
    some
      { state := if okxState = "filled" then .filled else .canceled
        venueOrderId := venueOrderId
        exchangeStatus := some okxState
        lastExchangeUpdateTs := data.uTime
        filledQty := data.accFillSz
        averageFillPrice := data.avgPx
        fees := some (-(data.fee.getD 0)) }
  else none

/-- The update of an order that the exchange does not know; any other error is ambiguous. -/
def updateFromError (response : OrderResponse) : Option OrderUpdate :=
  if response.code = "51603" ∨ (response.code ≠ "0" ∧ response.saysDoesNotExist = true) then
    some
      { state := .failed
        executionError := some "recovery_exchange_reconciler_order_not_found" }
  else none

def interpretExchangeResponse (response : OrderResponse) : Option OrderUpdate :=
  match response.data with
  | some (data :: _) =>
    if response.code = "0" then updateFromData data else updateFromError response
  | some [] | none => updateFromError response

def resolvedOrderState (current : OrderState) (update : OrderUpdate) (now : Timestamp) :
    OrderState :=
  let exchangeStatus := strOr update.exchangeStatus current.exchangeStatus
  let resolved :=
    { current with
      status := update.state
      exchangeOrderId := strOr update.venueOrderId current.exchangeOrderId
      exchangeStatus := exchangeStatus
      exchangeStatusHistory :=
        match strOr exchangeStatus none with
        | none => current.exchangeStatusHistory
        | some status =>
          if status ∈ current.exchangeStatusHistory then current.exchangeStatusHistory
          else current.exchangeStatusHistory ++ [status]
      lastUpdateTs := some now
      lastExchangeUpdateTs := some (update.lastExchangeUpdateTs.getD now)
      executionError := strOr update.executionError current.executionError }
  if update.state = .filled then
    { resolved with
      filledQty := max current.filledQty
        ((update.filledQty.filter (fun qty => 0 < qty)).getD current.requestedQty)
      remainingQty := 0
      averageFillPrice := update.averageFillPrice.or current.averageFillPrice
      fees := update.fees.getD current.fees }
  else resolved

/-! ### One stuck order -/

/-- What becomes of an accepted order state in `persist_order_state`. -/
inductive WriteOutcome
  | committed
  | rolledBack
  | raisedAfterCommit
  deriving DecidableEq, Repr

/-- Who writes: the outbox publisher, or `update_order_state` of the repository, whose keywords
are others than those the reconciler calls it with. -/
inductive OrderWriter
  | outbox (outcome : String → WriteOutcome)
  | repository

/-- The exchange as the reconciler sees it during one pass. -/
structure Exchange where
  getOrder : String → String → OrderAnswer
  writer : OrderWriter
  now : Timestamp

/-- What one stuck order comes to: skipped, unreachable, or written; a write whose publisher
raises after the commit counts as unreachable. -/
inductive Resolution
  | skipped
  | unreachable
  | written (saved : LedgerOrder) (counted : Bool)
  deriving DecidableEq

/-- `save_order_state_in_session` for a row of the ledger. -/
def LedgerOrder.saveOrderState (order : LedgerOrder) (state : OrderState) :
    Except InvalidOrderStateTransition LedgerOrder :=
  (ConvergedStore.saveOrderState { row := some order.row } state order.row.createdAt).map
    fun store => { order with row := store.row.getD order.row }

/-- Writing an update of the exchange. An order state carries the client order id of its row, so
the row that is written is the one that was read. -/
def writeUpdate (exchange : Exchange) (order : LedgerOrder) (update : OrderUpdate) : Resolution :=
  match exchange.writer with
  | .repository => .unreachable
  | .outbox outcome =>
    match order.saveOrderState (resolvedOrderState order.orderState update exchange.now) with
    | .error _ => .unreachable
    | .ok saved =>
      match outcome order.clientOrderId with
      | .committed => .written saved true
      | .rolledBack => .unreachable
      | .raisedAfterCommit => .written saved false

/-- The body of the loop of `reconcile_stuck_orders`. -/
def resolveOrder (exchange : Exchange) (order : LedgerOrder) : Resolution :=
  if order.clientOrderId = "" ∨ order.row.symbol = "" then .skipped
  else
    match exchange.getOrder order.row.symbol order.clientOrderId with
    | .raised => .unreachable
    | .answered response =>
      match interpretExchangeResponse response with
      | none => .unreachable
      | some update => writeUpdate exchange order update

/-! ### The loop -/

structure Reconciliation where
  orders : List LedgerOrder
  resolved : ℕ := 0
  unreachable : ℕ := 0
  deriving DecidableEq

def collectStuckOrders (openOrders : List LedgerOrder) : List LedgerOrder :=
  openOrders.filter LedgerOrder.isStuck

/-- One round of the loop; the order state is read again from the store. -/
def reconcileOrder (exchange : Exchange) (acc : Reconciliation) (order : LedgerOrder) :
    Reconciliation :=
  let stored := (lookup LedgerOrder.clientOrderId acc.orders order.clientOrderId).getD order
  match resolveOrder exchange stored with
  | .skipped => acc
  | .unreachable => { acc with unreachable := acc.unreachable + 1 }
  | .written saved counted =>
    { orders := replace LedgerOrder.clientOrderId acc.orders saved
      resolved := if counted then acc.resolved + 1 else acc.resolved
      unreachable := if counted then acc.unreachable else acc.unreachable + 1 }

def reconcileAll (exchange : Exchange) (acc : Reconciliation) (stuck : List LedgerOrder) :
    Reconciliation :=
  stuck.foldl (reconcileOrder exchange) acc

/-- `reconcile_stuck_orders`; without a client nothing is asked. -/
def reconcileStuckOrders (exchange : Option Exchange) (orders openOrders : List LedgerOrder) :
    Reconciliation :=
  match exchange with
  | none => { orders := orders }
  | some exchange => reconcileAll exchange { orders := orders } (collectStuckOrders openOrders)

/-! ### A written order is not stuck -/

def awaitsAck (status : OrderStatus) : Prop := status = .created ∨ status = .submitting

theorem isStuck_eq_true {order : LedgerOrder} (h : order.isStuck = true) :
    awaitsAck order.row.state := by
  unfold LedgerOrder.isStuck at h
  exact (of_decide_eq_true h).1

theorem not_awaitsAck_normalize {state : OrderState} (h : ¬ awaitsAck state.status) :
    ¬ awaitsAck (Execution.normalize state).status := by
  unfold Execution.normalize
  split
  · show ¬ awaitsAck .filled
    simp [awaitsAck]
  · split
    · show ¬ awaitsAck .partiallyFilled
      simp [awaitsAck]
    · split
      · exact h
      · exact h

theorem not_awaitsAck_saveOrderState {current incoming merged : OrderState}
    (h : ¬ awaitsAck incoming.status)
    (hsave : Execution.saveOrderState current incoming = .ok merged) :
    ¬ awaitsAck merged.status := by
  have hmerged := saveOrderState_eq_ok hsave
  rw [hmerged]
  simp only [merge]
  split
  · unfold mergeAccepted
    apply not_awaitsAck_normalize
    exact h
  · next haccepted =>
    -- the update is a regression, so the stored status is further on
    have hcurrent : ¬ awaitsAck current.status := by
      unfold Execution.saveOrderState at hsave
      split at hsave
      · cases hsave
      · next hvalid =>
        rintro (hcur | hcur)
        all_goals
          rw [hcur] at haccepted hvalid
          revert haccepted hvalid h
          cases incoming.status <;> simp [awaitsAck] <;> decide
    unfold mergeWithoutRegression
    split
    · unfold mergeAccepted
      apply not_awaitsAck_normalize
      exact hcurrent
    · exact hcurrent

theorem saveOrderState_eq_ok_iff {order saved : LedgerOrder} {state : OrderState}
    (h : order.saveOrderState state = .ok saved) :
    saved.clientOrderId = order.clientOrderId ∧ saved.refs = order.refs ∧
      saved.productType = order.productType ∧ saved.marginMode = order.marginMode ∧
      saved.row.symbol = order.row.symbol ∧
      ∃ merged, Execution.saveOrderState order.orderState state = .ok merged ∧
        saved.row.state = merged.status := by
  unfold LedgerOrder.saveOrderState ConvergedStore.saveOrderState at h
  simp only [] at h
  cases hsave : Execution.saveOrderState order.row.hydrateOrderState state with
  | error e =>
    rw [hsave] at h
    cases h
  | ok merged =>
    rw [hsave] at h
    injection h with h
    subst h
    exact ⟨rfl, rfl, rfl, rfl, rfl, merged, hsave, rfl⟩

theorem not_awaitsAck_interpret {response : OrderResponse} {update : OrderUpdate}
    (h : interpretExchangeResponse response = some update) : ¬ awaitsAck update.state := by
  have herror : ∀ {u}, updateFromError response = some u → ¬ awaitsAck u.state := by
    intro u hu
    unfold updateFromError at hu
    split at hu
    · injection hu with hu
      subst hu
      simp [awaitsAck]
    · cases hu
  have hdata : ∀ {data u}, updateFromData data = some u → ¬ awaitsAck u.state := by
    intro data u hu
    unfold updateFromData at hu
    simp only [] at hu
    split at hu
    · injection hu with hu
      subst hu
      simp [awaitsAck]
    · split at hu
      · injection hu with hu
        subst hu
        show ¬ awaitsAck (if _ then _ else _)
        split <;> simp [awaitsAck]
      · cases hu
  unfold interpretExchangeResponse at h
  split at h
  · split at h
    · exact hdata h
    · exact herror h
  · exact herror h
  · exact herror h

theorem resolvedOrderState_status (current : OrderState) (update : OrderUpdate) (now : Timestamp) :
    (resolvedOrderState current update now).status = update.state := by
  unfold resolvedOrderState
  simp only []
  split <;> rfl

theorem of_written {exchange : Exchange} {order saved : LedgerOrder} {counted : Bool}
    (h : resolveOrder exchange order = .written saved counted) :
    saved.clientOrderId = order.clientOrderId ∧ saved.isStuck = false := by
  unfold resolveOrder at h
  split at h
  · cases h
  · split at h
    · cases h
    · split at h
      · cases h
      · next update hupdate =>
        unfold writeUpdate at h
        split at h
        · cases h
        · split at h
          · cases h
          · next stored hstored =>
            have hsaved : stored = saved := by
              split at h <;> cases h <;> rfl
            obtain ⟨hid, -, -, -, -, merged, hmerged, hstate⟩ := saveOrderState_eq_ok_iff hstored
            subst hsaved
            refine ⟨hid, ?_⟩
            have hpast := not_awaitsAck_saveOrderState (by
              rw [resolvedOrderState_status]
              exact not_awaitsAck_interpret hupdate) hmerged
            rw [Bool.eq_false_iff]
            intro hstuck
            exact hpast (hstate ▸ isStuck_eq_true hstuck)

/-! ### The loop treats every stuck order on its own -/

def Resolution.saved : Resolution → Option LedgerOrder
  | .skipped | .unreachable => none
  | .written saved _ => some saved

def Resolution.counted : Resolution → Bool
  | .skipped | .unreachable => false
  | .written _ counted => counted

/-- A row after its order was looked up. -/
def afterAnswer (exchange : Exchange) (order : LedgerOrder) : LedgerOrder :=
  (resolveOrder exchange order).saved.getD order

theorem clientOrderId_afterAnswer (exchange : Exchange) (order : LedgerOrder) :
    (afterAnswer exchange order).clientOrderId = order.clientOrderId := by
  unfold afterAnswer
  cases hres : resolveOrder exchange order with
  | skipped => rfl
  | unreachable => rfl
  | written saved counted => exact (of_written hres).1

theorem reconcileOrder_eq (exchange : Exchange) {acc : Reconciliation} {order : LedgerOrder}
    (hkeys : (acc.orders.map LedgerOrder.clientOrderId).Nodup) (h : order ∈ acc.orders) :
    (reconcileOrder exchange acc order).orders =
        replace LedgerOrder.clientOrderId acc.orders (afterAnswer exchange order) ∧
      (reconcileOrder exchange acc order).resolved =
        acc.resolved + if (resolveOrder exchange order).counted = true then 1 else 0 := by
  unfold reconcileOrder afterAnswer
  simp only [lookup_of_mem hkeys h, Option.getD_some]
  cases hres : resolveOrder exchange order with
  | skipped => exact ⟨(replace_self hkeys h).symm, rfl⟩
  | unreachable => exact ⟨(replace_self hkeys h).symm, rfl⟩
  | written saved counted =>
    refine ⟨rfl, ?_⟩
    cases counted <;> rfl

theorem reconcileAll_eq (exchange : Exchange) {stuck : List LedgerOrder} (hstuck : stuck.Nodup)
    (acc : Reconciliation) (hkeys : (acc.orders.map LedgerOrder.clientOrderId).Nodup)
    (hmem : stuck ⊆ acc.orders) :
    (reconcileAll exchange acc stuck).orders =
        acc.orders.map (fun order => if order ∈ stuck then afterAnswer exchange order else order) ∧
      (reconcileAll exchange acc stuck).resolved =
        acc.resolved + stuck.countP (fun order => (resolveOrder exchange order).counted) := by
  induction stuck generalizing acc with
  | nil => exact ⟨by simp [reconcileAll], rfl⟩
  | cons order stuck ih =>
    rw [List.nodup_cons] at hstuck
    have horder : order ∈ acc.orders := hmem (List.mem_cons_self ..)
    obtain ⟨horders, hresolved⟩ := reconcileOrder_eq exchange hkeys horder
    have hinj := List.inj_on_of_nodup_map hkeys
    have hid := clientOrderId_afterAnswer exchange order
    -- the other stuck orders are still in the table
    have hmem' : stuck ⊆ (reconcileOrder exchange acc order).orders := by
      intro other hother
      rw [horders]
      have hin : other ∈ acc.orders := hmem (List.mem_cons_of_mem _ hother)
      refine List.mem_map.mpr ⟨other, hin, if_neg ?_⟩
      rw [hid]
      intro heq
      exact hstuck.1 (hinj hin horder heq ▸ hother)
    have hkeys' : ((reconcileOrder exchange acc order).orders.map
        LedgerOrder.clientOrderId).Nodup := by
      rw [horders, keys_replace]
      exact hkeys
    obtain ⟨ih₁, ih₂⟩ := ih hstuck.2 _ hkeys' hmem'
    constructor
    · show (reconcileAll exchange (reconcileOrder exchange acc order) stuck).orders = _
      rw [ih₁, horders]
      unfold replace
      rw [List.map_map]
      apply List.map_congr_left
      intro other hother
      simp only [Function.comp_apply]
      by_cases hsame : other = order
      · subst hsame
        rw [if_pos hid.symm, if_pos (List.mem_cons_self ..), if_neg]
        -- no other stuck order has its key
        intro hin
        have hin' : afterAnswer exchange other ∈ acc.orders := hmem (List.mem_cons_of_mem _ hin)
        exact hstuck.1 (hinj hin' hother hid ▸ hin)
      · have hne : other.clientOrderId ≠ (afterAnswer exchange order).clientOrderId := by
          rw [hid]
          exact fun heq => hsame (hinj hother horder heq)
        rw [if_neg hne]
        by_cases hin : other ∈ stuck
        · rw [if_pos hin, if_pos (List.mem_cons_of_mem _ hin)]
        · rw [if_neg hin, if_neg (by simp [hsame, hin])]
    · show (reconcileAll exchange (reconcileOrder exchange acc order) stuck).resolved = _
      rw [ih₂, hresolved, List.countP_cons]
      omega

end Aats.Recovery
