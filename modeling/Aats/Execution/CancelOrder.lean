import Aats.Execution.CommandTable
import Aats.Execution.OrderStore

/-!
# What a cancel request writes

The pure parts of `cancel_order` and of `_cancel_pending_submit_before_exchange_ack` in
`execution_engine/order_manager.py`: which orders take the shortcut that never asks the
exchange, what the shortcut does with the submit command it finds, and the order states the
two paths store.
-/

namespace Aats.Execution

/-! ### Storing an order state -/

def storeOrder (order incoming : OrderState) : OrderState :=
  match saveOrderState order incoming with
  | .ok merged => merged
  | .error _ => order

theorem isTerminal_storeOrder {order : OrderState} (incoming : OrderState)
    (h : order.status.isTerminal = true) : (storeOrder order incoming).status.isTerminal = true := by
  unfold storeOrder
  cases hs : saveOrderState order incoming with
  | error e => exact h
  | ok merged =>
    rw [saveOrderState_eq_ok hs]
    exact isTerminal_merge_of_terminal incoming h

theorem isTerminal_merge_of_canceled (current : Option OrderState) {incoming : OrderState}
    (h : incoming.status = .canceled) : (merge current incoming).status.isTerminal = true := by
  have hi : incoming.status.isTerminal = true := by
    rw [h]
    rfl
  cases current with
  | none => exact isTerminal_normalize hi
  | some current =>
    by_cases ht : current.status.isTerminal = true
    · exact isTerminal_merge_of_terminal incoming ht
    · have ha : (validateTransition (some current.status) incoming.status).accepted = true := by
        rw [h]
        revert ht
        cases current.status <;> decide
      simp only [merge, ha, if_true]
      exact isTerminal_mergeAccepted hi

/-! ### The submit command of an order -/

/-- The characters `str.strip` removes. -/
def isPySpace (c : Char) : Bool :=
  let n := c.toNat
  decide ((9 ≤ n ∧ n ≤ 13) ∨ (28 ≤ n ∧ n ≤ 32) ∨ n = 133 ∨ n = 160 ∨ n = 5760 ∨
    (8192 ≤ n ∧ n ≤ 8202) ∨ n = 8232 ∨ n = 8233 ∨ n = 8239 ∨ n = 8287 ∨ n = 12288)

def strip (text : String) : String :=
  String.ofList ((text.toList.dropWhile isPySpace).reverse.dropWhile isPySpace).reverse

/-- `submit_command_lookup_keys`: the current key and the legacy one, without repetition. -/
def submitCommandLookupKeys (clientOrderId intentId : String) : List String :=
  let current := if strip clientOrderId = "" then [] else
    [submitCommandIdempotencyKey (strip clientOrderId)]
  if strip intentId = "" ∨ submitCommandIdempotencyKey (strip intentId) ∈ current then current
  else current ++ [submitCommandIdempotencyKey (strip intentId)]

/-- `_lookup_submit_command`: the first key that has a row. -/
def lookupSubmitCommand (table : CommandTable) (order : OrderState) : Option Command :=
  (submitCommandLookupKeys order.clientOrderId order.intentId).findSome? table.getByIdempotencyKey

/-! ### The states a cancel stores -/

/-- The entry of `cancel_order`: the order is not terminal, was not acknowledged and has a
status before the acknowledgement. -/
def cancelableBeforeAck (order : OrderState) : Bool :=
  decide (order.exchangeOrderId = none ∧
    (order.status = .created ∨ order.status = .submitting ∨ order.status = .cancelPending))

/-- The `CANCELED` state that the cancel stores. -/
def canceledState (order : OrderState) (now : Timestamp) : OrderState :=
  { order with
    status := .canceled
    canceledTs := some now
    lastUpdateTs := some now
    cancelReason := strOr order.cancelReason (some "operator_cancel_before_submit")
    executionError := none }

/-- The `CANCEL_PENDING` state that is stored before the exchange is asked. -/
def cancelPendingState (order : OrderState) (now : Timestamp) : OrderState :=
  { order with
    status := .cancelPending
    cancellationRequestedTs := some now
    lastUpdateTs := some now }

/-- The shortcut of `_cancel_pending_submit_before_exchange_ack` for an order whose submit
command is `found`: no command, or one that is waiting, acknowledged or failed. -/
def cancelsBeforeAck (order : OrderState) (found : Option Command) : Bool :=
  cancelableBeforeAck order &&
    match found with
    | none => true
    | some command => decide (command.state = .pending ∨ command.state = .acked ∨
        command.state = .failed)

end Aats.Execution
