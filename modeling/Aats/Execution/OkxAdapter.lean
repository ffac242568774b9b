import Aats.Execution.OrderStore
import Mathlib.Data.Rat.Floor

/-!
# The exchange adapter

`services/execution_engine/okx_adapter.py`: what the adapter makes of the answers of the
exchange. A place or cancel request is answered, refused, or fails with an error after which
nobody knows whether it took effect; in that last case the adapter asks for the order and keeps
an open status unless the answer says otherwise. Only two answers to a cancel request are
taken at their word without asking: a refusal and an error that is not a transport error both
make the order `FAILED`.

The exchange is the other party. It knows the order or not, works it in whole lots, and closes
it for good by filling or canceling it. What it reports may be late but is never wrong.

## Main definitions
* `mapOrderState` and the other order states that the adapter returns.
-/

namespace Aats.Execution

/-! ### The order and the exchange -/

/-- What is fixed about one order: its intent, the size of a lot in the internal unit, and the
settings that decide how it is executed. -/
structure OrderSpec where
  clientOrderId : String
  intentId : String
  symbol : String
  quantity : ℚ
  lot : ℚ
  payload : List (String × String) := []
  submittedOrderMode : String := "guarded_simulated_submit"
  dryRunOrderMode : String := "guarded_simulated_dry_run"
  /-- `execution_style` is `post_only`. -/
  postOnly : Bool
  /-- Commands go through the persistent order service. -/
  persistent : Bool
  clientOrderId_ne : clientOrderId ≠ ""
  quantity_pos : 0 < quantity
  epsilon_lt_lot : epsilon12 < lot

namespace OrderSpec

variable (spec : OrderSpec)

/-- `_rounded_exchange_quantity`: the quantity that is sent, in whole lots. -/
def size : ℕ := (spec.quantity / spec.lot).floor.toNat

theorem lot_pos : 0 < spec.lot := lt_trans epsilon12_pos spec.epsilon_lt_lot

theorem size_mul_lot_le : spec.size * spec.lot ≤ spec.quantity := by
  have hlot := spec.lot_pos
  have hquot : 0 ≤ spec.quantity / spec.lot := (div_pos spec.quantity_pos hlot).le
  have hfloor : 0 ≤ (spec.quantity / spec.lot).floor := by
    rw [Rat.le_floor_iff]
    exact_mod_cast hquot
  have hcast : (spec.size : ℚ) = (((spec.quantity / spec.lot).floor : ℤ) : ℚ) := by
    have h : (spec.size : ℤ) = (spec.quantity / spec.lot).floor := Int.toNat_of_nonneg hfloor
    exact_mod_cast congrArg (Int.cast : ℤ → ℚ) h
  rw [hcast, ← le_div_iff₀ hlot]
  exact Rat.floor_le _

end OrderSpec

/-- The order as the exchange holds it; a live or canceled order is not filled up. -/
inductive VenueOrder (size : ℕ)
  | unknown
  | live (filled : Fin size)
  | filled
  | canceled (filled : Fin size)
  deriving DecidableEq

namespace VenueOrder

variable {size : ℕ}

def lots : VenueOrder size → ℕ
  | unknown => 0
  | live k => k
  | filled => size
  | canceled k => k

def isLive : VenueOrder size → Bool
  | live _ => true
  | unknown | filled | canceled _ => false

def take : VenueOrder size → Option (VenueOrder size)
  | unknown => if h : 0 < size then some (live ⟨0, h⟩) else none
  | live _ | filled | canceled _ => none

def fill (k : ℕ) : VenueOrder size → Option (VenueOrder size)
  | live done =>
    if h : done + k < size then some (live ⟨done + k, h⟩)
    else if done + k = size then some filled
    else none
  | unknown | filled | canceled _ => none

def cancel : VenueOrder size → Option (VenueOrder size)
  | live done => some (canceled done)
  | unknown | filled | canceled _ => none

theorem lots_le (venue : VenueOrder size) : venue.lots ≤ size := by
  cases venue with
  | unknown => exact Nat.zero_le _
  | live k => exact k.isLt.le
  | filled => exact le_refl _
  | canceled k => exact k.isLt.le

theorem take_eq_some {venue venue' : VenueOrder size} (h : venue.take = some venue') :
    venue = unknown ∧ ∃ hsize : 0 < size, venue' = live ⟨0, hsize⟩ := by
  cases venue with
  | unknown =>
    simp only [take] at h
    split at h
    · next hsize =>
      injection h with h
      exact ⟨rfl, hsize, h.symm⟩
    · cases h
  | live done => cases h
  | filled => cases h
  | canceled done => cases h

theorem fill_eq_some {k : ℕ} {venue venue' : VenueOrder size} (h : venue.fill k = some venue') :
    venue.isLive = true ∧ venue.lots ≤ venue'.lots ∧ venue' ≠ unknown := by
  cases venue with
  | unknown => cases h
  | filled => cases h
  | canceled done => cases h
  | live done =>
    simp only [fill] at h
    split at h
    · injection h with h
      subst h
      exact ⟨rfl, Nat.le_add_right _ _, fun h => by cases h⟩
    · split at h
      · injection h with h
        subst h
        exact ⟨rfl, done.isLt.le, fun h => by cases h⟩
      · cases h

theorem cancel_eq_some {venue venue' : VenueOrder size} (h : venue.cancel = some venue') :
    venue.isLive = true ∧ venue.lots ≤ venue'.lots ∧ venue' ≠ unknown := by
  cases venue with
  | unknown => cases h
  | filled => cases h
  | canceled done => cases h
  | live done =>
    injection h with h
    subst h
    exact ⟨rfl, le_refl _, fun h => by cases h⟩

end VenueOrder

/-! ### Reports of the exchange -/

def mapStatus (exchangeStatus : String) : OrderStatus :=
  match exchangeStatus with
  | "live" => .submitted
  | "partially_filled" => .partiallyFilled
  | "filled" => .filled
  | "canceled" => .canceled
  | "cancelled" => .canceled
  | "order_failed" => .failed
  | "effective" => .submitted
  | "rejected" => .rejected
  | "failed" => .failed
  | "expired" => .expired
  | _ => .submitted

/-- A row of the order channel or of `get_order`; sizes are in lots. -/
structure OrderRow where
  state : Option String := none
  ordId : Option String := none
  sz : ℕ
  accFillSz : ℕ := 0
  avgPx : Option ℚ := none
  fee : ℚ := 0
  uTime : Option Timestamp := none
  cTime : Option Timestamp := none
  cancelSource : Option String := none
  deriving DecidableEq

namespace OrderRow

variable (row : OrderRow)

/-- The lower-case `state` of a row, `live` when it has none. -/
def exchangeStatus : String := ((strOr row.state (some "live")).getD "live").toLower

def status : OrderStatus := mapStatus row.exchangeStatus

/-- The row says that the order is over: its state is closed, or all of it has traded. -/
def reportsClosed (size : ℕ) : Bool := row.status.isTerminal || decide (row.accFillSz = size)

/-- A report may be late, but a closed one is final: it names the traded lots, and it says
filled of an order that filled up and of no other. -/
def Truthful {size : ℕ} (venue : VenueOrder size) : Prop :=
  venue ≠ .unknown ∧ row.sz = size ∧ row.accFillSz ≤ venue.lots ∧
    (row.status.isTerminal = true →
      venue.isLive = false ∧ row.accFillSz = venue.lots ∧
        (row.status = .filled ↔ venue = .filled))

instance {size : ℕ} (venue : VenueOrder size) : Decidable (row.Truthful venue) :=
  inferInstanceAs (Decidable (_ ∧ _ ∧ _ ∧ (_ → _)))

end OrderRow

/-- The answer to a request for the order: a row (with the error of reading its fills, if that
failed), the answer that there is no such order, or an error. -/
inductive DetailAnswer
  | found (row : OrderRow) (fillsError : Option String)
  | notFound
  | error (text : String)
  deriving DecidableEq

def DetailAnswer.reportsClosed (size : ℕ) : DetailAnswer → Bool
  | found row _ => row.reportsClosed size
  | notFound | error _ => false

/-! ### The states the adapter returns -/

section States

variable (spec : OrderSpec)

def mapOrderState (payload : List (String × String)) (row : OrderRow) (submittedTs now : Timestamp) :
    OrderState :=
  { clientOrderId := spec.clientOrderId
    intentId := spec.intentId
    symbol := spec.symbol
    exchangeOrderId := row.ordId.filter (· ≠ "")
    status := row.status
    submissionMode := spec.submittedOrderMode
    exchangeStatus := some row.exchangeStatus
    exchangeStatusHistory := [row.exchangeStatus]
    submittedTs := some (row.cTime.getD submittedTs)
    lastUpdateTs := some (row.uTime.getD now)
    lastExchangeUpdateTs := some (row.uTime.getD now)
    cancellationRequestedTs := if row.status = .cancelPending then some submittedTs else none
    canceledTs :=
      if row.status = .canceled ∨ row.status = .expired then some (row.uTime.getD now) else none
    requestedQty := row.sz * spec.lot
    filledQty := row.accFillSz * spec.lot
    remainingQty := max (row.sz * spec.lot - row.accFillSz * spec.lot) 0
    averageFillPrice := row.avgPx
    fees := -row.fee
    cancelReason := row.cancelSource.filter (· ≠ "")
    executionError := none
    submissionPayload := payload }

/-- A state of the whole order with nothing filled, as the adapter builds it when it has no
report to read. -/
def unfilledState (status : OrderStatus) (submissionMode : String) (exchangeStatus : Option String)
    (ts : Timestamp) (reason : Option String) : OrderState :=
  { clientOrderId := spec.clientOrderId
    intentId := spec.intentId
    symbol := spec.symbol
    status := status
    submissionMode := submissionMode
    exchangeStatus := exchangeStatus
    exchangeStatusHistory := exchangeStatus.toList
    submittedTs := some ts
    lastUpdateTs := some ts
    lastExchangeUpdateTs := exchangeStatus.map fun _ => ts
    requestedQty := spec.quantity
    remainingQty := spec.quantity
    cancelReason := reason
    executionError := reason
    submissionPayload := spec.payload }

def blockedState (reason : String) (now : Timestamp) : OrderState :=
  if reason = "guarded_execution_dry_run" then
    unfilledState spec .dryRun spec.dryRunOrderMode (some "blocked") now (some reason)
  else unfilledState spec .blocked "guarded_blocked" (some "blocked") now (some reason)

def submittedState (submittedTs : Timestamp) (orderId : Option String) : OrderState :=
  { unfilledState spec .submitted spec.submittedOrderMode (some "live") submittedTs none with
    exchangeOrderId := orderId }

def rejectedState (submittedTs : Timestamp) (error : String) : OrderState :=
  unfilledState spec .rejected spec.submittedOrderMode (some "rejected") submittedTs (some error)

def failedState (submittedTs : Timestamp) (error : String) : OrderState :=
  unfilledState spec .failed spec.submittedOrderMode (some "failed") submittedTs (some error)

/-- The `FAILED` state of `_submit_single_order_intent` when the adapter raises. -/
def adapterExceptionState (now : Timestamp) (error : String) : OrderState :=
  { unfilledState spec .failed "adapter_exception" none now (some error) with
    submissionPayload := [] }

end States

def recoverableOrderState (state : OrderState) (error : String) (now : Timestamp) : OrderState :=
  { state with lastUpdateTs := some now, executionError := some error }

def writeUnknownErrorLabel (operation exc : String) : String :=
  operation ++ "_unknown_check_exchange:" ++ exc

def withFillsError (state : OrderState) (fillsError : Option String) (now : Timestamp) : OrderState :=
  match fillsError with
  | none => state
  | some error => recoverableOrderState state error now

/-! ### Submitting -/

/-- What `submit` returns once it has asked for the order: `accepted` is the state without a
report, and `unknown` the label of a place request whose outcome is not known. -/
def submitResult (spec : OrderSpec) (accepted : OrderState) (unknown : Option String)
    (submittedTs now : Timestamp) : DetailAnswer → OrderState
  | .found row fillsError =>
    match unknown with
    | none => withFillsError (mapOrderState spec spec.payload row submittedTs now) fillsError now
    | some _ => mapOrderState spec spec.payload row submittedTs now
  | .notFound =>
    match unknown with
    | none => accepted
    | some label => recoverableOrderState accepted label now
  | .error text =>
    match unknown with
    | none => recoverableOrderState accepted text now
    | some label => recoverableOrderState accepted label now

/-! ### Canceling -/

/-- The statuses that `cancel` returns as they are. -/
def cancelReturnsAtOnce (status : OrderStatus) : Bool :=
  decide (status ∈ [OrderStatus.filled, .canceled, .rejected, .failed, .expired])

def closesUnknownCancel (status : OrderStatus) : Bool :=
  decide (status ∈ [OrderStatus.canceled, .filled, .expired, .failed])

/-- The `FAILED` state of a cancel without any id. -/
def missingIdState (state : OrderState) (now : Timestamp) : OrderState :=
  { state with
    status := .failed
    lastUpdateTs := some now
    executionError := some "missing_exchange_order_id_for_cancel" }

/-- The `FAILED` state of a cancel request that was refused or ended in an error that is not a
transport error. -/
def cancelFailedState (cancelPending : OrderState) (error : String) (now : Timestamp) : OrderState :=
  { cancelPending with
    status := .failed
    executionError := some error
    cancelReason := some error
    lastExchangeUpdateTs := some now }

def canceledRowState (spec : OrderSpec) (cancelPending : OrderState) (row : OrderRow)
    (now : Timestamp) : OrderState :=
  let mapped := mapOrderState spec cancelPending.submissionPayload row
    (cancelPending.submittedTs.getD now) now
  { mapped with
    cancellationRequestedTs := cancelPending.cancellationRequestedTs
    cancelReason := strOr mapped.cancelReason cancelPending.cancelReason }

/-- What `cancel` returns once it has asked for the order after the cancel request: `unknown`
is the label of a request whose outcome is not known, and then only a closed order ends the
cancel. -/
def cancelResult (spec : OrderSpec) (cancelPending : OrderState) (unknown : Option String)
    (now : Timestamp) : DetailAnswer → OrderState
  | .found row fillsError =>
    match unknown with
    | none => withFillsError (canceledRowState spec cancelPending row now) fillsError now
    | some label =>
      if closesUnknownCancel row.status then
        { mapOrderState spec cancelPending.submissionPayload row
            (cancelPending.submittedTs.getD now) now with
          cancellationRequestedTs := cancelPending.cancellationRequestedTs }
      else recoverableOrderState cancelPending label now
  | .notFound =>
    match unknown with
    | none => cancelPending
    | some label => recoverableOrderState cancelPending label now
  | .error text =>
    match unknown with
    | none => recoverableOrderState cancelPending text now
    | some label => recoverableOrderState cancelPending label now

/-! ### Synchronizing -/

/-- An order that may not have reached the exchange is only looked up if the private channel
has a row of it. -/
def needsPrivateRow (state : OrderState) : Bool :=
  decide ((state.status = .created ∨ state.status = .submitting) ∧ state.exchangeOrderId = none)

/-- What `sync` returns for one order. -/
def syncResult (spec : OrderSpec) (state : OrderState) (now : Timestamp) : DetailAnswer → OrderState
  | .found row fillsError =>
    withFillsError
      (mapOrderState spec state.submissionPayload row (state.submittedTs.getD now) now) fillsError now
  | .notFound => state
  | .error text => recoverableOrderState state text now

end Aats.Execution
