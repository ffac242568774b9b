import Aats.Lib.Tasks
import Aats.Execution.OrderQuantities

/-!
# One order between the order manager and the exchange

All the code that decides the status of one order (`order_manager.py` over `okx_adapter.py`):
`process_submit_command`, the post-only execution with its timeout and its fallback order,
`cancel_order` in the direct and in the queued mode, `process_cancel_command` and the sync
loop. Any number of them run at once; each is cut at its awaits, so that between two steps of
one the others, the exchange and the submit command may move.

A place request is in flight until the exchange has decided it; the answer may be lost, and the
request may take effect after the client has given up on it. A cancel request is answered
without promise: the exchange cancels, on request or by itself, whenever it likes.

## Main definitions
* `Flow` — the stored order, the order at the exchange, the fallback order and what happened.
-/

namespace Aats.Execution

open Runs

/-! ### States -/

inductive PlaceRequest
  | unsent
  /-- The adapter has ended the submission without sending it. -/
  | withheld
  | inFlight
  /-- The exchange has taken the order or has let the request go. -/
  | decided
  deriving DecidableEq, Repr

def PlaceRequest.isSent : PlaceRequest → Bool
  | unsent | withheld => false
  | inFlight | decided => true

/-- The order, stored and at the exchange, with its submit command and its fallback order. -/
structure Flow (spec : OrderSpec) where
  order : OrderState
  venue : VenueOrder spec.size := .unknown
  place : PlaceRequest := .unsent
  submitCommand : Option Command := none
  /-- What the fallback orders were dispatched for, and what has traded of it. -/
  fallbackQuantity : Option ℚ := none
  fallbackFilled : ℚ := 0
  /-- The task that passed the status check of `process_submit_command` last, unless it died
  before the place request. -/
  submitter : Option ℕ := none
  /-- Another task passed it after that. -/
  resubmitted : Bool := false
  /-- The exchange has said that the order is closed, or that it does not take it. -/
  closedReport : Bool := false

inductive Caller
  /-- Nobody who acts on it. -/
  | plain
  /-- `_execute_post_only_with_timeout_fallback`, for its submission. -/
  | postOnlySubmit
  /-- The same, for its cancel after the timeout. -/
  | postOnlyCancel
  deriving DecidableEq, Repr

inductive AfterSave
  /-- `SUBMITTING` is stored; the adapter submits. -/
  | place
  /-- `CANCEL_PENDING` of `cancel_order`. -/
  | enqueue
  /-- `CANCEL_PENDING` of `_execute_cancel_from_state`. -/
  | cancel
  /-- `CANCELED` of `_cancel_pending_submit_before_exchange_ack`. -/
  | shortcut
  | result
  deriving DecidableEq, Repr

/-- Where a task is: at the await it is waiting on. -/
inductive Job
  | idle
  /-- `_persist_order_state`. -/
  | saving (state : OrderState) (next : AfterSave) (caller : Caller)
  /-- A result goes back to the caller. -/
  | returned (state : OrderState) (caller : Caller)
  /-- The gates of `submit`, before the place request. -/
  | admitting (caller : Caller)
  /-- `place_order`. -/
  | placing (submittedTs : Timestamp) (caller : Caller)
  /-- `_load_order_detail` of `submit`. -/
  | submitDetail (accepted : OrderState) (unknown : Option String) (submittedTs : Timestamp)
      (caller : Caller)
  /-- The timeout of a post-only order. -/
  | waiting
  /-- `_execute_cancel_from_state` begins. -/
  | canceling (state : OrderState) (caller : Caller)
  /-- Its second look at the shortcut, then `adapter.cancel`. -/
  | cancelReady (state : OrderState) (caller : Caller)
  /-- `_load_order_detail` of `cancel`, by the client order id. -/
  | cancelLookup (state : OrderState) (caller : Caller)
  /-- `cancel_order` of the exchange. -/
  | cancelSending (cancelPending : OrderState) (caller : Caller)
  /-- `_load_order_detail` after the cancel request. -/
  | cancelDetail (cancelPending : OrderState) (unknown : Option String) (caller : Caller)
  /-- `_load_order_detail` of `sync`. -/
  | syncDetail (state : OrderState)
  deriving DecidableEq

inductive WorldEvent
  | venueTakes
  /-- The place request goes without effect. -/
  | venueDrops
  | venueFills (lots : ℕ)
  | venueCancels
  | command (row : Option Command)
  | fallbackFills (quantity : ℚ)
  deriving DecidableEq

/-- What a task is called with or gets back from its await. -/
inductive Input
  | world (event : WorldEvent)
  | submit (now : Timestamp)
  | cancelOrder (now : Timestamp)
  | processCancelCommand
  /-- The sync loop; whether the private channel has a row of the order. -/
  | sync (privateRow : Bool)
  /-- The transaction commits or raises. -/
  | save
  | resume (now : Timestamp)
  /-- A gate of the adapter blocks the order. -/
  | block (reason : String) (now : Timestamp)
  /-- The adapter raises before the place request. -/
  | adapterError (error : String) (now : Timestamp)
  | send (now : Timestamp)
  | placeAccepted (orderId : Option String)
  /-- The answer has a non-zero `sCode`. -/
  | placeRejected (error : String)
  | placeFailed (error : String)
  | placeUnknown (exc : String)
  | cancelAccepted
  /-- The answer has a non-zero `sCode`, or the request ends in an error that is not a transport
  error. -/
  | cancelRefused (error : String) (now : Timestamp)
  | cancelUnknown (exc : String)
  | detail (answer : DetailAnswer) (now : Timestamp)
  | crash
  deriving DecidableEq

variable {spec : OrderSpec}

/-! ### Steps of the order manager -/

/-- The `CREATED` state an order starts with. -/
def createdState (spec : OrderSpec) (now : Timestamp) : OrderState :=
  { clientOrderId := spec.clientOrderId
    intentId := spec.intentId
    symbol := spec.symbol
    status := .created
    submissionMode := "local_order_manager"
    lastUpdateTs := some now
    requestedQty := spec.quantity
    remainingQty := spec.quantity }

/-- The `SUBMITTING` state of `_persist_submitting_state_for_intent`. -/
def submittingState (spec : OrderSpec) (current : OrderState) (now : Timestamp) : OrderState :=
  { current with
    clientOrderId := spec.clientOrderId
    intentId := spec.intentId
    symbol := spec.symbol
    status := .submitting
    lastUpdateTs := some now
    requestedQty := spec.quantity
    remainingQty := spec.quantity }

namespace Flow

/-- The status check of `process_submit_command`. -/
def submittable (flow : Flow spec) : Bool :=
  decide (flow.order.status = .created ∨ flow.order.status = .submitting)

def beginSubmit (flow : Flow spec) (me : ℕ) : Flow spec :=
  { flow with
    submitter := some me
    resubmitted := flow.resubmitted || flow.submitter.isSome }

/-- `process_submit_command` and `_execute_submit_intent`, up to the storing of `SUBMITTING`. -/
def submit (flow : Flow spec) (me : ℕ) (now : Timestamp) : Flow spec × Job :=
  if flow.submittable then
    (flow.beginSubmit me, .saving (submittingState spec flow.order now) .place
      (if spec.postOnly then .postOnlySubmit else .plain))
  else (flow, .returned flow.order .plain)

/-- `_cancel_pending_submit_before_exchange_ack` takes the order. -/
def takesShortcut (flow : Flow spec) (state : OrderState) : Bool :=
  spec.persistent && cancelsBeforeAck state flow.submitCommand

/-- It abandons a submit command that is `PENDING`. -/
def abandonPending (flow : Flow spec) (now : Timestamp) : Flow spec :=
  { flow with
    submitCommand := flow.submitCommand.map fun command =>
      if command.state = .pending then { command with state := .abandoned, updatedAt := now }
      else command }

/-- `cancel_order`, up to its first write. -/
def cancelOrder (flow : Flow spec) (caller : Caller) (now : Timestamp) : Flow spec × Job :=
  if flow.order.status.isTerminal then (flow, .returned flow.order caller)
  else if flow.takesShortcut flow.order then
    (flow.abandonPending now, .saving (canceledState flow.order now) .shortcut caller)
  else (flow, .saving (cancelPendingState flow.order now) .enqueue caller)

/-- `adapter.cancel`, up to its first request. -/
def adapterCancel (state : OrderState) (caller : Caller) (now : Timestamp) : Job :=
  if cancelReturnsAtOnce state.status then .saving state .result caller
  else if state.exchangeOrderId = none then
    if state.clientOrderId = "" then .saving (missingIdState state now) .result caller
    else .cancelLookup state caller
  else .cancelSending (cancelPendingState state now) caller

/-- The second look at the shortcut, then `adapter.cancel`. -/
def cancelReady (flow : Flow spec) (state : OrderState) (caller : Caller) (now : Timestamp) :
    Flow spec × Job :=
  if flow.takesShortcut state then
    (flow.abandonPending now, .saving (canceledState state now) .shortcut caller)
  else (flow, adapterCancel state caller now)

/-- `_execute_cancel_from_state`, up to its first await. -/
def executeCancel (flow : Flow spec) (state : OrderState) (caller : Caller) (now : Timestamp) :
    Flow spec × Job :=
  if flow.takesShortcut state then
    (flow.abandonPending now, .saving (canceledState state now) .shortcut caller)
  else if state.status ≠ .cancelPending then
    (flow, .saving (cancelPendingState state now) .cancel caller)
  else flow.cancelReady state caller now

/-- `_sync_candidates`: an open order, or a closed one with fills that are not stored. -/
def syncCandidate (flow : Flow spec) : Bool :=
  !flow.order.status.isTerminal ||
    decide (flow.order.status ∈ [OrderStatus.filled, .canceled, .expired] ∧
      epsilon12 < flow.order.filledQty)

/-! ### Steps of the post-only execution -/

def dispatchFallback (flow : Flow spec) (quantity : ℚ) : Flow spec :=
  { flow with fallbackQuantity := some (flow.fallbackQuantity.getD 0 + quantity) }

def afterReturn (flow : Flow spec) (state : OrderState) : Caller → Flow spec × Job
  | .plain => (flow, .idle)
  | .postOnlySubmit =>
    if state.status.isTerminal then
      if state.status = .rejected ∨ state.status = .failed then
        (flow.dispatchFallback
          (if state.remainingQty = 0 then spec.quantity else state.remainingQty), .idle)
      else (flow, .idle)
    else (flow, .waiting)
  | .postOnlyCancel =>
    if max state.remainingQty 0 ≤ epsilon12 then (flow, .idle)
    else (flow.dispatchFallback (max state.remainingQty 0), .idle)

/-- The order needs no cancel when the timeout ends. -/
def doneAtTimeout (flow : Flow spec) : Bool :=
  flow.order.status.isTerminal || decide (max flow.order.remainingQty 0 ≤ epsilon12)

def afterTimeout (flow : Flow spec) (now : Timestamp) : Flow spec × Job :=
  if flow.doneAtTimeout then (flow, .idle) else flow.cancelOrder .postOnlyCancel now

/-! ### Storing -/

def afterSave (spec : OrderSpec) (persisted : OrderState) (caller : Caller) : AfterSave → Job
  | .place => .admitting caller
  | .enqueue => if spec.persistent then .returned persisted caller else .canceling persisted caller
  | .cancel => .cancelReady persisted caller
  | .shortcut => .returned persisted caller
  | .result => .returned persisted caller

/-- `_persist_order_state`; an exception ends the task (the post-only execution catches the
one of its cancel and returns without a fallback order). -/
def save (flow : Flow spec) (state : OrderState) (next : AfterSave) (caller : Caller) :
    Flow spec × Job :=
  match saveOrderState flow.order state with
  | .error _ => (flow, .idle)
  | .ok persisted => ({ flow with order := persisted }, afterSave spec persisted caller next)

/-! ### Steps of the adapter -/

/-- The submission ends without a place request. -/
def withhold (flow : Flow spec) : Flow spec :=
  { flow with place := if flow.place = .unsent then .withheld else flow.place }

/-- A refusal of the place request is an answer about the order: the exchange does not know it.
(Only a second place request can be refused because of the first.) -/
def refusable (flow : Flow spec) : Bool :=
  decide (flow.place = .decided ∧ (flow.venue = .unknown ∨ flow.resubmitted = true))

/-- The exchange has refused the place request. -/
def noteRefusal (flow : Flow spec) : Flow spec :=
  { flow with closedReport := flow.closedReport || decide (flow.venue = .unknown) }

def CanAnswer (flow : Flow spec) : DetailAnswer → Prop
  | .found row _ => row.Truthful flow.venue
  | .notFound => True
  | .error _ => True

instance (flow : Flow spec) : ∀ answer, Decidable (flow.CanAnswer answer)
  | .found row _ => inferInstanceAs (Decidable (row.Truthful flow.venue))
  | .notFound => inferInstanceAs (Decidable True)
  | .error _ => inferInstanceAs (Decidable True)

def noteAnswer (flow : Flow spec) (answer : DetailAnswer) : Flow spec :=
  { flow with closedReport := flow.closedReport || answer.reportsClosed spec.size }

/-- `cancel` after it has looked for the order by its client order id. -/
def afterLookup (spec : OrderSpec) (state : OrderState) (caller : Caller) (now : Timestamp) :
    DetailAnswer → Job
  | .found row _ =>
    let resolved := mapOrderState spec state.submissionPayload row (state.submittedTs.getD now) now
    if cancelReturnsAtOnce resolved.status then .saving resolved .result caller
    else .cancelSending (cancelPendingState resolved now) caller
  | .notFound => .cancelSending (cancelPendingState state now) caller
  | .error _ => .cancelSending (cancelPendingState state now) caller

def afterDetail (spec : OrderSpec) (answer : DetailAnswer) (now : Timestamp) : Job → Option Job
  | .submitDetail accepted unknown submittedTs caller =>
    some (.saving (submitResult spec accepted unknown submittedTs now answer) .result caller)
  | .cancelLookup state caller => some (afterLookup spec state caller now answer)
  | .cancelDetail cancelPending unknown caller =>
    some (.saving (cancelResult spec cancelPending unknown now answer) .result caller)
  | .syncDetail state => some (.saving (syncResult spec state now answer) .result .plain)
  | _ => none

/-! ### The machine -/

def world (flow : Flow spec) : WorldEvent → Option (Flow spec)
  | .venueTakes =>
    if flow.place = .inFlight then
      flow.venue.take.map fun venue => { flow with venue := venue, place := .decided }
    else none
  | .venueDrops => if flow.place = .inFlight then some { flow with place := .decided } else none
  | .venueFills lots => (flow.venue.fill lots).map fun venue => { flow with venue := venue }
  | .venueCancels => flow.venue.cancel.map fun venue => { flow with venue := venue }
  | .command row => some { flow with submitCommand := row }
  | .fallbackFills quantity =>
    match flow.fallbackQuantity with
    | none => none
    | some total =>
      if 0 < quantity ∧ flow.fallbackFilled + quantity ≤ total then
        some { flow with fallbackFilled := flow.fallbackFilled + quantity }
      else none

def call (flow : Flow spec) (me : ℕ) : Input → Option (Flow spec × Job)
  | .submit now => some (flow.submit me now)
  | .cancelOrder now => some (flow.cancelOrder .plain now)
  | .processCancelCommand =>
    if flow.order.status.isTerminal then some (flow, .returned flow.order .plain)
    else some (flow, .canceling flow.order .plain)
  | .sync privateRow =>
    if flow.syncCandidate && (privateRow || !needsPrivateRow flow.order) then
      some (flow, .syncDetail flow.order)
    else none
  | _ => none

/-- The gates of the adapter have decided; an order that is smaller than a lot is blocked. -/
def gate (flow : Flow spec) (caller : Caller) : Input → Option (Flow spec × Job)
  | .block reason now => some (flow.withhold, .saving (blockedState spec reason now) .result caller)
  | .adapterError error now =>
    some (flow.withhold, .saving (adapterExceptionState spec now error) .result caller)
  | .send now =>
    if 0 < spec.size then some ({ flow with place := .inFlight }, .placing now caller) else none
  | _ => none

def placeReply (flow : Flow spec) (submittedTs : Timestamp) (caller : Caller) :
    Input → Option (Flow spec × Job)
  | .placeAccepted orderId =>
    if flow.venue ≠ .unknown then
      some (flow, .submitDetail (submittedState spec submittedTs orderId) none submittedTs caller)
    else none
  | .placeRejected error =>
    if flow.refusable then
      some (flow.noteRefusal, .saving (rejectedState spec submittedTs error) .result caller)
    else none
  | .placeFailed error =>
    if flow.refusable then
      some (flow.noteRefusal, .saving (failedState spec submittedTs error) .result caller)
    else none
  | .placeUnknown exc =>
    some (flow, .submitDetail (submittedState spec submittedTs none)
      (some (writeUnknownErrorLabel "submission" exc)) submittedTs caller)
  | _ => none

def cancelReply (cancelPending : OrderState) (caller : Caller) : Input → Option Job
  | .cancelAccepted => some (.cancelDetail cancelPending none caller)
  | .cancelRefused error now =>
    some (.saving (cancelFailedState cancelPending error now) .result caller)
  | .cancelUnknown exc =>
    some (.cancelDetail cancelPending (some (writeUnknownErrorLabel "cancel" exc)) caller)
  | _ => none

/-- A task that waits for nothing but its turn goes on. -/
def resume (flow : Flow spec) (now : Timestamp) : Job → Option (Flow spec × Job)
  | .returned state caller => some (flow.afterReturn state caller)
  | .waiting => some (flow.afterTimeout now)
  | .canceling state caller => some (flow.executeCancel state caller now)
  | .cancelReady state caller => some (flow.cancelReady state caller now)
  | _ => none

/-- A submission that dies before its place request may be taken up again. -/
def giveUp (flow : Flow spec) (me : ℕ) : Job → Flow spec
  | .saving _ .place _ | .admitting _ =>
    if flow.submitter = some me then { flow with submitter := none } else flow
  | _ => flow

/-- One step of the task `me`, or of the world around it. -/
def advance (flow : Flow spec) (me : ℕ) (job : Job) (input : Input) : Option (Flow spec × Job) :=
  match input with
  | .world event => (flow.world event).map fun flow => (flow, job)
  | .crash => some (flow.giveUp me job, .idle)
  | .resume now => flow.resume now job
  | .detail answer now =>
    if flow.CanAnswer answer then
      (afterDetail spec answer now job).map fun job => (flow.noteAnswer answer, job)
    else none
  | input =>
    match job with
    | .idle => flow.call me input
    | .saving state next caller =>
      match input with
      | .save => some (flow.save state next caller)
      | _ => none
    | .admitting caller => flow.gate caller input
    | .placing submittedTs caller => flow.placeReply submittedTs caller input
    | .cancelSending cancelPending caller =>
      (cancelReply cancelPending caller input).map fun job => (flow, job)
    | _ => none

end Flow

/-- What the world can do: decide the place request, trade or cancel a live order, move the
submit command, and trade the fallback order. -/
inductive WorldEffect (flow : Flow spec) : Flow spec → Prop
  | taken (hflight : flow.place = .inFlight) (hunknown : flow.venue = .unknown)
      (hsize : 0 < spec.size) :
      WorldEffect flow { flow with venue := .live ⟨0, hsize⟩, place := .decided }
  | dropped (hflight : flow.place = .inFlight) : WorldEffect flow { flow with place := .decided }
  | traded {venue : VenueOrder spec.size} (hlive : flow.venue.isLive = true)
      (hle : flow.venue.lots ≤ venue.lots) (hknown : venue ≠ .unknown) :
      WorldEffect flow { flow with venue := venue }
  | command (row : Option Command) : WorldEffect flow { flow with submitCommand := row }
  | fallback {total quantity : ℚ} (hquantity : flow.fallbackQuantity = some total)
      (hpos : 0 < quantity) (hle : flow.fallbackFilled + quantity ≤ total) :
      WorldEffect flow { flow with fallbackFilled := flow.fallbackFilled + quantity }

theorem world_effect {flow flow' : Flow spec} {event : WorldEvent}
    (h : flow.world event = some flow') : WorldEffect flow flow' := by
  cases event with
  | venueTakes =>
    simp only [Flow.world] at h
    split at h
    · next hflight =>
      obtain ⟨venue, htake, rfl⟩ := Option.map_eq_some_iff.mp h
      obtain ⟨hunknown, hsize, rfl⟩ := VenueOrder.take_eq_some htake
      exact .taken hflight hunknown hsize
    · cases h
  | venueDrops =>
    simp only [Flow.world] at h
    split at h
    · next hflight =>
      injection h with h
      subst h
      exact .dropped hflight
    · cases h
  | venueFills lots =>
    obtain ⟨venue, hfill, rfl⟩ := Option.map_eq_some_iff.mp h
    obtain ⟨hlive, hle, hknown⟩ := VenueOrder.fill_eq_some hfill
    exact .traded hlive hle hknown
  | venueCancels =>
    obtain ⟨venue, hcancel, rfl⟩ := Option.map_eq_some_iff.mp h
    obtain ⟨hlive, hle, hknown⟩ := VenueOrder.cancel_eq_some hcancel
    exact .traded hlive hle hknown
  | command row =>
    injection h with h
    subst h
    exact .command row
  | fallbackFills quantity =>
    simp only [Flow.world] at h
    split at h
    · cases h
    · next total hquantity =>
      split at h
      · next hok =>
        injection h with h
        subst h
        exact .fallback hquantity hok.1 hok.2
      · cases h

/-- The order flow of `n` tasks. -/
def flowStep {n : ℕ} (s : Tasks (Flow spec) Job n) (l : Fin n × Input) :
    Option (Tasks (Flow spec) Job n) :=
  tasksStep Flow.advance s l

/-- The order is stored as `CREATED`, with its submit command in the queued mode. -/
def startOrder (spec : OrderSpec) (n : ℕ) (now : Timestamp) (submitCommand : Option Command) :
    Tasks (Flow spec) Job n where
  shared := { order := createdState spec now, submitCommand := submitCommand }
  task := fun _ => .idle

end Aats.Execution
