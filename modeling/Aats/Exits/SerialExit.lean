import Aats.Exits.StoredAggregates

/-!
# The dispatch loop of an exit

`services/execution_engine/order_manager.py`: an exit that is larger than what one order may have
is sent in slices, one after the other.  `_execute_serial_exit_split` reads from the parent how
much may still be sent, records a slice of it, submits the slice and goes on when it has ended.
`_resume_exit_execution_parent` starts the loop again after the orders were synchronized.

A command worker and the synchronization run as tasks of one process, and nothing keeps two of
them off the same exit. A task is interrupted where it awaits the write of an order state (which
runs in a thread), the events that follow the write, the limit of an order, and the exchange.
After the events it saves the reference of the order and goes on without an interruption.
-/

namespace Aats.Exits

open Execution Recovery Reconciliation Runs

/-! ### The intents and orders of an exit -/

/-- The intents of an exit differ in the fields that a dispatch template has; for the others see
`SerialExit`. -/
abbrev ExitIntent := DispatchTemplate

/-- What all intents and orders of one exit have in common, and what the adapter and the settings
say. -/
structure SerialExit where
  parentIntentId : String
  executionChainId : Option String := none
  symbol : String := ""
  reduceOnly : Bool := false
  closeOnly : Bool := false
  positionIntent : Option String := none
  legAction : Option String := none
  executionAction : Option String := none
  settings : Option UnknownWriteSettings := none
  /-- `_derived_child_client_order_id`. -/
  derivedChildClientOrderId : ExitIntent → String

def exitSplitMaxChildren : ℕ := 32

def SerialExit.fill (exit : SerialExit) (order : ExitOrder) (intent : ExitIntent)
    (clientOrderId : String) (now : Timestamp) : ExitOrder :=
  { order with
    clientOrderId := clientOrderId
    intentId := intent.intentId
    symbol := exit.symbol
    executionChainId := exit.executionChainId
    lastUpdateTs := some now
    requestedQty := intent.quantity
    remainingQty := intent.quantity
    reduceOnly := exit.reduceOnly
    closeOnly := exit.closeOnly
    positionIntent := exit.positionIntent
    legAction := exit.legAction
    executionAction := exit.executionAction }

/-- The state that `_persist_submitting_state_for_intent` writes. -/
def submittingStateForIntent (exit : SerialExit) (current : Option ExitOrder) (intent : ExitIntent)
    (clientOrderId : String) (now : Timestamp) : ExitOrder :=
  let current := current.getD <| exit.fill
    { status := .created
      submissionMode := "local_order_manager"
      requestedQty := intent.quantity
      remainingQty := intent.quantity } intent clientOrderId now
  { exit.fill current intent clientOrderId now with status := .submitting }

def splitChildIntent (intent : ExitIntent) (quantity : ℚ) (sliceIndex : ℕ) : ExitIntent :=
  if sliceIndex ≤ 1 then { intent with quantity := quantity }
  else
    { intentId := intent.intentId ++ ":slice:" ++ toString sliceIndex
      idempotencyKey := intent.idempotencyKey ++ ":slice:" ++ toString sliceIndex
      quantity := quantity }

/-- An order state as it is written over the stored one: the order state machine merges it, and
the other fields are those of the state that the merge starts from. -/
def mergeExitOrder (current : Option ExitOrder) (incoming : ExitOrder) : ExitOrder :=
  match current with
  | none => { incoming with toOrderState := merge none incoming.toOrderState }
  | some current =>
    let merged := merge (some current.toOrderState) incoming.toOrderState
    if (validateTransition (some current.status) incoming.status).accepted then
      { incoming with toOrderState := merged }
    else { current with toOrderState := merged }

/-! ### What is stored -/

/-- The stored orders of an exit, and its parent with the references of its children. -/
structure ExitStore where
  record : ExitRecord
  orders : List ExitOrder := []

def ExitStore.getOrderState (store : ExitStore) (clientOrderId : String) : Option ExitOrder :=
  KeyedList.lookup (fun order : ExitOrder => order.clientOrderId) store.orders clientOrderId

def ExitStore.written (store : ExitStore) (order : ExitOrder) : ExitOrder :=
  mergeExitOrder (store.getOrderState order.clientOrderId) order

def ExitStore.write (store : ExitStore) (order : ExitOrder) : ExitStore :=
  { store with
    orders := KeyedList.upsert (fun order : ExitOrder => order.clientOrderId) store.orders
      (store.written order) }

def SerialExit.childRef (exit : SerialExit) (order : ExitOrder) (now : Timestamp) :
    ChildExitOrderRef :=
  childExitOrderRefFromOrderState exit.parentIntentId order exit.settings now

def SerialExit.createParent (exit : SerialExit) (order : ExitOrder) : ExitParent :=
  { createExitExecutionIntent exit.parentIntentId order.requestedQty [] with
    executionChainId := exit.executionChainId.getD "", symbol := exit.symbol }

def syncExitExecutionIntent (exit : SerialExit) (store : ExitStore) (order : ExitOrder)
    (now : Timestamp) : ExitStore :=
  { store with
    record := saveChildRefAndRecomputeParent store.record (exit.createParent order)
      (exit.childRef order now) now }

/-- The kind of the issue of a parent without children. -/
def missingChildRefsKind : String := "missing_child_refs_for_parent"

def markParentMissingChildRefs (parent : ExitParent) (now : Timestamp) : ExitParent :=
  if resumeIssueKind parent.reviewed = some missingChildRefsKind then parent
  else recordResumeIssue parent missingChildRefsKind "child_refs_not_reconstructable" now

/-- `_refreshed_child_refs_for_parent`: the children with their orders as they are stored, then the
orders of the exit that are not among them. -/
def refreshedChildRefsForParent (exit : SerialExit) (store : ExitStore) (now : Timestamp) :
    List ChildExitOrderRef :=
  (store.record.children.map fun ref =>
    ((store.getOrderState ref.clientOrderId).map (exit.childRef · now)).getD ref) ++
  (store.orders.filter fun order =>
    order.executionChainId = exit.executionChainId ∧ isRiskReducingOrderState order = true ∧
      order.clientOrderId ∉ store.record.children.map ChildExitOrderRef.clientOrderId).map
    (exit.childRef · now)

/-- `refresh_exit_execution_intents` at one exit. -/
def refreshExitExecutionIntent (exit : SerialExit) (store : ExitStore) (now : Timestamp) :
    ExitStore :=
  match store.record.parent with
  | none => store
  | some parent =>
    if parent.aggregateStatus.isTerminal = true then store
    else
      match refreshedChildRefsForParent exit store now with
      | [] =>
        { store with
          record := saveExitExecutionIntent store.record (markParentMissingChildRefs parent now) }
      | refs =>
        { store with
          record := saveChildRefsAndRecomputeParent store.record parent refs
            (.clearResumeIssue (some missingChildRefsKind)) now }

/-! ### Tasks -/

/-- A run of `_execute_serial_exit_split`, at one of its slices. -/
structure SerialLoop where
  intent : ExitIntent
  clientOrderId : String
  splitLimit : ℚ
  startSliceIndex : ℕ
  sliceIndex : ℕ
  deriving DecidableEq, Repr

inductive WritePurpose
  /-- An intent is recorded before it is sent. -/
  | anchor (intent : ExitIntent)
  /-- A later slice of a loop is recorded before it is sent. -/
  | slice (loop : SerialLoop) (quantity : ℚ)
  /-- What the exchange made of an order, of a loop or of a whole intent. -/
  | outcome (loop : Option SerialLoop)
  /-- What is learned of an order later on. -/
  | report
  deriving DecidableEq, Repr

inductive ExitPlace
  | idle
  | writing (purpose : WritePurpose) (order : ExitOrder)
  /-- The events after the write; the reference of the written state is saved next. -/
  | saving (purpose : WritePurpose) (persisted : ExitOrder)
  /-- `_serial_exit_split_limit` of an intent. -/
  | splitLimit (intent : ExitIntent) (clientOrderId : String)
  /-- The limit of an exit that is to be resumed; the parent is the copy that was read. -/
  | resumeLimit (parent : ExitParent) (intent : ExitIntent) (nextSliceIndex : ℕ)
  | submitting (loop : Option SerialLoop) (clientOrderId : String) (quantity : ℚ)

/-- What happens to a task: what it begins with, or how that ends what it awaits. -/
inductive ExitInput
  /-- `_execute_submit_intent`. -/
  | takeUp (intent : ExitIntent) (clientOrderId : String)
  /-- The exchange or an operator has something new on an order. -/
  | report (order : ExitOrder)
  /-- `_resume_exit_execution_parent`. -/
  | resume
  /-- `refresh_exit_execution_intents`. -/
  | refresh
  /-- `request_cancel_exit_intent`. -/
  | requestCancel
  /-- The write or the events are done. -/
  | proceed
  /-- `_risk_reducing_max_order_quantity_limit` has answered. -/
  | limit (answer : Option ℚ)
  | outcome (order : ExitOrder)

/-! ### The loop -/

def stopsSerialExit (parent : ExitParent) : Bool :=
  decide (parent.operatorReviewRequired = true ∨
    parent.aggregateStatus ∈ [ParentAggregateStatus.cancelPending, .completed, .canceled,
      .failedSafe, .reviewRequired])

/-- `slice_index == start_slice_index and start_slice_index <= 1`. -/
def SerialLoop.atFirstSlice (loop : SerialLoop) : Bool :=
  decide (loop.sliceIndex = loop.startSliceIndex ∧ loop.startSliceIndex ≤ 1)

/-- `remaining_quantity` of an iteration. -/
def SerialLoop.remainingQuantity (loop : SerialLoop) (parent : Option ExitParent) : ℚ :=
  match loop.atFirstSlice, parent with
  | false, some parent => parent.remainingDispatchableQuantity
  | _, _ => max loop.intent.quantity 0

/-- `child_quantity` of an iteration; the loop ends if there is none. -/
def SerialLoop.childQuantity (loop : SerialLoop) (parent : Option ExitParent) : Option ℚ :=
  if parent.any stopsSerialExit = true then none
  else if loop.remainingQuantity parent ≤ epsilon12 then none
  else if min loop.splitLimit (loop.remainingQuantity parent) ≤ epsilon12 then none
  else some (min loop.splitLimit (loop.remainingQuantity parent))

/-- An iteration of `_execute_serial_exit_split`, up to what it awaits. The order of the first
slice is already recorded. -/
def executeSlice (exit : SerialExit) (store : ExitStore) (loop : SerialLoop) (now : Timestamp) :
    ExitPlace :=
  if exitSplitMaxChildren < loop.sliceIndex then .idle
  else
    match loop.childQuantity store.record.parent with
    | none => .idle
    | some quantity =>
      if loop.atFirstSlice = true then .submitting (some loop) loop.clientOrderId quantity
      else
        let childIntent := splitChildIntent loop.intent quantity loop.sliceIndex
        let clientOrderId := exit.derivedChildClientOrderId childIntent
        .writing (.slice loop quantity) (submittingStateForIntent exit
          (store.getOrderState clientOrderId) childIntent clientOrderId now)

/-- The start of `_execute_serial_exit_split`. -/
def executeSerialExitSplit (exit : SerialExit) (store : ExitStore) (intent : ExitIntent)
    (clientOrderId : String) (splitLimit : ℚ) (startSliceIndex : ℕ) (now : Timestamp) : ExitPlace :=
  if splitLimit ≤ epsilon12 then .idle
  else
    executeSlice exit store
      { intent := intent
        clientOrderId := clientOrderId
        splitLimit := splitLimit
        startSliceIndex := startSliceIndex
        sliceIndex := startSliceIndex } now

def shouldContinueSerialExitSplit (childState : ExitOrder) (parent : Option ExitParent)
    (sliceIndex : ℕ) : Bool :=
  match parent with
  | none => false
  | some parent =>
    decide (sliceIndex < exitSplitMaxChildren ∧ childState.status.isTerminal = true ∧
      childState.status ∉ [OrderStatus.failed, .rejected, .blocked] ∧
      unknownWriteOperation childState.toLocalOrder = none ∧
      ¬ (parent.operatorReviewRequired = true ∨
        parent.aggregateStatus ∈ [ParentAggregateStatus.reviewRequired, .cancelPending,
          .failedSafe]) ∧
      epsilon12 < parent.remainingDispatchableQuantity ∧
      (epsilon12 < childState.filledQty ∨ childState.status = .filled))

/-- `_serial_exit_split_limit`, from the limit that the adapter gives. -/
def serialExitSplitLimit (intent : ExitIntent) (answer : Option ℚ) : Option ℚ :=
  (answer.map (max · 0)).filter fun limit => epsilon12 < intent.quantity - limit

def afterSlice (exit : SerialExit) (store : ExitStore) (loop : SerialLoop) (childState : ExitOrder)
    (now : Timestamp) : ExitPlace :=
  if shouldContinueSerialExitSplit childState store.record.parent loop.sliceIndex = true then
    executeSlice exit store { loop with sliceIndex := loop.sliceIndex + 1 } now
  else .idle

/-- `_resume_exit_execution_parent`, up to what it awaits. -/
def resumeExitExecutionParent (store : ExitStore) (parent : ExitParent) : ExitPlace :=
  match parent.metadata.dispatchTemplate with
  | none => .idle
  | some template =>
    if (resumeBlockReason parent).isSome = true then .idle
    else if exitSplitMaxChildren < store.record.children.length + 1 then .idle
    else
      .resumeLimit parent { template with quantity := parent.remainingDispatchableQuantity }
        (store.record.children.length + 1)

/-- The rest of `_resume_exit_execution_parent`, once it has the limit. -/
def resumeWithLimit (exit : SerialExit) (store : ExitStore) (parent : ExitParent)
    (intent : ExitIntent) (nextSliceIndex : ℕ) (answer : Option ℚ) (now : Timestamp) :
    Option (ExitStore × ExitPlace) :=
  match (answer.map (max · 0)).filter (epsilon12 < ·) with
  | none =>
    some ({ store with
      record := saveExitExecutionIntent store.record (recordResumeIssue parent
        "resume_limit_lookup_failed" "max_size_limit_unavailable" now) }, .idle)
  | some splitLimit => do
    let record ← recomputeParent store.record (.clearResumeIssue none) now
    let store := { store with record := record }
    return (store, executeSerialExitSplit exit store intent intent.idempotencyKey splitLimit
      nextSliceIndex now)

/-- What a task goes on with after the reference of an order was saved. -/
def afterSaving (exit : SerialExit) (store : ExitStore) (persisted : ExitOrder) (now : Timestamp) :
    WritePurpose → ExitPlace
  | .anchor intent => .splitLimit intent persisted.clientOrderId
  | .slice loop quantity => .submitting (some loop) persisted.clientOrderId quantity
  | .outcome (some loop) => afterSlice exit store loop persisted now
  | .outcome none | .report => .idle

/-- What a task does between two awaits. An outcome is that of the order that was submitted, and
asks for no more than it; a report is on an order that is stored. -/
def advanceExit (exit : SerialExit) (store : ExitStore) (_me : ℕ) (place : ExitPlace)
    (input : ExitInput × Timestamp) : Option (ExitStore × ExitPlace) :=
  match place, input with
  | .idle, (.takeUp intent clientOrderId, now) =>
    some (store, .writing (.anchor intent) (submittingStateForIntent exit
      (store.getOrderState clientOrderId) intent clientOrderId now))
  | .idle, (.report order, _) =>
    if (store.getOrderState order.clientOrderId).isSome = true then
      some (store, .writing .report order)
    else none
  | .idle, (.resume, _) =>
    store.record.parent.map fun parent => (store, resumeExitExecutionParent store parent)
  | .idle, (.refresh, now) => some (refreshExitExecutionIntent exit store now, .idle)
  | .idle, (.requestCancel, now) =>
    (recomputeParent store.record .requestCancel now).map fun record =>
      ({ store with record := record }, .idle)
  | .writing purpose order, (.proceed, _) =>
    some (store.write order, .saving purpose (store.written order))
  | .saving purpose persisted, (.proceed, now) =>
    let store := syncExitExecutionIntent exit store persisted now
    some (store, afterSaving exit store persisted now purpose)
  | .splitLimit intent clientOrderId, (.limit answer, now) =>
    match serialExitSplitLimit intent answer with
    | none => some (store, .submitting none clientOrderId intent.quantity)
    | some splitLimit =>
      some (store, executeSerialExitSplit exit store intent clientOrderId splitLimit 1 now)
  | .resumeLimit parent intent nextSliceIndex, (.limit answer, now) =>
    resumeWithLimit exit store parent intent nextSliceIndex answer now
  | .submitting loop clientOrderId quantity, (.outcome order, _) =>
    if order.clientOrderId = clientOrderId ∧ order.requestedQty ≤ quantity then
      some (store, .writing (.outcome loop) order)
    else none
  | _, _ => none

def serialExitStep {n : ℕ} (exit : SerialExit) :
    Tasks ExitStore ExitPlace n → Fin n × ExitInput × Timestamp →
      Option (Tasks ExitStore ExitPlace n) :=
  tasksStep (advanceExit exit)

/-- What is stored once an exit was created for an intent, whose order was then recorded. -/
def recordedExit (exit : SerialExit) (intent : ExitIntent) (clientOrderId : String)
    (now : Timestamp) : ExitStore :=
  let order := submittingStateForIntent exit none intent clientOrderId now
  let parent := addDispatchTemplate (exit.createParent order) intent
  let store : ExitStore := { record := saveExitExecutionIntent {} parent }
  syncExitExecutionIntent exit (store.write order) (store.written order) now

/-- The tasks of an exit when its first intent was recorded; the task that took it up goes on, the
others have not begun. -/
def serialExitStart {n : ℕ} (exit : SerialExit) (first : Fin n) (intent : ExitIntent)
    (clientOrderId : String) (now : Timestamp) : Tasks ExitStore ExitPlace n where
  shared := recordedExit exit intent clientOrderId now
  task := Function.update (fun _ => .idle) first (.splitLimit intent clientOrderId)

end Aats.Exits
