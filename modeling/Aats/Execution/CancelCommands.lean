import Aats.Lib.Runs
import Aats.Execution.CancelOrder
import Mathlib.Data.List.Nodup

/-!
# Cancel requests and cancel commands

The persistent command flow of `cancel_order` (`execution_engine/order_manager.py`,
`execution_control/order_service.py`): any number of orders, their submit and cancel commands
in one table, any number of cancel calls in flight, workers that claim and mark commands, and
the exchange sync.

A cancel command is inserted once per order, because its idempotency key is `cancel:` and the
order id. While that command is `PENDING`, `CLAIMED` or `SENT`, a repeated cancel rides on it.
Once it is `ACKED`, `FAILED` or `ABANDONED`, a repeated cancel stores `CANCEL_PENDING`, inserts
nothing and returns: nobody will ask the exchange again.

## Main results
* `cancel_request_live_iff` — after every run, when a returning cancel leaves a live command.
-/

namespace Aats.Execution

open Runs

/-! ### The flow -/

/-- Where a call of `cancel_order` is. -/
inductive CancelCall
  | idle
  /-- The shortcut was taken; the canceled order is stored next. -/
  | storingCanceled (order : OrderState)
  /-- `CANCEL_PENDING` is stored next. -/
  | storingPending (order : OrderState)
  /-- `enqueue_cancel` comes next. -/
  | enqueuing (persisted : OrderState)
  deriving DecidableEq

/-- The stored orders, the command table and `k` callers of `cancel_order`, with what the last
step returned to its caller. -/
structure CancelFlow (k : ℕ) where
  orders : String → Option OrderState := fun _ => none
  table : CommandTable := []
  call : Fin k → CancelCall := fun _ => .idle
  returned : Option OrderState := none

inductive CancelStep (k : ℕ)
  | submit (order : OrderState) (commandId : String) (now : Timestamp)
  /-- `cancel_order` up to its first write. -/
  | cancel (j : Fin k) (clientOrderId : String) (now : Timestamp)
  /-- The write of the canceled or pending order. -/
  | persist (j : Fin k) (now : Timestamp)
  /-- `enqueue_cancel`, and the return. -/
  | enqueue (j : Fin k) (commandId : String) (now : Timestamp)
  | claim (fetched : Command) (now : Timestamp)
  | mark (commandId : String) (state : CommandState) (now : Timestamp)
  | sync (incoming : OrderState)

variable {k : ℕ}

/-- `save_order_state` of an order that may be new. -/
def saveInto (orders : String → Option OrderState) (incoming : OrderState) :
    Except InvalidOrderStateTransition OrderState :=
  match orders incoming.clientOrderId with
  | none => .ok (merge none incoming)
  | some current => saveOrderState current incoming

/-- The command that `enqueue_submit` inserts. -/
def submitCommandOf (clientOrderId commandId : String) (now : Timestamp) : Command where
  commandId := commandId
  orderId := clientOrderId
  commandType := .submit
  idempotencyKey := submitCommandIdempotencyKey clientOrderId
  updatedAt := now

/-- The command that `enqueue_cancel` inserts. -/
def cancelCommandOf (clientOrderId commandId : String) (now : Timestamp) : Command where
  commandId := commandId
  orderId := clientOrderId
  commandType := .cancel
  idempotencyKey := cancelCommandIdempotencyKey clientOrderId
  updatedAt := now

/-- `_enqueue_command`: an existing row with the key is taken as the enqueued command,
whatever its state. -/
def enqueueByKey (table : CommandTable) (command : Command) : CommandTable :=
  match table.getByIdempotencyKey command.idempotencyKey with
  | some _ => table
  | none => table.enqueueCommand command

def CancelFlow.stored (s : CancelFlow k) (j : Fin k) (merged : OrderState) (key : String)
    (call : CancelCall) (returned : Option OrderState) : CancelFlow k :=
  { s with
    orders := Function.update s.orders key (some merged)
    call := Function.update s.call j call
    returned := returned }

def CancelFlow.moved (s : CancelFlow k) (j : Fin k) (call : CancelCall)
    (returned : Option OrderState) : CancelFlow k :=
  { s with call := Function.update s.call j call, returned := returned }

/-- `cancel_order` up to its first write, for the order it has read. -/
def CancelFlow.begin (s : CancelFlow k) (j : Fin k) (current : OrderState) (now : Timestamp) :
    CancelFlow k :=
  if current.status.isTerminal then s.moved j .idle (some current)
  else if cancelsBeforeAck current (lookupSubmitCommand s.table current) then
    match lookupSubmitCommand s.table current with
    | some command =>
      if command.state = .pending then
        { s.moved j (.storingCanceled current) none with
          table := s.table.updateState command.commandId .abandoned now }
      else s.moved j (.storingCanceled current) none
    | none => s.moved j (.storingCanceled current) none
  else s.moved j (.storingPending current) none

/-- One step of the flow. An exception ends the call without a result, and ids of new
commands are new (`new_id`). -/
def cancelFlow (s : CancelFlow k) : CancelStep k → Option (CancelFlow k)
  | .submit order commandId now =>
    if (s.table.getCommand commandId).isSome then none
    else
      match saveInto s.orders order with
      | .ok merged =>
        some { s with
          orders := Function.update s.orders order.clientOrderId (some merged)
          table := enqueueByKey s.table (submitCommandOf order.clientOrderId commandId now)
          returned := none }
      | .error _ => some { s with returned := none }
  | .cancel j clientOrderId now =>
    match s.call j with
    | .idle =>
      match s.orders clientOrderId with
      | none => some (s.moved j .idle none)
      | some current => some (s.begin j current now)
    | _ => none
  | .persist j now =>
    match s.call j with
    | .storingCanceled order =>
      match saveInto s.orders (canceledState order now) with
      | .ok merged => some (s.stored j merged order.clientOrderId .idle (some merged))
      | .error _ => some (s.moved j .idle none)
    | .storingPending order =>
      match saveInto s.orders (cancelPendingState order now) with
      | .ok merged => some (s.stored j merged order.clientOrderId (.enqueuing merged) none)
      | .error _ => some (s.moved j .idle none)
    | _ => none
  | .enqueue j commandId now =>
    match s.call j with
    | .enqueuing persisted =>
      if (s.table.getCommand commandId).isSome then none
      else
        some { s.moved j .idle (some persisted) with
          table := enqueueByKey s.table (cancelCommandOf persisted.clientOrderId commandId now) }
    | _ => none
  | .claim fetched now =>
    match s.table.claimCommand fetched now with
    | none => some { s with returned := none }
    | some table => some { s with table := table, returned := none }
  | .mark commandId state now =>
    if state = .pending then none
    else some { s with table := s.table.updateState commandId state now, returned := none }
  | .sync incoming =>
    match saveInto s.orders incoming with
    | .ok merged =>
      some { s with
        orders := Function.update s.orders incoming.clientOrderId (some merged)
        returned := none }
    | .error _ => some { s with returned := none }

/-- Nothing has been submitted yet. -/
def CancelFlow.start (k : ℕ) : CancelFlow k := {}

/-! ### The cancel command of an order -/

def Command.cancels (c : Command) (clientOrderId : String) : Prop :=
  c.commandType = .cancel ∧ c.orderId = clientOrderId

instance (c : Command) (clientOrderId : String) : Decidable (c.cancels clientOrderId) :=
  inferInstanceAs (Decidable (_ ∧ _))

/-- The order has a cancel command that `process_pending` will still execute. -/
def LiveCancel (table : CommandTable) (clientOrderId : String) : Prop :=
  ∃ c ∈ table, c.cancels clientOrderId ∧ c.state.isFinal = false

/-- No cancel command of the order is `ACKED`, `FAILED` or `ABANDONED`. -/
def NoFinalCancel (table : CommandTable) (clientOrderId : String) : Prop :=
  ∀ c ∈ table, c.cancels clientOrderId → c.state.isFinal = false

instance (table : CommandTable) (clientOrderId : String) :
    Decidable (LiveCancel table clientOrderId) :=
  inferInstanceAs (Decidable (∃ c ∈ table, _))

instance (table : CommandTable) (clientOrderId : String) :
    Decidable (NoFinalCancel table clientOrderId) :=
  inferInstanceAs (Decidable (∀ c ∈ table, _))

/-- The keys say what the commands are, and no two rows share one. -/
structure KeysOk (table : CommandTable) : Prop where
  submit : ∀ c ∈ table, c.commandType = .submit →
    ∃ stable, c.idempotencyKey = submitCommandIdempotencyKey stable
  cancel : ∀ c ∈ table, c.commandType = .cancel →
    c.idempotencyKey = cancelCommandIdempotencyKey c.orderId
  unique : (table.map (·.idempotencyKey)).Nodup

theorem submitCommandIdempotencyKey_ne_cancel (stable clientOrderId : String) :
    submitCommandIdempotencyKey stable ≠ cancelCommandIdempotencyKey clientOrderId := by
  intro h
  have hl := congrArg String.toList h
  simp [submitCommandIdempotencyKey, cancelCommandIdempotencyKey, String.toList_append] at hl

theorem cancelCommandIdempotencyKey_injective : Function.Injective cancelCommandIdempotencyKey := by
  intro a b h
  have hl := congrArg String.toList h
  simp only [cancelCommandIdempotencyKey, String.toList_append, List.append_cancel_left_eq] at hl
  exact String.toList_injective hl

theorem cancels_iff_key {table : CommandTable} (h : KeysOk table) {c : Command} (hc : c ∈ table)
    (clientOrderId : String) :
    c.cancels clientOrderId ↔ c.idempotencyKey = cancelCommandIdempotencyKey clientOrderId := by
  unfold Command.cancels
  cases ht : c.commandType with
  | submit =>
    obtain ⟨stable, hkey⟩ := h.submit c hc ht
    simp [hkey, submitCommandIdempotencyKey_ne_cancel]
  | cancel =>
    rw [h.cancel c hc ht, cancelCommandIdempotencyKey_injective.eq_iff]
    simp

/-! ### The keys of the table -/

theorem keysOk_updateState {table : CommandTable} (h : KeysOk table) (commandId : String)
    (state : CommandState) (now : Timestamp) : KeysOk (table.updateState commandId state now) := by
  have hrow : ∀ c' ∈ table.updateState commandId state now, ∃ c ∈ table,
      c'.commandType = c.commandType ∧ c'.orderId = c.orderId ∧
        c'.idempotencyKey = c.idempotencyKey := by
    intro c' hc'
    obtain ⟨c, hc, rfl⟩ := List.mem_map.mp hc'
    refine ⟨c, hc, ?_⟩
    split <;> exact ⟨rfl, rfl, rfl⟩
  refine ⟨?_, ?_, ?_⟩
  · intro c' hc' ht
    obtain ⟨c, hc, htype, -, hkey⟩ := hrow c' hc'
    rw [hkey]
    exact h.submit c hc (htype ▸ ht)
  · intro c' hc' ht
    obtain ⟨c, hc, htype, horder, hkey⟩ := hrow c' hc'
    rw [hkey, horder]
    exact h.cancel c hc (htype ▸ ht)
  · have hkeys : (table.updateState commandId state now).map (·.idempotencyKey) =
        table.map (·.idempotencyKey) := by
      rw [CommandTable.updateState, List.map_map]
      apply List.map_congr_left
      intro c _
      simp only [Function.comp]
      split <;> rfl
    rw [hkeys]
    exact h.unique

theorem key_ne_of_getByIdempotencyKey {table : CommandTable} {key : String}
    (h : table.getByIdempotencyKey key = none) : ∀ c ∈ table, c.idempotencyKey ≠ key := by
  intro c hc
  have := List.find?_eq_none.mp h c hc
  simpa using this

theorem enqueueByKey_of_new {table : CommandTable} {command : Command}
    (hid : (table.getCommand command.commandId).isSome = false)
    (hkey : table.getByIdempotencyKey command.idempotencyKey = none) :
    enqueueByKey table command = table ++ [{ command with state := .pending }] := by
  simp [enqueueByKey, hkey, CommandTable.enqueueCommand, hid]

theorem keysOk_enqueueByKey {table : CommandTable} (h : KeysOk table) {command : Command}
    (hid : (table.getCommand command.commandId).isSome = false)
    (hsubmit : command.commandType = .submit →
      ∃ stable, command.idempotencyKey = submitCommandIdempotencyKey stable)
    (hcancel : command.commandType = .cancel →
      command.idempotencyKey = cancelCommandIdempotencyKey command.orderId) :
    KeysOk (enqueueByKey table command) := by
  cases hkey : table.getByIdempotencyKey command.idempotencyKey with
  | some row =>
    have hsame : enqueueByKey table command = table := by simp [enqueueByKey, hkey]
    rw [hsame]
    exact h
  | none =>
    rw [enqueueByKey_of_new hid hkey]
    refine ⟨?_, ?_, ?_⟩
    · intro c hc ht
      rcases List.mem_append.mp hc with hc | hc
      · exact h.submit c hc ht
      · rw [List.mem_singleton] at hc
        subst hc
        exact hsubmit ht
    · intro c hc ht
      rcases List.mem_append.mp hc with hc | hc
      · exact h.cancel c hc ht
      · rw [List.mem_singleton] at hc
        subst hc
        exact hcancel ht
    · rw [List.map_append, List.nodup_append]
      refine ⟨h.unique, List.nodup_singleton _, ?_⟩
      intro key hold key' hnew heq
      obtain ⟨c, hc, rfl⟩ := List.mem_map.mp hold
      rw [List.map_singleton, List.mem_singleton] at hnew
      exact key_ne_of_getByIdempotencyKey hkey c hc (heq.trans hnew)

/-! ### What a step does -/

theorem isTerminal_saveInto_of_canceled {orders : String → Option OrderState}
    {incoming merged : OrderState} (hs : incoming.status = .canceled)
    (h : saveInto orders incoming = .ok merged) : merged.status.isTerminal = true := by
  unfold saveInto at h
  split at h
  · injection h with h
    rw [← h]
    exact isTerminal_merge_of_canceled none hs
  · next current _ =>
    rw [saveOrderState_eq_ok h]
    exact isTerminal_merge_of_canceled (some current) hs

inductive StepEffect (s t : CancelFlow k) : Prop
  /-- The table stays; an order that is returned is final. -/
  | same (table : t.table = s.table)
      (returned : ∀ r, t.returned = some r → r.status.isTerminal = true)
  | updated (commandId : String) (state : CommandState) (now : Timestamp)
      (table : t.table = s.table.updateState commandId state now) (returned : t.returned = none)
  | submitted (clientOrderId commandId : String) (now : Timestamp)
      (new : (s.table.getCommand commandId).isSome = false)
      (table : t.table = enqueueByKey s.table (submitCommandOf clientOrderId commandId now))
      (returned : t.returned = none)
  | enqueued (persisted : OrderState) (commandId : String) (now : Timestamp)
      (new : (s.table.getCommand commandId).isSome = false)
      (table : t.table =
        enqueueByKey s.table (cancelCommandOf persisted.clientOrderId commandId now))
      (returned : t.returned = some persisted)

theorem stepEffect_of_silent {s t : CancelFlow k} (table : t.table = s.table)
    (returned : t.returned = none) : StepEffect s t :=
  .same table (fun r hr => by rw [returned] at hr; cases hr)

theorem stepEffect_begin (s : CancelFlow k) (j : Fin k) (current : OrderState) (now : Timestamp) :
    StepEffect s (s.begin j current now) := by
  unfold CancelFlow.begin
  split
  · next hterm =>
    refine .same rfl ?_
    intro r hr
    obtain rfl : current = r := Option.some.inj hr
    exact hterm
  · split
    · split
      · next command _ =>
        split
        · exact .updated command.commandId .abandoned now rfl rfl
        · exact stepEffect_of_silent rfl rfl
      · exact stepEffect_of_silent rfl rfl
    · exact stepEffect_of_silent rfl rfl

theorem cancelFlow_effect {s t : CancelFlow k} {step : CancelStep k}
    (h : cancelFlow s step = some t) : StepEffect s t := by
  cases step with
  | submit order commandId now =>
    simp only [cancelFlow] at h
    split at h
    · cases h
    · next hid =>
      split at h
      · obtain rfl := Option.some.inj h
        exact .submitted order.clientOrderId commandId now (by simpa using hid) rfl rfl
      · obtain rfl := Option.some.inj h
        exact stepEffect_of_silent rfl rfl
  | cancel j clientOrderId now =>
    simp only [cancelFlow] at h
    split at h
    · split at h
      · obtain rfl := Option.some.inj h
        exact stepEffect_of_silent rfl rfl
      · next current _ =>
        obtain rfl := Option.some.inj h
        exact stepEffect_begin s j current now
    · cases h
  | persist j now =>
    simp only [cancelFlow] at h
    split at h
    · split at h
      · next merged hsave =>
        -- the canceled state is stored: what is returned is final
        obtain rfl := Option.some.inj h
        refine .same rfl ?_
        intro r hr
        obtain rfl : merged = r := Option.some.inj hr
        exact isTerminal_saveInto_of_canceled rfl hsave
      · obtain rfl := Option.some.inj h
        exact stepEffect_of_silent rfl rfl
    · split at h <;> (obtain rfl := Option.some.inj h; exact stepEffect_of_silent rfl rfl)
    · cases h
  | enqueue j commandId now =>
    simp only [cancelFlow] at h
    split at h
    · next persisted _ =>
      split at h
      · cases h
      · next hid =>
        obtain rfl := Option.some.inj h
        exact .enqueued persisted commandId now (by simpa using hid) rfl rfl
    · cases h
  | claim fetched now =>
    simp only [cancelFlow] at h
    split at h
    · obtain rfl := Option.some.inj h
      exact stepEffect_of_silent rfl rfl
    · next table hclaim =>
      obtain rfl := Option.some.inj h
      unfold CommandTable.claimCommand at hclaim
      split at hclaim
      · obtain rfl := Option.some.inj hclaim
        exact .updated fetched.commandId .claimed now rfl rfl
      · cases hclaim
  | mark commandId state now =>
    simp only [cancelFlow] at h
    split at h
    · cases h
    · obtain rfl := Option.some.inj h
      exact .updated commandId state now rfl rfl
  | sync incoming =>
    simp only [cancelFlow] at h
    split at h <;> (obtain rfl := Option.some.inj h; exact stepEffect_of_silent rfl rfl)

theorem cancelFlow_keeps_keys (s : CancelFlow k) (step : CancelStep k) (t : CancelFlow k)
    (h : KeysOk s.table) (hstep : cancelFlow s step = some t) : KeysOk t.table := by
  cases cancelFlow_effect hstep with
  | same table _ =>
    rw [table]
    exact h
  | updated commandId state now table _ =>
    rw [table]
    exact keysOk_updateState h commandId state now
  | submitted clientOrderId commandId now new table _ =>
    rw [table]
    exact keysOk_enqueueByKey h new (fun _ => ⟨clientOrderId, rfl⟩) (fun ht => by cases ht)
  | enqueued persisted commandId now new table _ =>
    rw [table]
    exact keysOk_enqueueByKey h new (fun ht => by cases ht) (fun _ => rfl)

theorem keysOk_start : KeysOk (CancelFlow.start k).table where
  submit := fun c hc => by cases hc
  cancel := fun c hc => by cases hc
  unique := List.nodup_nil

/-! ### When a cancel request is live -/

/-- Enqueueing the cancel command of an order leaves a live one exactly if no cancel command of
the order was final before. -/
theorem liveCancel_enqueueByKey_iff {table : CommandTable} (h : KeysOk table)
    {clientOrderId commandId : String} {now : Timestamp}
    (hid : (table.getCommand commandId).isSome = false) :
    LiveCancel (enqueueByKey table (cancelCommandOf clientOrderId commandId now)) clientOrderId ↔
      NoFinalCancel table clientOrderId := by
  cases hkey : table.getByIdempotencyKey (cancelCommandIdempotencyKey clientOrderId) with
  | none =>
    -- the first cancel: the new row is `PENDING`, and there was no other
    have hnew : enqueueByKey table (cancelCommandOf clientOrderId commandId now) =
        table ++ [cancelCommandOf clientOrderId commandId now] := enqueueByKey_of_new hid hkey
    rw [hnew]
    constructor
    · intro _ c hc hcancels
      exact absurd ((cancels_iff_key h hc clientOrderId).mp hcancels)
        (key_ne_of_getByIdempotencyKey hkey c hc)
    · intro _
      exact ⟨_, List.mem_append_right _ (List.mem_singleton_self _), ⟨rfl, rfl⟩, rfl⟩
  | some row =>
    -- a repeated cancel: the table stays, and the row found is the only candidate
    have hsame : enqueueByKey table (cancelCommandOf clientOrderId commandId now) = table := by
      unfold enqueueByKey
      rw [show (cancelCommandOf clientOrderId commandId now).idempotencyKey =
        cancelCommandIdempotencyKey clientOrderId from rfl, hkey]
    have hmem : row ∈ table := List.mem_of_find?_eq_some hkey
    have hrow : row.idempotencyKey = cancelCommandIdempotencyKey clientOrderId := by
      simpa using List.find?_some hkey
    rw [hsame]
    constructor
    · rintro ⟨live, hlive, hcancels, hstate⟩ c hc hc'
      have hkeys : c.idempotencyKey = live.idempotencyKey := by
        rw [(cancels_iff_key h hc clientOrderId).mp hc',
          (cancels_iff_key h hlive clientOrderId).mp hcancels]
      rw [List.inj_on_of_nodup_map h.unique hc hlive hkeys]
      exact hstate
    · intro hnone
      have hcancels : row.cancels clientOrderId := (cancels_iff_key h hmem clientOrderId).mpr hrow
      exact ⟨row, hmem, hcancels, hnone row hmem hcancels⟩

theorem enqueues_of_returns_pending {s t : CancelFlow k} {step : CancelStep k} {r : OrderState}
    (h : cancelFlow s step = some t) (hret : t.returned = some r) (hr : r.status = .cancelPending) :
    ∃ commandId now, (s.table.getCommand commandId).isSome = false ∧
      t.table = enqueueByKey s.table (cancelCommandOf r.clientOrderId commandId now) := by
  have hopen : r.status.isTerminal ≠ true := by
    rw [hr]
    decide
  cases cancelFlow_effect h with
  | same _ returned => exact absurd (returned r hret) hopen
  | updated _ _ _ _ returned =>
    rw [hret] at returned
    cases returned
  | submitted _ _ _ _ _ returned =>
    rw [hret] at returned
    cases returned
  | enqueued persisted commandId now new table returned =>
    obtain rfl : persisted = r := Option.some.inj (returned.symm.trans hret)
    exact ⟨commandId, now, new, table⟩

/-- **When a cancel request is live**: after every history, a `cancel_order` that returns
`CANCEL_PENDING` leaves the order a cancel command that will still be executed if and only if
no cancel command of the order was final before its last step. -/
theorem cancel_request_live_iff (k : ℕ) (steps : List (CancelStep k)) (s t : CancelFlow k)
    (hrun : run cancelFlow (.start k) steps = some s) (step : CancelStep k)
    (hstep : cancelFlow s step = some t) (r : OrderState) (hret : t.returned = some r)
    (hr : r.status = .cancelPending) :
    LiveCancel t.table r.clientOrderId ↔ NoFinalCancel s.table r.clientOrderId := by
  have hkeys : KeysOk s.table :=
    run_invariant (I := fun s => KeysOk s.table) cancelFlow_keeps_keys keysOk_start hrun
  obtain ⟨commandId, now, hid, htable⟩ := enqueues_of_returns_pending hstep hret hr
  rw [htable]
  exact liveCancel_enqueueByKey_iff hkeys hid

def openedOrder : OrderState where
  clientOrderId := "order-1"
  symbol := "BTC-USDT"
  status := .created
  requestedQty := 1
  remainingQty := 1

def acknowledged : List (CancelStep 1) :=
  [.submit openedOrder "cmd-1" 0,
    .sync { openedOrder with status := .submitting },
    .sync { openedOrder with status := .submitted, exchangeOrderId := some "ex-1" },
    .mark "cmd-1" .acked 1]

def cancelRequest (now : Timestamp) : List (CancelStep 1) :=
  [.cancel 0 "order-1" now, .persist 0 now]

def flowAfter (steps : List (CancelStep 1)) : CancelFlow 1 :=
  (run cancelFlow (.start 1) steps).getD (.start 1)

def enqueuedAfter (steps : List (CancelStep 1)) (commandId : String) (now : Timestamp) :
    CancelFlow 1 :=
  (cancelFlow (flowAfter steps) (.enqueue 0 commandId now)).getD (.start 1)

/-- The order that `cancel_order` returns there. -/
def returnedAfter (steps : List (CancelStep 1)) (commandId : String) (now : Timestamp) :
    OrderState :=
  (enqueuedAfter steps commandId now).returned.getD openedOrder

def firstCancel : List (CancelStep 1) := acknowledged ++ cancelRequest 2

theorem cancel_request_live_first :
    (returnedAfter firstCancel "cmd-2" 3).clientOrderId = "order-1" ∧
      LiveCancel (enqueuedAfter firstCancel "cmd-2" 3).table
        (returnedAfter firstCancel "cmd-2" 3).clientOrderId :=
  ⟨by decide +kernel, (cancel_request_live_iff 1 firstCancel (flowAfter firstCancel)
    (enqueuedAfter firstCancel "cmd-2" 3) (Option.getD_of_ne_none (by decide +kernel) _).symm
    (.enqueue 0 "cmd-2" 3) (Option.getD_of_ne_none (by decide +kernel) _).symm
    (returnedAfter firstCancel "cmd-2" 3) (by decide +kernel) (by decide +kernel)).mpr
      (by decide +kernel)⟩

/-- The cancel command is executed and acknowledged while the order stays open at the exchange;
then the cancel is requested again. -/
def secondCancel : List (CancelStep 1) :=
  firstCancel ++ [.enqueue 0 "cmd-2" 3, .mark "cmd-2" .claimed 4, .mark "cmd-2" .sent 5,
    .mark "cmd-2" .acked 6] ++ cancelRequest 7

/-- The second request returns `CANCEL_PENDING`, and no cancel command will be executed. -/
theorem second_cancel_request_swallowed :
    ¬ (∀ steps s step t r, run cancelFlow (.start 1) steps = some s → cancelFlow s step = some t →
      t.returned = some r → r.status = .cancelPending → LiveCancel t.table r.clientOrderId) := by
  intro h
  have hlive := h secondCancel (flowAfter secondCancel) (.enqueue 0 "cmd-3" 8)
    (enqueuedAfter secondCancel "cmd-3" 8) (returnedAfter secondCancel "cmd-3" 8)
    (Option.getD_of_ne_none (by decide +kernel) _).symm
    (Option.getD_of_ne_none (by decide +kernel) _).symm (by decide +kernel) (by decide +kernel)
  revert hlive
  decide +kernel

end Aats.Execution
