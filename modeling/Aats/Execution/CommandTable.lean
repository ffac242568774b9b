import Aats.Execution.OrderStateMachine

/-!
# The execution command table

`storage/execution_command_repo_postgres.py` and the enqueueing part of
`execution_control/order_service.py`. A command is inserted once per idempotency key,
claimed by a compare-and-set on state and `updated_at`, and moved on by unconditional
writes (`mark_*`).

## Main definitions
* `CommandTable.pendingCommands`, `CommandTable.claimCommand`, `CommandTable.updateState`.
-/

namespace Aats.Execution

inductive CommandType
  | submit
  | cancel
  deriving DecidableEq, Repr, Inhabited

inductive CommandState
  | pending
  | claimed
  | sent
  | acked
  | failed
  | abandoned
  deriving DecidableEq, Repr, Inhabited

/-- `ACKED`, `FAILED` and `ABANDONED` are final; `process_pending` may still execute the
other states. -/
def CommandState.isFinal : CommandState → Bool
  | acked | failed | abandoned => true
  | pending | claimed | sent => false

structure Command where
  commandId : String
  orderId : String
  commandType : CommandType
  idempotencyKey : String
  state : CommandState := .pending
  updatedAt : Timestamp := 0
  deriving DecidableEq, Repr

/-- The rows in the order of `created_at`. -/
abbrev CommandTable := List Command

def submitCommandIdempotencyKey (stableOrderKey : String) : String := "submit:" ++ stableOrderKey

def cancelCommandIdempotencyKey (clientOrderId : String) : String := "cancel:" ++ clientOrderId

namespace CommandTable

variable (table : CommandTable)

def getCommand (commandId : String) : Option Command :=
  table.find? (·.commandId = commandId)

def getByIdempotencyKey (key : String) : Option Command :=
  table.find? (·.idempotencyKey = key)

/-- `enqueue_command_in_session`: insert unless the id or the key is taken. -/
def enqueueCommand (command : Command) : CommandTable :=
  if (table.getCommand command.commandId).isSome ∨
      (table.getByIdempotencyKey command.idempotencyKey).isSome then table
  else table ++ [{ command with state := .pending }]

/-- `pending_commands`: `PENDING` and `CLAIMED` always, `SENT` once it is stale. -/
def pendingCommands (limit : ℕ) (sentStaleBefore : Option Timestamp) : List Command :=
  (table.filter fun c =>
    match c.state with
    | .pending | .claimed => true
    | .sent =>
      match sentStaleBefore with
      | none => true
      | some stale => decide (c.updatedAt ≤ stale)
    | .acked | .failed | .abandoned => false).take limit

/-- `_update_state`: an unconditional write; a missing row is ignored. -/
def updateState (commandId : String) (state : CommandState) (now : Timestamp) : CommandTable :=
  table.map fun c =>
    if c.commandId = commandId then { c with state := state, updatedAt := now } else c

/-- The row still has the state and the `updated_at` of the fetched command. -/
def canClaim (fetched : Command) : Bool :=
  match table.getCommand fetched.commandId with
  | none => false
  | some row => decide (row.state = fetched.state ∧ row.updatedAt = fetched.updatedAt)

/-- `claim_command`: the compare-and-set that takes a fetched command. -/
def claimCommand (fetched : Command) (now : Timestamp) : Option CommandTable :=
  if table.canClaim fetched then some (table.updateState fetched.commandId .claimed now) else none

def stateOf (commandId : String) : Option CommandState :=
  (table.getCommand commandId).map (·.state)

variable {table}

theorem getCommand_map {f : Command → Command} (hf : ∀ c, (f c).commandId = c.commandId)
    (commandId : String) :
    getCommand (table.map f) commandId = (table.getCommand commandId).map f := by
  unfold getCommand
  rw [List.find?_map]
  congr 2
  funext c
  simp [hf c]

theorem stateOf_updateState (commandId other : String) (state : CommandState) (now : Timestamp) :
    (table.updateState commandId state now).stateOf other =
      if other = commandId then (table.stateOf other).map (fun _ => state)
      else table.stateOf other := by
  unfold stateOf updateState
  rw [getCommand_map (by intro c; split <;> rfl), Option.map_map]
  cases hc : table.getCommand other with
  | none => simp
  | some c =>
    have hid : c.commandId = other := by simpa using List.find?_some hc
    by_cases ho : other = commandId
    · simp [ho, hid]
    · simp [ho, hid]

@[simp] theorem stateOf_updateState_ne {commandId other : String} (h : other ≠ commandId)
    (state : CommandState) (now : Timestamp) :
    (table.updateState commandId state now).stateOf other = table.stateOf other := by
  rw [stateOf_updateState, if_neg h]

theorem stateOf_updateState_self {commandId : String} {old : CommandState}
    (h : table.stateOf commandId = some old) (state : CommandState) (now : Timestamp) :
    (table.updateState commandId state now).stateOf commandId = some state := by
  rw [stateOf_updateState, if_pos rfl, h]
  rfl

theorem stateOf_of_canClaim {fetched : Command} (h : table.canClaim fetched = true) :
    table.stateOf fetched.commandId = some fetched.state := by
  unfold canClaim at h
  unfold stateOf
  cases hc : table.getCommand fetched.commandId with
  | none => simp [hc] at h
  | some row =>
    simp only [hc, decide_eq_true_eq] at h
    simp [h.1]

theorem isFinal_of_mem_pendingCommands {limit : ℕ} {stale : Option Timestamp} {c : Command}
    (h : c ∈ table.pendingCommands limit stale) : c.state.isFinal = false := by
  have hf := (List.mem_filter.mp (List.mem_of_mem_take h)).2
  cases hs : c.state with
  | pending => rfl
  | claimed => rfl
  | sent => rfl
  | acked => simp [hs] at hf
  | failed => simp [hs] at hf
  | abandoned => simp [hs] at hf

theorem stateOf_enqueueCommand {commandId : String} {state : CommandState}
    (h : table.stateOf commandId = some state) (command : Command) :
    (table.enqueueCommand command).stateOf commandId = some state := by
  unfold enqueueCommand
  split
  · exact h
  · obtain ⟨c, hc, rfl⟩ := Option.map_eq_some_iff.mp h
    unfold stateOf getCommand
    rw [List.find?_append]
    have hc' : table.find? (fun c => decide (c.commandId = commandId)) = some c := hc
    rw [hc']
    rfl

end CommandTable

end Aats.Execution
