import Aats.Accounting
import Mathlib.Data.List.Infix
import Mathlib.Tactic.Linarith

/-!
# The order state machine

`services/execution_engine/state_machine.py`: which status changes are allowed, and how an
incoming order update is merged into the stored order. The merge never lets the filled
quantity or the fees shrink, an update that would move the status back only contributes its
quantities, and every result is normalized: an order whose filled quantity reaches the
requested one is `FILLED`, whatever status the update carried.

## Main definitions
* `merge` — `OrderStateMachine.merge`.

## Main results
* `isTerminal_merge_iff` — two open statuses merge to a terminal one exactly if the update
  fills the order up.
-/

namespace Aats.Execution

/-! ### Order states -/

/-- `OrderLifecycleStatus`. -/
inductive OrderStatus
  | created
  | submitting
  | submitted
  | partiallyFilled
  | filled
  | cancelPending
  | canceled
  | rejected
  | failed
  | blocked
  | dryRun
  | expired
  deriving DecidableEq, Repr, Inhabited

/-- An instant in time, in microseconds; all timestamps are compared in UTC. -/
abbrev Timestamp := ℤ

/-- `OrderState`, with the fields the merge reads or writes. -/
structure OrderState where
  clientOrderId : String := ""
  intentId : String := ""
  symbol : String := ""
  exchangeOrderId : Option String := none
  status : OrderStatus
  submissionMode : String := "paper_local"
  exchangeStatus : Option String := none
  exchangeStatusHistory : List String := []
  submittedTs : Option Timestamp := none
  lastUpdateTs : Option Timestamp := none
  lastExchangeUpdateTs : Option Timestamp := none
  cancellationRequestedTs : Option Timestamp := none
  canceledTs : Option Timestamp := none
  requestedQty : ℚ
  filledQty : ℚ := 0
  remainingQty : ℚ
  averageFillPrice : Option ℚ := none
  fees : ℚ := 0
  cancelReason : Option String := none
  executionError : Option String := none
  submissionPayload : List (String × String) := []
  deriving DecidableEq, Repr

namespace OrderStatus

/-- `TERMINAL_ORDER_STATES`. -/
def isTerminal : OrderStatus → Bool
  | filled | canceled | rejected | failed | blocked | dryRun | expired => true
  | created | submitting | submitted | partiallyFilled | cancelPending => false

def allowedTransitions : OrderStatus → List OrderStatus
  | created =>
    [created, submitting, cancelPending, canceled, blocked, failed, rejected, dryRun]
  | submitting =>
    [submitting, submitted, partiallyFilled, filled, cancelPending, canceled, rejected, failed,
      blocked, dryRun]
  | submitted => [submitted, partiallyFilled, filled, cancelPending, canceled, failed, expired]
  | partiallyFilled => [partiallyFilled, filled, cancelPending, canceled, failed, expired]
  | cancelPending => [cancelPending, canceled, filled, failed, expired]
  | filled => [filled]
  | canceled => [canceled]
  | rejected => [rejected]
  | failed => [failed]
  | blocked => [blocked]
  | dryRun => [dryRun]
  | expired => [expired]

def statePriority : OrderStatus → ℕ
  | created => 0
  | submitting => 1
  | submitted => 2
  | partiallyFilled => 3
  | cancelPending => 4
  | filled | canceled | expired | rejected | failed | blocked | dryRun => 5

end OrderStatus

/-! ### Transitions -/

/-- The verdict of `validate_transition`; the first three accept. -/
inductive TransitionValidation
  | initialState
  | idempotent
  | validTransition
  | statusRegression
  | invalidTransition
  deriving DecidableEq, Repr

def TransitionValidation.accepted : TransitionValidation → Bool
  | .initialState | .idempotent | .validTransition => true
  | .statusRegression | .invalidTransition => false

def validateTransition (currentStatus : Option OrderStatus) (nextStatus : OrderStatus) :
    TransitionValidation :=
  match currentStatus with
  | none => .initialState
  | some current =>
    if nextStatus = current then .idempotent
    else if nextStatus ∈ current.allowedTransitions then .validTransition
    else if nextStatus.statePriority < current.statePriority then .statusRegression
    else .invalidTransition

theorem eq_of_accepted_of_terminal {current next : OrderStatus} (ht : current.isTerminal = true)
    (ha : (validateTransition (some current) next).accepted = true) : next = current := by
  revert ht ha
  cases current <;> cases next <;> decide

/-! ### Merging fields -/

/-- Python's `left or right` on optional strings: an empty string counts as absent. -/
def strOr (left right : Option String) : Option String :=
  match left with
  | some text => if text = "" then right else some text
  | none => right

/-- Python's `left or right` on optional decimals: zero counts as absent. -/
def decOr (left right : Option ℚ) : Option ℚ :=
  match left with
  | some value => if value = 0 then right else some value
  | none => right

def latest : Option Timestamp → Option Timestamp → Option Timestamp
  | none, right => right
  | left, none => left
  | some left, some right => some (max left right)

def earliest : Option Timestamp → Option Timestamp → Option Timestamp
  | none, right => right
  | left, none => left
  | some left, some right => some (min left right)

def OrderState.clampedFilled (state : OrderState) : ℚ :=
  min (max state.filledQty 0) state.requestedQty

def OrderState.clampedRemaining (state : OrderState) : ℚ :=
  max (min state.remainingQty state.requestedQty) 0

/-- The filled quantity of a state reaches its requested one. -/
def OrderState.Complete (state : OrderState) : Prop :=
  state.requestedQty - epsilon12 ≤ state.clampedFilled ∧ 0 < state.requestedQty

instance (state : OrderState) : Decidable state.Complete :=
  inferInstanceAs (Decidable (_ ∧ _))

def normalize (state : OrderState) : OrderState :=
  if state.Complete then
    { state with status := .filled, filledQty := state.clampedFilled, remainingQty := 0 }
  else if (state.status = .submitted ∨ state.status = .partiallyFilled) ∧
      epsilon12 < state.clampedFilled then
    { state with
      status := .partiallyFilled
      filledQty := state.clampedFilled
      remainingQty := max (state.requestedQty - state.clampedFilled) 0 }
  else if state.status = .canceled ∧ state.canceledTs = none then
    { state with
      filledQty := state.clampedFilled
      remainingQty := state.clampedRemaining
      canceledTs := state.lastExchangeUpdateTs.or state.lastUpdateTs }
  else
    { state with filledQty := state.clampedFilled, remainingQty := state.clampedRemaining }

/-- A text marks a write whose outcome is unknown. -/
def unknownMark : String := "_unknown_check_exchange:"

/-- `_merge_execution_error`: a new error replaces the old one; the mark of an unknown write
goes away once the exchange has answered for it. -/
def mergeExecutionError (current incoming : OrderState) : Option String :=
  match incoming.executionError.filter (· ≠ "") with
  | some error => some error
  | none =>
    match current.executionError with
    | none => none
    | some error =>
      if ¬ unknownMark.toList <:+: error.toList then some error
      else if "submission_unknown_check_exchange:".toList <+: error.toList then
        if (incoming.exchangeOrderId.filter (· ≠ "")).isSome ∧
            incoming.exchangeOrderId ≠ current.exchangeOrderId then none
        else if incoming.status ∈ [OrderStatus.partiallyFilled, .filled, .canceled, .expired,
            .rejected, .failed] then none
        else some error
      else if "cancel_unknown_check_exchange:".toList <+: error.toList then
        if incoming.status ∈ [OrderStatus.canceled, .filled, .expired, .failed] then none
        else some error
      else some error

/-- The requested quantity of a merge: the update's, if it carries one. -/
def mergedRequested (current incoming : OrderState) : ℚ :=
  if 0 < incoming.requestedQty then incoming.requestedQty else current.requestedQty

/-- The remaining quantity of a merge: the smallest of what is unfilled and of the
non-negative remaining quantities reported. -/
def mergedRemaining (current incoming : OrderState) (requested filled : ℚ) : ℚ :=
  let floor := max (requested - filled) 0
  let withCurrent := if 0 ≤ current.remainingQty then min floor current.remainingQty else floor
  if 0 ≤ incoming.remainingQty then min withCurrent incoming.remainingQty else withCurrent

def mergedAveragePrice (current incoming : OrderState) : Option ℚ :=
  match incoming.averageFillPrice, current.averageFillPrice with
  | none, price => price
  | some price, none => some price
  | some price, some old => if incoming.filledQty < current.filledQty then some old else some price

/-- The exchange status history of a merge, without repetitions. -/
def mergedHistory (current incoming : OrderState) : List String :=
  let history := (current.exchangeStatusHistory ++ incoming.exchangeStatusHistory).eraseDups
  match incoming.exchangeStatus with
  | none => history
  | some status => if status ∈ history then history else history ++ [status]

def mergedFilled (current incoming : OrderState) : ℚ :=
  min (max current.filledQty incoming.filledQty) (mergedRequested current incoming)

/-- The fields of an accepted update merged into the current state, before normalization. -/
def mergeFields (current incoming : OrderState) : OrderState :=
  { incoming with
    exchangeOrderId := strOr incoming.exchangeOrderId current.exchangeOrderId
    exchangeStatus := strOr incoming.exchangeStatus current.exchangeStatus
    exchangeStatusHistory := mergedHistory current incoming
    submittedTs := earliest current.submittedTs incoming.submittedTs
    lastUpdateTs := latest current.lastUpdateTs incoming.lastUpdateTs
    lastExchangeUpdateTs := latest current.lastExchangeUpdateTs incoming.lastExchangeUpdateTs
    cancellationRequestedTs :=
      earliest current.cancellationRequestedTs incoming.cancellationRequestedTs
    canceledTs := earliest current.canceledTs incoming.canceledTs
    requestedQty := mergedRequested current incoming
    filledQty := mergedFilled current incoming
    remainingQty := mergedRemaining current incoming (mergedRequested current incoming)
      (mergedFilled current incoming)
    averageFillPrice := mergedAveragePrice current incoming
    fees := max current.fees incoming.fees
    cancelReason := strOr incoming.cancelReason current.cancelReason
    executionError := mergeExecutionError current incoming
    submissionPayload :=
      if incoming.submissionPayload = [] then current.submissionPayload
      else incoming.submissionPayload }

def mergeAccepted (current incoming : OrderState) : OrderState :=
  normalize (mergeFields current incoming)

@[simp] theorem mergeFields_status (current incoming : OrderState) :
    (mergeFields current incoming).status = incoming.status := rfl

@[simp] theorem mergeFields_requestedQty (current incoming : OrderState) :
    (mergeFields current incoming).requestedQty = mergedRequested current incoming := rfl

@[simp] theorem mergeFields_filledQty (current incoming : OrderState) :
    (mergeFields current incoming).filledQty = mergedFilled current incoming := rfl

/-- What a refused update still says: its quantities, as an update of the current status. -/
def quantityUpdate (current incoming : OrderState) : OrderState :=
  { current with
    filledQty := incoming.filledQty
    remainingQty := incoming.remainingQty
    averageFillPrice := decOr incoming.averageFillPrice current.averageFillPrice
    fees := incoming.fees
    lastUpdateTs := latest current.lastUpdateTs incoming.lastUpdateTs
    lastExchangeUpdateTs := latest current.lastExchangeUpdateTs incoming.lastExchangeUpdateTs }

@[simp] theorem quantityUpdate_status (current incoming : OrderState) :
    (quantityUpdate current incoming).status = current.status := rfl

/-- `_merge_without_regression`: a refused update contributes a larger filled quantity or
larger fees (an update of the current status is always accepted), else its timestamps. -/
def mergeWithoutRegression (current incoming : OrderState) : OrderState :=
  if current.filledQty < incoming.filledQty ∨ current.fees < incoming.fees then
    mergeAccepted current (quantityUpdate current incoming)
  else
    { current with
      lastUpdateTs := latest current.lastUpdateTs incoming.lastUpdateTs
      lastExchangeUpdateTs := latest current.lastExchangeUpdateTs incoming.lastExchangeUpdateTs
      executionError := strOr incoming.executionError current.executionError }

def merge (current : Option OrderState) (incoming : OrderState) : OrderState :=
  match current with
  | none => normalize incoming
  | some current =>
    if (validateTransition (some current.status) incoming.status).accepted then
      mergeAccepted current incoming
    else mergeWithoutRegression current incoming

/-! ### When a merge is terminal -/

theorem normalize_status_of_complete {state : OrderState} (h : state.Complete) :
    (normalize state).status = .filled := by
  unfold normalize
  rw [if_pos h]

theorem isTerminal_normalize_of_not_complete {state : OrderState} (h : ¬ state.Complete) :
    (normalize state).status.isTerminal = state.status.isTerminal := by
  unfold normalize
  rw [if_neg h]
  split
  · next hs =>
    rcases hs.1 with hs | hs <;> simp [hs, OrderStatus.isTerminal]
  · split <;> rfl

theorem isTerminal_normalize {state : OrderState} (h : state.status.isTerminal = true) :
    (normalize state).status.isTerminal = true := by
  by_cases hc : state.Complete
  · rw [normalize_status_of_complete hc]
    rfl
  · rw [isTerminal_normalize_of_not_complete hc, h]

theorem isTerminal_mergeAccepted {current incoming : OrderState}
    (h : incoming.status.isTerminal = true) :
    (mergeAccepted current incoming).status.isTerminal = true := by
  unfold mergeAccepted
  exact isTerminal_normalize h

theorem isTerminal_merge_of_terminal {current : OrderState} (incoming : OrderState)
    (h : current.status.isTerminal = true) :
    (merge (some current) incoming).status.isTerminal = true := by
  simp only [merge]
  split
  · next ha =>
    have hs : incoming.status = current.status := eq_of_accepted_of_terminal h ha
    rw [← hs] at h
    exact isTerminal_mergeAccepted h
  · unfold mergeWithoutRegression
    split
    · apply isTerminal_mergeAccepted
      exact h
    · exact h

/-- The quantities of an update fill the order up: the larger of the two filled quantities
reaches the requested quantity the merge settles on. A refused update counts only if it
brings a larger filled quantity or larger fees. -/
def fillsUp (current incoming : OrderState) : Prop :=
  if (validateTransition (some current.status) incoming.status).accepted then
    0 < mergedRequested current incoming ∧
      mergedRequested current incoming - epsilon12 ≤ max (max current.filledQty incoming.filledQty) 0
  else
    (current.filledQty < incoming.filledQty ∨ current.fees < incoming.fees) ∧
      0 < current.requestedQty ∧
      current.requestedQty - epsilon12 ≤ max (max current.filledQty incoming.filledQty) 0

instance (current incoming : OrderState) : Decidable (fillsUp current incoming) :=
  inferInstanceAs (Decidable (ite _ _ _))

theorem sub_le_clamp_iff {r ε x : ℚ} (hε : 0 ≤ ε) :
    r - ε ≤ min (max (min x r) 0) r ↔ r - ε ≤ max x 0 := by
  have hself : r - ε ≤ r := by linarith
  rw [le_min_iff, le_max_iff, le_min_iff, le_max_iff]
  constructor
  · rintro ⟨⟨hx, -⟩ | h0, -⟩
    · exact .inl hx
    · exact .inr h0
  · rintro (hx | h0)
    · exact ⟨.inl ⟨hx, hself⟩, hself⟩
    · exact ⟨.inr h0, hself⟩

theorem complete_congr {a b : OrderState} (hreq : a.requestedQty = b.requestedQty)
    (hfill : a.filledQty = b.filledQty) : a.Complete ↔ b.Complete := by
  unfold OrderState.Complete OrderState.clampedFilled
  rw [hreq, hfill]

theorem complete_normalize_iff (state : OrderState) : (normalize state).Complete ↔ state.Complete := by
  have hreq : (normalize state).requestedQty = state.requestedQty := by
    unfold normalize
    split
    · rfl
    · split
      · rfl
      · split <;> rfl
  have hfill : (normalize state).filledQty = min (max state.filledQty 0) state.requestedQty := by
    unfold normalize
    split
    · rfl
    · split
      · rfl
      · split <;> rfl
  unfold OrderState.Complete OrderState.clampedFilled
  rw [hreq, hfill, sub_le_clamp_iff epsilon12_pos.le, max_eq_left (le_max_right _ _), le_min_iff,
    and_congr_left_iff]
  intro _
  have hself : state.requestedQty - epsilon12 ≤ state.requestedQty := by
    have := epsilon12_pos
    linarith
  simp [hself]

theorem merge_normalized_or_same (current incoming : OrderState) :
    (∃ state, merge (some current) incoming = normalize state) ∨
    ((merge (some current) incoming).status = current.status ∧
      (merge (some current) incoming).requestedQty = current.requestedQty ∧
      (merge (some current) incoming).filledQty = current.filledQty) := by
  simp only [merge]
  split
  · exact .inl ⟨_, rfl⟩
  · unfold mergeWithoutRegression
    split
    · exact .inl ⟨_, rfl⟩
    · exact .inr ⟨rfl, rfl, rfl⟩

theorem not_complete_merge {current incoming : OrderState}
    (hc : current.status.isTerminal = false → ¬ current.Complete)
    (hm : (merge (some current) incoming).status.isTerminal = false) :
    ¬ (merge (some current) incoming).Complete := by
  rcases merge_normalized_or_same current incoming with ⟨state, hs⟩ | ⟨hstatus, hreq, hfill⟩
  · rw [hs] at hm ⊢
    intro hcomplete
    rw [normalize_status_of_complete ((complete_normalize_iff state).mp hcomplete)] at hm
    cases hm
  · rw [complete_congr hreq hfill]
    exact hc (hstatus ▸ hm)

theorem not_fillsUp_of_same_quantities {current incoming : OrderState}
    (hreq : incoming.requestedQty = current.requestedQty)
    (hfill : incoming.filledQty = current.filledQty) (hfees : incoming.fees = current.fees)
    (hc : ¬ current.Complete) : ¬ fillsUp current incoming := by
  unfold fillsUp mergedRequested
  rw [hreq, hfill, hfees, ite_self, max_self]
  split
  · rintro ⟨hpos, hle⟩
    refine hc ⟨le_min hle ?_, hpos⟩
    have := epsilon12_pos
    linarith
  · rintro ⟨h | h, -⟩ <;> exact lt_irrefl _ h

theorem isTerminal_mergeAccepted_iff {current incoming : OrderState}
    (h : incoming.status.isTerminal = false) :
    (mergeAccepted current incoming).status.isTerminal = true ↔
      0 < mergedRequested current incoming ∧
      mergedRequested current incoming - epsilon12 ≤
        max (max current.filledQty incoming.filledQty) 0 := by
  have hcomplete : (mergeFields current incoming).Complete ↔
      0 < mergedRequested current incoming ∧
      mergedRequested current incoming - epsilon12 ≤
        max (max current.filledQty incoming.filledQty) 0 := by
    unfold OrderState.Complete OrderState.clampedFilled
    rw [mergeFields_requestedQty, mergeFields_filledQty, mergedFilled, and_comm,
      sub_le_clamp_iff epsilon12_pos.le]
  rw [← hcomplete, mergeAccepted]
  by_cases hc : (mergeFields current incoming).Complete
  · simp [normalize_status_of_complete hc, hc, OrderStatus.isTerminal]
  · simp [isTerminal_normalize_of_not_complete hc, hc, h]

theorem isTerminal_merge_iff {current incoming : OrderState}
    (hc : current.status.isTerminal = false) (hi : incoming.status.isTerminal = false) :
    (merge (some current) incoming).status.isTerminal = true ↔ fillsUp current incoming := by
  simp only [merge, fillsUp]
  split
  · exact isTerminal_mergeAccepted_iff hi
  · unfold mergeWithoutRegression
    split
    · next hmore =>
      have hreq : mergedRequested current (quantityUpdate current incoming) =
          current.requestedQty := ite_self _
      rw [isTerminal_mergeAccepted_iff (by simpa using hc), hreq]
      simp [quantityUpdate, hmore]
    · next hmore => simp [hc, hmore]

end Aats.Execution
