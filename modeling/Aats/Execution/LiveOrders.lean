import Aats.Execution.OrderFlowSteps

/-!
# No live order is recorded as finished

An order whose place request was sent must not be stored as finished while it is open at the
exchange: nothing would watch it any more, and its reservation is released. The submission, the
sync loop and the recoveries of an unknown write keep to that. Two paths of the cancel do not.
A cancel request that is refused makes the order `FAILED`, although a refused cancel leaves the
order where it was; and in the queued mode an order without an exchange id is stored as
`CANCELED` without asking the exchange even after its place request has gone out, as soon as the
submit command is acknowledged or has failed. A second submission of the same order ends badly
too, since what it is told about itself is stored over what is known of the first.

## Main results
* `no_live_order_finished` — every run without such steps keeps to that.
* `live_order_finished` — a refused cancel, and a cancel of an unknown submission.
-/

namespace Aats.Execution

open Runs

variable {spec : OrderSpec}

/-- An order whose place request was sent and that is stored with a terminal status, not filled
up, is not open at the exchange, and the exchange has reported it closed or refused to take
it. -/
def FinishedRight (flow : Flow spec) : Prop :=
  flow.place.isSent = true → flow.order.status.isTerminal = true →
    flow.order.filledQty < flow.order.requestedQty →
    flow.venue.isLive = false ∧ flow.closedReport = true

instance (flow : Flow spec) : Decidable (FinishedRight flow) :=
  inferInstanceAs (Decidable (_ → _ → _ → _ ∧ _))

theorem finishedRight_of_inv {strict : Bool} {flow : Flow spec} (hinv : FlowInv strict flow) :
    FinishedRight flow := by
  intro hsent hterminal _
  have hsubmitter : flow.submitter ≠ none := by
    apply hinv.started
    intro h
    rw [h] at hsent
    cases hsent
  have hover : flow.Over := by
    rcases hinv.order.terminal hterminal with hj | he
    · exact hj.isOver
    · exact absurd he.1 hsubmitter
  refine ⟨not_live_of_over hinv hover, ?_⟩
  rcases hover with hreport | hwithheld | hsize
  · exact hreport
  · rw [hwithheld] at hsent
    cases hsent
  · have := hinv.sent hsent
    omega

/-- **No live order is recorded as finished**, in every run of any number of submissions,
cancels and syncs in which no submission begins beside or after another, no `CANCELED` is
stored without asking the exchange while there is a submission, and no cancel request is refused
before the exchange has reported the order closed. -/
theorem no_live_order_finished (spec : OrderSpec) (n : ℕ) (now : Timestamp)
    (submitCommand : Option Command) (labels : List (Fin n × Input))
    (s : Tasks (Flow spec) Job n)
    (hmeets : Meets flowStep (fun s l => s.shared.allowed false (s.task l.1) l.2 = true)
      (startOrder spec n now submitCommand) labels)
    (hrun : run flowStep (startOrder spec n now submitCommand) labels = some s) :
    FinishedRight s.shared := by
  have hinv : TasksInv (FlowInv false) (JobInv false) s :=
    run_invariant_of_meets (fun _ _ _ hinv hok hstep => flowInv_step hinv hok hstep)
      (flowInv_start false n now submitCommand) hmeets hrun
  exact finishedRight_of_inv hinv.shared

/-! ### Runs -/

def twoCoinOrder (postOnly persistent : Bool) : OrderSpec where
  clientOrderId := "cl1"
  intentId := "intent-1"
  symbol := "BTC-USDT-SWAP"
  quantity := 2
  lot := 1
  postOnly := postOnly
  persistent := persistent
  clientOrderId_ne := by decide
  quantity_pos := by norm_num
  epsilon_lt_lot := by norm_num [epsilon12]

def orderFlowAfter (spec : OrderSpec) (inputs : List Input) : Tasks (Flow spec) Job 1 :=
  (run flowStep (startOrder spec 1 0 none) (inputs.map fun input => (0, input))).getD
    (startOrder spec 1 0 none)

/-- The exchange takes the order; the client gets its answer and finds no row yet. -/
def acceptedSubmit : List Input :=
  [.submit 1, .save, .send 2, .world .venueTakes, .placeAccepted (some "oid-1"),
    .detail .notFound 3, .save, .resume 4]

/-- A row of `twoCoinOrder`. -/
def coinRow (state : String) (accFillSz : ℕ) : OrderRow where
  state := some state
  ordId := some "oid-1"
  sz := 2
  accFillSz := accFillSz

/-- The order trades a coin and is canceled on request; the last look finds it so. -/
def confirmedCancel : List Input :=
  acceptedSubmit ++
    [.world (.venueFills 1), .cancelOrder 5, .save, .resume 6, .cancelAccepted,
      .world .venueCancels, .detail (.found (coinRow "canceled" 1) none) 7, .save, .resume 8]

theorem no_live_order_finished_confirmed :
    (orderFlowAfter (twoCoinOrder false false) confirmedCancel).shared.order.status = .canceled ∧
      FinishedRight (orderFlowAfter (twoCoinOrder false false) confirmedCancel).shared :=
  ⟨by decide +kernel,
    no_live_order_finished (twoCoinOrder false false) 1 0 none
      (confirmedCancel.map fun i => (0, i)) _ (by decide +kernel)
      (Option.getD_of_ne_none (by decide +kernel) _).symm⟩

def refusedCancel : List Input :=
  acceptedSubmit ++
    [.cancelOrder 5, .save, .resume 6, .cancelRefused "order is being modified" 7, .save]

/-- The submit command of `twoCoinOrder` once its worker is done. -/
def ackedSubmit : Command where
  commandId := "cmd-1"
  orderId := "cl1"
  commandType := .submit
  idempotencyKey := "submit:cl1"
  state := .acked

/-- The place request takes effect but its answer is lost, so that the order is stored without
an exchange id; the queued cancel then never asks the exchange. -/
def unknownThenCanceled : List Input :=
  [.submit 1, .save, .send 2, .world .venueTakes, .placeUnknown "ReadTimeout", .detail .notFound 3,
    .save, .resume 4,
    .world (.command (some ackedSubmit)), .cancelOrder 5, .save, .resume 6, .processCancelCommand, .resume 7, .save]

/-- A refused cancel leaves a live order `FAILED`, and the cancel of an unknown submission in
the queued mode leaves it `CANCELED`. -/
theorem live_order_finished :
    (¬ ∀ labels s, run flowStep (startOrder (twoCoinOrder false false) 1 0 none) labels = some s →
      FinishedRight s.shared) ∧
    (¬ ∀ labels s, run flowStep (startOrder (twoCoinOrder false true) 1 0 none) labels = some s →
      FinishedRight s.shared) := by
  constructor
  · intro h
    let s := orderFlowAfter (twoCoinOrder false false) refusedCancel
    have hbad := h (refusedCancel.map fun i => (0, i)) s
      (Option.getD_of_ne_none (by decide +kernel) _).symm
    have hstatus : s.shared.order.status = .failed := by decide +kernel
    have hlive : s.shared.venue.isLive = true := by decide +kernel
    have hclosed := (hbad (by decide +kernel) (by rw [hstatus]; rfl) (by decide +kernel)).1
    rw [hlive] at hclosed
    cases hclosed
  · intro h
    let s := orderFlowAfter (twoCoinOrder false true) unknownThenCanceled
    have hbad := h (unknownThenCanceled.map fun i => (0, i)) s
      (Option.getD_of_ne_none (by decide +kernel) _).symm
    have hstatus : s.shared.order.status = .canceled := by decide +kernel
    have hlive : s.shared.venue.isLive = true := by decide +kernel
    have hclosed := (hbad (by decide +kernel) (by rw [hstatus]; rfl) (by decide +kernel)).1
    rw [hlive] at hclosed
    cases hclosed

end Aats.Execution
