import Aats.Execution.LiveOrders

/-!
# The post-only order and its fallback

`_execute_post_only_with_timeout_fallback` submits a post-only order, waits, cancels it and
dispatches a market order for what remains. The fallback order may only be dispatched when the
post-only order can trade no more, and only for what it has left; then both together never trade
more than the intent.

The code dispatches it whenever the cancel returns without an exception. But a cancel also
returns when it is only enqueued, when the exchange has accepted the request and still works the
order, when the outcome of the request is unknown, and when the exchange has refused it. In all
these cases the post-only order may go on trading beside its fallback.

## Main results
* `post_only_within_intent` — every run in which the cancel is confirmed keeps to that.
-/

namespace Aats.Execution

open Runs

variable {spec : OrderSpec}

/-- The order and its fallback have traded at most the intent; a fallback order is out only if
the order can trade no more, and for at most what it has left. -/
def WithinIntent (flow : Flow spec) : Prop :=
  flow.venue.lots * spec.lot + flow.fallbackFilled ≤ spec.quantity ∧
    ∀ total ∈ flow.fallbackQuantity,
      flow.venue.isLive = false ∧ flow.place ≠ .inFlight ∧
        flow.venue.lots * spec.lot + total ≤ spec.quantity

theorem withinIntent_of_inv {flow : Flow spec} (hinv : FlowInv true flow) : WithinIntent flow := by
  have hfallback := hinv.fallback
  unfold FallbackInv at hfallback
  have hlots : (flow.venue.lots : ℚ) * spec.lot ≤ spec.size * spec.lot :=
    mul_le_mul_of_nonneg_right (Nat.cast_le.mpr flow.venue.lots_le) spec.lot_pos.le
  have hsize := spec.size_mul_lot_le
  cases hq : flow.fallbackQuantity with
  | none =>
    rw [hq] at hfallback
    refine ⟨?_, ?_⟩
    · rw [hfallback, add_zero]
      exact hlots.trans hsize
    · intro total htotal
      rw [hq] at htotal
      cases htotal
  | some total =>
    rw [hq] at hfallback
    obtain ⟨hfilled, hstrict⟩ := hfallback
    obtain ⟨hover, hroom⟩ := hstrict rfl
    refine ⟨by linarith, ?_⟩
    intro total' htotal
    rw [hq] at htotal
    injection htotal with htotal
    subst htotal
    refine ⟨not_live_of_over hinv hover, ?_, hroom⟩
    intro hflight
    rcases hover with hreport | hwithheld | hzero
    · rw [(hinv.report hreport).1] at hflight
      cases hflight
    · rw [hwithheld] at hflight
      cases hflight
    · have := hinv.sent (by rw [hflight]; rfl)
      omega

/-- **The post-only order and its fallback trade at most the intent**, in every run in which no
submission begins beside or after another, no `CANCELED` is stored without asking the exchange
while there is a submission, no cancel request is refused, the timeout of the queued mode finds
nothing left to cancel, and the last look of the cancel after the timeout finds the order
closed. -/
theorem post_only_within_intent (spec : OrderSpec) (n : ℕ) (now : Timestamp)
    (submitCommand : Option Command) (labels : List (Fin n × Input))
    (s : Tasks (Flow spec) Job n)
    (hmeets : Meets flowStep (fun s l => s.shared.allowed true (s.task l.1) l.2 = true)
      (startOrder spec n now submitCommand) labels)
    (hrun : run flowStep (startOrder spec n now submitCommand) labels = some s) :
    WithinIntent s.shared := by
  have hinv : TasksInv (FlowInv true) (JobInv true) s :=
    run_invariant_of_meets (fun _ _ _ hinv hok hstep => flowInv_step hinv hok hstep)
      (flowInv_start true n now submitCommand) hmeets hrun
  exact withinIntent_of_inv hinv.shared

/-! ### Runs -/

/-- The order trades a coin before its timeout; the cancel is confirmed, and the fallback order
trades the other one. -/
def confirmedFallback : List Input :=
  acceptedSubmit ++
    [.world (.venueFills 1), .resume 5, .save, .resume 6, .cancelAccepted, .world .venueCancels,
      .detail (.found (coinRow "canceled" 1) none) 7, .save, .resume 8, .world (.fallbackFills 1)]

theorem post_only_within_intent_confirmed :
    (orderFlowAfter (twoCoinOrder true false) confirmedFallback).shared.fallbackFilled = 1 ∧
      WithinIntent (orderFlowAfter (twoCoinOrder true false) confirmedFallback).shared :=
  ⟨by decide +kernel,
    post_only_within_intent (twoCoinOrder true false) 1 0 none
      (confirmedFallback.map fun i => (0, i)) _ (by decide +kernel)
      (Option.getD_of_ne_none (by decide +kernel) _).symm⟩

/-- The cancel is accepted, but the last look still finds the order live; then both orders
trade. -/
def pendingCancelFallback : List Input :=
  acceptedSubmit ++
    [.resume 5, .save, .resume 6, .cancelAccepted, .detail (.found (coinRow "live" 0) none) 7,
      .save, .resume 8, .world (.venueFills 2), .world (.fallbackFills 2)]

def refusedCancelFallback : List Input :=
  acceptedSubmit ++
    [.resume 5, .save, .resume 6, .cancelRefused "order is being modified" 7, .save, .resume 8,
      .world (.venueFills 2), .world (.fallbackFills 2)]

/-- In the queued mode the cancel is only enqueued when the fallback order is dispatched. -/
def enqueuedCancelFallback : List Input :=
  acceptedSubmit ++
    [.resume 5, .save, .resume 6, .world (.venueFills 2), .world (.fallbackFills 2)]

/-- Both orders together trade twice the intent when the cancel is pending, refused or only
enqueued. -/
theorem post_only_exceeds_intent :
    (∀ inputs ∈ [pendingCancelFallback, refusedCancelFallback],
      run flowStep (startOrder (twoCoinOrder true false) 1 0 none) (inputs.map fun i => (0, i)) =
          some (orderFlowAfter (twoCoinOrder true false) inputs) ∧
        ¬ WithinIntent (orderFlowAfter (twoCoinOrder true false) inputs).shared) ∧
    run flowStep (startOrder (twoCoinOrder true true) 1 0 none)
        (enqueuedCancelFallback.map fun i => (0, i)) =
      some (orderFlowAfter (twoCoinOrder true true) enqueuedCancelFallback) ∧
    ¬ WithinIntent (orderFlowAfter (twoCoinOrder true true) enqueuedCancelFallback).shared := by
  have htotal : ∀ {spec : OrderSpec} {flow : Flow spec},
      spec.quantity < flow.venue.lots * spec.lot + flow.fallbackFilled → ¬ WithinIntent flow :=
    fun h hwithin => absurd hwithin.1 (not_le.mpr h)
  refine ⟨?_, (Option.getD_of_ne_none (by decide +kernel) _).symm, htotal (by decide +kernel)⟩
  intro inputs hinputs
  rcases List.mem_cons.mp hinputs with rfl | hinputs
  · exact ⟨(Option.getD_of_ne_none (by decide +kernel) _).symm, htotal (by decide +kernel)⟩
  · obtain rfl := List.mem_singleton.mp hinputs
    exact ⟨(Option.getD_of_ne_none (by decide +kernel) _).symm, htotal (by decide +kernel)⟩

end Aats.Execution
