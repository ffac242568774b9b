import Aats.Execution.OkxAdapter
import Aats.Execution.CancelOrder

/-!
# The quantities of an order

Every state of one order that the system holds speaks of the same order: it requests what was
sent or what the intent asks for, it has filled a whole number of lots that the exchange has
really traded, and what it calls remaining is what the intent leaves unfilled, up to the
rounding to lots. All states that the adapter and the order manager build have this form, and
merging keeps it: the filled quantity of a merge is the larger of the two.

## Main definitions
* `Sized spec bound state` — the state is of this form, with at most `bound` lots filled.
-/

namespace Aats.Execution

/-- A state of the order, with at most `bound` lots filled. -/
structure Sized (spec : OrderSpec) (bound : ℕ) (state : OrderState) : Prop where
  clientOrderId_eq : state.clientOrderId = spec.clientOrderId
  requested_pos : 0 < state.requestedQty
  size_le_requested : spec.size * spec.lot ≤ state.requestedQty
  requested_le : state.requestedQty ≤ spec.quantity
  filled : ∃ a : ℕ, a ≤ bound ∧ state.filledQty = a * spec.lot
  remaining_le : state.remainingQty ≤ spec.quantity - state.filledQty
  le_remaining : spec.size * spec.lot - state.filledQty ≤ state.remainingQty

variable {spec : OrderSpec} {bound : ℕ} {state current incoming : OrderState}

namespace Sized

theorem mono {bound' : ℕ} (h : Sized spec bound state) (hle : bound ≤ bound') :
    Sized spec bound' state := by
  obtain ⟨a, ha, hfilled⟩ := h.filled
  exact { h with filled := ⟨a, ha.trans hle, hfilled⟩ }

theorem filled_nonneg (h : Sized spec bound state) : 0 ≤ state.filledQty := by
  obtain ⟨a, -, hfilled⟩ := h.filled
  rw [hfilled]
  exact mul_nonneg (Nat.cast_nonneg a) spec.lot_pos.le

theorem filled_le (h : Sized spec bound state) : state.filledQty ≤ bound * spec.lot := by
  obtain ⟨a, ha, hfilled⟩ := h.filled
  rw [hfilled]
  exact mul_le_mul_of_nonneg_right (Nat.cast_le.mpr ha) spec.lot_pos.le

theorem filled_le_size (h : Sized spec bound state) (hb : bound ≤ spec.size) :
    state.filledQty ≤ spec.size * spec.lot :=
  (h.mono hb).filled_le

theorem filled_le_requested (h : Sized spec bound state) (hb : bound ≤ spec.size) :
    state.filledQty ≤ state.requestedQty :=
  (h.filled_le_size hb).trans h.size_le_requested

theorem clampedFilled_eq (h : Sized spec bound state) (hb : bound ≤ spec.size) :
    state.clampedFilled = state.filledQty := by
  unfold OrderState.clampedFilled
  rw [max_eq_left h.filled_nonneg, min_eq_left (h.filled_le_requested hb)]

theorem size_le_of_near (h : Sized spec bound state)
    (hnear : spec.size * spec.lot - epsilon12 ≤ state.filledQty) :
    spec.size * spec.lot ≤ state.filledQty := by
  obtain ⟨a, -, hfilled⟩ := h.filled
  rw [hfilled] at hnear ⊢
  have hlot := spec.lot_pos
  by_cases hsize : spec.size ≤ a
  · exact mul_le_mul_of_nonneg_right (Nat.cast_le.mpr hsize) hlot.le
  · exfalso
    have hle : (a : ℚ) + 1 ≤ spec.size := by exact_mod_cast Nat.lt_of_not_le hsize
    have hmul : ((a : ℚ) + 1) * spec.lot ≤ spec.size * spec.lot :=
      mul_le_mul_of_nonneg_right hle hlot.le
    have hgap := spec.epsilon_lt_lot
    linarith

theorem congr (h : Sized spec bound state) {state' : OrderState}
    (hid : state'.clientOrderId = state.clientOrderId)
    (hreq : state'.requestedQty = state.requestedQty)
    (hfill : state'.filledQty = state.filledQty)
    (hrem : state'.remainingQty = state.remainingQty) : Sized spec bound state' where
  clientOrderId_eq := hid.trans h.clientOrderId_eq
  requested_pos := hreq ▸ h.requested_pos
  size_le_requested := hreq ▸ h.size_le_requested
  requested_le := hreq ▸ h.requested_le
  filled := hfill ▸ h.filled
  remaining_le := by
    rw [hrem, hfill]
    exact h.remaining_le
  le_remaining := by
    rw [hrem, hfill]
    exact h.le_remaining

end Sized

/-! ### Normalizing -/

theorem filledQty_normalize (state : OrderState) :
    (normalize state).filledQty = state.clampedFilled := by
  unfold normalize
  split
  · rfl
  · split
    · rfl
    · split <;> rfl

theorem requestedQty_normalize (state : OrderState) :
    (normalize state).requestedQty = state.requestedQty := by
  unfold normalize
  split
  · rfl
  · split
    · rfl
    · split <;> rfl

theorem clientOrderId_normalize (state : OrderState) :
    (normalize state).clientOrderId = state.clientOrderId := by
  unfold normalize
  split
  · rfl
  · split
    · rfl
    · split <;> rfl

theorem remainingQty_normalize (state : OrderState) :
    (state.Complete ∧ (normalize state).remainingQty = 0) ∨
    (normalize state).remainingQty = max (state.requestedQty - state.clampedFilled) 0 ∨
    (normalize state).remainingQty = state.clampedRemaining := by
  unfold normalize
  split
  · next hc => exact .inl ⟨hc, rfl⟩
  · split
    · exact .inr (.inl rfl)
    · split
      · exact .inr (.inr rfl)
      · exact .inr (.inr rfl)

theorem size_le_of_complete (h : Sized spec bound state) (hb : bound ≤ spec.size)
    (hc : state.Complete) : spec.size * spec.lot ≤ state.filledQty := by
  have hreach := hc.1
  rw [h.clampedFilled_eq hb] at hreach
  apply h.size_le_of_near
  have hreq := h.size_le_requested
  linarith

namespace Sized

theorem normalize (h : Sized spec bound state) (hb : bound ≤ spec.size) :
    Sized spec bound (normalize state) := by
  have hfill : (Execution.normalize state).filledQty = state.filledQty := by
    rw [filledQty_normalize, h.clampedFilled_eq hb]
  have hreq := requestedQty_normalize state
  have hnonneg := h.filled_nonneg
  have hle := h.filled_le_requested hb
  have hsize := h.size_le_requested
  have hquantity := h.requested_le
  have hrle := h.remaining_le
  have hler := h.le_remaining
  -- a complete order has none left, any other what is not filled or what it said itself
  have hrem : (Execution.normalize state).remainingQty ≤ spec.quantity - state.filledQty ∧
      spec.size * spec.lot - state.filledQty ≤ (Execution.normalize state).remainingQty := by
    rcases remainingQty_normalize state with ⟨hc, hr⟩ | hr | hr
    · have hall := size_le_of_complete h hb hc
      rw [hr]
      exact ⟨by linarith, by linarith⟩
    · rw [hr, h.clampedFilled_eq hb, max_eq_left (sub_nonneg.mpr hle)]
      exact ⟨by linarith, by linarith⟩
    · rw [hr, OrderState.clampedRemaining]
      refine ⟨max_le ((min_le_left _ _).trans hrle) (by linarith), ?_⟩
      exact (le_min hler (by linarith)).trans (le_max_left _ _)
  refine ⟨?_, ?_, ?_, ?_, ?_, ?_, ?_⟩
  · rw [clientOrderId_normalize]
    exact h.clientOrderId_eq
  · rw [hreq]
    exact h.requested_pos
  · rw [hreq]
    exact hsize
  · rw [hreq]
    exact hquantity
  · rw [hfill]
    exact h.filled
  · rw [hfill]
    exact hrem.1
  · rw [hfill]
    exact hrem.2

/-! ### Merging -/

theorem mergedRequested_eq (hi : Sized spec bound incoming) :
    mergedRequested current incoming = incoming.requestedQty := by
  unfold mergedRequested
  rw [if_pos hi.requested_pos]

theorem mergedFilled_eq (hc : Sized spec bound current) (hi : Sized spec bound incoming)
    (hb : bound ≤ spec.size) :
    mergedFilled current incoming = max current.filledQty incoming.filledQty := by
  unfold mergedFilled
  rw [mergedRequested_eq hi]
  apply min_eq_left
  exact (max_le (hc.filled_le_size hb) (hi.filled_le_size hb)).trans hi.size_le_requested

theorem filled_max (hc : Sized spec bound current) (hi : Sized spec bound incoming) :
    ∃ a : ℕ, a ≤ bound ∧ max current.filledQty incoming.filledQty = a * spec.lot := by
  rcases max_choice current.filledQty incoming.filledQty with h | h
  · rw [h]
    exact hc.filled
  · rw [h]
    exact hi.filled

theorem mergeFields (hc : Sized spec bound current) (hi : Sized spec bound incoming)
    (hb : bound ≤ spec.size) : Sized spec bound (mergeFields current incoming) := by
  have hfilled : (Execution.mergeFields current incoming).filledQty =
      max current.filledQty incoming.filledQty := mergedFilled_eq hc hi hb
  have hreq : (Execution.mergeFields current incoming).requestedQty = incoming.requestedQty :=
    mergedRequested_eq hi
  have hrem : (Execution.mergeFields current incoming).remainingQty =
      mergedRemaining current incoming incoming.requestedQty
        (max current.filledQty incoming.filledQty) := by
    show mergedRemaining current incoming (mergedRequested current incoming)
      (mergedFilled current incoming) = _
    rw [mergedRequested_eq hi, mergedFilled_eq hc hi hb]
  have hmax := max_le (hc.filled_le_size hb) (hi.filled_le_size hb)
  have hsize := hi.size_le_requested
  have hquantity := hi.requested_le
  refine ⟨hi.clientOrderId_eq, ?_, ?_, ?_, ?_, ?_, ?_⟩
  · rw [hreq]
    exact hi.requested_pos
  · rw [hreq]
    exact hsize
  · rw [hreq]
    exact hquantity
  · rw [hfilled]
    exact filled_max hc hi
  · rw [hfilled, hrem]
    -- each of the candidates for what remains is at most what is not filled
    have hfloor : max (incoming.requestedQty - max current.filledQty incoming.filledQty) 0 ≤
        spec.quantity - max current.filledQty incoming.filledQty :=
      max_le (by linarith) (by linarith)
    unfold mergedRemaining
    split <;> split
    · exact (min_le_left _ _).trans ((min_le_left _ _).trans hfloor)
    · exact (min_le_left _ _).trans hfloor
    · exact (min_le_left _ _).trans hfloor
    · exact hfloor
  · rw [hfilled, hrem]
    -- and at least what of the sent size is not filled
    have hfloor : spec.size * spec.lot - max current.filledQty incoming.filledQty ≤
        max (incoming.requestedQty - max current.filledQty incoming.filledQty) 0 :=
      le_trans (by linarith) (le_max_left _ _)
    have hcur : spec.size * spec.lot - max current.filledQty incoming.filledQty ≤
        current.remainingQty := by
      have := hc.le_remaining
      have := le_max_left current.filledQty incoming.filledQty
      linarith
    have hinc : spec.size * spec.lot - max current.filledQty incoming.filledQty ≤
        incoming.remainingQty := by
      have := hi.le_remaining
      have := le_max_right current.filledQty incoming.filledQty
      linarith
    unfold mergedRemaining
    split <;> split
    · exact le_min (le_min hfloor hcur) hinc
    · exact le_min hfloor hcur
    · exact le_min hfloor hinc
    · exact hfloor

theorem mergeAccepted (hc : Sized spec bound current) (hi : Sized spec bound incoming)
    (hb : bound ≤ spec.size) : Sized spec bound (mergeAccepted current incoming) :=
  (mergeFields hc hi hb).normalize hb

theorem filledQty_mergeAccepted (hc : Sized spec bound current) (hi : Sized spec bound incoming)
    (hb : bound ≤ spec.size) :
    (Execution.mergeAccepted current incoming).filledQty =
      max current.filledQty incoming.filledQty := by
  show (Execution.normalize (Execution.mergeFields current incoming)).filledQty = _
  rw [filledQty_normalize, (mergeFields hc hi hb).clampedFilled_eq hb]
  exact mergedFilled_eq hc hi hb

theorem quantityUpdate (hc : Sized spec bound current) (hi : Sized spec bound incoming) :
    Sized spec bound (quantityUpdate current incoming) where
  clientOrderId_eq := hc.clientOrderId_eq
  requested_pos := hc.requested_pos
  size_le_requested := hc.size_le_requested
  requested_le := hc.requested_le
  filled := hi.filled
  remaining_le := hi.remaining_le
  le_remaining := hi.le_remaining

/-- **Merging two states of the order gives a state of the order** that has filled the larger
of the two quantities. -/
theorem merge (hc : Sized spec bound current) (hi : Sized spec bound incoming)
    (hb : bound ≤ spec.size) :
    Sized spec bound (merge (some current) incoming) ∧
      (Execution.merge (some current) incoming).filledQty =
        max current.filledQty incoming.filledQty := by
  simp only [Execution.merge]
  split
  · exact ⟨mergeAccepted hc hi hb, filledQty_mergeAccepted hc hi hb⟩
  · unfold mergeWithoutRegression
    split
    · have hq := quantityUpdate hc hi
      exact ⟨mergeAccepted hc hq hb, filledQty_mergeAccepted hc hq hb⟩
    · next hmore =>
      -- nothing but timestamps and an error is taken over, so nothing more was filled
      rw [not_or, not_lt] at hmore
      exact ⟨hc.congr rfl rfl rfl rfl, (max_eq_left hmore.1).symm⟩

end Sized

/-! ### When a merge is terminal -/

theorem status_merge (current incoming : OrderState) :
    (merge (some current) incoming).status = current.status ∨
    (merge (some current) incoming).status = incoming.status ∨
    (merge (some current) incoming).status = .partiallyFilled ∨
    (merge (some current) incoming).status = .filled := by
  have hnormalize : ∀ state : OrderState, (normalize state).status = state.status ∨
      (normalize state).status = .partiallyFilled ∨ (normalize state).status = .filled := by
    intro state
    unfold normalize
    split
    · exact .inr (.inr rfl)
    · split
      · exact .inr (.inl rfl)
      · split
        · exact .inl rfl
        · exact .inl rfl
  simp only [merge]
  split
  · exact .inr (hnormalize (mergeFields current incoming))
  · unfold mergeWithoutRegression
    split
    · rcases hnormalize (mergeFields current (quantityUpdate current incoming)) with h | h
      · exact .inl h
      · exact .inr (.inr h)
    · exact .inl rfl

/-- **What can make a merge terminal**: one of the two states is terminal, or together they
have filled all that was sent. -/
theorem terminal_merge (hc : Sized spec bound current) (hi : Sized spec bound incoming)
    (hb : bound ≤ spec.size)
    (h : (merge (some current) incoming).status.isTerminal = true) :
    current.status.isTerminal = true ∨ incoming.status.isTerminal = true ∨
      spec.size * spec.lot ≤ (merge (some current) incoming).filledQty := by
  by_cases hct : current.status.isTerminal = true
  · exact .inl hct
  · by_cases hit : incoming.status.isTerminal = true
    · exact .inr (.inl hit)
    · rw [Bool.not_eq_true] at hct hit
      obtain ⟨hsized, hfilled⟩ := hc.merge hi hb
      refine .inr (.inr (hsized.size_le_of_near ?_))
      have hup := (isTerminal_merge_iff hct hit).mp h
      have hnonneg : 0 ≤ max current.filledQty incoming.filledQty :=
        hc.filled_nonneg.trans (le_max_left _ _)
      rw [hfilled]
      unfold fillsUp at hup
      split at hup
      · have hreach := hup.2
        rw [hi.mergedRequested_eq, max_eq_left hnonneg] at hreach
        have := hi.size_le_requested
        linarith
      · have hreach := hup.2.2
        rw [max_eq_left hnonneg] at hreach
        have := hc.size_le_requested
        linarith

/-! ### The states that are built -/

theorem sized_of_unfilled (bound : ℕ) (hid : state.clientOrderId = spec.clientOrderId)
    (hreq : state.requestedQty = spec.quantity) (hfill : state.filledQty = 0)
    (hrem : state.remainingQty = spec.quantity) : Sized spec bound state := by
  have hsize := spec.size_mul_lot_le
  have hpos := spec.quantity_pos
  refine ⟨hid, ?_, ?_, ?_, ⟨0, Nat.zero_le _, ?_⟩, ?_, ?_⟩
  · rw [hreq]
    exact hpos
  · rw [hreq]
    exact hsize
  · rw [hreq]
  · rw [hfill]
    simp
  · rw [hrem, hfill, sub_zero]
  · rw [hrem, hfill, sub_zero]
    exact hsize

theorem sized_unfilledState (bound : ℕ) (status : OrderStatus) (mode : String)
    (exchangeStatus : Option String) (ts : Timestamp) (reason : Option String) :
    Sized spec bound (unfilledState spec status mode exchangeStatus ts reason) :=
  sized_of_unfilled bound rfl rfl rfl rfl

theorem sized_mapOrderState {venue : VenueOrder spec.size} {row : OrderRow}
    (hrow : row.Truthful venue) (hsize : 0 < spec.size) (payload : List (String × String))
    (submittedTs now : Timestamp) :
    Sized spec venue.lots (mapOrderState spec payload row submittedTs now) := by
  obtain ⟨-, hsz, hacc, -⟩ := hrow
  have hlot := spec.lot_pos
  have hquantity := spec.size_mul_lot_le
  have hle : (row.accFillSz : ℚ) * spec.lot ≤ spec.size * spec.lot :=
    mul_le_mul_of_nonneg_right (Nat.cast_le.mpr (hacc.trans venue.lots_le)) hlot.le
  have hreq : (mapOrderState spec payload row submittedTs now).requestedQty =
      spec.size * spec.lot := by
    show (row.sz : ℚ) * spec.lot = spec.size * spec.lot
    rw [hsz]
  have hrem : (mapOrderState spec payload row submittedTs now).remainingQty =
      spec.size * spec.lot - row.accFillSz * spec.lot := by
    show max ((row.sz : ℚ) * spec.lot - row.accFillSz * spec.lot) 0 = _
    rw [hsz]
    exact max_eq_left (sub_nonneg.mpr hle)
  have hfill : (mapOrderState spec payload row submittedTs now).filledQty =
      row.accFillSz * spec.lot := rfl
  refine ⟨rfl, ?_, ?_, ?_, ⟨row.accFillSz, hacc, rfl⟩, ?_, ?_⟩
  · rw [hreq]
    exact mul_pos (Nat.cast_pos.mpr hsize) hlot
  · rw [hreq]
  · rw [hreq]
    exact hquantity
  · rw [hrem, hfill]
    linarith
  · rw [hrem, hfill]

end Aats.Execution
