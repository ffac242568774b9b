import Aats.Execution.OrderQuantities

/-!
# Runs of order updates

The updates of one order reach the order state machine in any order and any number of times.
Whatever path `merge` takes (an accepted update, a refused one that still brings quantities, a
refused one that brings nothing), the filled quantity and the fees of the result are the larger
ones of the two states. Everything else here follows from that and from what one merge may do
to the status.

## Main definitions
* `mergeAll first updates` — the order after `merge(None, first)` and then all of `updates`.
* `mergeUpdates` — the fold of `merge` over a list of updates, starting from `None`.
* `Absorbs` — a write to the order store loses nothing that was reported as filled.

## Main results
* `mergeUpdates_perm` — filled quantity and fees do not depend on the order of delivery.
-/

namespace Aats.Execution

variable {requested : ℚ} {current incoming first : OrderState} {updates : List OrderState}

/-! ### The quantities of one merge -/

theorem fees_normalize (state : OrderState) : (normalize state).fees = state.fees := by
  unfold normalize
  split
  · rfl
  · split
    · rfl
    · split <;> rfl

theorem clampedFilled_nonneg (state : OrderState) (hpos : 0 < state.requestedQty) :
    0 ≤ state.clampedFilled :=
  le_min (le_max_right _ _) hpos.le

theorem clampedFilled_le (state : OrderState) : state.clampedFilled ≤ state.requestedQty :=
  min_le_right _ _

/-- A state of the order between two merges: it is for the requested quantity and has filled a
part of it. -/
structure InRange (requested : ℚ) (state : OrderState) : Prop where
  requested_eq : state.requestedQty = requested
  filled_nonneg : 0 ≤ state.filledQty
  filled_le : state.filledQty ≤ requested

theorem inRange_normalize {state : OrderState} (hpos : 0 < requested)
    (hreq : state.requestedQty = requested) : InRange requested (normalize state) where
  requested_eq := (requestedQty_normalize state).trans hreq
  filled_nonneg := by
    rw [filledQty_normalize]
    exact clampedFilled_nonneg state (hreq ▸ hpos)
  filled_le := by
    rw [filledQty_normalize, ← hreq]
    exact clampedFilled_le state

theorem mergedRequested_of_eq (hpos : 0 < requested) (hi : incoming.requestedQty = requested) :
    mergedRequested current incoming = requested := by
  unfold mergedRequested
  rw [hi, if_pos hpos]

theorem mergeAccepted_quantities (hpos : 0 < requested) (hc : InRange requested current)
    (hi : incoming.requestedQty = requested) :
    (mergeAccepted current incoming).requestedQty = requested ∧
    (mergeAccepted current incoming).filledQty =
      min (max current.filledQty incoming.filledQty) requested ∧
    (mergeAccepted current incoming).fees = max current.fees incoming.fees := by
  have hreq : mergedRequested current incoming = requested := mergedRequested_of_eq hpos hi
  have hnonneg : 0 ≤ min (max current.filledQty incoming.filledQty) requested :=
    le_min (hc.filled_nonneg.trans (le_max_left _ _)) hpos.le
  unfold mergeAccepted
  refine ⟨?_, ?_, ?_⟩
  · rw [requestedQty_normalize, mergeFields_requestedQty, hreq]
  · rw [filledQty_normalize, OrderState.clampedFilled, mergeFields_filledQty,
      mergeFields_requestedQty, mergedFilled, hreq, max_eq_left hnonneg]
    exact min_eq_left (min_le_right _ _)
  · rw [fees_normalize]
    rfl

/-- **The quantities of a merge** are the larger ones of the two states, on every path. -/
theorem merge_quantities (hpos : 0 < requested) (hc : InRange requested current)
    (hi : incoming.requestedQty = requested) :
    (merge (some current) incoming).requestedQty = requested ∧
    (merge (some current) incoming).filledQty =
      min (max current.filledQty incoming.filledQty) requested ∧
    (merge (some current) incoming).fees = max current.fees incoming.fees := by
  simp only [merge]
  split
  · exact mergeAccepted_quantities hpos hc hi
  · unfold mergeWithoutRegression
    split
    · -- the quantities are merged in as an update of the current status
      exact mergeAccepted_quantities hpos hc hc.requested_eq
    · -- the update reports no more, so the current quantities are the larger ones
      next hmore =>
      rw [not_or, not_lt, not_lt] at hmore
      refine ⟨hc.requested_eq, ?_, (max_eq_left hmore.2).symm⟩
      rw [max_eq_left hmore.1]
      exact (min_eq_left hc.filled_le).symm

theorem inRange_merge (hpos : 0 < requested) (hc : InRange requested current)
    (hi : incoming.requestedQty = requested) :
    InRange requested (merge (some current) incoming) := by
  obtain ⟨hreq, hfilled, -⟩ := merge_quantities hpos hc hi
  refine ⟨hreq, ?_, ?_⟩
  · rw [hfilled]
    exact le_min (hc.filled_nonneg.trans (le_max_left _ _)) hpos.le
  · rw [hfilled]
    exact min_le_right _ _

/-! ### The status of one merge -/

theorem status_normalize_cases (state : OrderState) :
    (normalize state).status = state.status ∨
    (state.status = .submitted ∧ (normalize state).status = .partiallyFilled) ∨
    ((normalize state).status = .filled ∧
      state.requestedQty - epsilon12 ≤ (normalize state).filledQty) := by
  rw [filledQty_normalize]
  unfold normalize
  split
  · next hc => exact .inr (.inr ⟨rfl, hc.1⟩)
  · split
    · next hs =>
      rcases hs.1 with h | h
      · exact .inr (.inl ⟨h, rfl⟩)
      · exact .inl h.symm
    · split <;> exact .inl rfl

theorem statePriority_le_of_accepted {status next : OrderStatus}
    (h : (validateTransition (some status) next).accepted = true) :
    status.statePriority ≤ next.statePriority := by
  -- the transition table, entry by entry
  revert h
  cases status <;> cases next <;> decide

theorem statePriority_le_filled (status : OrderStatus) :
    status.statePriority ≤ OrderStatus.filled.statePriority := by
  cases status <;> decide

theorem statePriority_le_normalize (state : OrderState) :
    state.status.statePriority ≤ (normalize state).status.statePriority := by
  rcases status_normalize_cases state with h | ⟨hs, h⟩ | ⟨h, -⟩
  · rw [h]
  · rw [hs, h]
    decide
  · rw [h]
    exact statePriority_le_filled _

/-- What one merge may change: quantities grow, a terminal status stays unless the order turns
out to be filled, and the status never moves back. -/
structure SafeStep (requested : ℚ) (before after : OrderState) : Prop where
  filled_le : before.filledQty ≤ after.filledQty
  fees_le : before.fees ≤ after.fees
  filled_kept : before.status = .filled → after.status = .filled
  terminal_left : before.status.isTerminal = true → after.status ≠ before.status →
    after.status = .filled ∧ requested - epsilon12 ≤ after.filledQty
  not_reopened : before.status.isTerminal = true → after.status.isTerminal = true
  priority_le : before.status.statePriority ≤ after.status.statePriority

theorem merge_status_cases (hpos : 0 < requested) (hc : InRange requested current)
    (hi : incoming.requestedQty = requested) :
    (∃ state, merge (some current) incoming = normalize state ∧
      state.requestedQty = requested ∧
      (validateTransition (some current.status) state.status).accepted = true) ∨
    (merge (some current) incoming).status = current.status := by
  simp only [merge]
  split
  · next ha =>
    exact .inl ⟨mergeFields current incoming, rfl, mergedRequested_of_eq hpos hi, ha⟩
  · unfold mergeWithoutRegression
    split
    · -- the update of the quantities carries the current status, which is always accepted
      refine .inl ⟨mergeFields current (quantityUpdate current incoming), rfl, ?_, ?_⟩
      · exact mergedRequested_of_eq hpos hc.requested_eq
      · rw [mergeFields_status, quantityUpdate_status, validateTransition, if_pos rfl]
        rfl
    · exact .inr rfl

theorem terminal_status_merge (hpos : 0 < requested) (hc : InRange requested current)
    (hi : incoming.requestedQty = requested) (ht : current.status.isTerminal = true) :
    (merge (some current) incoming).status = current.status ∨
    ((merge (some current) incoming).status = .filled ∧
      requested - epsilon12 ≤ (merge (some current) incoming).filledQty) := by
  rcases merge_status_cases hpos hc hi with ⟨state, hm, hreq, ha⟩ | h
  · have hs : state.status = current.status := eq_of_accepted_of_terminal ht ha
    rw [hm]
    rcases status_normalize_cases state with h | ⟨h, -⟩ | ⟨h, hfull⟩
    · exact .inl (h.trans hs)
    · -- `SUBMITTED` is not terminal
      rw [← hs, h] at ht
      cases ht
    · rw [hreq] at hfull
      exact .inr ⟨h, hfull⟩
  · exact .inl h

/-- A merge is `FILLED` because one of the two states is, or because its filled quantity reaches
the requested one. -/
theorem status_merge_filled (hpos : 0 < requested) (hc : InRange requested current)
    (hi : incoming.requestedQty = requested)
    (h : (merge (some current) incoming).status = .filled) :
    current.status = .filled ∨ incoming.status = .filled ∨
      requested - epsilon12 ≤ (merge (some current) incoming).filledQty := by
  -- on both paths an update is merged as accepted, with its own or the current status
  have hnormalize : ∀ update : OrderState, update.requestedQty = requested →
      (mergeAccepted current update).status = .filled → update.status = .filled ∨
        requested - epsilon12 ≤ (mergeAccepted current update).filledQty := by
    intro update hu hs
    rcases status_normalize_cases (mergeFields current update) with hn | ⟨-, hn⟩ | ⟨-, hn⟩
    · exact .inl (hn.symm.trans hs)
    · cases hn.symm.trans hs
    · rw [mergeFields_requestedQty, mergedRequested_of_eq hpos hu] at hn
      exact .inr hn
  simp only [merge] at h ⊢
  split at h
  · next ha =>
    rw [if_pos ha]
    exact .inr (hnormalize incoming hi h)
  · next ha =>
    rw [if_neg ha]
    unfold mergeWithoutRegression at h ⊢
    split at h
    · next hmore =>
      have hupdate : (quantityUpdate current incoming).requestedQty = requested :=
        hc.requested_eq
      rw [if_pos hmore]
      rcases hnormalize (quantityUpdate current incoming) hupdate h with hs | hs
      · exact .inl hs
      · exact .inr (.inr hs)
    · exact .inl h

theorem safeStep_merge (hpos : 0 < requested) (hc : InRange requested current)
    (hi : incoming.requestedQty = requested) :
    SafeStep requested current (merge (some current) incoming) := by
  obtain ⟨-, hfilled, hfees⟩ := merge_quantities hpos hc hi
  refine ⟨?_, ?_, ?_, ?_, isTerminal_merge_of_terminal incoming, ?_⟩
  · rw [hfilled]
    exact le_min (le_max_left _ _) hc.filled_le
  · rw [hfees]
    exact le_max_left _ _
  · intro hs
    rcases terminal_status_merge hpos hc hi (by rw [hs]; rfl) with h | h
    · exact h.trans hs
    · exact h.1
  · intro ht hne
    exact (terminal_status_merge hpos hc hi ht).resolve_left hne
  · rcases merge_status_cases hpos hc hi with ⟨state, hm, -, ha⟩ | h
    · rw [hm]
      exact (statePriority_le_of_accepted ha).trans (statePriority_le_normalize state)
    · rw [h]

/-! ### Filled and remaining quantity -/

theorem mergedRemaining_le (current incoming : OrderState) (requested filled : ℚ) :
    mergedRemaining current incoming requested filled ≤ max (requested - filled) 0 := by
  unfold mergedRemaining
  split <;> split
  · exact (min_le_left _ _).trans (min_le_left _ _)
  · exact min_le_left _ _
  · exact min_le_left _ _
  · exact le_rfl

theorem filled_add_remaining_normalize {state : OrderState}
    (h : state.clampedFilled + state.remainingQty ≤ state.requestedQty) :
    (normalize state).filledQty + (normalize state).remainingQty ≤ state.requestedQty := by
  have hle := clampedFilled_le state
  rw [filledQty_normalize]
  -- complete, partially filled, or the remaining quantity as it was merged
  rcases remainingQty_normalize state with ⟨-, hr⟩ | hr | hr
  · rw [hr, add_zero]
    exact hle
  · rw [hr, max_eq_left (sub_nonneg.mpr hle)]
    linarith
  · rw [hr, OrderState.clampedRemaining]
    have hmin : min state.remainingQty state.requestedQty ≤
        state.requestedQty - state.clampedFilled := by
      have := min_le_left state.remainingQty state.requestedQty
      linarith
    have := max_le hmin (sub_nonneg.mpr hle)
    linarith

theorem filled_add_remaining_mergeAccepted (hpos : 0 < requested)
    (hc : InRange requested current) (hi : incoming.requestedQty = requested) :
    (mergeAccepted current incoming).filledQty + (mergeAccepted current incoming).remainingQty ≤
      requested := by
  have hreq : (mergeFields current incoming).requestedQty = requested :=
    mergedRequested_of_eq hpos hi
  have hfilled : (mergeFields current incoming).filledQty =
      min (max current.filledQty incoming.filledQty) requested := by
    show mergedFilled current incoming = _
    unfold mergedFilled
    rw [← mergeFields_requestedQty, hreq]
  have hle : (mergeFields current incoming).filledQty ≤ requested :=
    hfilled ▸ min_le_right _ _
  have hnonneg : 0 ≤ (mergeFields current incoming).filledQty :=
    hfilled ▸ le_min (hc.filled_nonneg.trans (le_max_left _ _)) hpos.le
  have hclamped : (mergeFields current incoming).clampedFilled =
      (mergeFields current incoming).filledQty := by
    unfold OrderState.clampedFilled
    rw [max_eq_left hnonneg, hreq, min_eq_left hle]
  have hrem : (mergeFields current incoming).remainingQty ≤
      max (requested - (mergeFields current incoming).filledQty) 0 := by
    rw [← hreq]
    exact mergedRemaining_le _ _ _ _
  rw [max_eq_left (sub_nonneg.mpr hle)] at hrem
  have hfields : (mergeFields current incoming).clampedFilled +
      (mergeFields current incoming).remainingQty ≤
        (mergeFields current incoming).requestedQty := by
    rw [hclamped, hreq]
    linarith
  have hnormalize := filled_add_remaining_normalize hfields
  rw [hreq] at hnormalize
  exact hnormalize

theorem filled_add_remaining_merge (hpos : 0 < requested) (hc : InRange requested current)
    (hi : incoming.requestedQty = requested)
    (hsum : current.filledQty + current.remainingQty ≤ requested) :
    (merge (some current) incoming).filledQty + (merge (some current) incoming).remainingQty ≤
      requested := by
  simp only [merge]
  split
  · exact filled_add_remaining_mergeAccepted hpos hc hi
  · unfold mergeWithoutRegression
    split
    · exact filled_add_remaining_mergeAccepted hpos hc hc.requested_eq
    · exact hsum

/-! ### Whole runs -/

/-- The order after `merge(None, first)` and then a merge of each of `updates`. -/
def mergeAll (first : OrderState) (updates : List OrderState) : OrderState :=
  updates.foldl (fun current incoming => merge (some current) incoming) (merge none first)

theorem mergeAll_concat (first : OrderState) (updates : List OrderState) (incoming : OrderState) :
    mergeAll first (updates ++ [incoming]) = merge (some (mergeAll first updates)) incoming := by
  unfold mergeAll
  rw [List.foldl_append]
  rfl

theorem inRange_mergeAll (hpos : 0 < requested) (hfirst : first.requestedQty = requested)
    (hreq : ∀ update ∈ updates, update.requestedQty = requested) :
    InRange requested (mergeAll first updates) := by
  induction updates using List.reverseRecOn with
  | nil => exact inRange_normalize hpos hfirst
  | append_singleton updates incoming ih =>
    rw [mergeAll_concat]
    refine inRange_merge hpos (ih ?_) (hreq incoming (by simp))
    intro update hmem
    exact hreq update (by simp [hmem])

theorem filled_add_remaining_mergeAll (hpos : 0 < requested)
    (hfirst : first.requestedQty = requested)
    (hreq : ∀ update ∈ updates, update.requestedQty = requested)
    (hsum : (mergeAll first []).filledQty + (mergeAll first []).remainingQty ≤ requested) :
    (mergeAll first updates).filledQty + (mergeAll first updates).remainingQty ≤ requested := by
  induction updates using List.reverseRecOn with
  | nil => exact hsum
  | append_singleton updates incoming ih =>
    have hreq' : ∀ update ∈ updates, update.requestedQty = requested := by
      intro update hmem
      exact hreq update (by simp [hmem])
    rw [mergeAll_concat]
    exact filled_add_remaining_merge hpos (inRange_mergeAll hpos hfirst hreq')
      (hreq incoming (by simp)) (ih hreq')

/-- A run that leaves a terminal status: one unit is requested, the order is cancelled with a half
of it filled, and then the other half turns out to be filled too. -/
def halfThenWhole : OrderState × List OrderState :=
  ({ status := .submitted, requestedQty := 1, remainingQty := 1 },
    [{ status := .canceled, requestedQty := 1, filledQty := 1 / 2, remainingQty := 1 / 2 },
      { status := .partiallyFilled, requestedQty := 1, filledQty := 1, remainingQty := 0 }])

/-- The fold of `merge` over a list of updates, starting from `None`. -/
def mergeUpdates (updates : List OrderState) : Option OrderState :=
  updates.foldl (fun current incoming => some (merge current incoming)) none

theorem mergeUpdates_cons (first : OrderState) (updates : List OrderState) :
    mergeUpdates (first :: updates) = some (mergeAll first updates) := by
  induction updates using List.reverseRecOn with
  | nil => rfl
  | append_singleton updates incoming ih =>
    rw [mergeAll_concat, ← List.cons_append]
    unfold mergeUpdates at ih ⊢
    rw [List.foldl_append, ih]
    rfl

theorem min_max_clamp {x y r : ℚ} (hr : 0 ≤ r) :
    min (max (min (max x 0) r) y) r = min (max (max x y) 0) r := by
  -- the three quantities are compared with `r`: either side is `r`, or nothing is clamped
  rcases le_total r y with hy | hy
  · rw [min_eq_right (hy.trans (le_max_right _ _)),
      min_eq_right ((hy.trans (le_max_right x y)).trans (le_max_left _ _))]
  · rcases le_total r x with hx | hx
    · have hx0 : r ≤ max x 0 := hx.trans (le_max_left _ _)
      rw [min_eq_right hx0, max_eq_left hy, min_self,
        min_eq_right ((hx.trans (le_max_left x y)).trans (le_max_left _ _))]
    · rw [min_eq_left (max_le hx hr), max_right_comm]

theorem mergeAll_totals (hpos : 0 < requested) (hfirst : first.requestedQty = requested)
    (hreq : ∀ update ∈ updates, update.requestedQty = requested) :
    (mergeAll first updates).filledQty =
      min (max ((updates.map (·.filledQty)).foldl max first.filledQty) 0) requested ∧
    (mergeAll first updates).fees = (updates.map (·.fees)).foldl max first.fees := by
  induction updates using List.reverseRecOn with
  | nil =>
    refine ⟨?_, fees_normalize first⟩
    show (normalize first).filledQty = _
    rw [filledQty_normalize, OrderState.clampedFilled, hfirst]
    rfl
  | append_singleton updates incoming ih =>
    have hreq' : ∀ update ∈ updates, update.requestedQty = requested := by
      intro update hmem
      exact hreq update (by simp [hmem])
    obtain ⟨hfilled, hfees⟩ := ih hreq'
    obtain ⟨-, hmerge, hmergeFees⟩ := merge_quantities hpos
      (inRange_mergeAll hpos hfirst hreq') (hreq incoming (by simp))
    simp only [mergeAll_concat, List.map_append, List.foldl_append, List.map_cons, List.map_nil,
      List.foldl_cons, List.foldl_nil]
    refine ⟨?_, ?_⟩
    · rw [hmerge, hfilled]
      exact min_max_clamp hpos.le
    · rw [hmergeFees, hfees]

theorem isGreatest_foldl_max (values : List ℚ) (value : ℚ) :
    IsGreatest {x | x ∈ value :: values} (values.foldl max value) := by
  induction values generalizing value with
  | nil => simp [IsGreatest, upperBounds]
  | cons next values ih =>
    -- the fold goes on from the larger one of the first two
    obtain ⟨hmem, hub⟩ := ih (max value next)
    rw [List.foldl_cons]
    refine ⟨?_, ?_⟩
    · rcases List.mem_cons.mp hmem with h | h
      · show values.foldl max (max value next) ∈ value :: next :: values
        rw [h]
        rcases max_choice value next with hm | hm <;> simp [hm]
      · exact List.mem_cons_of_mem _ (List.mem_cons_of_mem _ h)
    · intro x hx
      have hfirst : max value next ≤ values.foldl max (max value next) :=
        hub (List.mem_cons_self ..)
      rcases List.mem_cons.mp hx with rfl | hx
      · exact (le_max_left _ _).trans hfirst
      · rcases List.mem_cons.mp hx with rfl | hx
        · exact (le_max_right _ _).trans hfirst
        · exact hub (List.mem_cons_of_mem _ hx)

theorem mergeUpdates_totals (hpos : 0 < requested) (hne : updates ≠ [])
    (hreq : ∀ update ∈ updates, update.requestedQty = requested) :
    ∃ order filled fees, mergeUpdates updates = some order ∧
      IsGreatest {x | x ∈ updates.map (·.filledQty)} filled ∧
      IsGreatest {x | x ∈ updates.map (·.fees)} fees ∧
      order.filledQty = min (max filled 0) requested ∧ order.fees = fees := by
  cases updates with
  | nil => exact absurd rfl hne
  | cons first updates =>
    have hreq' : ∀ update ∈ updates, update.requestedQty = requested := by
      intro update hmem
      exact hreq update (List.mem_cons_of_mem _ hmem)
    obtain ⟨hfilled, hfees⟩ := mergeAll_totals hpos (hreq first (List.mem_cons_self ..)) hreq'
    exact ⟨mergeAll first updates, _, _, mergeUpdates_cons first updates,
      isGreatest_foldl_max _ _, isGreatest_foldl_max _ _, hfilled, hfees⟩

/-- **The order of delivery does not matter** for the quantities: every permutation of the updates
gives the same filled quantity and the same fees, the largest ones reported (the filled quantity
clamped to what was requested). -/
theorem mergeUpdates_perm (hpos : 0 < requested)
    (hreq : ∀ update ∈ updates, update.requestedQty = requested) :
    (updates ≠ [] → ∃ filled fees,
      IsGreatest {x | x ∈ updates.map (·.filledQty)} filled ∧
      IsGreatest {x | x ∈ updates.map (·.fees)} fees ∧
      ∀ permuted : List OrderState, permuted.Perm updates →
        (mergeUpdates permuted).map (fun order => (order.filledQty, order.fees)) =
          some (min (max filled 0) requested, fees)) ∧
    ∀ permuted : List OrderState, permuted.Perm updates →
      (mergeUpdates permuted).map (fun order => (order.filledQty, order.fees)) =
        (mergeUpdates updates).map (fun order => (order.filledQty, order.fees)) := by
  have htotals : updates ≠ [] → ∃ filled fees,
      IsGreatest {x | x ∈ updates.map (·.filledQty)} filled ∧
      IsGreatest {x | x ∈ updates.map (·.fees)} fees ∧
      ∀ permuted : List OrderState, permuted.Perm updates →
        (mergeUpdates permuted).map (fun order => (order.filledQty, order.fees)) =
          some (min (max filled 0) requested, fees) := by
    intro hne
    obtain ⟨-, filled, fees, -, hfilled, hfees, -, -⟩ := mergeUpdates_totals hpos hne hreq
    refine ⟨filled, fees, hfilled, hfees, ?_⟩
    intro permuted hperm
    have hne' : permuted ≠ [] := by
      rintro rfl
      exact hne hperm.nil_eq.symm
    obtain ⟨order, filled', fees', horder, hfilled', hfees', hf, hg⟩ := mergeUpdates_totals hpos
      hne' (fun update hmem => hreq update (hperm.subset hmem))
    -- a permutation has the same elements, so the same largest ones
    have hmap : ∀ value : OrderState → ℚ,
        {x | x ∈ permuted.map value} = {x | x ∈ updates.map value} := by
      intro value
      ext x
      exact (hperm.map value).mem_iff
    rw [hmap] at hfilled' hfees'
    rw [horder, Option.map_some, hf, hg, hfilled'.unique hfilled, hfees'.unique hfees]
  refine ⟨htotals, ?_⟩
  intro permuted hperm
  rcases eq_or_ne updates [] with rfl | hne
  · rw [hperm.eq_nil]
  · obtain ⟨filled, fees, -, -, hall⟩ := htotals hne
    rw [hall permuted hperm, hall updates (List.Perm.refl _)]

theorem mergeUpdates_perm_halfThenWhole :
    (mergeUpdates halfThenWhole.2.reverse).map (fun order => (order.filledQty, order.fees)) =
      (mergeUpdates halfThenWhole.2).map (fun order => (order.filledQty, order.fees)) ∧
    (mergeUpdates halfThenWhole.2).map (·.filledQty) = some 1 := by
  refine ⟨?_, by decide +kernel⟩
  exact (mergeUpdates_perm (show (0 : ℚ) < 1 by norm_num) (by decide)).2 _
    (List.reverse_perm _)

/-! ### What the order store takes of a report -/

theorem quantityUpdate_filledQty (current incoming : OrderState) :
    (quantityUpdate current incoming).filledQty = incoming.filledQty := rfl

theorem le_filledQty_mergeAccepted (hpos : 0 < requested) (hi : incoming.requestedQty = requested) :
    min incoming.filledQty requested ≤ (mergeAccepted current incoming).filledQty := by
  unfold mergeAccepted
  rw [filledQty_normalize, OrderState.clampedFilled, mergeFields_filledQty,
    mergeFields_requestedQty, mergedFilled, mergedRequested_of_eq hpos hi]
  refine le_min ?_ (min_le_right _ _)
  exact (min_le_min_right requested (le_max_right _ _)).trans (le_max_left _ _)

theorem le_filledQty_merge (hpos : 0 < requested) (hc : current.requestedQty = requested)
    (hi : incoming.requestedQty = requested) :
    min incoming.filledQty requested ≤ (merge (some current) incoming).filledQty := by
  simp only [merge]
  split
  · exact le_filledQty_mergeAccepted hpos hi
  · unfold mergeWithoutRegression
    split
    · have hupdate : (quantityUpdate current incoming).requestedQty = requested := hc
      rw [← quantityUpdate_filledQty current incoming]
      exact le_filledQty_mergeAccepted hpos hupdate
    · -- nothing is taken over, but the order has as much already
      next hmore =>
      rw [not_or, not_lt] at hmore
      exact (min_le_left _ _).trans hmore.1

/-- The write takes over all that the update reports as filled, up to what was requested. -/
def Absorbs (current incoming : OrderState) : Prop :=
  ∃ stored, saveOrderState current incoming = .ok stored ∧
    min incoming.filledQty current.requestedQty ≤ stored.filledQty

/-- **What the order store absorbs.**  A write takes over all that the update reports as filled
unless the status change is an invalid one; then it raises. In particular a late
`PARTIALLY_FILLED` report for a cancelled, expired or failed order is absorbed. -/
theorem saveOrderState_absorbs_iff (hpos : 0 < current.requestedQty)
    (hi : incoming.requestedQty = current.requestedQty) :
    (Absorbs current incoming ↔
      validateTransition (some current.status) incoming.status ≠ .invalidTransition) ∧
    (validateTransition (some current.status) incoming.status = .invalidTransition →
      saveOrderState current incoming =
        .error { current := current.status, next := incoming.status }) ∧
    (current.status ∈ [OrderStatus.canceled, .expired, .failed] →
      incoming.status = .partiallyFilled → Absorbs current incoming) := by
  have hiff : Absorbs current incoming ↔
      validateTransition (some current.status) incoming.status ≠ .invalidTransition := by
    unfold Absorbs saveOrderState
    constructor
    · rintro ⟨stored, hsave, -⟩ hinvalid
      rw [if_pos hinvalid] at hsave
      cases hsave
    · intro hvalid
      exact ⟨_, if_neg hvalid, le_filledQty_merge hpos rfl hi⟩
  refine ⟨hiff, fun hinvalid => if_pos hinvalid, ?_⟩
  intro hstatus hpartial
  rw [hiff, hpartial]
  simp only [List.mem_cons, List.not_mem_nil, or_false] at hstatus
  rcases hstatus with h | h | h <;> rw [h] <;> decide

/-- An order of one unit that is stored as cancelled with nothing filled. -/
def canceledOrder : OrderState :=
  merge none { status := .canceled, requestedQty := 1, remainingQty := 1 }

/-- **A report that the order store refuses**: the cancelled order turns out to be filled. -/
theorem canceledOrder_filled_refused :
    ¬ ∀ current incoming : OrderState, 0 < current.requestedQty →
      incoming.requestedQty = current.requestedQty → Absorbs current incoming := by
  intro h
  obtain ⟨stored, hsave, -⟩ := h canceledOrder
    { status := .filled, requestedQty := 1, filledQty := 1, remainingQty := 0 }
    (by decide +kernel) (by decide +kernel)
  have hinvalid : validateTransition (some canceledOrder.status) .filled = .invalidTransition := by
    decide +kernel
  rw [saveOrderState, if_pos hinvalid] at hsave
  cases hsave

theorem canceledOrder_partial_absorbed :
    Absorbs canceledOrder
      { status := .partiallyFilled, requestedQty := 1, filledQty := 1 / 2, remainingQty := 1 / 2 } :=
  (saveOrderState_absorbs_iff (by decide +kernel) (by decide +kernel)).2.2 (by decide +kernel) rfl

end Aats.Execution
