import Aats.Execution.MergeRuns
import Mathlib.Data.List.Nodup

/-!
# Redelivered order updates

An exchange may deliver an order update twice. The second delivery can take another path
through `merge` than the first: an update that was accepted is refused once its quantities have
filled the order, and an update that was refused is accepted once they have. On the accepted
path nothing changes the second time. On the refused paths the branch that takes the quantities
of an update drops its error text, which the branch without new quantities (and the accepted
path) keep: there a second delivery still changes the order.

## Main definitions
* `Merged` — the states that `merge` gives, starting from `None`.

## Main results
* `redelivery_noop_iff` — the second delivery is a no-op exactly in that case.
-/

namespace Aats.Execution

variable {requested : ℚ} {current incoming state : OrderState}

/-! ### Lists without repetitions -/

section EraseDups

variable {α : Type*} [DecidableEq α]

theorem eraseDups_of_nodup {values : List α} (h : values.Nodup) : values.eraseDups = values := by
  induction values with
  | nil => rfl
  | cons value values ih =>
    obtain ⟨hnot, hnodup⟩ := List.nodup_cons.mp h
    have hfilter : values.filter (fun other => !other == value) = values := by
      rw [List.filter_eq_self]
      intro other hmem
      have : other ≠ value := ne_of_mem_of_not_mem hmem hnot
      simpa using this
    rw [List.eraseDups_cons, hfilter, ih hnodup]

theorem nodup_eraseDups : ∀ values : List α, values.eraseDups.Nodup
  | [] => List.nodup_nil
  | value :: values => by
    rw [List.eraseDups_cons, List.nodup_cons]
    refine ⟨?_, nodup_eraseDups _⟩
    rw [List.mem_eraseDups, List.mem_filter]
    simp
termination_by values => values.length
decreasing_by
  have := List.length_filter_le (fun other => !other == value) values
  simp only [List.length_cons]
  omega

theorem eraseDups_append_of_subset {values more : List α} (h : values.Nodup)
    (hsub : more ⊆ values) : (values ++ more).eraseDups = values := by
  have hnone : more.removeAll values = [] := by
    rw [List.removeAll, List.filter_eq_nil_iff]
    intro value hmem
    simpa using hsub hmem
  rw [List.eraseDups_append, eraseDups_of_nodup h, hnone, List.eraseDups_nil, List.append_nil]

end EraseDups

/-! ### The history of exchange statuses -/

theorem mem_mergedHistory {value : String} : value ∈ mergedHistory current incoming ↔
    value ∈ current.exchangeStatusHistory ∨ value ∈ incoming.exchangeStatusHistory ∨
      incoming.exchangeStatus = some value := by
  unfold mergedHistory
  cases hx : incoming.exchangeStatus with
  | none => simp [List.mem_eraseDups]
  | some status =>
    simp only []
    split
    · next hmem =>
      rw [List.mem_eraseDups, List.mem_append] at hmem ⊢
      constructor
      · rintro (h | h)
        · exact .inl h
        · exact .inr (.inl h)
      · rintro (h | h | h)
        · exact .inl h
        · exact .inr h
        · cases h
          exact hmem
    · rw [List.mem_append, List.mem_eraseDups, List.mem_append, List.mem_singleton]
      constructor
      · rintro ((h | h) | h)
        · exact .inl h
        · exact .inr (.inl h)
        · exact .inr (.inr (by rw [h]))
      · rintro (h | h | h)
        · exact .inl (.inl h)
        · exact .inl (.inr h)
        · cases h
          exact .inr rfl

theorem nodup_mergedHistory (current incoming : OrderState) :
    (mergedHistory current incoming).Nodup := by
  unfold mergedHistory
  cases incoming.exchangeStatus with
  | none => exact nodup_eraseDups _
  | some status =>
    simp only []
    split
    · exact nodup_eraseDups _
    · next hnot =>
      rw [List.nodup_append]
      refine ⟨nodup_eraseDups _, List.nodup_singleton _, ?_⟩
      intro value hvalue other hother
      rw [List.mem_singleton] at hother
      rw [hother]
      exact ne_of_mem_of_not_mem hvalue hnot

theorem mergedHistory_eq_self_iff (h : current.exchangeStatusHistory.Nodup) :
    mergedHistory current incoming = current.exchangeStatusHistory ↔
      ∀ value, value ∈ incoming.exchangeStatusHistory ∨ incoming.exchangeStatus = some value →
        value ∈ current.exchangeStatusHistory := by
  constructor
  · intro heq value hvalue
    rw [← heq, mem_mergedHistory]
    exact .inr hvalue
  · intro hall
    have hlist : (current.exchangeStatusHistory ++ incoming.exchangeStatusHistory).eraseDups =
        current.exchangeStatusHistory :=
      eraseDups_append_of_subset h (fun value hvalue => hall value (.inl hvalue))
    unfold mergedHistory
    simp only [hlist]
    cases hx : incoming.exchangeStatus with
    | none => rfl
    | some status =>
      simp only []
      rw [if_pos (hall status (.inr hx))]

/-! ### Normalization, field by field -/

def normalizedStatus (state : OrderState) : OrderStatus :=
  if state.Complete then .filled
  else if (state.status = .submitted ∨ state.status = .partiallyFilled) ∧
      epsilon12 < state.clampedFilled then .partiallyFilled
  else state.status

def normalizedRemaining (state : OrderState) : ℚ :=
  if state.Complete then 0
  else if (state.status = .submitted ∨ state.status = .partiallyFilled) ∧
      epsilon12 < state.clampedFilled then max (state.requestedQty - state.clampedFilled) 0
  else state.clampedRemaining

def normalizedCanceledTs (state : OrderState) : Option Timestamp :=
  if ¬ state.Complete ∧ state.status = .canceled ∧ state.canceledTs = none then
    state.lastExchangeUpdateTs.or state.lastUpdateTs
  else state.canceledTs

theorem normalize_eq (state : OrderState) : normalize state =
    { state with
      status := normalizedStatus state
      filledQty := state.clampedFilled
      remainingQty := normalizedRemaining state
      canceledTs := normalizedCanceledTs state } := by
  unfold normalize normalizedStatus normalizedRemaining normalizedCanceledTs
  by_cases hc : state.Complete
  · rw [if_pos hc, if_pos hc, if_pos hc, if_neg (fun h => h.1 hc)]
  · by_cases hp : (state.status = .submitted ∨ state.status = .partiallyFilled) ∧
        epsilon12 < state.clampedFilled
    · have hcanceled : state.status ≠ .canceled := by
        intro hs
        rcases hp.1 with h | h <;> simp [hs] at h
      rw [if_neg hc, if_pos hp, if_neg hc, if_pos hp, if_neg hc, if_pos hp,
        if_neg (fun h => hcanceled h.2.1)]
    · rw [if_neg hc, if_neg hp, if_neg hc, if_neg hp, if_neg hc, if_neg hp]
      by_cases ht : state.status = .canceled ∧ state.canceledTs = none
      · rw [if_pos ht, if_pos ⟨hc, ht⟩]
      · rw [if_neg ht, if_neg (fun h => ht h.2)]

theorem normalizedStatus_of_complete (h : state.Complete) : normalizedStatus state = .filled :=
  if_pos h

theorem normalizedRemaining_of_complete (h : state.Complete) : normalizedRemaining state = 0 :=
  if_pos h

theorem normalizedCanceledTs_of_complete (h : state.Complete) :
    normalizedCanceledTs state = state.canceledTs :=
  if_neg (fun hn => hn.1 h)

/-! ### Timestamps, errors and prices that are merged twice -/

theorem latest_latest (a b : Option Timestamp) : latest (latest a b) b = latest a b := by
  cases a <;> cases b <;> simp [latest]

theorem latest_latest_left (a b : Option Timestamp) : latest a (latest a b) = latest a b := by
  cases a <;> cases b <;> simp [latest]

theorem earliest_earliest (a b : Option Timestamp) :
    earliest (earliest a b) b = earliest a b := by
  cases a <;> cases b <;> simp [earliest]

theorem earliest_self (a : Option Timestamp) : earliest a a = a := by
  cases a <;> simp [earliest]

theorem strOr_self (text : Option String) : strOr text text = text := by
  cases text with
  | none => rfl
  | some text => exact ite_self _

theorem strOr_strOr (left right : Option String) :
    strOr left (strOr left right) = strOr left right := by
  cases left with
  | none => rfl
  | some text =>
    by_cases ht : text = "" <;> simp [strOr, ht]

/-- The update settles a write whose outcome was unknown, so that the error goes away. -/
def settlesUnknown (current incoming : OrderState) (error : String) : Prop :=
  unknownMark.toList <:+: error.toList ∧
    (("submission_unknown_check_exchange:".toList <+: error.toList ∧
      (((incoming.exchangeOrderId.filter (· ≠ "")).isSome ∧
        incoming.exchangeOrderId ≠ current.exchangeOrderId) ∨
      incoming.status ∈ [OrderStatus.partiallyFilled, .filled, .canceled, .expired, .rejected,
        .failed])) ∨
    (¬ "submission_unknown_check_exchange:".toList <+: error.toList ∧
      "cancel_unknown_check_exchange:".toList <+: error.toList ∧
      incoming.status ∈ [OrderStatus.canceled, .filled, .expired, .failed]))

theorem mergeExecutionError_of_some {error : String}
    (h : incoming.executionError.filter (· ≠ "") = some error) :
    mergeExecutionError current incoming = some error := by
  unfold mergeExecutionError
  rw [h]

theorem mergeExecutionError_of_none (h : incoming.executionError.filter (· ≠ "") = none)
    (herror : current.executionError = none) : mergeExecutionError current incoming = none := by
  unfold mergeExecutionError
  rw [h, herror]

theorem mergeExecutionError_of_settled {error : String}
    (h : incoming.executionError.filter (· ≠ "") = none)
    (herror : current.executionError = some error)
    (hsettles : settlesUnknown current incoming error) :
    mergeExecutionError current incoming = none := by
  unfold mergeExecutionError
  rw [h, herror]
  simp only []
  obtain ⟨hm, ⟨hs, hid | hst⟩ | ⟨hs, hc, hst⟩⟩ := hsettles
  · rw [if_neg (not_not.mpr hm), if_pos hs, if_pos hid]
  · rw [if_neg (not_not.mpr hm), if_pos hs, if_pos hst, ite_self]
  · rw [if_neg (not_not.mpr hm), if_neg hs, if_pos hc, if_pos hst]

theorem mergeExecutionError_of_not_settled {error : String}
    (h : incoming.executionError.filter (· ≠ "") = none)
    (herror : current.executionError = some error)
    (hsettles : ¬ settlesUnknown current incoming error) :
    mergeExecutionError current incoming = some error := by
  unfold mergeExecutionError
  rw [h, herror]
  simp only []
  split
  · rfl
  · next hm =>
    rw [not_not] at hm
    split
    · next hs =>
      have hid := fun hid => hsettles ⟨hm, .inl ⟨hs, .inl hid⟩⟩
      have hst := fun hst => hsettles ⟨hm, .inl ⟨hs, .inr hst⟩⟩
      rw [if_neg hid, if_neg hst]
    · next hs =>
      split
      · next hc =>
        have hst := fun hst => hsettles ⟨hm, .inr ⟨hs, hc, hst⟩⟩
        rw [if_neg hst]
      · rfl

theorem not_settlesUnknown_empty (current incoming : OrderState) :
    ¬ settlesUnknown current incoming "" := by
  intro h
  have hnil : unknownMark.toList <:+: [] := h.1
  rw [List.infix_nil] at hnil
  exact absurd hnil (by decide)

theorem mergeExecutionError_same (h : incoming.executionError = current.executionError) :
    mergeExecutionError current incoming = current.executionError := by
  cases herror : current.executionError with
  | none =>
    apply mergeExecutionError_of_none _ herror
    rw [h, herror]
    rfl
  | some error =>
    by_cases he : error = ""
    · subst he
      apply mergeExecutionError_of_not_settled _ herror (not_settlesUnknown_empty _ _)
      rw [h, herror]
      rfl
    · apply mergeExecutionError_of_some
      rw [h, herror, Option.filter_some, if_pos (by simpa using he)]

theorem settlesUnknown_again {error : String}
    (hid : state.exchangeOrderId = strOr incoming.exchangeOrderId current.exchangeOrderId)
    (h : settlesUnknown state incoming error) : settlesUnknown current incoming error := by
  obtain ⟨hm, ⟨hs, ⟨hsome, hne⟩ | hst⟩ | hcancel⟩ := h
  · exfalso
    apply hne
    rw [hid]
    cases hx : incoming.exchangeOrderId with
    | none =>
      rw [hx] at hsome
      cases hsome
    | some text =>
      have ht : text ≠ "" := by
        rintro rfl
        rw [hx] at hsome
        cases hsome
      exact (if_neg ht).symm
  · exact ⟨hm, .inl ⟨hs, .inr hst⟩⟩
  · exact ⟨hm, .inr hcancel⟩

theorem mergeExecutionError_again
    (herror : state.executionError = mergeExecutionError current incoming)
    (hid : state.exchangeOrderId = strOr incoming.exchangeOrderId current.exchangeOrderId) :
    mergeExecutionError state incoming = mergeExecutionError current incoming := by
  cases hf : incoming.executionError.filter (· ≠ "") with
  | some error => rw [mergeExecutionError_of_some hf, mergeExecutionError_of_some hf]
  | none =>
    cases hc : current.executionError with
    | none =>
      rw [mergeExecutionError_of_none hf hc] at herror ⊢
      exact mergeExecutionError_of_none hf herror
    | some error =>
      by_cases hs : settlesUnknown current incoming error
      · rw [mergeExecutionError_of_settled hf hc hs] at herror ⊢
        exact mergeExecutionError_of_none hf herror
      · rw [mergeExecutionError_of_not_settled hf hc hs] at herror ⊢
        exact mergeExecutionError_of_not_settled hf herror
          (fun h => hs (settlesUnknown_again hid h))

theorem mergedAveragePrice_again
    (hprice : state.averageFillPrice = mergedAveragePrice current incoming)
    (hfilled : current.filledQty ≤ state.filledQty) :
    mergedAveragePrice state incoming = mergedAveragePrice current incoming := by
  unfold mergedAveragePrice at hprice ⊢
  rw [hprice]
  cases incoming.averageFillPrice with
  | none => rfl
  | some price =>
    cases current.averageFillPrice with
    | none => simp
    | some old =>
      simp only []
      by_cases hlt : incoming.filledQty < current.filledQty
      · rw [if_pos hlt]
        simp only []
        rw [if_pos (hlt.trans_le hfilled)]
      · rw [if_neg hlt]
        simp

theorem mergedRemaining_nonneg (current incoming : OrderState) (requested filled : ℚ) :
    0 ≤ mergedRemaining current incoming requested filled := by
  have hmax : 0 ≤ max (requested - filled) 0 := le_max_right _ _
  unfold mergedRemaining
  split <;> split
  · next hc hi => exact le_min (le_min hmax hc) hi
  · next hc hi => exact le_min hmax hc
  · next hc hi => exact le_min hmax hi
  · exact hmax

theorem mergedRemaining_again {filled : ℚ}
    (h : state.remainingQty = mergedRemaining current incoming requested filled) :
    mergedRemaining state incoming requested filled =
      mergedRemaining current incoming requested filled := by
  have hfloor := mergedRemaining_le current incoming requested filled
  have hnonneg := mergedRemaining_nonneg current incoming requested filled
  have hle : 0 ≤ incoming.remainingQty →
      mergedRemaining current incoming requested filled ≤ incoming.remainingQty := by
    intro hi
    unfold mergedRemaining
    simp only [if_pos hi]
    exact min_le_right _ _
  conv_lhs => unfold mergedRemaining
  simp only [h, if_pos hnonneg, min_eq_right hfloor]
  split
  · next hi => exact min_eq_left (hle hi)
  · rfl

/-! ### What a redelivery must leave alone -/

/-- The fields of an order that a redelivered update must leave alone. -/
structure OrderView where
  status : OrderStatus
  filledQty : ℚ
  remainingQty : ℚ
  averageFillPrice : Option ℚ
  fees : ℚ
  submittedTs : Option Timestamp
  lastUpdateTs : Option Timestamp
  lastExchangeUpdateTs : Option Timestamp
  cancellationRequestedTs : Option Timestamp
  canceledTs : Option Timestamp
  exchangeStatusHistory : List String
  executionError : Option String
  deriving DecidableEq

def OrderState.view (state : OrderState) : OrderView where
  status := state.status
  filledQty := state.filledQty
  remainingQty := state.remainingQty
  averageFillPrice := state.averageFillPrice
  fees := state.fees
  submittedTs := state.submittedTs
  lastUpdateTs := state.lastUpdateTs
  lastExchangeUpdateTs := state.lastExchangeUpdateTs
  cancellationRequestedTs := state.cancellationRequestedTs
  canceledTs := state.canceledTs
  exchangeStatusHistory := state.exchangeStatusHistory
  executionError := state.executionError

theorem view_mergeAccepted (current incoming : OrderState) :
    (mergeAccepted current incoming).view =
      { status := normalizedStatus (mergeFields current incoming)
        filledQty := (mergeFields current incoming).clampedFilled
        remainingQty := normalizedRemaining (mergeFields current incoming)
        averageFillPrice := mergedAveragePrice current incoming
        fees := max current.fees incoming.fees
        submittedTs := earliest current.submittedTs incoming.submittedTs
        lastUpdateTs := latest current.lastUpdateTs incoming.lastUpdateTs
        lastExchangeUpdateTs :=
          latest current.lastExchangeUpdateTs incoming.lastExchangeUpdateTs
        cancellationRequestedTs :=
          earliest current.cancellationRequestedTs incoming.cancellationRequestedTs
        canceledTs := normalizedCanceledTs (mergeFields current incoming)
        exchangeStatusHistory := mergedHistory current incoming
        executionError := mergeExecutionError current incoming } := by
  unfold mergeAccepted OrderState.view
  rw [normalize_eq]
  rfl

section Accepted

variable (current incoming : OrderState)

theorem mergeAccepted_status : (mergeAccepted current incoming).status =
    normalizedStatus (mergeFields current incoming) :=
  congrArg OrderView.status (view_mergeAccepted current incoming)

theorem mergeAccepted_exchangeOrderId : (mergeAccepted current incoming).exchangeOrderId =
    strOr incoming.exchangeOrderId current.exchangeOrderId := by
  rw [mergeAccepted, normalize_eq]
  rfl

theorem mergeAccepted_exchangeStatus : (mergeAccepted current incoming).exchangeStatus =
    strOr incoming.exchangeStatus current.exchangeStatus := by
  rw [mergeAccepted, normalize_eq]
  rfl

end Accepted

theorem inRange_mergeAccepted (hpos : 0 < requested) (hi : incoming.requestedQty = requested) :
    InRange requested (mergeAccepted current incoming) :=
  inRange_normalize hpos (mergedRequested_of_eq hpos hi)

structure Stamped (state incoming : OrderState) : Prop where
  last : latest state.lastUpdateTs incoming.lastUpdateTs = state.lastUpdateTs
  exchange : latest state.lastExchangeUpdateTs incoming.lastExchangeUpdateTs =
    state.lastExchangeUpdateTs

theorem stamped_of_view {view : OrderView} (h : state.view = view)
    (hlast : view.lastUpdateTs = latest current.lastUpdateTs incoming.lastUpdateTs)
    (hexchange : view.lastExchangeUpdateTs =
      latest current.lastExchangeUpdateTs incoming.lastExchangeUpdateTs) :
    Stamped state incoming where
  last := by
    rw [show state.lastUpdateTs = _ from congrArg OrderView.lastUpdateTs h, hlast, latest_latest]
  exchange := by
    rw [show state.lastExchangeUpdateTs = _ from congrArg OrderView.lastExchangeUpdateTs h,
      hexchange, latest_latest]

theorem mergedFilled_again (hpos : 0 < requested) (hi : incoming.requestedQty = requested)
    (hstate : state.filledQty = mergedFilled current incoming) :
    mergedFilled state incoming = mergedFilled current incoming := by
  unfold mergedFilled at hstate ⊢
  rw [mergedRequested_of_eq hpos hi, hstate, mergedRequested_of_eq hpos hi]
  rcases le_total (max current.filledQty incoming.filledQty) requested with h | h
  · rw [min_eq_left h, max_assoc, max_self, min_eq_left h]
  · rw [min_eq_right h, min_eq_right (le_max_left _ _)]

theorem clampedFilled_mergeFields (hpos : 0 < requested) (hc : InRange requested current)
    (hi : incoming.requestedQty = requested) :
    (mergeFields current incoming).clampedFilled = mergedFilled current incoming := by
  unfold OrderState.clampedFilled
  rw [mergeFields_filledQty, mergeFields_requestedQty, mergedRequested_of_eq hpos hi]
  unfold mergedFilled
  rw [mergedRequested_of_eq hpos hi]
  have hnonneg : 0 ≤ min (max current.filledQty incoming.filledQty) requested :=
    le_min (hc.filled_nonneg.trans (le_max_left _ _)) hpos.le
  rw [max_eq_left hnonneg, min_eq_left (min_le_right _ _)]

theorem normalizedCanceledTs_again {first second : OrderState} {incoming : Option Timestamp}
    (hcomplete : second.Complete ↔ first.Complete) (hstatus : second.status = first.status)
    (hlast : second.lastUpdateTs = first.lastUpdateTs)
    (hexchange : second.lastExchangeUpdateTs = first.lastExchangeUpdateTs)
    (hfirst : earliest first.canceledTs incoming = first.canceledTs)
    (hsecond : second.canceledTs = earliest (normalizedCanceledTs first) incoming) :
    normalizedCanceledTs second = normalizedCanceledTs first := by
  by_cases h : ¬ first.Complete ∧ first.status = .canceled ∧ first.canceledTs = none
  · -- the first delivery stamped the cancellation itself, with the time of the last update
    have hn : normalizedCanceledTs first =
        first.lastExchangeUpdateTs.or first.lastUpdateTs := if_pos h
    have hin : incoming = none := by
      rw [h.2.2] at hfirst
      exact hfirst
    have hts : second.canceledTs = first.lastExchangeUpdateTs.or first.lastUpdateTs := by
      rw [hsecond, hn, hin]
      cases first.lastExchangeUpdateTs.or first.lastUpdateTs <;> rfl
    rw [hn]
    unfold normalizedCanceledTs
    split
    · rw [hexchange, hlast]
    · exact hts
  · have hn : normalizedCanceledTs first = first.canceledTs := if_neg h
    have hts : second.canceledTs = first.canceledTs := by
      rw [hsecond, hn, hfirst]
    rw [hn]
    unfold normalizedCanceledTs
    rw [if_neg, hts]
    rw [hcomplete, hstatus, hts]
    exact h

theorem normalizedStatus_again {first second : OrderState}
    (hcomplete : second.Complete ↔ first.Complete) (hstatus : second.status = first.status)
    (hclamped : second.clampedFilled = first.clampedFilled) :
    normalizedStatus second = normalizedStatus first := by
  unfold normalizedStatus
  by_cases hc : first.Complete
  · rw [if_pos hc, if_pos (hcomplete.mpr hc)]
  · rw [if_neg hc, if_neg (fun h => hc (hcomplete.mp h)), hstatus, hclamped]

theorem normalizedRemaining_again {first second : OrderState}
    (hcomplete : second.Complete ↔ first.Complete) (hstatus : second.status = first.status)
    (hclamped : second.clampedFilled = first.clampedFilled)
    (hrequested : second.requestedQty = first.requestedQty)
    (hremaining : normalizedRemaining first = first.clampedRemaining →
      second.clampedRemaining = first.clampedRemaining) :
    normalizedRemaining second = normalizedRemaining first := by
  unfold normalizedRemaining at hremaining ⊢
  by_cases hc : first.Complete
  · rw [if_pos hc, if_pos (hcomplete.mpr hc)]
  · rw [if_neg hc] at hremaining ⊢
    rw [if_neg (fun h => hc (hcomplete.mp h)), hstatus, hclamped, hrequested]
    by_cases hp : (first.status = .submitted ∨ first.status = .partiallyFilled) ∧
        epsilon12 < first.clampedFilled
    · rw [if_pos hp, if_pos hp]
    · rw [if_neg hp] at hremaining ⊢
      rw [if_neg hp]
      exact hremaining rfl

theorem clampedRemaining_mergeFields (hpos : 0 < requested) (hc : InRange requested current)
    (hi : incoming.requestedQty = requested) :
    (mergeFields current incoming).clampedRemaining =
      (mergeFields current incoming).remainingQty := by
  have hnonneg : 0 ≤ (mergeFields current incoming).remainingQty :=
    mergedRemaining_nonneg _ _ _ _
  have hle : (mergeFields current incoming).remainingQty ≤
      (mergeFields current incoming).requestedQty := by
    have hfilled : 0 ≤ mergedFilled current incoming := by
      unfold mergedFilled
      rw [mergedRequested_of_eq hpos hi]
      exact le_min (hc.filled_nonneg.trans (le_max_left _ _)) hpos.le
    have hreq : 0 ≤ mergedRequested current incoming := by
      rw [mergedRequested_of_eq hpos hi]
      exact hpos.le
    refine (mergedRemaining_le _ _ _ _).trans (max_le ?_ hreq)
    show mergedRequested current incoming - mergedFilled current incoming ≤ _
    rw [mergeFields_requestedQty]
    linarith
  unfold OrderState.clampedRemaining
  rw [min_eq_left hle, max_eq_left hnonneg]

theorem view_mergeAccepted_twice (hpos : 0 < requested) (hc : InRange requested current)
    (hi : incoming.requestedQty = requested) (hstate : state = mergeAccepted current incoming) :
    (mergeAccepted state incoming).view = state.view := by
  -- the fields that both merges compute from are the same the second time
  obtain ⟨hreq, hfilled, hfees⟩ := mergeAccepted_quantities hpos hc hi
  rw [← hstate] at hreq hfilled hfees
  have hs : InRange requested state := hstate ▸ inRange_mergeAccepted hpos hi
  have hview : state.view = (mergeAccepted current incoming).view := by rw [hstate]
  rw [view_mergeAccepted] at hview
  have hid : state.exchangeOrderId =
      strOr incoming.exchangeOrderId current.exchangeOrderId :=
    hstate ▸ mergeAccepted_exchangeOrderId current incoming
  have hmerged : state.filledQty = mergedFilled current incoming := by
    rw [hfilled, mergedFilled, mergedRequested_of_eq hpos hi]
  have hrequested : (mergeFields state incoming).requestedQty =
      (mergeFields current incoming).requestedQty := by
    rw [mergeFields_requestedQty, mergeFields_requestedQty, mergedRequested_of_eq hpos hi,
      mergedRequested_of_eq hpos hi]
  have hqty : (mergeFields state incoming).filledQty =
      (mergeFields current incoming).filledQty := mergedFilled_again hpos hi hmerged
  have hcomplete := complete_congr hrequested hqty
  have hclamped : (mergeFields state incoming).clampedFilled =
      (mergeFields current incoming).clampedFilled := by
    unfold OrderState.clampedFilled
    rw [hrequested, hqty]
  have hstamped : Stamped state incoming := stamped_of_view hview rfl rfl
  have hlast : latest state.lastUpdateTs incoming.lastUpdateTs =
      latest current.lastUpdateTs incoming.lastUpdateTs :=
    hstamped.last.trans (congrArg OrderView.lastUpdateTs hview)
  have hexchange : latest state.lastExchangeUpdateTs incoming.lastExchangeUpdateTs =
      latest current.lastExchangeUpdateTs incoming.lastExchangeUpdateTs :=
    hstamped.exchange.trans (congrArg OrderView.lastExchangeUpdateTs hview)
  have hcanceledTs : state.canceledTs = normalizedCanceledTs (mergeFields current incoming) :=
    congrArg OrderView.canceledTs hview
  rw [view_mergeAccepted, hview]
  congr 1
  · exact normalizedStatus_again hcomplete rfl hclamped
  · apply normalizedRemaining_again hcomplete rfl hclamped hrequested
    intro hkept
    -- the first delivery left the smallest quantity reported so far
    have hleft : state.remainingQty = (mergeFields current incoming).remainingQty := by
      rw [show state.remainingQty = _ from congrArg OrderView.remainingQty hview, hkept,
        clampedRemaining_mergeFields hpos hc hi]
    rw [clampedRemaining_mergeFields hpos hc hi, clampedRemaining_mergeFields hpos hs hi]
    show mergedRemaining state incoming (mergeFields state incoming).requestedQty
      (mergeFields state incoming).filledQty = _
    rw [hrequested, hqty]
    exact mergedRemaining_again hleft
  · exact mergedAveragePrice_again (congrArg OrderView.averageFillPrice hview)
      (by rw [hfilled]; exact le_min (le_max_left _ _) hc.filled_le)
  · rw [hfees, max_assoc, max_self]
  · rw [show state.submittedTs = _ from congrArg OrderView.submittedTs hview, earliest_earliest]
  · rw [show state.cancellationRequestedTs = _ from
      congrArg OrderView.cancellationRequestedTs hview, earliest_earliest]
  · apply normalizedCanceledTs_again hcomplete rfl hlast hexchange (earliest_earliest _ _)
    show earliest state.canceledTs incoming.canceledTs = _
    rw [hcanceledTs]
  · have hhistory : state.exchangeStatusHistory = mergedHistory current incoming :=
      congrArg OrderView.exchangeStatusHistory hview
    -- the statuses of the update are all known by now
    rw [← hhistory, mergedHistory_eq_self_iff (hhistory ▸ nodup_mergedHistory _ _)]
    intro value hvalue
    rw [hhistory, mem_mergedHistory]
    exact .inr hvalue
  · exact mergeExecutionError_again (congrArg OrderView.executionError hview) hid

/-! ### Refused updates -/

theorem complete_mergeFields_iff (hpos : 0 < requested) (hc : InRange requested current)
    (hi : incoming.requestedQty = requested) :
    (mergeFields current incoming).Complete ↔
      requested - epsilon12 ≤ max current.filledQty incoming.filledQty := by
  unfold OrderState.Complete
  rw [clampedFilled_mergeFields hpos hc hi, mergedFilled, mergeFields_requestedQty,
    mergedRequested_of_eq hpos hi, le_min_iff]
  have hself : requested - epsilon12 ≤ requested := by
    have := epsilon12_pos
    linarith
  simp [hself, hpos]

/-- Taking the quantities of an update into an order that is filled to the brim changes its
history of exchange statuses at most. -/
theorem view_mergeAccepted_quantityUpdate (hpos : 0 < requested)
    (hreq : state.requestedQty = requested) (hfilled : state.filledQty = requested)
    (hstatus : state.status = .filled) (hremaining : state.remainingQty = 0)
    (hfees : incoming.fees ≤ state.fees) (hstamped : Stamped state incoming)
    (hprice : decOr incoming.averageFillPrice state.averageFillPrice = state.averageFillPrice)
    (hnodup : state.exchangeStatusHistory.Nodup) :
    (mergeAccepted state (quantityUpdate state incoming)).view = state.view ↔
      ∀ value, state.exchangeStatus = some value → value ∈ state.exchangeStatusHistory := by
  have hrange : InRange requested state := ⟨hreq, hfilled ▸ hpos.le, hfilled.le⟩
  have hupdate : (quantityUpdate state incoming).requestedQty = requested := hreq
  have hclamped : (mergeFields state (quantityUpdate state incoming)).clampedFilled =
      requested := by
    rw [clampedFilled_mergeFields hpos hrange hupdate, mergedFilled,
      mergedRequested_of_eq hpos hupdate, hfilled]
    exact min_eq_right (le_max_left _ _)
  have hcomplete : (mergeFields state (quantityUpdate state incoming)).Complete := by
    rw [complete_mergeFields_iff hpos hrange hupdate, hfilled]
    have := epsilon12_pos
    have := le_max_left requested (quantityUpdate state incoming).filledQty
    linarith
  -- more is reported than fits, so the price would be taken over, but it is the same one
  have hprices : mergedAveragePrice state (quantityUpdate state incoming) =
      state.averageFillPrice := by
    have hsame : (quantityUpdate state incoming).averageFillPrice = state.averageFillPrice :=
      hprice
    unfold mergedAveragePrice
    rw [hsame]
    cases state.averageFillPrice with
    | none => rfl
    | some price => exact ite_self _
  have hhistory : mergedHistory state (quantityUpdate state incoming) =
        state.exchangeStatusHistory ↔
      ∀ value, state.exchangeStatus = some value → value ∈ state.exchangeStatusHistory := by
    rw [mergedHistory_eq_self_iff hnodup]
    constructor
    · intro h value hvalue
      exact h value (.inr hvalue)
    · rintro h value (hvalue | hvalue)
      · exact hvalue
      · exact h value hvalue
  rw [← hhistory]
  constructor
  · intro h
    rw [view_mergeAccepted] at h
    exact congrArg OrderView.exchangeStatusHistory h
  · intro h
    rw [view_mergeAccepted]
    unfold OrderState.view
    congr 1
    · rw [normalizedStatus_of_complete hcomplete, hstatus]
    · rw [hclamped, hfilled]
    · rw [normalizedRemaining_of_complete hcomplete, hremaining]
    · exact max_eq_left hfees
    · exact earliest_self _
    · show latest _ (latest _ _) = _
      rw [latest_latest_left, hstamped.last]
    · show latest _ (latest _ _) = _
      rw [latest_latest_left, hstamped.exchange]
    · exact earliest_self _
    · rw [normalizedCanceledTs_of_complete hcomplete]
      exact earliest_self _
    · exact mergeExecutionError_same rfl

theorem merge_of_accepted
    (h : (validateTransition (some current.status) incoming.status).accepted = true) :
    merge (some current) incoming = mergeAccepted current incoming :=
  if_pos h

theorem merge_of_refused_more
    (h : (validateTransition (some current.status) incoming.status).accepted = false)
    (hmore : current.filledQty < incoming.filledQty ∨ current.fees < incoming.fees) :
    merge (some current) incoming = mergeAccepted current (quantityUpdate current incoming) := by
  have hmerge : merge (some current) incoming = mergeWithoutRegression current incoming :=
    if_neg (by rw [h]; exact Bool.false_ne_true)
  rw [hmerge, mergeWithoutRegression, if_pos hmore]

theorem merge_of_refused
    (h : (validateTransition (some current.status) incoming.status).accepted = false)
    (hfilled : incoming.filledQty ≤ current.filledQty) (hfees : incoming.fees ≤ current.fees) :
    merge (some current) incoming =
      { current with
        lastUpdateTs := latest current.lastUpdateTs incoming.lastUpdateTs
        lastExchangeUpdateTs := latest current.lastExchangeUpdateTs incoming.lastExchangeUpdateTs
        executionError := strOr incoming.executionError current.executionError } := by
  have hmerge : merge (some current) incoming = mergeWithoutRegression current incoming :=
    if_neg (by rw [h]; exact Bool.false_ne_true)
  have hmore : ¬ (current.filledQty < incoming.filledQty ∨ current.fees < incoming.fees) := by
    rw [not_or, not_lt, not_lt]
    exact ⟨hfilled, hfees⟩
  rw [hmerge, mergeWithoutRegression, if_neg hmore]

theorem view_merge_of_refused
    (h : (validateTransition (some state.status) incoming.status).accepted = false)
    (hfilled : incoming.filledQty ≤ state.filledQty) (hfees : incoming.fees ≤ state.fees)
    (hstamped : Stamped state incoming) :
    (merge (some state) incoming).view = state.view ↔
      strOr incoming.executionError state.executionError = state.executionError := by
  rw [merge_of_refused h hfilled hfees]
  constructor
  · intro hview
    exact congrArg OrderView.executionError hview
  · intro herror
    unfold OrderState.view
    rw [hstamped.last, hstamped.exchange, herror]

theorem strOr_eq_right_iff {left right : Option String} :
    strOr left right = right ↔ left.filter (· ≠ "") = none ∨ left = right := by
  cases left with
  | none => simp [strOr]
  | some text =>
    by_cases ht : text = "" <;> simp [strOr, ht]

theorem strOr_mergeExecutionError (current incoming : OrderState) :
    strOr incoming.executionError (mergeExecutionError current incoming) =
      mergeExecutionError current incoming := by
  rw [strOr_eq_right_iff]
  cases hf : incoming.executionError.filter (· ≠ "") with
  | none => exact .inl rfl
  | some error =>
    refine .inr ?_
    rw [mergeExecutionError_of_some hf]
    exact (Option.filter_eq_some_iff.mp hf).1

/-! ### When a redelivery changes nothing -/

/-- The states that `merge` gives, starting from `None`. -/
inductive Merged : OrderState → Prop
  | first (incoming : OrderState) : Merged (merge none incoming)
  | next {current : OrderState} (h : Merged current) (incoming : OrderState) :
    Merged (merge (some current) incoming)

theorem Merged.inRange (h : Merged state) (hpos : 0 < state.requestedQty) :
    InRange state.requestedQty state := by
  induction h with
  | first incoming =>
    have hreq : (merge none incoming).requestedQty = incoming.requestedQty :=
      requestedQty_normalize incoming
    rw [hreq] at hpos ⊢
    exact inRange_normalize hpos rfl
  | @next current h incoming ih =>
    rcases merge_normalized_or_same current incoming with ⟨state, hs⟩ | ⟨-, hreq, hfill⟩
    · rw [hs] at hpos ⊢
      rw [requestedQty_normalize] at hpos ⊢
      exact inRange_normalize hpos rfl
    · rw [hreq] at hpos ⊢
      obtain ⟨-, hnonneg, hle⟩ := ih hpos
      exact ⟨hreq, hfill ▸ hnonneg, hfill ▸ hle⟩

/-- The update brings nothing but quantities: no earlier timestamp, no exchange status that the
order does not know, and no other error text. -/
structure OnlyQuantities (current incoming : OrderState) : Prop where
  submitted : earliest current.submittedTs incoming.submittedTs = current.submittedTs
  cancellationRequested :
    earliest current.cancellationRequestedTs incoming.cancellationRequestedTs =
      current.cancellationRequestedTs
  canceled : earliest current.canceledTs incoming.canceledTs = current.canceledTs
  exchangeStatuses : ∀ value,
    value ∈ incoming.exchangeStatusHistory ∨ incoming.exchangeStatus = some value →
      value ∈ current.exchangeStatusHistory ∨ current.exchangeStatus = some value
  error : ∀ error, incoming.executionError.filter (· ≠ "") = some error →
    current.executionError = some error
  unknown : incoming.executionError.filter (· ≠ "") = none →
    ∀ error, current.executionError = some error → ¬ settlesUnknown current incoming error

/-- When the second delivery of an update changes nothing.

An accepted update may only fail to do so if it reports more than was requested, without the
status `FILLED`, and the order's exchange status is in no history yet. A refused update with new
quantities must bring nothing else if it reports the order `FILLED` and fills it; else it must
bring no new error text, unless it reports more than was requested. -/
def RedeliveryKept (current incoming : OrderState) : Prop :=
  if (validateTransition (some current.status) incoming.status).accepted then
    current.requestedQty < incoming.filledQty → incoming.status ≠ .filled →
      ∀ value, strOr incoming.exchangeStatus current.exchangeStatus = some value →
        value ∈ current.exchangeStatusHistory ∨ value ∈ incoming.exchangeStatusHistory ∨
          incoming.exchangeStatus = some value
  else if current.filledQty < incoming.filledQty ∨ current.fees < incoming.fees then
    if incoming.status = .filled ∧
        current.requestedQty - epsilon12 ≤ max current.filledQty incoming.filledQty then
      OnlyQuantities current incoming
    else
      current.requestedQty < incoming.filledQty ∨
        incoming.executionError.filter (· ≠ "") = none ∨
        incoming.executionError = current.executionError
  else True

theorem decOr_mergedAveragePrice
    (hprice : ∀ price, incoming.averageFillPrice = some price → 0 < price)
    (hfilled : current.filledQty ≤ incoming.filledQty) :
    decOr incoming.averageFillPrice (mergedAveragePrice current incoming) =
      mergedAveragePrice current incoming := by
  unfold mergedAveragePrice
  cases hp : incoming.averageFillPrice with
  | none => rfl
  | some price =>
    have hne : price ≠ 0 := (hprice price hp).ne'
    cases current.averageFillPrice with
    | none => simp [decOr, hne]
    | some old => simp [decOr, hne, not_lt.mpr hfilled]

theorem mergeAccepted_brim (hpos : 0 < requested) (hc : InRange requested current)
    (hi : incoming.requestedQty = requested) (hmore : requested < incoming.filledQty) :
    (mergeAccepted current incoming).status = .filled ∧
    (mergeAccepted current incoming).filledQty = requested ∧
    (mergeAccepted current incoming).remainingQty = 0 := by
  have hcomplete : (mergeFields current incoming).Complete := by
    rw [complete_mergeFields_iff hpos hc hi]
    have := epsilon12_pos
    have := le_max_right current.filledQty incoming.filledQty
    linarith
  refine ⟨?_, ?_, ?_⟩
  · rw [mergeAccepted_status]
    exact normalizedStatus_of_complete hcomplete
  · rw [(mergeAccepted_quantities hpos hc hi).2.1]
    exact min_eq_right (hmore.le.trans (le_max_right _ _))
  · rw [mergeAccepted, normalize_eq]
    exact normalizedRemaining_of_complete hcomplete

theorem redelivery_accepted (hpos : 0 < requested) (hc : InRange requested current)
    (hi : incoming.requestedQty = requested)
    (hprice : ∀ price, incoming.averageFillPrice = some price → 0 < price)
    (ha : (validateTransition (some current.status) incoming.status).accepted = true) :
    (merge (some (merge (some current) incoming)) incoming).view =
        (merge (some current) incoming).view ↔
      (requested < incoming.filledQty → incoming.status ≠ .filled →
        ∀ value, strOr incoming.exchangeStatus current.exchangeStatus = some value →
          value ∈ mergedHistory current incoming) := by
  obtain ⟨state, hstate⟩ : ∃ state, state = mergeAccepted current incoming := ⟨_, rfl⟩
  rw [merge_of_accepted ha, ← hstate]
  obtain ⟨hreq, hfilled, hfees⟩ := mergeAccepted_quantities hpos hc hi
  have hbrim := mergeAccepted_brim hpos hc hi
  rw [← hstate] at hreq hfilled hfees hbrim
  have hview : state.view = (mergeAccepted current incoming).view := by rw [hstate]
  rw [view_mergeAccepted] at hview
  have hfees' : incoming.fees ≤ state.fees := hfees ▸ le_max_right _ _
  have hstamped : Stamped state incoming := stamped_of_view hview rfl rfl
  by_cases ha2 : (validateTransition (some state.status) incoming.status).accepted = true
  · rw [merge_of_accepted ha2]
    refine iff_of_true (view_mergeAccepted_twice hpos hc hi hstate) ?_
    intro hmore hne
    -- the order would be filled, and then only `FILLED` is accepted
    obtain ⟨hstatus, -, -⟩ := hbrim hmore
    exact absurd (hstatus ▸ eq_of_accepted_of_terminal (by rw [hstatus]; rfl) ha2) hne
  · rw [Bool.not_eq_true] at ha2
    rcases lt_or_ge requested incoming.filledQty with hmore | hmore
    · -- the clamped order still has less than reported, so the quantities are merged in again
      obtain ⟨hstatus, hbrimmed, hremaining⟩ := hbrim hmore
      have hne : incoming.status ≠ .filled := by
        intro hs
        rw [hs, hstatus] at ha2
        cases ha2
      have hcur : current.filledQty ≤ incoming.filledQty := hc.filled_le.trans hmore.le
      have haverage : state.averageFillPrice = mergedAveragePrice current incoming :=
        congrArg OrderView.averageFillPrice hview
      have hhistory : state.exchangeStatusHistory = mergedHistory current incoming :=
        congrArg OrderView.exchangeStatusHistory hview
      have hexstatus : state.exchangeStatus =
          strOr incoming.exchangeStatus current.exchangeStatus :=
        hstate ▸ mergeAccepted_exchangeStatus current incoming
      rw [merge_of_refused_more ha2 (.inl (hbrimmed ▸ hmore)),
        view_mergeAccepted_quantityUpdate hpos hreq hbrimmed hstatus hremaining hfees' hstamped
          (haverage ▸ decOr_mergedAveragePrice hprice hcur)
          (hhistory ▸ nodup_mergedHistory _ _), hexstatus, hhistory]
      exact ⟨fun h _ _ => h, fun h => h hmore hne⟩
    · -- nothing new is reported: timestamps and error text are all that could change
      have hless : incoming.filledQty ≤ state.filledQty := by
        rw [hfilled]
        exact le_min (le_max_right _ _) hmore
      have herror : state.executionError = mergeExecutionError current incoming :=
        congrArg OrderView.executionError hview
      rw [view_merge_of_refused ha2 hless hfees' hstamped, herror]
      refine iff_of_true (strOr_mergeExecutionError _ _) ?_
      intro hlt
      exact absurd hlt (not_lt.mpr hmore)

theorem refused_again (hpos : 0 < requested) (hc : InRange requested current)
    (ha : (validateTransition (some current.status) incoming.status).accepted = false)
    (hnot : ¬ (incoming.status = .filled ∧
      requested - epsilon12 ≤ max current.filledQty incoming.filledQty)) :
    (validateTransition (some (mergeAccepted current (quantityUpdate current incoming)).status)
      incoming.status).accepted = false := by
  have hupdate : (quantityUpdate current incoming).requestedQty = requested := hc.requested_eq
  rw [mergeAccepted_status]
  unfold normalizedStatus
  split
  · next hcomplete =>
    rw [complete_mergeFields_iff hpos hc hupdate] at hcomplete
    rw [← Bool.not_eq_true]
    intro h
    exact hnot ⟨eq_of_accepted_of_terminal rfl h, hcomplete⟩
  · split
    · next hs =>
      -- `PARTIALLY_FILLED` accepts no more than `SUBMITTED`
      revert ha
      rcases hs.1 with h | h <;>
        rw [mergeFields_status, quantityUpdate_status] at h <;> rw [h] <;>
        cases incoming.status <;> decide
    · exact ha

theorem view_quantityUpdate (current incoming : OrderState) :
    (mergeAccepted current (quantityUpdate current incoming)).view =
      { status :=
          normalizedStatus (mergeFields current (quantityUpdate current incoming))
        filledQty := (mergeFields current (quantityUpdate current incoming)).clampedFilled
        remainingQty := normalizedRemaining (mergeFields current (quantityUpdate current incoming))
        averageFillPrice := mergedAveragePrice current (quantityUpdate current incoming)
        fees := max current.fees incoming.fees
        submittedTs := current.submittedTs
        lastUpdateTs := latest current.lastUpdateTs incoming.lastUpdateTs
        lastExchangeUpdateTs :=
          latest current.lastExchangeUpdateTs incoming.lastExchangeUpdateTs
        cancellationRequestedTs := current.cancellationRequestedTs
        canceledTs :=
          normalizedCanceledTs (mergeFields current (quantityUpdate current incoming))
        exchangeStatusHistory := mergedHistory current (quantityUpdate current incoming)
        executionError := current.executionError } := by
  rw [view_mergeAccepted]
  congr 1
  · exact earliest_self _
  · exact latest_latest_left _ _
  · exact latest_latest_left _ _
  · exact earliest_self _
  · exact mergeExecutionError_same rfl

theorem mergeExecutionError_eq_self_iff :
    mergeExecutionError current incoming = current.executionError ↔
      (∀ error, incoming.executionError.filter (· ≠ "") = some error →
        current.executionError = some error) ∧
      (incoming.executionError.filter (· ≠ "") = none →
        ∀ error, current.executionError = some error →
          ¬ settlesUnknown current incoming error) := by
  cases hf : incoming.executionError.filter (· ≠ "") with
  | some error =>
    rw [mergeExecutionError_of_some hf]
    simp [eq_comm]
  | none =>
    cases hc : current.executionError with
    | none => simp [mergeExecutionError_of_none hf hc]
    | some error =>
      by_cases hs : settlesUnknown current incoming error
      · simp [mergeExecutionError_of_settled hf hc hs, hs]
      · simp [mergeExecutionError_of_not_settled hf hc hs, hs]

theorem mergedAveragePrice_of_quantityUpdate
    (hprice : ∀ price, incoming.averageFillPrice = some price → 0 < price)
    (hstate : state.averageFillPrice =
      mergedAveragePrice current (quantityUpdate current incoming))
    (hfilled : current.filledQty ≤ state.filledQty) :
    mergedAveragePrice state incoming = state.averageFillPrice := by
  cases hp : incoming.averageFillPrice with
  | none => simp [mergedAveragePrice, hp]
  | some price =>
    have hupdate : (quantityUpdate current incoming).averageFillPrice = some price := by
      show decOr incoming.averageFillPrice current.averageFillPrice = some price
      simp [decOr, hp, (hprice price hp).ne']
    cases hold : current.averageFillPrice with
    | none =>
      simp only [mergedAveragePrice, hupdate, hold] at hstate
      simp [mergedAveragePrice, hp, hstate]
    | some old =>
      simp only [mergedAveragePrice, hupdate, hold] at hstate
      simp only [mergedAveragePrice, hp, hstate]
      by_cases hlt : incoming.filledQty < current.filledQty
      · simp [quantityUpdate, hlt, hlt.trans_le hfilled]
      · simp [quantityUpdate, hlt]

/-- What an order keeps of itself when it takes the quantities of an update that fill it. -/
structure FilledByQuantities (requested : ℚ) (current incoming state : OrderState) : Prop where
  complete : (mergeFields current (quantityUpdate current incoming)).Complete
  view : state.view = (mergeAccepted current (quantityUpdate current incoming)).view
  inRange : InRange requested state
  filled : state.filledQty = min (max current.filledQty incoming.filledQty) requested
  fees : state.fees = max current.fees incoming.fees
  submitted : state.submittedTs = current.submittedTs
  cancellationRequested : state.cancellationRequestedTs = current.cancellationRequestedTs
  canceled : state.canceledTs = current.canceledTs
  history : state.exchangeStatusHistory = mergedHistory current (quantityUpdate current incoming)
  error : state.executionError = current.executionError
  orderId : state.exchangeOrderId = current.exchangeOrderId

theorem filledByQuantities (hpos : 0 < requested) (hc : InRange requested current)
    (hfull : requested - epsilon12 ≤ max current.filledQty incoming.filledQty)
    (hstate : state = mergeAccepted current (quantityUpdate current incoming)) :
    FilledByQuantities requested current incoming state := by
  have hupdate : (quantityUpdate current incoming).requestedQty = requested := hc.requested_eq
  obtain ⟨-, hfilled, hfees⟩ := mergeAccepted_quantities hpos hc hupdate
  have hcomplete : (mergeFields current (quantityUpdate current incoming)).Complete := by
    rw [complete_mergeFields_iff hpos hc hupdate]
    exact hfull
  rw [← hstate] at hfilled hfees
  have hview : state.view = (mergeAccepted current (quantityUpdate current incoming)).view := by
    rw [hstate]
  have hread := hview
  rw [view_quantityUpdate] at hread
  refine ⟨hcomplete, hview, hstate ▸ inRange_mergeAccepted hpos hupdate, hfilled, hfees,
    congrArg OrderView.submittedTs hread, congrArg OrderView.cancellationRequestedTs hread, ?_,
    congrArg OrderView.exchangeStatusHistory hread, congrArg OrderView.executionError hread, ?_⟩
  · rw [show state.canceledTs = _ from congrArg OrderView.canceledTs hread]
    show normalizedCanceledTs _ = _
    rw [normalizedCanceledTs_of_complete hcomplete]
    exact earliest_self _
  · rw [hstate, mergeAccepted_exchangeOrderId]
    exact strOr_self _

section Filled

variable (h : FilledByQuantities requested current incoming state)

include h

theorem FilledByQuantities.mem_history (value : String) :
    value ∈ state.exchangeStatusHistory ↔
      value ∈ current.exchangeStatusHistory ∨ current.exchangeStatus = some value := by
  rw [h.history, mem_mergedHistory]
  show _ ∨ value ∈ current.exchangeStatusHistory ∨ current.exchangeStatus = some value ↔ _
  tauto

theorem FilledByQuantities.mergedHistory_iff :
    mergedHistory state incoming = state.exchangeStatusHistory ↔ ∀ value,
      value ∈ incoming.exchangeStatusHistory ∨ incoming.exchangeStatus = some value →
        value ∈ current.exchangeStatusHistory ∨ current.exchangeStatus = some value := by
  rw [mergedHistory_eq_self_iff (h.history ▸ nodup_mergedHistory _ _)]
  simp only [h.mem_history]

theorem FilledByQuantities.mergeExecutionError_eq :
    mergeExecutionError state incoming = mergeExecutionError current incoming := by
  unfold mergeExecutionError
  rw [h.error, h.orderId]

theorem FilledByQuantities.complete_again (hi : incoming.requestedQty = requested)
    (hpos : 0 < requested)
    (hfull : requested - epsilon12 ≤ max current.filledQty incoming.filledQty) :
    (mergeFields state incoming).Complete := by
  have := epsilon12_pos
  rw [complete_mergeFields_iff hpos h.inRange hi, h.filled]
  exact (le_min hfull (by linarith)).trans (le_max_left _ _)

theorem FilledByQuantities.onlyQuantities (hcomplete : (mergeFields state incoming).Complete)
    (hsame : (mergeAccepted state incoming).view = state.view) :
    OnlyQuantities current incoming := by
  rw [view_mergeAccepted] at hsame
  have hcanceled := congrArg OrderView.canceledTs hsame
  have hsubmitted := congrArg OrderView.submittedTs hsame
  have hrequested := congrArg OrderView.cancellationRequestedTs hsame
  have hmerged := congrArg OrderView.exchangeStatusHistory hsame
  have herror := congrArg OrderView.executionError hsame
  simp only [normalizedCanceledTs_of_complete hcomplete, OrderState.view] at hcanceled
  simp only [OrderState.view, h.submitted] at hsubmitted
  simp only [OrderState.view, h.cancellationRequested] at hrequested
  simp only [OrderState.view] at hmerged
  simp only [OrderState.view, h.mergeExecutionError_eq, h.error] at herror
  change earliest state.canceledTs incoming.canceledTs = _ at hcanceled
  rw [h.canceled] at hcanceled
  obtain ⟨hnew, hunknown⟩ := mergeExecutionError_eq_self_iff.mp herror
  exact ⟨hsubmitted, hrequested, hcanceled, h.mergedHistory_iff.mp hmerged, hnew, hunknown⟩

/-- If it dropped nothing, the second delivery leaves all fields. -/
theorem FilledByQuantities.view_eq (hpos : 0 < requested) (hc : InRange requested current)
    (hi : incoming.requestedQty = requested)
    (hprice : ∀ price, incoming.averageFillPrice = some price → 0 < price)
    (hcomplete : (mergeFields state incoming).Complete) (honly : OnlyQuantities current incoming) :
    (mergeAccepted state incoming).view = state.view := by
  have hview := h.view
  rw [view_quantityUpdate] at hview
  have hstamped : Stamped state incoming := stamped_of_view hview rfl rfl
  have haverage : mergedAveragePrice state incoming = state.averageFillPrice :=
    mergedAveragePrice_of_quantityUpdate hprice (congrArg OrderView.averageFillPrice hview)
      (by rw [h.filled]; exact le_min (le_max_left _ _) hc.filled_le)
  rw [view_mergeAccepted]
  unfold OrderState.view
  congr 1
  · rw [normalizedStatus_of_complete hcomplete, show state.status = _ from
      congrArg OrderView.status hview]
    exact (normalizedStatus_of_complete h.complete).symm
  · have hmerged : state.filledQty = mergedFilled current incoming := by
      rw [h.filled, mergedFilled, mergedRequested_of_eq hpos hi]
    rw [clampedFilled_mergeFields hpos h.inRange hi, mergedFilled_again hpos hi hmerged, hmerged]
  · rw [normalizedRemaining_of_complete hcomplete, show state.remainingQty = _ from
      congrArg OrderView.remainingQty hview]
    exact (normalizedRemaining_of_complete h.complete).symm
  · rw [h.fees]
    exact max_eq_left (le_max_right _ _)
  · rw [h.submitted]
    exact honly.submitted
  · exact hstamped.last
  · exact hstamped.exchange
  · rw [h.cancellationRequested]
    exact honly.cancellationRequested
  · rw [normalizedCanceledTs_of_complete hcomplete]
    show earliest state.canceledTs incoming.canceledTs = _
    rw [h.canceled]
    exact honly.canceled
  · exact h.mergedHistory_iff.mpr honly.exchangeStatuses
  · rw [h.mergeExecutionError_eq, h.error]
    exact mergeExecutionError_eq_self_iff.mpr ⟨honly.error, honly.unknown⟩

end Filled

/-- **Redelivery of a refused update that fills the order and reports it `FILLED`**: the second
delivery is accepted, and brings what the first one dropped. -/
theorem redelivery_filled (hpos : 0 < requested) (hc : InRange requested current)
    (hi : incoming.requestedQty = requested)
    (hprice : ∀ price, incoming.averageFillPrice = some price → 0 < price)
    (hfull : requested - epsilon12 ≤ max current.filledQty incoming.filledQty)
    (hstate : state = mergeAccepted current (quantityUpdate current incoming)) :
    (mergeAccepted state incoming).view = state.view ↔ OnlyQuantities current incoming := by
  have hfilled := filledByQuantities hpos hc hfull hstate
  have hcomplete := hfilled.complete_again hi hpos hfull
  exact ⟨hfilled.onlyQuantities hcomplete, hfilled.view_eq hpos hc hi hprice hcomplete⟩

theorem redelivery_refused_again (hpos : 0 < requested) (hc : InRange requested current)
    (hprice : ∀ price, incoming.averageFillPrice = some price → 0 < price)
    (hstate : state = mergeAccepted current (quantityUpdate current incoming))
    (ha : (validateTransition (some state.status) incoming.status).accepted = false) :
    (merge (some state) incoming).view = state.view ↔
      requested < incoming.filledQty ∨ incoming.executionError.filter (· ≠ "") = none ∨
        incoming.executionError = current.executionError := by
  have hupdate : (quantityUpdate current incoming).requestedQty = requested := hc.requested_eq
  obtain ⟨hreq, hfilled, hfees⟩ := mergeAccepted_quantities hpos hc hupdate
  have hbrim := mergeAccepted_brim hpos hc hupdate
  rw [← hstate] at hreq hfilled hfees hbrim
  change state.filledQty = min (max current.filledQty incoming.filledQty) requested at hfilled
  change state.fees = max current.fees incoming.fees at hfees
  have hview : state.view = (mergeAccepted current (quantityUpdate current incoming)).view := by
    rw [hstate]
  rw [view_quantityUpdate] at hview
  have hfees' : incoming.fees ≤ state.fees := hfees ▸ le_max_right _ _
  have hstamped : Stamped state incoming := stamped_of_view hview rfl rfl
  rcases lt_or_ge requested incoming.filledQty with hmore | hmore
  · obtain ⟨hstatus, hbrimmed, hremaining⟩ := hbrim hmore
    have hhistory : state.exchangeStatusHistory =
        mergedHistory current (quantityUpdate current incoming) :=
      congrArg OrderView.exchangeStatusHistory hview
    have hexstatus : state.exchangeStatus = current.exchangeStatus := by
      rw [hstate, mergeAccepted_exchangeStatus]
      exact strOr_self _
    have haverage : decOr incoming.averageFillPrice state.averageFillPrice =
        state.averageFillPrice := by
      have htaken : mergedAveragePrice state incoming = state.averageFillPrice :=
        mergedAveragePrice_of_quantityUpdate hprice (congrArg OrderView.averageFillPrice hview)
          (by rw [hbrimmed]; exact hc.filled_le)
      rw [← htaken]
      exact decOr_mergedAveragePrice hprice (hbrimmed ▸ hmore.le)
    rw [merge_of_refused_more ha (.inl (hbrimmed ▸ hmore)),
      view_mergeAccepted_quantityUpdate hpos hreq hbrimmed hstatus hremaining hfees' hstamped
        haverage (hhistory ▸ nodup_mergedHistory _ _)]
    refine iff_of_true ?_ (.inl hmore)
    -- the first delivery has recorded the exchange status
    intro value hvalue
    rw [hhistory, mem_mergedHistory]
    exact .inr (.inr (hexstatus ▸ hvalue))
  · have hless : incoming.filledQty ≤ state.filledQty := by
      rw [hfilled]
      exact le_min (le_max_right _ _) hmore
    have herror : state.executionError = current.executionError :=
      congrArg OrderView.executionError hview
    rw [view_merge_of_refused ha hless hfees' hstamped, herror, strOr_eq_right_iff,
      or_iff_right (not_lt.mpr hmore)]

/-- **When redelivery is a no-op.**  For every order that is a result of merging and every update
with the same requested quantity and no price or a positive one, the second delivery of the
update leaves status, quantities, price, fees, timestamps, exchange statuses and error text alone
exactly if `RedeliveryKept` holds. -/
theorem redelivery_noop_iff (hc : Merged current) (hpos : 0 < current.requestedQty)
    (hi : incoming.requestedQty = current.requestedQty)
    (hprice : ∀ price, incoming.averageFillPrice = some price → 0 < price) :
    (merge (some (merge (some current) incoming)) incoming).view =
        (merge (some current) incoming).view ↔ RedeliveryKept current incoming := by
  have hrange := hc.inRange hpos
  unfold RedeliveryKept
  by_cases ha : (validateTransition (some current.status) incoming.status).accepted = true
  · rw [if_pos ha, redelivery_accepted hpos hrange hi hprice ha]
    simp only [mem_mergedHistory]
  · rw [if_neg ha]
    rw [Bool.not_eq_true] at ha
    by_cases hmore : current.filledQty < incoming.filledQty ∨ current.fees < incoming.fees
    · rw [if_pos hmore, merge_of_refused_more ha hmore]
      split
      · -- the first delivery made the order `FILLED`, and that is what the second one reports
        next hfull =>
        have hstatus : (mergeAccepted current (quantityUpdate current incoming)).status =
            .filled := by
          rw [mergeAccepted_status]
          apply normalizedStatus_of_complete
          have hupdate : (quantityUpdate current incoming).requestedQty = _ := hrange.requested_eq
          exact (complete_mergeFields_iff hpos hrange hupdate).mpr hfull.2
        have ha2 : (validateTransition
            (some (mergeAccepted current (quantityUpdate current incoming)).status)
            incoming.status).accepted = true := by
          rw [hstatus, hfull.1]
          rfl
        rw [merge_of_accepted ha2]
        exact redelivery_filled hpos hrange hi hprice hfull.2 rfl
      · next hnot =>
        exact redelivery_refused_again hpos hrange hprice rfl
          (refused_again hpos hrange ha hnot)
    · rw [if_neg hmore]
      rw [not_or, not_lt, not_lt] at hmore
      refine iff_of_true ?_ trivial
      rw [merge_of_refused ha hmore.1 hmore.2]
      refine (view_merge_of_refused ?_ ?_ ?_ ?_).mpr ?_
      · exact ha
      · exact hmore.1
      · exact hmore.2
      · exact ⟨latest_latest _ _, latest_latest _ _⟩
      · exact strOr_strOr _ _

/-- An order whose cancellation was requested, and a late report of a partial fill that carries
an error text. -/
def cancelPendingOrder : OrderState :=
  merge none { status := .cancelPending, requestedQty := 2, remainingQty := 2 }

def latePartialFill : OrderState :=
  { status := .partiallyFilled, requestedQty := 2, filledQty := 1, remainingQty := 1,
    averageFillPrice := some 100, executionError := some "51400" }

/-- **A redelivery that is not a no-op**: the first delivery takes the filled quantity and drops
the error text, the second one takes the error text. -/
theorem latePartialFill_redelivered :
    ¬ ∀ current incoming : OrderState, Merged current → 0 < current.requestedQty →
      incoming.requestedQty = current.requestedQty →
      (∀ price, incoming.averageFillPrice = some price → 0 < price) →
      (merge (some (merge (some current) incoming)) incoming).view =
        (merge (some current) incoming).view := by
  intro h
  have hview := h cancelPendingOrder latePartialFill (.first _) (by decide +kernel)
    (by decide +kernel) (by rintro price ⟨⟩; norm_num)
  have herror := congrArg OrderView.executionError hview
  revert herror
  decide +kernel

theorem redelivery_noop_latePartialFill :
    (merge (some (merge (some cancelPendingOrder) { latePartialFill with executionError := none }))
        { latePartialFill with executionError := none }).view =
      (merge (some cancelPendingOrder) { latePartialFill with executionError := none }).view := by
  refine (redelivery_noop_iff (.first _) (by decide +kernel) (by decide +kernel)
    (by rintro price ⟨⟩; norm_num)).mpr ?_
  unfold RedeliveryKept
  rw [if_neg (by decide +kernel), if_pos (by decide +kernel), if_neg (by decide +kernel)]
  exact .inr (.inl rfl)

end Aats.Execution
