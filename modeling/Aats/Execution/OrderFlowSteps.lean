import Aats.Execution.OrderFlowInvariant

/-!
# Every step of an order flow keeps the invariant

One lemma for each place where a task can be. The invariant survives every step but five, and
`allowed` says what those five need: a second submission of the order, the storing of a
`CANCELED` that was decided without the exchange, the refusal of a cancel request, and, for the
strict form, a post-only timeout in the queued mode and a cancel whose last look at the order
does not find it closed.
-/

namespace Aats.Execution

open Runs

variable {spec : OrderSpec} {strict : Bool} {flow flow' : Flow spec} {state : OrderState}
  {caller : Caller} {me : ℕ}

/-! ### Steps that do no harm -/

/-- The answer ends a cancel: it is a closed row, and one that the recovery of an unknown cancel
accepts. -/
def DetailAnswer.endsCancel (unknown : Option String) : DetailAnswer → Bool
  | found row _ => row.status.isTerminal && (unknown.isNone || closesUnknownCancel row.status)
  | notFound | error _ => false

/-- The step keeps the invariant. The strict form allows less. -/
def Flow.allowed (strict : Bool) (flow : Flow spec) : Job → Input → Bool
  | .idle, .submit _ => flow.submitter.isNone || !flow.submittable
  | .saving _ .shortcut _, .save => flow.submitter.isNone || (!strict && decide flow.Over)
  | .cancelSending _ _, .cancelRefused _ _ => !strict && decide flow.Over
  | .waiting, .resume _ => !strict || !spec.persistent || flow.doneAtTimeout
  | .cancelDetail _ unknown .postOnlyCancel, .detail answer _ => !strict || answer.endsCancel unknown
  | _, _ => true

/-- What a step of the task `me` leaves. -/
structure Kept (strict : Bool) (me : ℕ) (flow : Flow spec) (result : Flow spec × Job) : Prop where
  inv : FlowInv strict result.1
  job : JobInv strict result.1 me result.2
  forward : Forward (some me) flow result.1

theorem kept_same {job : Job} (hinv : FlowInv strict flow) (hjob : JobInv strict flow me job) :
    Kept strict me flow (flow, job) :=
  ⟨hinv, hjob, .refl _ _⟩

/-! ### Changes of the flow -/

theorem forward_abandonPending (moved : Option ℕ) (flow : Flow spec) (now : Timestamp) :
    Forward moved flow (flow.abandonPending now) :=
  ⟨le_refl _, fun h => ⟨h, rfl⟩, fun h => h, fun _ _ h => ⟨h, fun hp => hp, rfl⟩⟩

theorem flowInv_abandonPending (hinv : FlowInv strict flow) (now : Timestamp) :
    FlowInv strict (flow.abandonPending now) where
  order := hinv.order.forward (forward_abandonPending none flow now)
  known := hinv.known
  started := hinv.started
  sent := hinv.sent
  report := hinv.report
  single := hinv.single
  dispatched := hinv.dispatched
  fallback := hinv.fallback.forward (forward_abandonPending none flow now) rfl rfl

theorem forward_report (moved : Option ℕ) (flow : Flow spec) (closed : Bool) :
    Forward moved flow { flow with closedReport := flow.closedReport || closed } := by
  refine ⟨le_refl _, ?_, fun h => h, fun _ _ h => ⟨h, fun hp => hp, rfl⟩⟩
  rintro (hreport | hover)
  · refine ⟨.inl ?_, rfl⟩
    show (flow.closedReport || closed) = true
    rw [hreport, Bool.true_or]
  · exact ⟨.inr hover, rfl⟩

theorem flowInv_report (hinv : FlowInv strict flow) {closed : Bool}
    (hclosed : closed = true → flow.place = .decided ∧ flow.venue.isLive = false) :
    FlowInv strict { flow with closedReport := flow.closedReport || closed } where
  order := hinv.order.forward (forward_report none flow closed)
  known := hinv.known
  started := hinv.started
  sent := hinv.sent
  report := by
    intro hreport
    rcases Bool.or_eq_true_iff.mp hreport with h | h
    · exact hinv.report h
    · exact hclosed h
  single := hinv.single
  dispatched := hinv.dispatched
  fallback := hinv.fallback.forward (forward_report none flow closed) rfl rfl

theorem flowInv_noteAnswer {answer : DetailAnswer} (hinv : FlowInv strict flow)
    (hcan : flow.CanAnswer answer) : FlowInv strict (flow.noteAnswer answer) := by
  apply flowInv_report hinv
  intro hclosed
  cases answer with
  | notFound => cases hclosed
  | error text => cases hclosed
  | found row fillsError =>
    have hrow : row.Truthful flow.venue := hcan
    refine ⟨hinv.known hrow.1, ?_⟩
    rcases Bool.or_eq_true_iff.mp hclosed with h | h
    · exact (hrow.2.2.2 h).1
    · -- all lots are reported, so all have traded
      apply not_live_of_lots_eq
      have hall : row.accFillSz = spec.size := of_decide_eq_true h
      have hacc := hrow.2.2.1
      rw [hall] at hacc
      exact le_antisymm flow.venue.lots_le hacc

theorem unknown_of_refusable (hinv : FlowInv strict flow) (h : flow.refusable = true) :
    flow.place = .decided ∧ flow.venue = .unknown := by
  obtain ⟨hplace, hvenue | hagain⟩ := of_decide_eq_true h
  · exact ⟨hplace, hvenue⟩
  · rw [hinv.single] at hagain
    cases hagain

theorem flowInv_noteRefusal (hinv : FlowInv strict flow) (h : flow.refusable = true) :
    FlowInv strict flow.noteRefusal := by
  obtain ⟨hplace, hvenue⟩ := unknown_of_refusable hinv h
  apply flowInv_report hinv
  intro _
  refine ⟨hplace, ?_⟩
  rw [hvenue]
  rfl

theorem forward_place (hs : flow.submitter = some me) {place : PlaceRequest}
    (hover : flow.Over → ({ flow with place := place } : Flow spec).Over) :
    Forward (some me) flow { flow with place := place } := by
  refine ⟨le_refl _, fun h => ⟨hover h, rfl⟩, fun h => h, ?_⟩
  intro j hj howner
  rw [hs] at howner
  exact absurd howner hj

theorem flowInv_place (hinv : FlowInv strict flow) (hs : flow.submitter = some me)
    (hp : flow.place = .unsent) {place : PlaceRequest} (hsent : place.isSent = true → 0 < spec.size)
    (hover : flow.Over → ({ flow with place := place } : Flow spec).Over) :
    FlowInv strict { flow with place := place } where
  order := hinv.order.forward (forward_place hs hover)
  known := by
    intro hvenue
    have := hinv.known hvenue
    rw [hp] at this
    cases this
  started := by
    intro _ hnone
    rw [hs] at hnone
    cases hnone
  sent := hsent
  report := by
    intro hreport
    have := (hinv.report hreport).1
    rw [hp] at this
    cases this
  single := hinv.single
  dispatched := hinv.dispatched
  fallback := hinv.fallback.forward (forward_place hs hover) rfl rfl

/-! ### Canceling -/

theorem held_cancelPendingState (h : Held flow state) (now : Timestamp) :
    Held flow (cancelPendingState state now) :=
  h.congr rfl rfl rfl rfl

theorem carried_cancelPendingState (h : Held flow state) (now : Timestamp) :
    Carried strict flow (cancelPendingState state now) :=
  (held_cancelPendingState h now).carried rfl

theorem kept_shortcut (hinv : FlowInv strict flow) (hown : Owned strict flow me caller)
    (hheld : Held flow state) (htakes : flow.takesShortcut state = true) (now : Timestamp) :
    Kept strict me flow
      (flow.abandonPending now, .saving (canceledState state now) .shortcut caller) := by
  have hforward := forward_abandonPending (some me) flow now
  have hpersistent : spec.persistent = true := (Bool.and_eq_true_iff.mp htakes).1
  have hcanceled : Held flow (canceledState state now) := hheld.congr rfl rfl rfl rfl
  refine ⟨flowInv_abandonPending hinv now, ⟨hown.congr rfl rfl, ?_, rfl, hpersistent⟩, hforward⟩
  exact hcanceled.forward hforward

theorem kept_cancelOrder (hinv : FlowInv strict flow) (hown : Owned strict flow me caller)
    (now : Timestamp) : Kept strict me flow (flow.cancelOrder caller now) := by
  unfold Flow.cancelOrder
  split
  · next ht => exact kept_same hinv ⟨hown, hinv.order, final_of_terminal hown hinv.order ht⟩
  · split
    · next htakes => exact kept_shortcut hinv hown hinv.order.toHeld htakes now
    · exact kept_same hinv ⟨hown, carried_cancelPendingState hinv.order.toHeld now⟩

theorem isTerminal_of_cancelReturnsAtOnce {status : OrderStatus}
    (h : cancelReturnsAtOnce status = true) : status.isTerminal = true := by
  revert h
  cases status <;> decide

theorem jobInv_adapterCancel (hown : Owned strict flow me caller)
    (hc : Carried strict flow state) (now : Timestamp) :
    JobInv strict flow me (Flow.adapterCancel state caller now) := by
  unfold Flow.adapterCancel
  split
  · next hend =>
    exact ⟨hown, hc, final_of_terminal hown hc (isTerminal_of_cancelReturnsAtOnce hend)⟩
  · split
    · split
      · next hempty =>
        rw [hc.sized.clientOrderId_eq] at hempty
        exact absurd hempty spec.clientOrderId_ne
      · exact ⟨hown, hc.toHeld⟩
    · exact ⟨hown, held_cancelPendingState hc.toHeld now, rfl⟩

theorem kept_cancelReady (hinv : FlowInv strict flow) (hown : Owned strict flow me caller)
    (hc : Carried strict flow state) (now : Timestamp) :
    Kept strict me flow (flow.cancelReady state caller now) := by
  unfold Flow.cancelReady
  split
  · next htakes => exact kept_shortcut hinv hown hc.toHeld htakes now
  · exact kept_same hinv (jobInv_adapterCancel hown hc now)

theorem kept_executeCancel (hinv : FlowInv strict flow) (hown : Owned strict flow me caller)
    (hc : Carried strict flow state) (now : Timestamp) :
    Kept strict me flow (flow.executeCancel state caller now) := by
  unfold Flow.executeCancel
  split
  · next htakes => exact kept_shortcut hinv hown hc.toHeld htakes now
  · split
    · exact kept_same hinv ⟨hown, carried_cancelPendingState hc.toHeld now⟩
    · exact kept_cancelReady hinv hown hc now

/-! ### Storing -/

theorem kept_store {job : Job} {persisted : OrderState} (hinv : FlowInv strict flow)
    (hforward : Forward (some me) flow { flow with order := persisted })
    (hc : Carried strict { flow with order := persisted } persisted)
    (hjob : JobInv strict { flow with order := persisted } me job) :
    Kept strict me flow ({ flow with order := persisted }, job) where
  inv :=
    { order := hc
      known := hinv.known
      started := hinv.started
      sent := hinv.sent
      report := hinv.report
      single := hinv.single
      dispatched := hinv.dispatched
      fallback := hinv.fallback.forward hforward rfl rfl }
  job := hjob
  forward := hforward

theorem jobInv_afterSave {next : AfterSave} {persisted : OrderState}
    (hforward : Forward (some me) flow { flow with order := persisted })
    (hmerged : persisted = merge (some flow.order) state)
    (hinv : FlowInv strict flow) (hown : Owned strict flow me caller)
    (hsave : SaveInv strict flow me state caller next)
    (hc : Carried strict { flow with order := persisted } persisted) :
    JobInv strict { flow with order := persisted } me
      (Flow.afterSave spec persisted caller next) := by
  have hown' : Owned strict { flow with order := persisted } me caller := hown.congr rfl rfl
  have hdirect : spec.persistent = true →
      Final strict { flow with order := persisted } persisted caller := by
    intro hp hs hcaller
    rw [(hown (by rw [hcaller]; decide)).2.2 hs hcaller] at hp
    cases hp
  cases next with
  | place =>
    obtain ⟨-, hcaller, hbefore⟩ := hsave
    exact ⟨hown', hcaller, hbefore.submitter, hbefore.unsent, hbefore.undispatched⟩
  | enqueue =>
    unfold Flow.afterSave
    simp only []
    split
    · next hp => exact ⟨hown', hc, hdirect hp⟩
    · exact ⟨hown', hc⟩
  | cancel => exact ⟨hown', hc⟩
  | shortcut => exact ⟨hown', hc, hdirect hsave.2.2⟩
  | result =>
    refine ⟨hown', hc, ?_⟩
    intro hs hcaller
    obtain ⟨hover, hfilled⟩ := hsave.2 hs hcaller
    have hall := filled_merge hinv.order.toHeld hsave.1.toHeld (.inr hfilled)
    rw [← hmerged] at hall
    exact ⟨(hforward.isOver hover).1, hall⟩

/-- Storing a state keeps the invariant; the `CANCELED` of the shortcut needs that no submission
has begun, or that the order is over. -/
theorem kept_save {next : AfterSave} (hinv : FlowInv strict flow)
    (hown : Owned strict flow me caller) (hsave : SaveInv strict flow me state caller next)
    (hshortcut : next = .shortcut → flow.submitter = none ∨ (strict = false ∧ flow.Over)) :
    Kept strict me flow (flow.save state next caller) := by
  unfold Flow.save
  split
  · exact kept_same hinv trivial
  · next persisted hok =>
    have hmerged := saveOrderState_eq_ok hok
    -- a merge keeps a terminal status, so an order that is over stays over
    have hforward : Forward (some me) flow { flow with order := persisted } := by
      refine ⟨le_refl _, fun h => ⟨h, rfl⟩, ?_, fun _ _ h => ⟨h, fun hp => hp, rfl⟩⟩
      rintro ⟨hs, ht⟩
      refine ⟨hs, ?_⟩
      show persisted.status.isTerminal = true
      rw [hmerged]
      exact isTerminal_merge_of_terminal state ht
    have hcarried : next ≠ .shortcut → Carried strict flow state := by
      intro hne
      cases next with
      | place => exact hsave.1
      | enqueue => exact hsave
      | cancel => exact hsave
      | shortcut => exact absurd rfl hne
      | result => exact hsave.1
    -- the shortcut stores `CANCELED` over what is known; any other state is carried already
    have hc : Carried strict { flow with order := persisted } persisted := by
      by_cases hnext : next = .shortcut
      · subst hnext
        have hheld : Held flow persisted := by
          rw [hmerged]
          exact held_merge hinv.order.toHeld hsave.1
        have hterminal : persisted.status.isTerminal = true := by
          rw [hmerged]
          exact isTerminal_merge_of_canceled _ hsave.2.1
        refine ⟨hheld.forward hforward, ?_⟩
        intro _
        rcases hshortcut rfl with hnone | ⟨hstrict, hover⟩
        · exact .inr ⟨hnone, hterminal⟩
        · refine .inl ⟨(hforward.isOver hover).1, ?_, ?_⟩
          · intro h
            rw [hstrict] at h
            cases h
          · intro h
            rw [hstrict] at h
            cases h
      · have := carried_merge hinv.order (hcarried hnext)
        rw [← hmerged] at this
        exact this.forward hforward
    exact kept_store hinv hforward hc (jobInv_afterSave hforward hmerged hinv hown hsave hc)

/-! ### Returning -/

theorem kept_dispatch {quantity : ℚ} (hinv : FlowInv strict flow)
    (hs : flow.submitter = some me) (hnone : flow.fallbackQuantity = none) (hpos : 0 ≤ quantity)
    (hroom : strict = true →
      flow.Over ∧ flow.venue.lots * spec.lot + quantity ≤ spec.quantity) :
    Kept strict me flow (flow.dispatchFallback quantity, .idle) := by
  have hforward : Forward (some me) flow (flow.dispatchFallback quantity) := by
    refine ⟨le_refl _, fun h => ⟨h, rfl⟩, fun h => h, ?_⟩
    intro j hj howner
    rw [hs] at howner
    exact absurd howner hj
  have hzero : flow.fallbackFilled = 0 := by
    have := hinv.fallback
    unfold FallbackInv at this
    rw [hnone] at this
    exact this
  have htotal : (flow.dispatchFallback quantity).fallbackQuantity = some quantity := by
    show some (flow.fallbackQuantity.getD 0 + quantity) = some quantity
    rw [hnone, Option.getD_none, zero_add]
  refine ⟨⟨hinv.order.forward hforward, hinv.known, hinv.started, hinv.sent, hinv.report,
    hinv.single, ?_, ?_⟩, trivial, hforward⟩
  · intro _ h
    have howner : flow.submitter = none := h
    rw [hs] at howner
    cases howner
  unfold FallbackInv
  rw [htotal]
  refine ⟨?_, hroom⟩
  show flow.fallbackFilled ≤ quantity
  rw [hzero]
  exact hpos

theorem remaining_nonneg (h : Held flow state) : 0 ≤ state.remainingQty := by
  have hle := h.sized.filled_le_size flow.venue.lots_le
  have := h.sized.le_remaining
  linarith

theorem lots_eq_zero_of_refused (hheld : Held flow state) (hs : strict = true)
    (hj : Justified strict flow state) (hstatus : state.status = .rejected ∨ state.status = .failed)
    (hzero : state.remainingQty = 0) : flow.venue.lots = 0 := by
  have hfilled := hj.filled hs
  have hle : (spec.size : ℚ) * spec.lot ≤ flow.venue.lots * spec.lot := by
    have := hheld.sized.le_remaining
    rw [hzero, hfilled] at this
    linarith
  have hall : spec.size ≤ flow.venue.lots := by
    exact_mod_cast le_of_mul_le_mul_right hle spec.lot_pos
  cases hvenue : flow.venue with
  | unknown => rfl
  | filled => exact absurd hvenue (hj.refused hs hstatus)
  | live k =>
    have := k.isLt
    rw [hvenue, VenueOrder.lots] at hall
    omega
  | canceled k =>
    have := k.isLt
    rw [hvenue, VenueOrder.lots] at hall
    omega

theorem kept_afterReturn (hinv : FlowInv strict flow) (hown : Owned strict flow me caller)
    (hc : Carried strict flow state) (hfinal : Final strict flow state caller) :
    Kept strict me flow (flow.afterReturn state caller) := by
  have hnonneg := remaining_nonneg hc.toHeld
  -- only a post-only order dispatches another one, of no more than what remains
  cases caller with
  | plain => exact kept_same hinv trivial
  | postOnlySubmit =>
    obtain ⟨hs, hnone, -⟩ := hown (by decide)
    unfold Flow.afterReturn
    simp only []
    split
    · next ht =>
      split
      · next hstatus =>
        have hj : Justified strict flow state := by
          rcases hc.terminal ht with hj | he
          · exact hj
          · rw [he.1] at hs
            cases hs
        have hpos : 0 ≤ if state.remainingQty = 0 then spec.quantity else state.remainingQty := by
          split
          · exact spec.quantity_pos.le
          · exact hnonneg
        apply kept_dispatch hinv hs hnone hpos
        intro hstrict
        refine ⟨hj.isOver, ?_⟩
        split
        · next hzero =>
          rw [lots_eq_zero_of_refused hc.toHeld hstrict hj hstatus hzero]
          simp
        · have hle := hc.sized.remaining_le
          rw [hj.filled hstrict] at hle
          linarith
      · exact kept_same hinv trivial
    · exact kept_same hinv hown
  | postOnlyCancel =>
    obtain ⟨hs, hnone, -⟩ := hown (by decide)
    unfold Flow.afterReturn
    simp only []
    split
    · exact kept_same hinv trivial
    · rw [max_eq_left hnonneg]
      apply kept_dispatch hinv hs hnone hnonneg
      intro hstrict
      obtain ⟨hover, hfilled⟩ := hfinal hstrict rfl
      refine ⟨hover, ?_⟩
      have hle := hc.sized.remaining_le
      rw [hfilled] at hle
      linarith

theorem kept_afterTimeout (hinv : FlowInv strict flow)
    (hown : Owned strict flow me .postOnlySubmit)
    (hallowed : strict = true → spec.persistent = true → flow.doneAtTimeout = true)
    (now : Timestamp) : Kept strict me flow (flow.afterTimeout now) := by
  obtain ⟨hs, hnone, -⟩ := hown (by decide)
  unfold Flow.afterTimeout
  split
  · exact kept_same hinv trivial
  · next hdone =>
    apply kept_cancelOrder hinv
    intro _
    refine ⟨hs, hnone, ?_⟩
    intro hstrict _
    by_contra hp
    rw [Bool.not_eq_false] at hp
    exact hdone (hallowed hstrict hp)

/-! ### Answers about the order -/

theorem carried_recoverable (h : Carried strict flow state) (error : String) (now : Timestamp) :
    Carried strict flow (recoverableOrderState state error now) :=
  h.congr rfl rfl rfl rfl rfl

theorem carried_withFillsError (h : Carried strict flow state) (fillsError : Option String)
    (now : Timestamp) : Carried strict flow (withFillsError state fillsError now) := by
  cases fillsError with
  | none => exact h
  | some error => exact carried_recoverable h error now

theorem carried_submitResult {answer : DetailAnswer} {accepted : OrderState}
    (hinv : FlowInv strict flow) (hcan : flow.CanAnswer answer)
    (hc : Carried strict flow accepted) (unknown : Option String) (submittedTs now : Timestamp) :
    Carried strict (flow.noteAnswer answer)
      (submitResult spec accepted unknown submittedTs now answer) := by
  have haccepted := hc.forward (forward_report none flow (answer.reportsClosed spec.size))
  cases answer with
  | found row fillsError =>
    have hmapped : Carried strict (flow.noteAnswer (.found row fillsError))
        (mapOrderState spec spec.payload row submittedTs now) :=
      carried_mapOrderState hinv hcan _ _ _
    cases unknown with
    | none => exact carried_withFillsError hmapped fillsError now
    | some label => exact hmapped
  | notFound =>
    cases unknown with
    | none => exact haccepted
    | some label => exact carried_recoverable haccepted label now
  | error text =>
    cases unknown with
    | none => exact carried_recoverable haccepted text now
    | some label => exact carried_recoverable haccepted label now

theorem carried_cancelResult {answer : DetailAnswer} {cancelPending : OrderState}
    (hinv : FlowInv strict flow) (hcan : flow.CanAnswer answer)
    (hheld : Held flow cancelPending) (hstatus : cancelPending.status = .cancelPending)
    (unknown : Option String) (now : Timestamp) :
    Carried strict (flow.noteAnswer answer)
      (cancelResult spec cancelPending unknown now answer) := by
  have hpending : Carried strict (flow.noteAnswer answer) cancelPending := by
    apply (hheld.forward (forward_report none flow (answer.reportsClosed spec.size))).carried
    rw [hstatus]
    rfl
  cases answer with
  | found row fillsError =>
    have hmapped : Carried strict (flow.noteAnswer (.found row fillsError))
        (mapOrderState spec cancelPending.submissionPayload row
          (cancelPending.submittedTs.getD now) now) :=
      carried_mapOrderState hinv hcan _ _ _
    cases unknown with
    | none =>
      have hrow : Carried strict (flow.noteAnswer (.found row fillsError))
          (canceledRowState spec cancelPending row now) := hmapped.congr rfl rfl rfl rfl rfl
      exact carried_withFillsError hrow fillsError now
    | some label =>
      unfold cancelResult
      simp only []
      split
      · exact hmapped.congr rfl rfl rfl rfl rfl
      · exact carried_recoverable hpending label now
  | notFound =>
    cases unknown with
    | none => exact hpending
    | some label => exact carried_recoverable hpending label now
  | error text =>
    cases unknown with
    | none => exact carried_recoverable hpending text now
    | some label => exact carried_recoverable hpending label now

theorem isTerminal_cancelResult {answer : DetailAnswer} {unknown : Option String}
    (h : answer.endsCancel unknown = true) (cancelPending : OrderState) (now : Timestamp) :
    (cancelResult spec cancelPending unknown now answer).status.isTerminal = true := by
  cases answer with
  | notFound => cases h
  | error text => cases h
  | found row fillsError =>
    obtain ⟨ht, hcloses⟩ := Bool.and_eq_true_iff.mp h
    cases unknown with
    | none =>
      cases fillsError with
      | none => exact ht
      | some error => exact ht
    | some label =>
      have hclosed : closesUnknownCancel row.status = true := by simpa using hcloses
      unfold cancelResult
      simp only []
      rw [if_pos hclosed]
      exact ht

theorem carried_syncResult {answer : DetailAnswer} (hinv : FlowInv strict flow)
    (hcan : flow.CanAnswer answer) (hc : Carried strict flow state) (now : Timestamp) :
    Carried strict (flow.noteAnswer answer) (syncResult spec state now answer) := by
  have hstate := hc.forward (forward_report none flow (answer.reportsClosed spec.size))
  cases answer with
  | found row fillsError =>
    exact carried_withFillsError (carried_mapOrderState hinv hcan _ _ _) fillsError now
  | notFound => exact hstate
  | error text => exact carried_recoverable hstate text now

theorem jobInv_afterLookup {answer : DetailAnswer} (hinv : FlowInv strict flow)
    (hcan : flow.CanAnswer answer) (hown : Owned strict flow me caller) (hheld : Held flow state)
    (now : Timestamp) :
    JobInv strict (flow.noteAnswer answer) me (Flow.afterLookup spec state caller now answer) := by
  have hown' : Owned strict (flow.noteAnswer answer) me caller := hown.congr rfl rfl
  have hheld' := hheld.forward (forward_report none flow (answer.reportsClosed spec.size))
  cases answer with
  | notFound => exact ⟨hown', held_cancelPendingState hheld' now, rfl⟩
  | error text => exact ⟨hown', held_cancelPendingState hheld' now, rfl⟩
  | found row fillsError =>
    have hmapped : Carried strict (flow.noteAnswer (.found row fillsError))
        (mapOrderState spec state.submissionPayload row (state.submittedTs.getD now) now) :=
      carried_mapOrderState hinv hcan _ _ _
    unfold Flow.afterLookup
    simp only []
    split
    · next hend =>
      have ht := isTerminal_of_cancelReturnsAtOnce hend
      exact ⟨hown', hmapped, final_of_terminal hown' hmapped ht⟩
    · exact ⟨hown', held_cancelPendingState hmapped.toHeld now, rfl⟩

theorem kept_detail {answer : DetailAnswer} {job job' : Job} {now : Timestamp}
    (hinv : FlowInv strict flow) (hjob : JobInv strict flow me job)
    (hcan : flow.CanAnswer answer)
    (hallowed : flow.allowed strict job (.detail answer now) = true)
    (h : Flow.afterDetail spec answer now job = some job') :
    Kept strict me flow (flow.noteAnswer answer, job') := by
  refine ⟨flowInv_noteAnswer hinv hcan, ?_, forward_report _ _ _⟩
  cases job with
  | submitDetail accepted unknown submittedTs caller =>
    obtain ⟨hown, hcaller, hc⟩ := hjob
    injection h with h
    subst h
    exact ⟨hown.congr rfl rfl, carried_submitResult hinv hcan hc unknown submittedTs now,
      fun _ h => absurd h hcaller⟩
  | cancelLookup state caller =>
    obtain ⟨hown, hheld⟩ := hjob
    injection h with h
    subst h
    exact jobInv_afterLookup hinv hcan hown hheld now
  | cancelDetail cancelPending unknown caller =>
    obtain ⟨hown, hheld, hstatus⟩ := hjob
    injection h with h
    subst h
    have hown' : Owned strict (flow.noteAnswer answer) me caller := hown.congr rfl rfl
    have hresult := carried_cancelResult hinv hcan hheld hstatus unknown now
    refine ⟨hown', hresult, ?_⟩
    intro hs hcaller
    subst hcaller
    -- the strict form has a closed row here
    have hends : answer.endsCancel unknown = true := by
      simpa [Flow.allowed, hs] using hallowed
    exact final_of_terminal hown' hresult (isTerminal_cancelResult hends cancelPending now) hs rfl
  | syncDetail state =>
    injection h with h
    subst h
    exact ⟨owned_plain, carried_syncResult hinv hcan hjob now, fun _ h => by cases h⟩
  | idle => cases h
  | saving state next caller => cases h
  | returned state caller => cases h
  | admitting caller => cases h
  | placing submittedTs caller => cases h
  | waiting => cases h
  | canceling state caller => cases h
  | cancelReady state caller => cases h
  | cancelSending cancelPending caller => cases h

/-! ### Submitting -/

theorem carried_unfilled (hsized : ∀ bound, Sized spec bound state) (hfill : state.filledQty = 0)
    (hover : flow.Over) (hvenue : flow.venue = .unknown) : Carried strict flow state := by
  refine ⟨held_of_unfilled (hsized _) hfill, ?_⟩
  intro _
  refine .inl ⟨hover, ?_, ?_⟩
  · intro _
    rw [hfill, hvenue]
    simp [VenueOrder.lots]
  · intro _ _
    rw [hvenue]
    exact fun h => by cases h

theorem carried_submittedState (submittedTs : Timestamp) (orderId : Option String) :
    Carried strict flow (submittedState spec submittedTs orderId) :=
  (held_of_unfilled (sized_of_unfilled _ rfl rfl rfl rfl) rfl).carried rfl

theorem kept_withhold (hinv : FlowInv strict flow) (hown : Owned strict flow me caller)
    (hcaller : caller ≠ .postOnlyCancel) (hs : flow.submitter = some me)
    (hp : flow.place = .unsent) (hsized : ∀ bound, Sized spec bound state)
    (hfill : state.filledQty = 0) :
    Kept strict me flow (flow.withhold, .saving state .result caller) := by
  have hwithheld : flow.withhold = { flow with place := .withheld } := by
    unfold Flow.withhold
    rw [if_pos hp]
  have hvenue : flow.venue = .unknown := by
    by_contra hvenue
    have := hinv.known hvenue
    rw [hp] at this
    cases this
  have hover : ({ flow with place := .withheld } : Flow spec).Over := .inr (.inl rfl)
  rw [hwithheld]
  refine ⟨flowInv_place hinv hs hp (fun h => by cases h) (fun _ => hover), ?_,
    forward_place hs (fun _ => hover)⟩
  exact ⟨hown.congr rfl rfl, carried_unfilled hsized hfill hover hvenue,
    fun _ h => absurd h hcaller⟩

theorem sized_blockedState (bound : ℕ) (reason : String) (now : Timestamp) :
    Sized spec bound (blockedState spec reason now) ∧ (blockedState spec reason now).filledQty = 0 := by
  unfold blockedState
  split
  · exact ⟨sized_unfilledState bound _ _ _ _ _, rfl⟩
  · exact ⟨sized_unfilledState bound _ _ _ _ _, rfl⟩

theorem kept_gate {input : Input} {result : Flow spec × Job} (hinv : FlowInv strict flow)
    (hown : Owned strict flow me caller) (hcaller : caller ≠ .postOnlyCancel)
    (hbefore : BeforePlace flow me)
    (h : flow.gate caller input = some result) : Kept strict me flow result := by
  obtain ⟨hs, hp, -⟩ := hbefore
  unfold Flow.gate at h
  split at h
  · next reason now =>
    injection h with h
    subst h
    exact kept_withhold hinv hown hcaller hs hp (fun b => (sized_blockedState b reason now).1)
      (sized_blockedState 0 reason now).2
  · next error now =>
    injection h with h
    subst h
    exact kept_withhold hinv hown hcaller hs hp
      (fun b => sized_of_unfilled b rfl rfl rfl rfl) rfl
  · next now =>
    split at h
    · next hsize =>
      injection h with h
      subst h
      -- an unsent request of a whole lot or more is not over
      have hover : flow.Over → ({ flow with place := .inFlight } : Flow spec).Over := by
        rintro (hreport | hwithheld | hzero)
        · exact .inl hreport
        · rw [hp] at hwithheld
          cases hwithheld
        · exact .inr (.inr hzero)
      exact ⟨flowInv_place hinv hs hp (fun _ => hsize) hover, ⟨hown.congr rfl rfl, hcaller⟩,
        forward_place hs hover⟩
    · cases h
  · cases h

theorem kept_refused (hinv : FlowInv strict flow) (hown : Owned strict flow me caller)
    (hcaller : caller ≠ .postOnlyCancel) (hrefusable : flow.refusable = true)
    (hsized : ∀ bound, Sized spec bound state) (hfill : state.filledQty = 0) :
    Kept strict me flow (flow.noteRefusal, .saving state .result caller) := by
  obtain ⟨-, hvenue⟩ := unknown_of_refusable hinv hrefusable
  have hover : flow.noteRefusal.Over := by
    refine .inl ?_
    show (flow.closedReport || decide (flow.venue = .unknown)) = true
    rw [decide_eq_true hvenue, Bool.or_true]
  exact ⟨flowInv_noteRefusal hinv hrefusable, ⟨hown.congr rfl rfl,
    carried_unfilled hsized hfill hover hvenue, fun _ h => absurd h hcaller⟩,
    forward_report _ _ _⟩

theorem kept_placeReply {input : Input} {submittedTs : Timestamp} {result : Flow spec × Job}
    (hinv : FlowInv strict flow) (hown : Owned strict flow me caller)
    (hcaller : caller ≠ .postOnlyCancel)
    (h : flow.placeReply submittedTs caller input = some result) : Kept strict me flow result := by
  unfold Flow.placeReply at h
  split at h
  · next orderId =>
    split at h
    · injection h with h
      subst h
      exact kept_same hinv ⟨hown, hcaller, carried_submittedState submittedTs orderId⟩
    · cases h
  · next error =>
    split at h
    · next hrefusable =>
      injection h with h
      subst h
      exact kept_refused hinv hown hcaller hrefusable
        (fun b => sized_unfilledState b _ _ _ _ _) rfl
    · cases h
  · next error =>
    split at h
    · next hrefusable =>
      injection h with h
      subst h
      exact kept_refused hinv hown hcaller hrefusable
        (fun b => sized_unfilledState b _ _ _ _ _) rfl
    · cases h
  · next exc =>
    injection h with h
    subst h
    exact kept_same hinv ⟨hown, hcaller, carried_submittedState submittedTs none⟩
  · cases h

theorem kept_submit (hinv : FlowInv strict flow)
    (hallowed : flow.submitter = none ∨ flow.submittable = false) (now : Timestamp) :
    Kept strict me flow (flow.submit me now) := by
  unfold Flow.submit
  split
  · next hsubmittable =>
    -- nothing of the order has been sent yet, so nothing of it has traded
    have hnone : flow.submitter = none := by
      rcases hallowed with h | h
      · exact h
      · rw [hsubmittable] at h
        cases h
    have hp : flow.place = .unsent := by
      by_contra hp
      exact hinv.started hp hnone
    have hvenue : flow.venue = .unknown := by
      by_contra hvenue
      have := hinv.known hvenue
      rw [hp] at this
      cases this
    have hopen : flow.order.status.isTerminal = false := by
      rcases of_decide_eq_true hsubmittable with h | h
      · rw [h]
        rfl
      · rw [h]
        rfl
    have hforward : Forward (some me) flow (flow.beginSubmit me) := by
      refine ⟨le_refl _, fun h => ⟨h, rfl⟩, ?_, ?_⟩
      · rintro ⟨-, ht⟩
        rw [hopen] at ht
        cases ht
      · intro j _ howner
        rw [hnone] at howner
        cases howner
    have hfill : flow.order.filledQty = 0 := by
      apply le_antisymm _ hinv.order.sized.filled_nonneg
      have := hinv.order.sized.filled_le
      rw [hvenue] at this
      simpa [VenueOrder.lots] using this
    have hsubmitting : Held flow (submittingState spec flow.order now) :=
      held_of_unfilled (sized_of_unfilled _ rfl rfl hfill rfl) hfill
    have hfallback : flow.fallbackQuantity = none := by
      by_contra h
      exact hinv.dispatched h hnone
    refine ⟨⟨hinv.order.forward hforward, hinv.known, ?_, hinv.sent, hinv.report, ?_, ?_,
      hinv.fallback.forward hforward rfl rfl⟩, ⟨?_, ?_, ?_, rfl, hp, hfallback⟩, hforward⟩
    · intro _ h
      cases h
    · show (flow.resubmitted || flow.submitter.isSome) = false
      rw [hinv.single, hnone]
      rfl
    · intro _ h
      cases h
    · intro _
      refine ⟨rfl, hfallback, ?_⟩
      intro _ h
      split at h <;> cases h
    · exact (hsubmitting.forward hforward).carried rfl
    · split
      · decide
      · decide
  · exact kept_same hinv ⟨owned_plain, hinv.order, fun _ h => by cases h⟩

/-! ### One step -/

theorem kept_call {input : Input} {result : Flow spec × Job} (hinv : FlowInv strict flow)
    (hallowed : flow.allowed strict .idle input = true) (h : flow.call me input = some result) :
    Kept strict me flow result := by
  unfold Flow.call at h
  split at h
  · next now =>
    injection h with h
    subst h
    apply kept_submit hinv
    rcases Bool.or_eq_true_iff.mp hallowed with h | h
    · exact .inl (Option.isNone_iff_eq_none.mp h)
    · exact .inr (by simpa using h)
  · next now =>
    injection h with h
    subst h
    exact kept_cancelOrder hinv owned_plain now
  · split at h
    · injection h with h
      subst h
      exact kept_same hinv ⟨owned_plain, hinv.order, fun _ h => by cases h⟩
    · injection h with h
      subst h
      exact kept_same hinv ⟨owned_plain, hinv.order⟩
  · split at h
    · injection h with h
      subst h
      exact kept_same hinv hinv.order
    · cases h
  · cases h

theorem kept_resume {job : Job} {now : Timestamp} {result : Flow spec × Job}
    (hinv : FlowInv strict flow) (hjob : JobInv strict flow me job)
    (hallowed : flow.allowed strict job (.resume now) = true)
    (h : flow.resume now job = some result) : Kept strict me flow result := by
  unfold Flow.resume at h
  split at h
  · injection h with h
    subst h
    exact kept_afterReturn hinv hjob.1 hjob.2.1 hjob.2.2
  · injection h with h
    subst h
    apply kept_afterTimeout hinv hjob
    intro hs hp
    simpa [Flow.allowed, hs, hp] using hallowed
  · injection h with h
    subst h
    exact kept_executeCancel hinv hjob.1 hjob.2 now
  · injection h with h
    subst h
    exact kept_cancelReady hinv hjob.1 hjob.2 now
  · cases h

/-- A refused cancel request makes the order `FAILED`, which an order that is over justifies. -/
theorem jobInv_cancelReply {input : Input} {cancelPending : OrderState} {job' : Job}
    (hown : Owned strict flow me caller) (hheld : Held flow cancelPending)
    (hstatus : cancelPending.status = .cancelPending)
    (hallowed : flow.allowed strict (.cancelSending cancelPending caller) input = true)
    (h : Flow.cancelReply cancelPending caller input = some job') : JobInv strict flow me job' := by
  unfold Flow.cancelReply at h
  split at h
  · injection h with h
    subst h
    exact ⟨hown, hheld, hstatus⟩
  · next error now =>
    injection h with h
    subst h
    obtain ⟨hstrict, hover⟩ := Bool.and_eq_true_iff.mp hallowed
    have hfalse : strict = false := by simpa using hstrict
    have hfailed : Held flow (cancelFailedState cancelPending error now) :=
      hheld.congr rfl rfl rfl rfl
    refine ⟨hown, ⟨hfailed, ?_⟩, ?_⟩
    · intro _
      refine .inl ⟨of_decide_eq_true hover, ?_, ?_⟩
      · intro h
        rw [hfalse] at h
        cases h
      · intro h
        rw [hfalse] at h
        cases h
    · intro h
      rw [hfalse] at h
      cases h
  · injection h with h
    subst h
    exact ⟨hown, hheld, hstatus⟩
  · cases h

theorem forward_world (hinv : FlowInv strict flow) (h : WorldEffect flow flow') :
    Forward none flow flow' := by
  have hsame := over_of_worldEffect hinv h
  cases h with
  | taken hflight hunknown hsize =>
    refine ⟨?_, hsame, fun h => h, ?_⟩
    · rw [hunknown]
      exact Nat.zero_le _
    · intro j _ howner
      refine ⟨howner, ?_, rfl⟩
      intro hp
      rw [hp] at hflight
      cases hflight
  | dropped hflight =>
    refine ⟨le_refl _, hsame, fun h => h, ?_⟩
    intro j _ howner
    refine ⟨howner, ?_, rfl⟩
    intro hp
    rw [hp] at hflight
    cases hflight
  | traded hlive hle hknown =>
    exact ⟨hle, hsame, fun h => h, fun _ _ howner => ⟨howner, fun hp => hp, rfl⟩⟩
  | command row =>
    exact ⟨le_refl _, hsame, fun h => h, fun _ _ howner => ⟨howner, fun hp => hp, rfl⟩⟩
  | fallback hquantity hpos hle =>
    exact ⟨le_refl _, hsame, fun h => h, fun _ _ howner => ⟨howner, fun hp => hp, rfl⟩⟩

theorem flowInv_world (hinv : FlowInv strict flow) (h : WorldEffect flow flow') :
    FlowInv strict flow' := by
  have hforward := forward_world hinv h
  -- a request in flight was sent by the submitter, and no report has closed it
  have hdecided : flow.place = .inFlight → flow.closedReport ≠ true := by
    intro hflight hreport
    have := (hinv.report hreport).1
    rw [hflight] at this
    cases this
  have hstarted : flow.place = .inFlight → flow.submitter ≠ none := by
    intro hflight
    apply hinv.started
    rw [hflight]
    decide
  have hsent : flow.place = .inFlight → 0 < spec.size := by
    intro hflight
    apply hinv.sent
    rw [hflight]
    rfl
  cases h with
  | taken hflight hunknown hsize =>
    exact ⟨hinv.order.forward hforward, fun _ => rfl, fun _ => hstarted hflight,
      fun _ => hsize, fun hreport => absurd hreport (hdecided hflight), hinv.single,
      hinv.dispatched, hinv.fallback.forward hforward rfl rfl⟩
  | dropped hflight =>
    exact ⟨hinv.order.forward hforward, fun _ => rfl, fun _ => hstarted hflight,
      fun _ => hsent hflight, fun hreport => absurd hreport (hdecided hflight), hinv.single,
      hinv.dispatched, hinv.fallback.forward hforward rfl rfl⟩
  | traded hlive hle hknown =>
    -- only an order that the exchange knows can trade
    have hplace : flow.place = .decided := by
      apply hinv.known
      intro hunknown
      rw [hunknown] at hlive
      cases hlive
    refine ⟨hinv.order.forward hforward, fun _ => hplace, hinv.started, hinv.sent, ?_,
      hinv.single, hinv.dispatched, hinv.fallback.forward hforward rfl rfl⟩
    intro hreport
    have := (hinv.report hreport).2
    rw [hlive] at this
    cases this
  | command row =>
    exact ⟨hinv.order.forward hforward, hinv.known, hinv.started, hinv.sent, hinv.report,
      hinv.single, hinv.dispatched, hinv.fallback.forward hforward rfl rfl⟩
  | @fallback total quantity hquantity hpos hle =>
    refine ⟨hinv.order.forward hforward, hinv.known, hinv.started, hinv.sent, hinv.report,
      hinv.single, hinv.dispatched, ?_⟩
    have hfallback := hinv.fallback
    unfold FallbackInv at hfallback ⊢
    simp only [hquantity] at hfallback ⊢
    exact ⟨hle, hfallback.2⟩

theorem kept_crash {job : Job} (hinv : FlowInv strict flow) (hjob : JobInv strict flow me job) :
    Kept strict me flow (flow.giveUp me job, .idle) := by
  have hgive : BeforePlace flow me → Kept strict me flow ({ flow with submitter := none }, .idle) := by
    rintro ⟨hs, hp, hq⟩
    have hforward : Forward (some me) flow { flow with submitter := none } := by
      refine ⟨le_refl _, fun h => ⟨h, rfl⟩, fun h => ⟨rfl, h.2⟩, ?_⟩
      intro j hj howner
      rw [hs] at howner
      exact absurd howner hj
    exact ⟨⟨hinv.order.forward hforward, hinv.known, fun h => absurd hp h, hinv.sent,
      hinv.report, hinv.single, fun h => absurd hq h,
      hinv.fallback.forward hforward rfl rfl⟩, trivial, hforward⟩
  unfold Flow.giveUp
  split
  · rw [if_pos hjob.2.2.2.submitter]
    exact hgive hjob.2.2.2
  · rw [if_pos hjob.2.2.submitter]
    exact hgive hjob.2.2
  · exact kept_same hinv trivial

/-- **One step keeps the invariant** of the flow and of the task, and does not disturb the
others. -/
theorem kept_advance {job : Job} {input : Input} {result : Flow spec × Job}
    (hinv : FlowInv strict flow) (hjob : JobInv strict flow me job)
    (hallowed : flow.allowed strict job input = true)
    (hworld : ∀ event, input ≠ .world event) (h : flow.advance me job input = some result) :
    Kept strict me flow result := by
  unfold Flow.advance at h
  split at h
  · next event => exact absurd rfl (hworld event)
  · injection h with h
    subst h
    exact kept_crash hinv hjob
  · next now => exact kept_resume hinv hjob hallowed h
  · next answer now =>
    split at h
    · next hcan =>
      obtain ⟨job', hdetail, rfl⟩ := Option.map_eq_some_iff.mp h
      exact kept_detail hinv hjob hcan hallowed hdetail
    · cases h
  · split at h
    · exact kept_call hinv hallowed h
    · next state next caller =>
      split at h
      · injection h with h
        subst h
        apply kept_save hinv hjob.1 hjob.2
        rintro rfl
        rcases Bool.or_eq_true_iff.mp hallowed with h | h
        · exact .inl (Option.isNone_iff_eq_none.mp h)
        · obtain ⟨hstrict, hover⟩ := Bool.and_eq_true_iff.mp h
          exact .inr ⟨by simpa using hstrict, of_decide_eq_true hover⟩
      · cases h
    · next caller => exact kept_gate hinv hjob.1 hjob.2.1 hjob.2.2 h
    · next submittedTs caller => exact kept_placeReply hinv hjob.1 hjob.2 h
    · next cancelPending caller =>
      obtain ⟨job', hreply, rfl⟩ := Option.map_eq_some_iff.mp h
      exact kept_same hinv (jobInv_cancelReply hjob.1 hjob.2.1 hjob.2.2 hallowed hreply)
    · cases h

theorem flowInv_step {n : ℕ} {s t : Tasks (Flow spec) Job n} {l : Fin n × Input}
    (hinv : TasksInv (FlowInv strict) (JobInv strict) s)
    (hallowed : s.shared.allowed strict (s.task l.1) l.2 = true) (h : flowStep s l = some t) :
    TasksInv (FlowInv strict) (JobInv strict) t := by
  obtain ⟨i, input⟩ := l
  obtain ⟨flow', job', hadvance, rfl⟩ := tasksStep_eq_some h
  by_cases hworld : ∃ event, input = .world event
  · obtain ⟨event, rfl⟩ := hworld
    obtain ⟨flow'', hevent, hresult⟩ := Option.map_eq_some_iff.mp hadvance
    injection hresult with hflow hjob
    subst hflow hjob
    have heffect := world_effect hevent
    have hforward := forward_world hinv.shared heffect
    have hothers : ∀ j : Fin n, JobInv strict flow'' j (s.task j) :=
      fun j => jobInv_forward hforward (by simp) (hinv.each j)
    exact tasksInv_step (flowInv_world hinv.shared heffect) (hothers i) fun j _ => hothers j
  · rw [not_exists] at hworld
    have hkept := kept_advance hinv.shared (hinv.each i) hallowed hworld hadvance
    apply tasksInv_step hkept.inv hkept.job
    intro j hj
    apply jobInv_forward hkept.forward _ (hinv.each j)
    intro heq
    injection heq with heq
    exact hj (Fin.ext heq.symm)

theorem flowInv_start (strict : Bool) (n : ℕ) (now : Timestamp) (submitCommand : Option Command) :
    TasksInv (FlowInv strict) (JobInv strict) (startOrder spec n now submitCommand) := by
  refine ⟨⟨?_, ?_, ?_, ?_, ?_, rfl, ?_, rfl⟩, fun _ => trivial⟩
  · exact (held_of_unfilled (sized_of_unfilled _ rfl rfl rfl rfl) rfl).carried rfl
  · exact fun h => absurd rfl h
  · exact fun h => absurd rfl h
  · exact fun h => by cases h
  · exact fun h => by cases h
  · exact fun h => absurd rfl h

end Aats.Execution
