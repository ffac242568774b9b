import Aats.Execution.OrderFlow

/-!
# What holds in an order flow

The order is *over* once the exchange has said so, or once it is clear that no place request
will be sent: from then on the order at the exchange does not change. The invariant says that
every state of the order that is terminal, stored or still held by a task, is justified by
that, unless it was written before any submission began; that a task which has not sent the
place request yet is the only submitter; and that a fallback order is only dispatched by it.

The strict form also says that a justified state has filled what the exchange has traded. It
needs more of the steps, and it is what the fallback order relies on.
-/

namespace Aats.Execution

variable {spec : OrderSpec} {strict : Bool} {flow flow' : Flow spec}
  {state current incoming : OrderState} {me j : ℕ} {moved : Option ℕ}

/-! ### The invariant -/

namespace Flow

/-- The order is over: the exchange has said so, or it will never see it. -/
def Over (flow : Flow spec) : Prop :=
  flow.closedReport = true ∨ flow.place = .withheld ∨ spec.size = 0

instance (flow : Flow spec) : Decidable flow.Over := inferInstanceAs (Decidable (_ ∨ _ ∨ _))

/-- The order was made terminal before any submission began, which now can begin no more. -/
def Excused (flow : Flow spec) : Prop :=
  flow.submitter = none ∧ flow.order.status.isTerminal = true

end Flow

/-- A terminal state is justified: the order is over and, in the strict form, the state says
what was traded and calls no filled order refused. -/
structure Justified (strict : Bool) (flow : Flow spec) (state : OrderState) : Prop where
  isOver : flow.Over
  filled : strict = true → state.filledQty = flow.venue.lots * spec.lot
  refused : strict = true → state.status = .rejected ∨ state.status = .failed →
    flow.venue ≠ .filled

/-- A state of the order: it has filled no more than was traded, and all of it only if the
order is over. -/
structure Held (flow : Flow spec) (state : OrderState) : Prop where
  sized : Sized spec flow.venue.lots state
  isOver : spec.size * spec.lot ≤ state.filledQty → flow.Over

structure Carried (strict : Bool) (flow : Flow spec) (state : OrderState) : Prop
    extends Held flow state where
  terminal : state.status.isTerminal = true → Justified strict flow state ∨ flow.Excused

/-- The fallback order: nothing trades before it is dispatched, and then no more than its
quantity, which leaves room for what the order has traded. -/
def FallbackInv (strict : Bool) (flow : Flow spec) : Prop :=
  match flow.fallbackQuantity with
  | none => flow.fallbackFilled = 0
  | some total => flow.fallbackFilled ≤ total ∧
      (strict = true → flow.Over ∧ flow.venue.lots * spec.lot + total ≤ spec.quantity)

structure FlowInv (strict : Bool) (flow : Flow spec) : Prop where
  order : Carried strict flow flow.order
  known : flow.venue ≠ .unknown → flow.place = .decided
  started : flow.place ≠ .unsent → flow.submitter ≠ none
  sent : flow.place.isSent = true → 0 < spec.size
  report : flow.closedReport = true → flow.place = .decided ∧ flow.venue.isLive = false
  single : flow.resubmitted = false
  dispatched : flow.fallbackQuantity ≠ none → flow.submitter ≠ none
  fallback : FallbackInv strict flow

/-- The post-only execution is run by the submitter, which has not dispatched its fallback
order; in the strict form it cancels in the direct mode only. -/
def Owned (strict : Bool) (flow : Flow spec) (me : ℕ) (caller : Caller) : Prop :=
  caller ≠ .plain → flow.submitter = some me ∧ flow.fallbackQuantity = none ∧
    (strict = true → caller = .postOnlyCancel → spec.persistent = false)

/-- In the strict form, the result of the cancel after the timeout says what was traded of an
order that is over. -/
def Final (strict : Bool) (flow : Flow spec) (state : OrderState) (caller : Caller) : Prop :=
  strict = true → caller = .postOnlyCancel →
    flow.Over ∧ state.filledQty = flow.venue.lots * spec.lot

structure BeforePlace (flow : Flow spec) (me : ℕ) : Prop where
  submitter : flow.submitter = some me
  unsent : flow.place = .unsent
  undispatched : flow.fallbackQuantity = none

def SaveInv (strict : Bool) (flow : Flow spec) (me : ℕ) (state : OrderState) (caller : Caller) :
    AfterSave → Prop
  | .place => Carried strict flow state ∧ caller ≠ .postOnlyCancel ∧ BeforePlace flow me
  | .enqueue => Carried strict flow state
  | .cancel => Carried strict flow state
  | .shortcut => Held flow state ∧ state.status = .canceled ∧ spec.persistent = true
  | .result => Carried strict flow state ∧ Final strict flow state caller

def JobInv (strict : Bool) (flow : Flow spec) (me : ℕ) : Job → Prop
  | .idle => True
  | .saving state next caller =>
    Owned strict flow me caller ∧ SaveInv strict flow me state caller next
  | .returned state caller =>
    Owned strict flow me caller ∧ Carried strict flow state ∧ Final strict flow state caller
  | .admitting caller =>
    Owned strict flow me caller ∧ caller ≠ .postOnlyCancel ∧ BeforePlace flow me
  | .placing _ caller => Owned strict flow me caller ∧ caller ≠ .postOnlyCancel
  | .submitDetail accepted _ _ caller =>
    Owned strict flow me caller ∧ caller ≠ .postOnlyCancel ∧ Carried strict flow accepted
  | .waiting => Owned strict flow me .postOnlySubmit
  | .canceling state caller => Owned strict flow me caller ∧ Carried strict flow state
  | .cancelReady state caller => Owned strict flow me caller ∧ Carried strict flow state
  | .cancelLookup state caller => Owned strict flow me caller ∧ Held flow state
  | .cancelSending cancelPending caller =>
    Owned strict flow me caller ∧ Held flow cancelPending ∧ cancelPending.status = .cancelPending
  | .cancelDetail cancelPending _ caller =>
    Owned strict flow me caller ∧ Held flow cancelPending ∧ cancelPending.status = .cancelPending
  | .syncDetail state => Carried strict flow state

/-! ### An order that is over -/

theorem not_live_of_over (hinv : FlowInv strict flow) (hover : flow.Over) :
    flow.venue.isLive = false := by
  rcases hover with hreport | hwithheld | hsize
  · exact (hinv.report hreport).2
  · by_cases hvenue : flow.venue = .unknown
    · rw [hvenue]
      rfl
    · rw [hinv.known hvenue] at hwithheld
      cases hwithheld
  · cases hvenue : flow.venue with
    | live k =>
      have := k.isLt
      omega
    | unknown => rfl
    | filled => rfl
    | canceled k => rfl

theorem not_live_of_lots_eq {size : ℕ} {venue : VenueOrder size} (h : venue.lots = size) :
    venue.isLive = false := by
  cases venue with
  | live k =>
    have := k.isLt
    simp only [VenueOrder.lots] at h
    omega
  | unknown => rfl
  | filled => rfl
  | canceled k => rfl

theorem over_of_worldEffect (hinv : FlowInv strict flow) (h : WorldEffect flow flow')
    (hover : flow.Over) : flow'.Over ∧ flow'.venue = flow.venue := by
  have hlive := not_live_of_over hinv hover
  have hflight : flow.place = .inFlight → spec.size = 0 := by
    intro hflight
    rcases hover with hreport | hwithheld | hsize
    · rw [(hinv.report hreport).1] at hflight
      cases hflight
    · rw [hwithheld] at hflight
      cases hflight
    · exact hsize
  cases h with
  | taken hplace hunknown hsize =>
    rw [hflight hplace] at hsize
    exact absurd hsize (lt_irrefl 0)
  | dropped hplace => exact ⟨.inr (.inr (hflight hplace)), rfl⟩
  | traded htrading hle hknown =>
    rw [htrading] at hlive
    cases hlive
  | command row => exact ⟨hover, rfl⟩
  | fallback hquantity hpos hle => exact ⟨hover, rfl⟩

/-! ### What a step leaves to the others -/

/-- The flow has moved on: what was traded and an order that is over stay, and so does what the
tasks other than `moved` have as the submitter. -/
structure Forward (moved : Option ℕ) (flow flow' : Flow spec) : Prop where
  lots_le : flow.venue.lots ≤ flow'.venue.lots
  isOver : flow.Over → flow'.Over ∧ flow'.venue = flow.venue
  excused : flow.Excused → flow'.Excused
  owner : ∀ j, moved ≠ some j → flow.submitter = some j → flow'.submitter = some j ∧
    (flow.place = .unsent → flow'.place = .unsent) ∧
    flow'.fallbackQuantity = flow.fallbackQuantity

theorem Forward.refl (moved : Option ℕ) (flow : Flow spec) : Forward moved flow flow :=
  ⟨le_refl _, fun h => ⟨h, rfl⟩, fun h => h, fun _ _ h => ⟨h, fun hp => hp, rfl⟩⟩

theorem Justified.forward (h : Justified strict flow state) (hf : Forward moved flow flow') :
    Justified strict flow' state := by
  obtain ⟨hover, hvenue⟩ := hf.isOver h.isOver
  refine ⟨hover, ?_, ?_⟩
  · rw [hvenue]
    exact h.filled
  · rw [hvenue]
    exact h.refused

theorem Held.forward (h : Held flow state) (hf : Forward moved flow flow') : Held flow' state :=
  ⟨h.sized.mono hf.lots_le, fun hfull => (hf.isOver (h.isOver hfull)).1⟩

theorem Carried.forward (h : Carried strict flow state) (hf : Forward moved flow flow') :
    Carried strict flow' state := by
  refine ⟨h.toHeld.forward hf, ?_⟩
  intro ht
  rcases h.terminal ht with hj | he
  · exact .inl (hj.forward hf)
  · exact .inr (hf.excused he)

theorem Final.forward {caller : Caller} (h : Final strict flow state caller)
    (hf : Forward moved flow flow') : Final strict flow' state caller := by
  intro hs hc
  obtain ⟨hover, hfilled⟩ := h hs hc
  obtain ⟨hover', hvenue⟩ := hf.isOver hover
  rw [hvenue]
  exact ⟨hover', hfilled⟩

theorem FallbackInv.forward (h : FallbackInv strict flow) (hf : Forward moved flow flow')
    (hquantity : flow'.fallbackQuantity = flow.fallbackQuantity)
    (hfilled : flow'.fallbackFilled = flow.fallbackFilled) : FallbackInv strict flow' := by
  unfold FallbackInv at h ⊢
  rw [hquantity, hfilled]
  cases hq : flow.fallbackQuantity with
  | none =>
    rw [hq] at h
    exact h
  | some total =>
    rw [hq] at h
    refine ⟨h.1, ?_⟩
    intro hs
    obtain ⟨hover, hroom⟩ := h.2 hs
    obtain ⟨hover', hvenue⟩ := hf.isOver hover
    rw [hvenue]
    exact ⟨hover', hroom⟩

theorem Owned.forward {caller : Caller} (h : Owned strict flow j caller)
    (hf : Forward moved flow flow') (hj : moved ≠ some j) : Owned strict flow' j caller := by
  intro hc
  obtain ⟨hs, hq, hp⟩ := h hc
  obtain ⟨hs', -, hq'⟩ := hf.owner j hj hs
  exact ⟨hs', hq'.trans hq, hp⟩

theorem BeforePlace.forward (h : BeforePlace flow j) (hf : Forward moved flow flow')
    (hj : moved ≠ some j) : BeforePlace flow' j := by
  obtain ⟨hs, hp, hq⟩ := hf.owner j hj h.submitter
  exact ⟨hs, hp h.unsent, hq.trans h.undispatched⟩

theorem Owned.congr {caller : Caller} (h : Owned strict flow me caller)
    (hs : flow'.submitter = flow.submitter)
    (hq : flow'.fallbackQuantity = flow.fallbackQuantity) : Owned strict flow' me caller := by
  intro hc
  rw [hs, hq]
  exact h hc

theorem owned_plain : Owned strict flow me .plain := fun h => absurd rfl h

theorem jobInv_forward {job : Job} (hf : Forward moved flow flow') (hj : moved ≠ some j)
    (h : JobInv strict flow j job) : JobInv strict flow' j job := by
  cases job with
  | idle => trivial
  | saving state next caller =>
    obtain ⟨hown, hsave⟩ := h
    refine ⟨hown.forward hf hj, ?_⟩
    cases next with
    | place => exact ⟨hsave.1.forward hf, hsave.2.1, hsave.2.2.forward hf hj⟩
    | enqueue => exact Carried.forward hsave hf
    | cancel => exact Carried.forward hsave hf
    | shortcut => exact ⟨hsave.1.forward hf, hsave.2⟩
    | result => exact ⟨hsave.1.forward hf, hsave.2.forward hf⟩
  | returned state caller => exact ⟨h.1.forward hf hj, h.2.1.forward hf, h.2.2.forward hf⟩
  | admitting caller => exact ⟨h.1.forward hf hj, h.2.1, h.2.2.forward hf hj⟩
  | placing ts caller => exact ⟨h.1.forward hf hj, h.2⟩
  | submitDetail accepted unknown ts caller =>
    exact ⟨h.1.forward hf hj, h.2.1, h.2.2.forward hf⟩
  | waiting => exact Owned.forward h hf hj
  | canceling state caller => exact ⟨h.1.forward hf hj, h.2.forward hf⟩
  | cancelReady state caller => exact ⟨h.1.forward hf hj, h.2.forward hf⟩
  | cancelLookup state caller => exact ⟨h.1.forward hf hj, h.2.forward hf⟩
  | cancelSending cancelPending caller =>
    exact ⟨h.1.forward hf hj, h.2.1.forward hf, h.2.2⟩
  | cancelDetail cancelPending unknown caller =>
    exact ⟨h.1.forward hf hj, h.2.1.forward hf, h.2.2⟩
  | syncDetail state => exact Carried.forward h hf

/-! ### States of the order -/

theorem Held.congr (h : Held flow state) {state' : OrderState}
    (hid : state'.clientOrderId = state.clientOrderId)
    (hreq : state'.requestedQty = state.requestedQty)
    (hfill : state'.filledQty = state.filledQty)
    (hrem : state'.remainingQty = state.remainingQty) : Held flow state' :=
  ⟨h.sized.congr hid hreq hfill hrem, hfill ▸ h.isOver⟩

theorem Held.carried (h : Held flow state) (hs : state.status.isTerminal = false) :
    Carried strict flow state := by
  refine ⟨h, ?_⟩
  intro ht
  rw [hs] at ht
  cases ht

theorem held_merge (hc : Held flow current) (hi : Held flow incoming) :
    Held flow (merge (some current) incoming) := by
  obtain ⟨hsized, hfilled⟩ := hc.sized.merge hi.sized flow.venue.lots_le
  refine ⟨hsized, ?_⟩
  rw [hfilled, le_max_iff]
  rintro (hfull | hfull)
  · exact hc.isOver hfull
  · exact hi.isOver hfull

theorem filled_merge (hc : Held flow current) (hi : Held flow incoming)
    (h : current.filledQty = flow.venue.lots * spec.lot ∨
      incoming.filledQty = flow.venue.lots * spec.lot) :
    (merge (some current) incoming).filledQty = flow.venue.lots * spec.lot := by
  rw [(hc.sized.merge hi.sized flow.venue.lots_le).2]
  rcases h with h | h
  · rw [h]
    exact max_eq_left hi.sized.filled_le
  · rw [h]
    exact max_eq_right hc.sized.filled_le

theorem carried_merge (hc : Carried strict flow current) (hi : Carried strict flow incoming) :
    Carried strict flow (merge (some current) incoming) := by
  have hlots : flow.venue.lots ≤ spec.size := flow.venue.lots_le
  have hheld := held_merge hc.toHeld hi.toHeld
  refine ⟨hheld, ?_⟩
  intro ht
  by_cases he : flow.Excused
  · exact .inr he
  -- without the excuse every terminal state among the two is justified
  have hcj : current.status.isTerminal = true → Justified strict flow current :=
    fun h => (hc.terminal h).resolve_right he
  have hij : incoming.status.isTerminal = true → Justified strict flow incoming :=
    fun h => (hi.terminal h).resolve_right he
  have hwhy := terminal_merge hc.sized hi.sized hlots ht
  refine .inl ⟨?_, ?_, ?_⟩
  · rcases hwhy with h | h | h
    · exact (hcj h).isOver
    · exact (hij h).isOver
    · exact hheld.isOver h
  · intro hs
    rcases hwhy with h | h | h
    · exact filled_merge hc.toHeld hi.toHeld (.inl ((hcj h).filled hs))
    · exact filled_merge hc.toHeld hi.toHeld (.inr ((hij h).filled hs))
    · apply le_antisymm hheld.sized.filled_le
      have : (flow.venue.lots : ℚ) * spec.lot ≤ spec.size * spec.lot :=
        mul_le_mul_of_nonneg_right (Nat.cast_le.mpr hlots) spec.lot_pos.le
      linarith
  · intro hs hstatus
    have hrefused : ∀ status : OrderStatus, status = .rejected ∨ status = .failed →
        status.isTerminal = true := by
      rintro status (h | h)
      · rw [h]
        rfl
      · rw [h]
        rfl
    rcases status_merge current incoming with h | h | h | h
    · rw [h] at hstatus
      exact (hcj (hrefused _ hstatus)).refused hs hstatus
    · rw [h] at hstatus
      exact (hij (hrefused _ hstatus)).refused hs hstatus
    · rw [h] at hstatus
      rcases hstatus with hstatus | hstatus <;> cases hstatus
    · rw [h] at hstatus
      rcases hstatus with hstatus | hstatus <;> cases hstatus

theorem held_of_unfilled
    (hsized : Sized spec flow.venue.lots state) (hfill : state.filledQty = 0) :
    Held flow state := by
  refine ⟨hsized, ?_⟩
  rw [hfill]
  intro hfull
  by_cases hsize : spec.size = 0
  · exact .inr (.inr hsize)
  · exfalso
    have hpos : 0 < (spec.size : ℚ) * spec.lot :=
      mul_pos (Nat.cast_pos.mpr (Nat.pos_of_ne_zero hsize)) spec.lot_pos
    linarith

theorem held_mapOrderState {row : OrderRow} {fillsError : Option String}
    (hinv : FlowInv strict flow) (hrow : row.Truthful flow.venue)
    (payload : List (String × String)) (submittedTs now : Timestamp) :
    Held (flow.noteAnswer (.found row fillsError))
      (mapOrderState spec payload row submittedTs now) := by
  have hsize : 0 < spec.size := hinv.sent (by rw [hinv.known hrow.1]; rfl)
  refine ⟨sized_mapOrderState hrow hsize payload submittedTs now, ?_⟩
  intro hfull
  have hle : (spec.size : ℚ) ≤ row.accFillSz := by
    exact le_of_mul_le_mul_right hfull spec.lot_pos
  have hle' : spec.size ≤ row.accFillSz := by exact_mod_cast hle
  have heq : row.accFillSz = spec.size :=
    le_antisymm (hrow.2.2.1.trans flow.venue.lots_le) hle'
  refine .inl ?_
  show (flow.closedReport || (row.status.isTerminal || decide (row.accFillSz = spec.size))) = true
  rw [decide_eq_true heq, Bool.or_true, Bool.or_true]

theorem carried_mapOrderState {row : OrderRow} {fillsError : Option String}
    (hinv : FlowInv strict flow) (hrow : row.Truthful flow.venue)
    (payload : List (String × String)) (submittedTs now : Timestamp) :
    Carried strict (flow.noteAnswer (.found row fillsError))
      (mapOrderState spec payload row submittedTs now) := by
  refine ⟨held_mapOrderState hinv hrow payload submittedTs now, ?_⟩
  intro ht
  have hterminal : row.status.isTerminal = true := ht
  obtain ⟨-, hacc, hfilled⟩ := hrow.2.2.2 hterminal
  refine .inl ⟨.inl ?_, ?_, ?_⟩
  · show (flow.closedReport || (row.status.isTerminal || decide (row.accFillSz = spec.size))) = true
    rw [hterminal, Bool.true_or, Bool.or_true]
  · intro _
    show (row.accFillSz : ℚ) * spec.lot = flow.venue.lots * spec.lot
    rw [hacc]
  · intro _ hstatus hvenue
    have hrowStatus : row.status = .filled := hfilled.mpr hvenue
    have hmapped : row.status = .rejected ∨ row.status = .failed := hstatus
    rw [hrowStatus] at hmapped
    rcases hmapped with h | h <;> cases h

theorem Carried.congr (h : Carried strict flow state) {state' : OrderState}
    (hid : state'.clientOrderId = state.clientOrderId) (hstatus : state'.status = state.status)
    (hreq : state'.requestedQty = state.requestedQty)
    (hfill : state'.filledQty = state.filledQty)
    (hrem : state'.remainingQty = state.remainingQty) : Carried strict flow state' := by
  refine ⟨h.toHeld.congr hid hreq hfill hrem, ?_⟩
  rw [hstatus]
  intro ht
  rcases h.terminal ht with hj | he
  · refine .inl ⟨hj.isOver, ?_, ?_⟩
    · rw [hfill]
      exact hj.filled
    · rw [hstatus]
      exact hj.refused
  · exact .inr he

theorem final_of_terminal {caller : Caller} (hown : Owned strict flow me caller)
    (hc : Carried strict flow state) (ht : state.status.isTerminal = true) :
    Final strict flow state caller := by
  intro hs hcaller
  have howner := (hown (by rw [hcaller]; decide)).1
  rcases hc.terminal ht with hj | he
  · exact ⟨hj.isOver, hj.filled hs⟩
  · rw [he.1] at howner
    cases howner

end Aats.Execution
