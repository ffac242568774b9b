import Aats.Execution.ObligationRace
import Aats.Execution.ReservationMirror
import Aats.Lib.KeyedList

/-!
# Reservations within the balance

A submission is checked against what the active obligations of its currency hold, and written
later.  `_execute_guarded_order_intent` holds the reservation lock of the order manager in between,
`reserve_obligation_transactional` the advisory lock of the currency. Neither lock is taken by
fills and finalizations, which preview an obligation and overwrite its row in between.

A write that finds the row it has read takes something from the obligation or leaves it, so what
was checked still holds when it is committed. A write over a row that has changed since can bring
back what another one had released.

## Main results
* `Shrinks.of_candidate` — what a fill or a finalization writes holds no more than before.
-/

namespace Aats.Execution

open Runs KeyedList

/-! ### What is held -/

/-- The obligation is one of `active_obligations`. -/
def OrderObligation.isActive (obligation : OrderObligation) : Bool :=
  obligation.status = .active ∨ obligation.status = .partiallyConsumed

def activeReserve (obligations : List OrderObligation) (currency : String) : ℚ :=
  ((obligations.filter (fun obligation =>
    obligation.isActive ∧ obligation.reserveCurrency = currency)).map
      remainingObligationAmount).sum

/-- `reserved_elsewhere`: what those of other orders hold. -/
def reservedElsewhere (obligations : List OrderObligation) (currency clientOrderId : String) : ℚ :=
  ((obligations.filter (fun obligation =>
    obligation.isActive ∧ obligation.reserveCurrency = currency ∧
      obligation.clientOrderId ≠ clientOrderId)).map remainingObligationAmount).sum

/-- The check of a reservation: it raises if the amount exceeds what is available after the other
obligations. -/
def insufficientBalance (available : ℚ) (obligations : List OrderObligation)
    (obligation : OrderObligation) : Bool :=
  let availableAfter := available -
    reservedElsewhere obligations obligation.reserveCurrency obligation.clientOrderId
  availableAfter + epsilon12 < obligation.reservedAmount

/-! ### Submissions, fills and finalizations -/

inductive ReservationPath
  /-- `_execute_guarded_order_intent` of one order manager. -/
  | guarded
  /-- `reserve_obligation_transactional`, from any process. -/
  | transactional
  deriving DecidableEq

/-- A submission that was checked and is to be committed; `isNew` unless it found an obligation of
its order. -/
structure Submission where
  obligation : OrderObligation
  isNew : Bool
  deriving DecidableEq

/-- The table of obligations, the submissions between check and commit, the fills and
finalizations between preview and write, and the currencies in which something was reserved. -/
structure ReservationState where
  obligations : List OrderObligation
  submissions : List Submission := []
  inFlight : List (ℕ × Previewed) := []
  reservedIn : List String := []

inductive ReservationLabel
  | submit (obligation : OrderObligation)
  | commit (currency : String)
  | rollback (currency : String)
  | preview (task : ℕ) (clientOrderId : String) (op : FillOperation)
  | write (task : ℕ) (written : Option OrderObligation)

/-- What the transaction of an operation may leave in the row. It saves the obligation of each fill
that is new, and the final one. -/
def Previewed.candidates (p : Previewed) : List (Option OrderObligation) :=
  p.perFill ++ [p.final]

namespace ReservationState

def row (s : ReservationState) (clientOrderId : String) : Option OrderObligation :=
  lookup OrderObligation.clientOrderId s.obligations clientOrderId

def submission (s : ReservationState) (currency : String) : Option Submission :=
  s.submissions.find? (fun submission => submission.obligation.reserveCurrency = currency)

def previewed (s : ReservationState) (task : ℕ) : Option Previewed :=
  (s.inFlight.find? (·.1 = task)).map (·.2)

/-- The lock is taken: the one of the order manager, or that of the currency. -/
def locked (s : ReservationState) : ReservationPath → String → Bool
  | .guarded, _ => !s.submissions.isEmpty
  | .transactional, currency => (s.submission currency).isSome

/-- The check of a submission. An order that has an obligation keeps it: the guarded path writes it
again, the transaction returns it. -/
def submit (path : ReservationPath) (available : String → ℚ) (s : ReservationState)
    (obligation : OrderObligation) : ReservationState :=
  match s.row obligation.clientOrderId, path with
  | some existing, .guarded =>
    { s with submissions := s.submissions ++ [{ obligation := existing, isNew := false }] }
  | some _, .transactional => s
  | none, _ =>
    if insufficientBalance (available obligation.reserveCurrency) s.obligations obligation then s
    else { s with submissions := s.submissions ++ [{ obligation, isNew := true }] }

/-- `save_obligation_in_session`. -/
def save (s : ReservationState) (obligation : OrderObligation) : ReservationState :=
  { s with obligations := upsert OrderObligation.clientOrderId s.obligations obligation }

def unlock (s : ReservationState) (currency : String) : ReservationState :=
  { s with submissions :=
      s.submissions.filter (fun submission => submission.obligation.reserveCurrency ≠ currency) }

def step (path : ReservationPath) (available : String → ℚ) (s : ReservationState) :
    ReservationLabel → Option ReservationState
  | .submit obligation =>
    if s.locked path obligation.reserveCurrency ∨ ¬ obligation.Opened then none
    else some (s.submit path available obligation)
  | .commit currency =>
    match s.submission currency with
    | none => none
    | some submission =>
      some
        { (s.save submission.obligation).unlock currency with
          reservedIn := if submission.isNew then currency :: s.reservedIn else s.reservedIn }
  | .rollback currency => if (s.submission currency).isSome then some (s.unlock currency) else none
  | .preview task clientOrderId op =>
    match s.previewed task with
    | some _ => none
    | none => some { s with inFlight := s.inFlight ++ [(task, op.preview (s.row clientOrderId))] }
  | .write task written =>
    match s.previewed task with
    | none => none
    | some p =>
      let rest := { s with inFlight := s.inFlight.filter (·.1 ≠ task) }
      match written with
      | none => some rest
      | some obligation =>
        if some obligation ∈ p.candidates then some (rest.save obligation) else none

end ReservationState

def FindsReadRow (s : ReservationState) : ReservationLabel → Prop
  | .commit currency =>
    ∀ submission ∈ s.submission currency, submission.isNew = false →
      s.row submission.obligation.clientOrderId = some submission.obligation
  | .write task (some obligation) =>
    ∀ p ∈ s.previewed task, s.row obligation.clientOrderId = p.read
  | _ => True

/-! ### What a write leaves -/

/-- An active obligation, or one that holds nothing any more. -/
def OrderObligation.Held (obligation : OrderObligation) : Prop :=
  obligation.isActive = true ∨ obligation.Settled

/-- The second obligation is of the same order and holds no more than the first. -/
structure Shrinks (old new : OrderObligation) : Prop where
  clientOrderId : new.clientOrderId = old.clientOrderId
  reserveCurrency : new.reserveCurrency = old.reserveCurrency
  held : new.Held
  active : new.isActive = true → old.isActive = true
  remaining : remainingObligationAmount new ≤ remainingObligationAmount old

section Writes

variable {old new : OrderObligation}

theorem remaining_nonneg_obligation (obligation : OrderObligation) :
    0 ≤ remainingObligationAmount obligation :=
  le_max_right _ _

theorem OrderObligation.Settled.not_active (h : old.Settled) : old.isActive = false := by
  unfold OrderObligation.isActive
  simp [h.2.1, h.2.2]

theorem Shrinks.refl (h : old.Held) : Shrinks old old := ⟨rfl, rfl, h, id, le_rfl⟩

theorem Shrinks.trans {third : OrderObligation} (h : Shrinks old new) (h' : Shrinks new third) :
    Shrinks old third :=
  ⟨h'.clientOrderId.trans h.clientOrderId, h'.reserveCurrency.trans h.reserveCurrency, h'.held,
    fun hactive => h.active (h'.active hactive), h'.remaining.trans h.remaining⟩

theorem Shrinks.of_settled (hid : new.clientOrderId = old.clientOrderId)
    (hcurrency : new.reserveCurrency = old.reserveCurrency) (hsettled : new.Settled)
    (hremaining : remainingObligationAmount new ≤ remainingObligationAmount old) :
    Shrinks old new := by
  refine ⟨hid, hcurrency, .inr hsettled, ?_, hremaining⟩
  intro hactive
  rw [hsettled.not_active] at hactive
  cases hactive

theorem Shrinks.of_fill (h : old.Held) (fill : FillEvent) :
    Shrinks old (applyFillToObligation fill old) := by
  rcases applyFillToObligation_cases fill old with
    he | ⟨details, -, he⟩ | ⟨amount, -, hamount, -, -, he⟩
  · rw [he]
    exact Shrinks.refl h
  · rw [he]
    exact ⟨rfl, rfl, h, id, le_rfl⟩
  · rw [he]
    have hless := remainingObligationAmount_consume_le old fill.fillId
      (epsilon12_pos.trans hamount).le
    rcases h with hactive | hsettled
    · refine ⟨rfl, rfl, ?_, fun _ => hactive, hless⟩
      -- the status says whether something remains
      by_cases hrem : remainingObligationAmount (old.consume fill.fillId amount) ≤ epsilon12
      · have hstatus : (old.consume fill.fillId amount).status = .released := if_pos hrem
        right
        refine ⟨hrem, ?_, ?_⟩ <;> rw [hstatus] <;> decide
      · left
        have hstatus : (old.consume fill.fillId amount).status =
            if epsilon12 < (old.consume fill.fillId amount).consumedAmount then
              .partiallyConsumed else .active := if_neg hrem
        unfold OrderObligation.isActive
        rw [hstatus]
        split <;> decide
    · have hsettled' := settled_applyFillToObligation fill hsettled
      rw [he] at hsettled'
      exact Shrinks.of_settled rfl rfl hsettled' hless

theorem Shrinks.of_finalization {orderState : OrderState} (h : old.Held)
    (hfinal : applyFinalizationToObligation orderState (some old) = some new) :
    Shrinks old new := by
  have hsettled := settled_finalization hfinal
  unfold applyFinalizationToObligation at hfinal
  split at hfinal
  · cases hfinal
  · simp only [] at hfinal
    split at hfinal
    · obtain rfl := Option.some.inj hfinal
      exact Shrinks.refl h
    · obtain rfl := Option.some.inj hfinal
      have hless : old.reservedAmount - old.consumedAmount -
          (old.releasedAmount + max (remainingObligationAmount old) 0) ≤
            old.reservedAmount - old.consumedAmount - old.releasedAmount := by
        linarith [le_max_right (remainingObligationAmount old) 0]
      exact Shrinks.of_settled rfl rfl hsettled (max_le_max_right 0 hless)

theorem Shrinks.of_chain (fills : List FillEvent) (h : old.Held) :
    (∀ obligation, some obligation ∈ chainFills (some old) fills → Shrinks old obligation) ∧
      ∀ last, chainEnd (some old) fills = some last → Shrinks old last := by
  induction fills generalizing old with
  | nil =>
    constructor
    · intro obligation hmem
      cases hmem
    · intro last hlast
      obtain rfl := Option.some.inj hlast
      exact Shrinks.refl h
  | cons fill fills ih =>
    have hfirst := Shrinks.of_fill h fill
    obtain ⟨hmembers, hend⟩ := ih hfirst.held
    constructor
    · intro obligation hmem
      rcases List.mem_cons.mp hmem with heq | hmem
      · rw [Option.some.inj heq]
        exact hfirst
      · exact hfirst.trans (hmembers obligation hmem)
    · intro last hlast
      exact hfirst.trans (hend last hlast)

/-- **What a fill or a finalization writes holds no more than what it has read.** -/
theorem Shrinks.of_candidate (h : old.Held) {op : FillOperation}
    (hmem : some new ∈ (op.preview (some old)).candidates) : Shrinks old new := by
  cases op with
  | single fill =>
    simp only [FillOperation.preview, Previewed.candidates, Option.map_some, List.cons_append,
      List.nil_append, List.mem_cons, Option.some.injEq, List.not_mem_nil, or_false,
      reduceCtorEq] at hmem
    rw [hmem]
    exact Shrinks.of_fill h fill
  | batch orderState fills =>
    obtain ⟨hmembers, hend⟩ := Shrinks.of_chain fills h
    rcases List.mem_append.mp hmem with hmem | hmem
    · exact hmembers new hmem
    · have hfinal : applyFinalizationToObligation orderState (chainEnd (some old) fills) =
          some new := (List.mem_singleton.mp hmem).symm
      cases hlast : chainEnd (some old) fills with
      | none => cases eq_none_of_chainEnd hlast
      | some last =>
        rw [hlast] at hfinal
        have hshrinks := hend last hlast
        exact hshrinks.trans (Shrinks.of_finalization hshrinks.held hfinal)

theorem candidates_of_none {op : FillOperation} :
    some new ∉ (op.preview none).candidates := by
  cases op with
  | single fill => simp [FillOperation.preview, Previewed.candidates]
  | batch orderState fills =>
    have hchain : ∀ o ∈ chainFills none fills, o = none := by
      induction fills with
      | nil =>
        intro o hmem
        cases hmem
      | cons fill fills ih =>
        intro o hmem
        rcases List.mem_cons.mp hmem with rfl | hmem
        · rfl
        · exact ih o hmem
    have hend : chainEnd none fills = none := by cases fills <;> rfl
    intro hmem
    rcases List.mem_append.mp hmem with hmem | hmem
    · cases hchain _ hmem
    · have hfinal : some new = applyFinalizationToObligation orderState (chainEnd none fills) :=
        List.mem_singleton.mp hmem
      rw [hend] at hfinal
      unfold applyFinalizationToObligation at hfinal
      split at hfinal <;> cases hfinal

end Writes

/-! ### What the table holds -/

def heldIn (currency : String) (obligation : OrderObligation) : ℚ :=
  if obligation.isActive = true ∧ obligation.reserveCurrency = currency then
    remainingObligationAmount obligation
  else 0

section Sums

variable {obligations : List OrderObligation} {currency : String} {old new : OrderObligation}

theorem heldIn_nonneg (currency : String) (obligation : OrderObligation) :
    0 ≤ heldIn currency obligation := by
  unfold heldIn
  split
  · exact remaining_nonneg_obligation obligation
  · exact le_rfl

theorem heldIn_of_ne (h : new.reserveCurrency ≠ currency) : heldIn currency new = 0 :=
  if_neg fun hboth => h hboth.2

theorem Shrinks.heldIn_le (h : Shrinks old new) (currency : String) :
    heldIn currency new ≤ heldIn currency old := by
  by_cases hnew : new.isActive = true ∧ new.reserveCurrency = currency
  · have hold : old.isActive = true ∧ old.reserveCurrency = currency :=
      ⟨h.active hnew.1, h.reserveCurrency.symm.trans hnew.2⟩
    unfold heldIn
    rw [if_pos hnew, if_pos hold]
    exact h.remaining
  · unfold heldIn
    rw [if_neg hnew]
    exact heldIn_nonneg currency old

theorem activeReserve_eq (obligations : List OrderObligation) (currency : String) :
    activeReserve obligations currency = (obligations.map (heldIn currency)).sum := by
  unfold activeReserve
  rw [sum_filter]
  simp only [decide_eq_true_eq]
  rfl

theorem reservedElsewhere_eq
    (hkeys : (obligations.map OrderObligation.clientOrderId).Nodup) (currency id : String) :
    reservedElsewhere obligations currency id = activeReserve obligations currency -
      ((lookup OrderObligation.clientOrderId obligations id).map (heldIn currency)).getD 0 := by
  rw [activeReserve_eq, ← sum_ne hkeys]
  unfold reservedElsewhere
  rw [sum_filter]
  congr 1
  apply List.map_congr_left
  intro obligation _
  simp only [decide_eq_true_eq, heldIn]
  by_cases hid : obligation.clientOrderId = id <;> simp [hid]

theorem activeReserve_upsert
    (hkeys : (obligations.map OrderObligation.clientOrderId).Nodup) (currency : String)
    (new : OrderObligation) :
    activeReserve (upsert OrderObligation.clientOrderId obligations new) currency =
      activeReserve obligations currency + (heldIn currency new -
        ((lookup OrderObligation.clientOrderId obligations new.clientOrderId).map
          (heldIn currency)).getD 0) := by
  rw [activeReserve_eq, activeReserve_eq, sum_upsert hkeys]

theorem reserve_upsert_le
    (hkeys : (obligations.map OrderObligation.clientOrderId).Nodup)
    (hless : heldIn currency new ≤
      ((lookup OrderObligation.clientOrderId obligations new.clientOrderId).map
        (heldIn currency)).getD 0) (id : String) :
    activeReserve (upsert OrderObligation.clientOrderId obligations new) currency ≤
        activeReserve obligations currency ∧
      reservedElsewhere (upsert OrderObligation.clientOrderId obligations new) currency id ≤
        reservedElsewhere obligations currency id := by
  have hall := activeReserve_upsert hkeys currency new
  refine ⟨by linarith, ?_⟩
  rw [reservedElsewhere_eq (nodup_keys_upsert hkeys), reservedElsewhere_eq hkeys, hall,
    lookup_upsert]
  split
  · next heq =>
    rw [heq, Option.map_some, Option.getD_some]
    linarith
  · linarith

end Sums

/-! ### What a step keeps -/

/-- The table and what is between check and commit are in order, and so is what was reserved. -/
structure WithinBalance (available : String → ℚ) (s : ReservationState) : Prop where
  keys : (s.obligations.map OrderObligation.clientOrderId).Nodup
  held : ∀ obligation ∈ s.obligations, obligation.Held
  locks : (s.submissions.map (·.obligation.reserveCurrency)).Nodup
  checked : ∀ submission ∈ s.submissions, submission.isNew = true →
    submission.obligation.Opened ∧
      reservedElsewhere s.obligations submission.obligation.reserveCurrency
        submission.obligation.clientOrderId + submission.obligation.reservedAmount ≤
          available submission.obligation.reserveCurrency + epsilon12
  previews : ∀ task p, (task, p) ∈ s.inFlight → p = p.op.preview p.read
  bound : ∀ currency ∈ s.reservedIn,
    activeReserve s.obligations currency ≤ available currency + epsilon12

section Steps

variable {available : String → ℚ} {path : ReservationPath} {s : ReservationState}
  {currency : String}

theorem mem_of_submission {submission : Submission} (h : s.submission currency = some submission) :
    submission ∈ s.submissions ∧ submission.obligation.reserveCurrency = currency :=
  ⟨List.mem_of_find?_eq_some h, by simpa using List.find?_some h⟩

theorem WithinBalance.submit (h : WithinBalance available s) {obligation : OrderObligation}
    (hopened : obligation.Opened) (hfree : s.locked path obligation.reserveCurrency = false) :
    WithinBalance available (s.submit path available obligation) := by
  -- one more submission, in a currency whose lock is free
  have hadd : ∀ added : Submission,
      (∀ other ∈ s.submissions,
        other.obligation.reserveCurrency ≠ added.obligation.reserveCurrency) →
      (added.isNew = true → added.obligation.Opened ∧
        reservedElsewhere s.obligations added.obligation.reserveCurrency
          added.obligation.clientOrderId + added.obligation.reservedAmount ≤
            available added.obligation.reserveCurrency + epsilon12) →
      WithinBalance available { s with submissions := s.submissions ++ [added] } := by
    intro added hother hchecked
    refine ⟨h.keys, h.held, ?_, ?_, h.previews, h.bound⟩
    · rw [List.map_append, List.nodup_append]
      refine ⟨h.locks, by simp, ?_⟩
      rintro c hmem c' hmem' rfl
      obtain ⟨other, hold, rfl⟩ := List.mem_map.mp hmem
      rw [List.map_singleton, List.mem_singleton] at hmem'
      exact hother other hold hmem'
    · intro other hmem
      rcases List.mem_append.mp hmem with hmem | hmem
      · exact h.checked other hmem
      · rw [List.mem_singleton.mp hmem]
        exact hchecked
  unfold ReservationState.submit
  cases hrow : s.row obligation.clientOrderId with
  | some existing =>
    cases path with
    | transactional => exact h
    | guarded =>
      have hnone : s.submissions = [] := by simpa [ReservationState.locked] using hfree
      refine hadd _ ?_ (fun hnew => Bool.noConfusion hnew)
      intro other hmem
      rw [hnone] at hmem
      cases hmem
  | none =>
    simp only []
    split
    · exact h
    · next henough =>
      refine hadd _ ?_ (fun _ => ⟨hopened, ?_⟩)
      · intro other hmem heq
        cases path with
        | guarded =>
          have hnone : s.submissions = [] := by simpa [ReservationState.locked] using hfree
          rw [hnone] at hmem
          cases hmem
        | transactional =>
          have hnone : s.submission obligation.reserveCurrency = none := by
            simpa [ReservationState.locked] using hfree
          exact List.find?_eq_none.mp hnone other hmem (by simpa using heq)
      · unfold insufficientBalance at henough
        have hle := not_lt.mp (fun hlt => henough (decide_eq_true hlt))
        linarith

theorem WithinBalance.unlock (h : WithinBalance available s) (currency : String) :
    WithinBalance available (s.unlock currency) :=
  ⟨h.keys, h.held, h.locks.sublist (List.filter_sublist.map _),
    fun submission hmem => h.checked submission (List.mem_of_mem_filter hmem), h.previews, h.bound⟩

theorem WithinBalance.save (h : WithinBalance available s) {old new : OrderObligation}
    (hrow : s.row new.clientOrderId = some old) (hshrinks : Shrinks old new) :
    WithinBalance available (s.save new) := by
  have hless : ∀ currency id,
      activeReserve (s.save new).obligations currency ≤ activeReserve s.obligations currency ∧
        reservedElsewhere (s.save new).obligations currency id ≤
          reservedElsewhere s.obligations currency id := by
    intro currency id
    apply reserve_upsert_le h.keys
    rw [show lookup _ _ _ = some old from hrow, Option.map_some, Option.getD_some]
    exact hshrinks.heldIn_le currency
  refine ⟨nodup_keys_upsert h.keys, ?_, h.locks, ?_, h.previews, ?_⟩
  · intro obligation hmem
    rcases mem_upsert.mp hmem with rfl | ⟨hmem, -⟩
    · exact hshrinks.held
    · exact h.held obligation hmem
  · intro submission hmem hnew
    obtain ⟨hopened, hchecked⟩ := h.checked submission hmem hnew
    exact ⟨hopened, by linarith [(hless submission.obligation.reserveCurrency
      submission.obligation.clientOrderId).2]⟩
  · intro currency hmem
    exact (hless currency "").1.trans (h.bound currency hmem)

theorem opened_held {obligation : OrderObligation} (h : obligation.Opened) :
    obligation.Held ∧ remainingObligationAmount obligation = obligation.reservedAmount := by
  constructor
  · left
    simp [OrderObligation.isActive, h.status]
  · unfold remainingObligationAmount
    rw [h.consumed, h.released, sub_zero, sub_zero]
    exact max_eq_left (epsilon12_pos.trans h.reserved).le

theorem WithinBalance.commit_new (h : WithinBalance available s) {submission : Submission}
    (hsubmission : s.submission currency = some submission) (hnew : submission.isNew = true) :
    WithinBalance available
      { (s.save submission.obligation).unlock currency with
        reservedIn := currency :: s.reservedIn } := by
  obtain ⟨hmem, hcurrency⟩ := mem_of_submission hsubmission
  obtain ⟨hopened, hchecked⟩ := h.checked submission hmem hnew
  obtain ⟨hheld, hremaining⟩ := opened_held hopened
  -- in other currencies the row that is written holds nothing
  have hother : ∀ other, other ≠ currency → ∀ id,
      activeReserve (s.save submission.obligation).obligations other ≤
          activeReserve s.obligations other ∧
        reservedElsewhere (s.save submission.obligation).obligations other id ≤
          reservedElsewhere s.obligations other id := by
    intro other hne id
    apply reserve_upsert_le h.keys
    rw [heldIn_of_ne (by rw [hcurrency]; exact hne.symm)]
    cases lookup OrderObligation.clientOrderId s.obligations
        submission.obligation.clientOrderId with
    | none => exact le_rfl
    | some old => exact heldIn_nonneg other old
  have hown : activeReserve (s.save submission.obligation).obligations currency ≤
      available currency + epsilon12 := by
    have hamount : heldIn currency submission.obligation =
        submission.obligation.reservedAmount := by
      rw [heldIn, if_pos ⟨by simp [OrderObligation.isActive, hopened.status], hcurrency⟩]
      exact hremaining
    show activeReserve (upsert _ _ _) currency ≤ _
    rw [activeReserve_upsert h.keys, hamount]
    rw [reservedElsewhere_eq h.keys, hcurrency] at hchecked
    linarith
  refine ⟨nodup_keys_upsert h.keys, ?_, h.locks.sublist (List.filter_sublist.map _), ?_,
    h.previews, ?_⟩
  · intro obligation hobligation
    rcases mem_upsert.mp hobligation with rfl | ⟨hobligation, -⟩
    · exact hheld
    · exact h.held obligation hobligation
  · intro rest hrest hrestNew
    obtain ⟨hrest, hne⟩ := List.mem_filter.mp hrest
    obtain ⟨hrestOpened, hrestChecked⟩ := h.checked rest hrest hrestNew
    refine ⟨hrestOpened, ?_⟩
    have hless := (hother rest.obligation.reserveCurrency (by simpa using hne)
      rest.obligation.clientOrderId).2
    show reservedElsewhere (s.save submission.obligation).obligations _ _ + _ ≤ _
    linarith
  · intro other hreserved
    by_cases heq : other = currency
    · rw [heq]
      exact hown
    · rcases List.mem_cons.mp hreserved with hsame | hreserved
      · exact absurd hsame heq
      · exact (hother other heq "").1.trans (h.bound other hreserved)

theorem WithinBalance.step (h : WithinBalance available s) {label : ReservationLabel}
    (hok : FindsReadRow s label) {next : ReservationState}
    (hstep : s.step path available label = some next) : WithinBalance available next := by
  cases label with
  | submit obligation =>
    simp only [ReservationState.step] at hstep
    split at hstep
    · cases hstep
    · next hfree =>
      obtain rfl := Option.some.inj hstep
      obtain ⟨hunlocked, hopened⟩ := not_or.mp hfree
      exact h.submit (not_not.mp hopened) (by simpa using hunlocked)
  | rollback currency =>
    simp only [ReservationState.step] at hstep
    split at hstep
    · obtain rfl := Option.some.inj hstep
      exact h.unlock currency
    · cases hstep
  | commit currency =>
    simp only [ReservationState.step] at hstep
    split at hstep
    · cases hstep
    · next submission hsubmission =>
      obtain rfl := Option.some.inj hstep
      by_cases hnew : submission.isNew = true
      · simp only [hnew, if_true]
        exact h.commit_new hsubmission hnew
      · -- the obligation of the order is written again as it is
        have hrow := hok submission hsubmission (by simpa using hnew)
        have hheld := h.held _ (mem_of_lookup hrow)
        simp only [hnew, if_false, Bool.false_eq_true]
        exact (h.save hrow (Shrinks.refl hheld)).unlock currency
  | preview task clientOrderId op =>
    simp only [ReservationState.step] at hstep
    split at hstep
    · cases hstep
    · obtain rfl := Option.some.inj hstep
      refine ⟨h.keys, h.held, h.locks, h.checked, ?_, h.bound⟩
      intro other p hmem
      rcases List.mem_append.mp hmem with hmem | hmem
      · exact h.previews other p hmem
      · obtain ⟨-, rfl⟩ := Prod.mk.inj (List.mem_singleton.mp hmem)
        cases op <;> rfl
  | write task written =>
    simp only [ReservationState.step] at hstep
    split at hstep
    · cases hstep
    · next p hp =>
      have hrest : WithinBalance available
          { s with inFlight := s.inFlight.filter (·.1 ≠ task) } :=
        ⟨h.keys, h.held, h.locks, h.checked,
          fun other q hmem => h.previews other q (List.mem_of_mem_filter hmem), h.bound⟩
      cases written with
      | none =>
        obtain rfl := Option.some.inj hstep
        exact hrest
      | some obligation =>
        simp only [] at hstep
        split at hstep
        · next hcandidate =>
          obtain rfl := Option.some.inj hstep
          have hread : s.row obligation.clientOrderId = p.read := hok p hp
          obtain ⟨⟨other, q⟩, hfound, rfl⟩ := Option.map_eq_some_iff.mp hp
          have hpreview := h.previews other q (List.mem_of_find?_eq_some hfound)
          cases hrow : q.read with
          | none =>
            rw [hpreview, hrow] at hcandidate
            exact absurd hcandidate candidates_of_none
          | some old =>
            rw [hrow] at hread
            rw [hpreview, hrow] at hcandidate
            exact hrest.save hread
              (Shrinks.of_candidate (h.held old (mem_of_lookup hread)) hcandidate)
        · cases hstep

end Steps

/-! ### Whole runs -/

/-- A table with one row for each order, whose obligations are active or settled, and nothing under
way. -/
structure ReservationState.Idle (s : ReservationState) : Prop where
  keys : (s.obligations.map OrderObligation.clientOrderId).Nodup
  held : ∀ obligation ∈ s.obligations, obligation.Held
  submissions : s.submissions = []
  inFlight : s.inFlight = []
  reservedIn : s.reservedIn = []

theorem withinBalance_start {available : String → ℚ} {s : ReservationState} (h : s.Idle) :
    WithinBalance available s := by
  refine ⟨h.keys, h.held, by simp [h.submissions], by simp [h.submissions], ?_, ?_⟩
  · intro task p hmem
    rw [h.inFlight] at hmem
    cases hmem
  · intro currency hmem
    rw [h.reservedIn] at hmem
    cases hmem

/-- **Reservations stay within the balance.**  From the first reservation in a currency on, its
active obligations hold no more than what is available, in every run whose writes find the rows
they have read. A submission that would exceed it is blocked and changes nothing. -/
theorem reservations_within_balance (path : ReservationPath) (available : String → ℚ)
    (start : ReservationState) (hstart : start.Idle) (labels : List ReservationLabel)
    (s : ReservationState) (hrun : run (ReservationState.step path available) start labels = some s)
    (hmeets : Meets (ReservationState.step path available) FindsReadRow start labels) :
    (∀ currency ∈ s.reservedIn,
      activeReserve s.obligations currency ≤ available currency + epsilon12) ∧
    ∀ obligation next, s.step path available (.submit obligation) = some next →
      s.row obligation.clientOrderId = none →
      available obligation.reserveCurrency + epsilon12 <
        reservedElsewhere s.obligations obligation.reserveCurrency obligation.clientOrderId +
          obligation.reservedAmount →
      next = s := by
  have hwithin : WithinBalance available s :=
    run_invariant_of_meets (fun _ _ _ h hok hstep => h.step hok hstep)
      (withinBalance_start hstart) hmeets hrun
  refine ⟨hwithin.bound, ?_⟩
  intro obligation next hstep hrow hexceeds
  simp only [ReservationState.step] at hstep
  split at hstep
  · cases hstep
  · obtain rfl := Option.some.inj hstep
    have hinsufficient : insufficientBalance (available obligation.reserveCurrency) s.obligations
        obligation = true := by
      unfold insufficientBalance
      apply decide_eq_true
      linarith
    unfold ReservationState.submit
    rw [hrow]
    simp only [hinsufficient, if_true]

instance (s : ReservationState) (label : ReservationLabel) : Decidable (FindsReadRow s label) :=
  match label with
  | .submit _ => .isTrue trivial
  | .commit currency =>
    inferInstanceAs (Decidable (∀ submission ∈ s.submission currency, _ → _))
  | .rollback _ => .isTrue trivial
  | .preview _ _ _ => .isTrue trivial
  | .write _ none => .isTrue trivial
  | .write task (some _) => inferInstanceAs (Decidable (∀ p ∈ s.previewed task, _))

/-- An order that reserves 100 USDT. -/
def reserveHundred (clientOrderId : String) : OrderObligation :=
  { hundredReserved with clientOrderId := clientOrderId }

def cancelation : FillOperation :=
  .batch { status := .canceled, requestedQty := 1, remainingQty := 1 } []

/-- Half of the first order is filled, the rest of it canceled, and a second one submitted. -/
def cancelThenReserve : List ReservationLabel :=
  [.submit (reserveHundred "o1"), .commit "USDT",
    .preview 1 "o1" (.single (plainFill "f1" (1 / 2) 100)),
    .write 1 (some (applyFillToObligation (plainFill "f1" (1 / 2) 100) (reserveHundred "o1"))),
    .submit (reserveHundred "o2")]

/-- The fill is previewed, the order canceled, a second one checked, and then the fill is written
over the cancellation. -/
def fillOverCancel : List ReservationLabel :=
  [.submit (reserveHundred "o1"), .commit "USDT",
    .preview 1 "o1" (.single (plainFill "f1" (1 / 2) 100)), .preview 2 "o1" cancelation,
    .write 2 (some { reserveHundred "o1" with releasedAmount := 100, status := .canceled }),
    .submit (reserveHundred "o2"),
    .write 1 (some (applyFillToObligation (plainFill "f1" (1 / 2) 100) (reserveHundred "o1"))),
    .commit "USDT"]

theorem reservations_within_balance_cancelThenReserve :
    Meets (ReservationState.step .guarded (fun _ => 100)) FindsReadRow { obligations := [] }
      cancelThenReserve ∧
    ∃ s, run (ReservationState.step .guarded (fun _ => 100)) { obligations := [] }
        cancelThenReserve = some s ∧
      s.reservedIn = ["USDT"] ∧ s.submissions = [] ∧
      activeReserve s.obligations "USDT" ≤ 100 + epsilon12 := by
  have hmeets : Meets (ReservationState.step .guarded (fun _ => 100)) FindsReadRow
      { obligations := [] } cancelThenReserve := by
    decide +kernel
  have hend : (run (ReservationState.step .guarded (fun _ => 100)) { obligations := [] }
      cancelThenReserve).map (fun s => (s.reservedIn, s.submissions)) = some (["USDT"], []) := by
    decide +kernel
  obtain ⟨s, hrun, hs⟩ := Option.map_eq_some_iff.mp hend
  obtain ⟨hreserved, hsubmissions⟩ := Prod.mk.inj hs
  obtain ⟨hbound, -⟩ := reservations_within_balance .guarded (fun _ => 100) { obligations := [] }
    ⟨by simp, by simp, rfl, rfl, rfl⟩ cancelThenReserve s hrun hmeets
  exact ⟨hmeets, s, hrun, hreserved, hsubmissions, hbound "USDT" (by simp [hreserved])⟩

theorem reservations_exceed_balance :
    ¬ ∃ path : ReservationPath, ∀ (start : ReservationState) (labels : List ReservationLabel)
      (s : ReservationState), start.Idle →
      run (ReservationState.step path (fun _ => 100)) start labels = some s →
      ∀ currency ∈ s.reservedIn, activeReserve s.obligations currency ≤ 100 + epsilon12 := by
  rintro ⟨path, hclaim⟩
  have hend : (run (ReservationState.step path (fun _ => 100)) { obligations := [] }
      fillOverCancel).map (fun s => (s.reservedIn, activeReserve s.obligations "USDT")) =
      some (["USDT", "USDT"], 150) := by
    cases path <;> decide +kernel
  obtain ⟨s, hrun, hs⟩ := Option.map_eq_some_iff.mp hend
  obtain ⟨hreserved, hamount⟩ := Prod.mk.inj hs
  have hbound := hclaim { obligations := [] } fillOverCancel s
    ⟨by simp, by simp, rfl, rfl, rfl⟩ hrun "USDT" (by simp [hreserved])
  rw [hamount] at hbound
  norm_num [epsilon12] at hbound

end Aats.Execution
