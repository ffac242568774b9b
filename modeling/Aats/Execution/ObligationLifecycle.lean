import Aats.Execution.ObligationRace
import Mathlib.Data.List.Nodup

/-!
# The life of an obligation

What one obligation goes through between its reservation and the end of its order: fills and
order states in any order, fills reported again, fills whose fee cannot be valued, order states
after the last one. Whatever the order of these events, the consumed amount is the sum over
the fills that were consumed, each once; nothing that was consumed or released comes back.

A terminal order state releases what is left. It leaves alone an obligation that counts as
settled already, so a remainder of up to the tolerance may stay (`residue_stays`).

## Main results
* `obligation_lifecycle` — the books of an obligation after any list of events, and the preview
  of a batch as the steps through the store.
-/

namespace Aats.Execution

/-! ### Events -/

inductive ObligationEvent
  | fill (fill : FillEvent)
  | orderState (orderState : OrderState)
  deriving DecidableEq

/-- One event applied; an order state that finalizes nothing leaves the obligation. -/
def applyEvent (obligation : OrderObligation) : ObligationEvent → OrderObligation
  | .fill fill => applyFillToObligation fill obligation
  | .orderState orderState =>
    (applyFinalizationToObligation orderState (some obligation)).getD obligation

def applyEvents (obligation : OrderObligation) (events : List ObligationEvent) : OrderObligation :=
  events.foldl applyEvent obligation

def fillsOf (events : List ObligationEvent) : List FillEvent :=
  events.filterMap fun
    | .fill fill => some fill
    | .orderState _ => none

/-- The amount `_fill_consumption_amount` returns: zero for a fee that cannot be valued. -/
def consumptionAmount (obligation : OrderObligation) (fill : FillEvent) : ℚ :=
  match fillConsumptionAmount fill obligation with
  | .ok amount => amount
  | .error _ => 0

def OrderObligation.release (obligation : OrderObligation) (status : ObligationStatus) :
    OrderObligation :=
  { obligation with
    releasedAmount := obligation.releasedAmount + max (remainingObligationAmount obligation) 0
    status := status }

section fields

variable (o : OrderObligation) (status : ObligationStatus)

@[simp] theorem release_consumedFillIds : (o.release status).consumedFillIds = o.consumedFillIds :=
  rfl

@[simp] theorem release_blockedFillIds : (o.release status).blockedFillIds = o.blockedFillIds := rfl

@[simp] theorem release_consumedAmount : (o.release status).consumedAmount = o.consumedAmount := rfl

end fields

theorem remainingObligationAmount_nonneg (o : OrderObligation) : 0 ≤ remainingObligationAmount o :=
  le_max_right _ _

@[simp] theorem remainingObligationAmount_release (o : OrderObligation) (status : ObligationStatus) :
    remainingObligationAmount (o.release status) = 0 := by
  have hrem : o.reservedAmount - o.consumedAmount - o.releasedAmount ≤ remainingObligationAmount o :=
    le_max_left _ _
  have hmax : remainingObligationAmount o ≤ max (remainingObligationAmount o) 0 := le_max_left _ _
  refine max_eq_right ?_
  show o.reservedAmount - o.consumedAmount -
    (o.releasedAmount + max (remainingObligationAmount o) 0) ≤ 0
  linarith

theorem applyEvent_orderState (o : OrderObligation) (s : OrderState) :
    (applyEvent o (.orderState s) = o ∧ s.status.isTerminal = false) ∨
    (applyEvent o (.orderState s) = o ∧ s.status.isTerminal = true ∧ o.Settled) ∨
    (applyEvent o (.orderState s) = o.release (finalObligationStatus s.status) ∧
      s.status.isTerminal = true ∧ ¬ o.Settled) := by
  cases ht : s.status.isTerminal with
  | false =>
    left
    simp [applyEvent, applyFinalizationToObligation, ht]
  | true =>
    right
    have hsettled : o.Settled ↔ remainingObligationAmount o ≤ epsilon12 ∧
        (o.status = .released ∨ o.status = .canceled ∨ o.status = .failed) := by
      unfold OrderObligation.Settled
      cases o.status <;> simp
    by_cases hdone : o.Settled
    · left
      refine ⟨?_, rfl, hdone⟩
      have hd := hsettled.mp hdone
      simp only [applyEvent, applyFinalizationToObligation, ht, not_true_eq_false, if_false,
        if_pos hd, Option.getD_some]
    · right
      refine ⟨?_, rfl, hdone⟩
      have hd := fun h => hdone (hsettled.mpr h)
      simp only [applyEvent, applyFinalizationToObligation, ht, not_true_eq_false, if_false,
        if_neg hd, Option.getD_some, OrderObligation.release]

/-! ### One event -/

theorem consumptionAmount_congr {a b : OrderObligation} (hp : a.productType = b.productType)
    (hr : a.reserveCurrency = b.reserveCurrency) : consumptionAmount a = consumptionAmount b := by
  funext fill
  unfold consumptionAmount fillConsumptionAmount
  rw [hp, hr]

/-- What one event does to the books of an obligation: `used` holds the fill if it was
consumed. -/
structure EventBooks (before after : OrderObligation) (event : ObligationEvent) : Prop where
  used : ∃ used : List FillEvent, used.Sublist (fillsOf [event]) ∧
    after.consumedFillIds = before.consumedFillIds ++ used.map (·.fillId) ∧
    after.consumedAmount = before.consumedAmount + (used.map (consumptionAmount before)).sum
  sameAmounts : consumptionAmount after = consumptionAmount before
  consumed_le : before.consumedAmount ≤ after.consumedAmount
  released_le : before.releasedAmount ≤ after.releasedAmount
  remaining_le : remainingObligationAmount after ≤ remainingObligationAmount before
  distinct : (before.consumedFillIds ++ before.blockedFillIds).Nodup →
    (after.consumedFillIds ++ after.blockedFillIds).Nodup

theorem EventBooks.refl (o : OrderObligation) (event : ObligationEvent) : EventBooks o o event where
  used := ⟨[], List.nil_sublist _, by simp, by simp⟩
  sameAmounts := rfl
  consumed_le := le_rfl
  released_le := le_rfl
  remaining_le := le_rfl
  distinct := id

theorem eventBooks_fill (o : OrderObligation) (fill : FillEvent) :
    EventBooks o (applyEvent o (.fill fill)) (.fill fill) := by
  show EventBooks o (applyFillToObligation fill o) (.fill fill)
  by_cases hc : fill.fillId ∈ o.consumedFillIds
  · have he : applyFillToObligation fill o = o := by simp [applyFillToObligation, hc]
    rw [he]
    exact EventBooks.refl o _
  by_cases hb : fill.fillId ∈ o.blockedFillIds
  · have he : applyFillToObligation fill o = o := by simp [applyFillToObligation, hb]
    rw [he]
    exact EventBooks.refl o _
  rcases applyFillToObligation_cases fill o with
    he | ⟨details, -, he⟩ | ⟨amount, hamount, hlt, -, -, he⟩
  · rw [he]
    exact EventBooks.refl o _
  · -- the fill is noted and consumes nothing
    rw [he]
    constructor
    · exact ⟨[], List.nil_sublist _, by simp, by simp⟩
    · exact consumptionAmount_congr rfl rfl
    · exact le_rfl
    · exact le_rfl
    · exact le_rfl
    · intro h
      show (o.consumedFillIds ++ (o.blockedFillIds ++ [fill.fillId])).Nodup
      rw [← List.append_assoc]
      exact List.nodup_append_comm.mp (List.nodup_cons.mpr ⟨by simp [hc, hb], h⟩)
  · rw [he]
    have hpos : 0 ≤ amount := (epsilon12_pos.trans hlt).le
    constructor
    · refine ⟨[fill], by simp [fillsOf], by simp, ?_⟩
      simp [consumptionAmount, hamount]
    · exact consumptionAmount_congr rfl rfl
    · rw [consume_consumedAmount]
      linarith
    · exact le_rfl
    · exact remainingObligationAmount_consume_le o fill.fillId hpos
    · intro h
      show ((o.consumedFillIds ++ [fill.fillId]) ++ o.blockedFillIds).Nodup
      rw [List.append_assoc]
      exact List.nodup_middle.mpr (List.nodup_cons.mpr ⟨by simp [hc, hb], h⟩)

theorem eventBooks_orderState (o : OrderObligation) (s : OrderState) :
    EventBooks o (applyEvent o (.orderState s)) (.orderState s) := by
  rcases applyEvent_orderState o s with ⟨he, -⟩ | ⟨he, -, -⟩ | ⟨he, -, -⟩
  · rw [he]
    exact EventBooks.refl o _
  · rw [he]
    exact EventBooks.refl o _
  · rw [he]
    constructor
    · exact ⟨[], List.nil_sublist _, by simp, by simp⟩
    · exact consumptionAmount_congr rfl rfl
    · exact le_rfl
    · exact le_add_of_nonneg_right (le_max_right _ _)
    · rw [remainingObligationAmount_release]
      exact remainingObligationAmount_nonneg o
    · exact id

theorem eventBooks (o : OrderObligation) (event : ObligationEvent) :
    EventBooks o (applyEvent o event) event := by
  cases event with
  | fill fill => exact eventBooks_fill o fill
  | orderState s => exact eventBooks_orderState o s

/-! ### Lists of events -/

@[simp] theorem applyEvents_nil (o : OrderObligation) : applyEvents o [] = o := rfl

@[simp] theorem applyEvents_cons (o : OrderObligation) (event : ObligationEvent)
    (events : List ObligationEvent) :
    applyEvents o (event :: events) = applyEvents (applyEvent o event) events := rfl

theorem applyEvents_append (o : OrderObligation) (before after : List ObligationEvent) :
    applyEvents o (before ++ after) = applyEvents (applyEvents o before) after :=
  List.foldl_append

theorem fillsOf_cons (event : ObligationEvent) (events : List ObligationEvent) :
    fillsOf (event :: events) = fillsOf [event] ++ fillsOf events := by
  cases event <;> rfl

theorem consumed_applyEvents (o : OrderObligation) (events : List ObligationEvent) :
    ∃ used : List FillEvent, used.Sublist (fillsOf events) ∧
      (applyEvents o events).consumedFillIds = o.consumedFillIds ++ used.map (·.fillId) ∧
      (applyEvents o events).consumedAmount =
        o.consumedAmount + (used.map (consumptionAmount o)).sum := by
  induction events generalizing o with
  | nil => exact ⟨[], List.nil_sublist _, by simp, by simp⟩
  | cons event events ih =>
    have hb := eventBooks o event
    obtain ⟨first, hfirst, hids, hamount⟩ := hb.used
    obtain ⟨rest, hrest, hids', hamount'⟩ := ih (applyEvent o event)
    refine ⟨first ++ rest, ?_, ?_, ?_⟩
    · rw [fillsOf_cons]
      exact hfirst.append hrest
    · rw [applyEvents_cons, hids', hids, List.map_append, List.append_assoc]
    · rw [applyEvents_cons, hamount', hamount, hb.sameAmounts, List.map_append, List.sum_append,
        add_assoc]

theorem monotone_applyEvents (o : OrderObligation) (events : List ObligationEvent) :
    o.consumedAmount ≤ (applyEvents o events).consumedAmount ∧
    o.releasedAmount ≤ (applyEvents o events).releasedAmount ∧
    remainingObligationAmount (applyEvents o events) ≤ remainingObligationAmount o := by
  induction events generalizing o with
  | nil => exact ⟨le_rfl, le_rfl, le_rfl⟩
  | cons event events ih =>
    have hb := eventBooks o event
    obtain ⟨hc, hr, hrem⟩ := ih (applyEvent o event)
    exact ⟨hb.consumed_le.trans hc, hb.released_le.trans hr, hrem.trans hb.remaining_le⟩

theorem distinct_applyEvents {o : OrderObligation} (events : List ObligationEvent)
    (h : (o.consumedFillIds ++ o.blockedFillIds).Nodup) :
    ((applyEvents o events).consumedFillIds ++ (applyEvents o events).blockedFillIds).Nodup := by
  induction events generalizing o with
  | nil => exact h
  | cons event events ih => exact ih ((eventBooks o event).distinct h)

theorem remaining_terminal {o : OrderObligation} {s : OrderState} (ht : s.status.isTerminal = true) :
    (o.Settled ∧ applyEvent o (.orderState s) = o) ∨
      remainingObligationAmount (applyEvent o (.orderState s)) = 0 := by
  rcases applyEvent_orderState o s with ⟨-, hopen⟩ | ⟨he, -, hs⟩ | ⟨he, -, -⟩
  · rw [ht] at hopen
    cases hopen
  · exact .inl ⟨hs, he⟩
  · right
    rw [he, remainingObligationAmount_release]

/-! ### The store -/

/-- The obligation store: `save_obligation` files an obligation under its own order. -/
structure ObligationRepo where
  getObligation : String → Option OrderObligation
  keyed : ∀ id o, getObligation id = some o → o.clientOrderId = id

def ObligationRepo.saveObligation (repo : ObligationRepo) (obligation : OrderObligation) :
    ObligationRepo where
  getObligation := fun id =>
    if id = obligation.clientOrderId then some obligation else repo.getObligation id
  keyed := by
    intro id o h
    split at h
    · next hid =>
      cases h
      exact hid.symm
    · exact repo.keyed id o h

@[simp] theorem getObligation_saveObligation_self (repo : ObligationRepo) (o : OrderObligation) :
    (repo.saveObligation o).getObligation o.clientOrderId = some o :=
  if_pos rfl

def previewObligationForFill (repo : ObligationRepo) (fill : FillEvent) : Option OrderObligation :=
  (repo.getObligation fill.clientOrderId).map (applyFillToObligation fill)

def previewObligationForOrderState (repo : ObligationRepo) (orderState : OrderState) :
    Option OrderObligation :=
  applyFinalizationToObligation orderState (repo.getObligation orderState.clientOrderId)

/-- The previewed obligation is persisted and returned; without one there is nothing to do. -/
def persistPreviewed (repo : ObligationRepo) :
    Option OrderObligation → ObligationRepo × Option OrderObligation
  | none => (repo, none)
  | some updated => (repo.saveObligation updated, some updated)

def consumeForFill (repo : ObligationRepo) (fill : FillEvent) :
    ObligationRepo × Option OrderObligation :=
  persistPreviewed repo (previewObligationForFill repo fill)

def finalizeForOrderState (repo : ObligationRepo) (orderState : OrderState) :
    ObligationRepo × Option OrderObligation :=
  persistPreviewed repo (previewObligationForOrderState repo orderState)

/-- `consume_for_fill` for each fill in turn: the store at the end and what each call returned. -/
def consumeForFills (repo : ObligationRepo) :
    List FillEvent → ObligationRepo × List (Option OrderObligation)
  | [] => (repo, [])
  | fill :: fills =>
    let first := consumeForFill repo fill
    let rest := consumeForFills first.1 fills
    (rest.1, first.2 :: rest.2)

/-- `preview_chained_fill_obligations_and_finalize`: the obligation is read once, under the order
of the first fill. -/
def previewChained (repo : ObligationRepo) (fills : List FillEvent) (orderState : OrderState) :
    List (Option OrderObligation) × Option OrderObligation :=
  match fills with
  | [] => ([], previewObligationForOrderState repo orderState)
  | fill :: _ =>
    previewChainedFillObligationsAndFinalize (repo.getObligation fill.clientOrderId) fills orderState

@[simp] theorem clientOrderId_applyFillToObligation (fill : FillEvent) (o : OrderObligation) :
    (applyFillToObligation fill o).clientOrderId = o.clientOrderId := by
  rcases applyFillToObligation_cases fill o with he | ⟨_, -, he⟩ | ⟨_, -, -, -, -, he⟩ <;>
    rw [he] <;> rfl

theorem consumeForFills_eq {clientOrderId : String} (fills : List FillEvent) (repo : ObligationRepo)
    (h : ∀ f ∈ fills, f.clientOrderId = clientOrderId) :
    (consumeForFills repo fills).2 = chainFills (repo.getObligation clientOrderId) fills ∧
    (consumeForFills repo fills).1.getObligation clientOrderId =
      chainEnd (repo.getObligation clientOrderId) fills := by
  induction fills generalizing repo with
  | nil => exact ⟨by simp [consumeForFills, chainFills], by simp [consumeForFills, chainEnd]⟩
  | cons fill fills ih =>
    have hid : fill.clientOrderId = clientOrderId := h fill List.mem_cons_self
    have hrest := ih (consumeForFill repo fill).1 fun f hf => h f (List.mem_cons_of_mem _ hf)
    cases hget : repo.getObligation clientOrderId with
    | none =>
      have hnone : consumeForFill repo fill = (repo, none) := by
        simp [consumeForFill, previewObligationForFill, hid, hget, persistPreviewed]
      rw [hnone, hget] at hrest
      simp only [consumeForFills, hnone, chainFills, chainEnd, hrest.1, hrest.2, true_and]
      cases fills <;> rfl
    | some o =>
      have hsome : consumeForFill repo fill =
          (repo.saveObligation (applyFillToObligation fill o), some (applyFillToObligation fill o)) := by
        simp [consumeForFill, previewObligationForFill, hid, hget, persistPreviewed]
      have hread : (repo.saveObligation (applyFillToObligation fill o)).getObligation clientOrderId =
          some (applyFillToObligation fill o) := by
        have hself := getObligation_saveObligation_self repo (applyFillToObligation fill o)
        rwa [clientOrderId_applyFillToObligation, repo.keyed _ _ hget] at hself
      rw [hsome, hread] at hrest
      simp only [consumeForFills, hsome, chainFills, chainEnd, hrest.1, hrest.2, and_self]

theorem previewChained_eq (repo : ObligationRepo) {fills : List FillEvent} {orderState : OrderState}
    (h : ∀ f ∈ fills, f.clientOrderId = orderState.clientOrderId) :
    previewChained repo fills orderState =
      ((consumeForFills repo fills).2,
        (finalizeForOrderState (consumeForFills repo fills).1 orderState).2) := by
  have hfinal : ∀ next : ObligationRepo, (finalizeForOrderState next orderState).2 =
      applyFinalizationToObligation orderState (next.getObligation orderState.clientOrderId) := by
    intro next
    unfold finalizeForOrderState previewObligationForOrderState
    cases applyFinalizationToObligation orderState (next.getObligation orderState.clientOrderId) <;>
      rfl
  cases fills with
  | nil => rw [hfinal]; rfl
  | cons fill fills =>
    obtain ⟨hper, hend⟩ := consumeForFills_eq (fill :: fills) repo h
    rw [hfinal, hper, hend]
    simp only [previewChained, previewChainedFillObligationsAndFinalize,
      h fill List.mem_cons_self]

/-! ### The whole life -/

structure LifecycleBooks (start : OrderObligation) (events : List ObligationEvent) : Prop where
  /-- Every fill is noted once, as consumed or as blocked. -/
  distinct : (start.consumedFillIds ++ start.blockedFillIds).Nodup →
    (applyEvents start events).consumedFillIds.Nodup ∧
    (applyEvents start events).blockedFillIds.Nodup ∧
    (applyEvents start events).consumedFillIds.Disjoint (applyEvents start events).blockedFillIds
  /-- The consumed amount is the sum over the consumed fills. -/
  consumed : ∃ used : List FillEvent, used.Sublist (fillsOf events) ∧
    (applyEvents start events).consumedFillIds = start.consumedFillIds ++ used.map (·.fillId) ∧
    (applyEvents start events).consumedAmount =
      start.consumedAmount + (used.map (consumptionAmount start)).sum
  /-- From any point on, consumed and released do not decrease and the rest does not grow. -/
  monotone : ∀ before after, events = before ++ after →
    (applyEvents start before).consumedAmount ≤ (applyEvents start events).consumedAmount ∧
    (applyEvents start before).releasedAmount ≤ (applyEvents start events).releasedAmount ∧
    remainingObligationAmount (applyEvents start events) ≤
      remainingObligationAmount (applyEvents start before)
  /-- After a terminal order state nothing remains, except what had remained of an obligation
  that was settled before. -/
  settled : ∀ before s after, events = before ++ .orderState s :: after →
    s.status.isTerminal = true →
    remainingObligationAmount (applyEvents start events) ≤ epsilon12 ∧
    (¬ (applyEvents start before).Settled →
      remainingObligationAmount (applyEvents start events) = 0)

/-- **The life of an obligation.**  Through any events the fills are noted once each, the amounts
add up and only grow, and a terminal order state releases what is left for good. The preview of a
batch of the fills of an order is what consuming them one after the other and finalizing gives. -/
theorem obligation_lifecycle :
    (∀ start events, LifecycleBooks start events) ∧
    ∀ (repo : ObligationRepo) (fills : List FillEvent) (orderState : OrderState),
      (∀ f ∈ fills, f.clientOrderId = orderState.clientOrderId) →
      previewChained repo fills orderState =
        ((consumeForFills repo fills).2,
          (finalizeForOrderState (consumeForFills repo fills).1 orderState).2) := by
  refine ⟨fun start events => ?_, fun repo _ _ h => previewChained_eq repo h⟩
  constructor
  · intro h
    have hd := distinct_applyEvents events h
    obtain ⟨hc, hb, hdis⟩ := List.nodup_append'.mp hd
    exact ⟨hc, hb, hdis⟩
  · exact consumed_applyEvents start events
  · rintro before after rfl
    rw [applyEvents_append]
    exact monotone_applyEvents _ after
  · rintro before s after rfl ht
    rw [applyEvents_append, applyEvents_cons]
    obtain ⟨-, -, hrem⟩ := monotone_applyEvents
      (applyEvent (applyEvents start before) (.orderState s)) after
    have hnonneg := remainingObligationAmount_nonneg
      (applyEvents (applyEvent (applyEvents start before) (.orderState s)) after)
    rcases remaining_terminal (o := applyEvents start before) ht with ⟨hs, he⟩ | hzero
    · rw [he] at hrem ⊢
      exact ⟨hrem.trans hs.1, fun hn => absurd hs hn⟩
    · rw [hzero] at hrem
      exact ⟨hrem.trans epsilon12_pos.le, fun _ => le_antisymm hrem hnonneg⟩

/-- A fresh reservation of one dollar for the order `o-1`. -/
def dollarObligation : OrderObligation :=
  { clientOrderId := "o-1", symbol := "BTC-USDT", reserveCurrency := "USDT", reservedAmount := 1 }

/-- A fill of the order `o-1` at a given price, without a fee. -/
def dollarFill (fillId : String) (qty price : ℚ) : FillEvent :=
  { fillId := fillId, clientOrderId := "o-1", symbol := "BTC-USDT", side := .buy, fillQty := qty,
    fillPrice := price, feeAmount := 0 }

/-- The order `o-1` with a given status. -/
def dollarOrder (status : OrderStatus) : OrderState :=
  { clientOrderId := "o-1", status := status, requestedQty := 1, remainingQty := 0 }

def dollarRepo : ObligationRepo where
  getObligation := fun id => if id = "o-1" then some dollarObligation else none
  keyed := by
    intro id o h
    split at h
    · next hid =>
      cases h
      exact hid.symm
    · cases h

theorem obligation_lifecycle_half :
    ((applyEvents dollarObligation [.fill (dollarFill "f-1" 1 (1 / 2)),
        .fill (dollarFill "f-1" 1 (1 / 2)), .orderState (dollarOrder .canceled)]).consumedFillIds.Nodup ∧
      remainingObligationAmount (applyEvents dollarObligation [.fill (dollarFill "f-1" 1 (1 / 2)),
        .fill (dollarFill "f-1" 1 (1 / 2)), .orderState (dollarOrder .canceled)]) = 0) ∧
    previewChained dollarRepo [dollarFill "f-1" 1 (1 / 2)] (dollarOrder .canceled) =
      ((consumeForFills dollarRepo [dollarFill "f-1" 1 (1 / 2)]).2,
        (finalizeForOrderState (consumeForFills dollarRepo [dollarFill "f-1" 1 (1 / 2)]).1
          (dollarOrder .canceled)).2) := by
  refine ⟨⟨?_, ?_⟩, ?_⟩
  · exact ((obligation_lifecycle.1 dollarObligation _).distinct (by decide)).1
  · exact ((obligation_lifecycle.1 dollarObligation _).settled [.fill (dollarFill "f-1" 1 (1 / 2)),
      .fill (dollarFill "f-1" 1 (1 / 2))] (dollarOrder .canceled) [] rfl rfl).2 (by decide +kernel)
  · exact obligation_lifecycle.2 dollarRepo _ _ (by decide)

/-- A fill that leaves half of the tolerance settles the obligation, and the filled order that
follows releases nothing. -/
theorem residue_stays :
    ¬ ∀ (start : OrderObligation) (before : List ObligationEvent) (s : OrderState),
      s.status.isTerminal = true →
      remainingObligationAmount (applyEvents start (before ++ [.orderState s])) = 0 := by
  intro h
  have hrest := h dollarObligation [.fill (dollarFill "f-1" 1 (1 - epsilon12 / 2))]
    (dollarOrder .filled) rfl
  revert hrest
  decide +kernel

end Aats.Execution
