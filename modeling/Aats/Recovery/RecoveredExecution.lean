import Aats.Recovery.ExchangeOrderReconciler

/-!
# What the recovery keeps of an execution

A definite answer of the exchange says how much of a stuck order has traded, in the units of the
instrument: base quantity for spot, a number of contracts for derivatives. The reconciler hands
the number on for a closed order but stores it for a filled one only, and it does not convert
it. The adapter, which reads the same field on every other path, converts it and stores it for
every status.

## Main definitions
* `KeepsExecution` — the stored order has the larger of what it had and what was executed.

## Main results
* `reconcile_keeps_execution_iff` — **the condition is exact**.
-/

namespace Aats.Recovery

open Execution KeyedList

/-! ### Exchange units -/

/-- `ContractType`; execution refuses the third one, `inverse`. -/
inductive ContractType
  | spot
  | linear
  deriving DecidableEq, Repr

/-- `InstrumentContract`, with what the conversion of quantities reads. -/
structure InstrumentContract where
  contractType : ContractType
  contractValue : ℚ
  contractMultiplier : ℚ
  contractValue_pos : 0 < contractValue
  contractMultiplier_pos : 0 < contractMultiplier
  spotFace : contractType = .spot → contractValue = 1 ∧ contractMultiplier = 1

def InstrumentContract.faceValue (contract : InstrumentContract) : ℚ :=
  contract.contractValue * contract.contractMultiplier

/-- `base_quantity`, which `internal_quantity_from_exchange` returns. -/
def InstrumentContract.baseQuantity (contract : InstrumentContract) (quantity : ℚ) : ℚ :=
  match contract.contractType with
  | .spot => quantity
  | .linear => quantity * contract.faceValue

theorem baseQuantity_nonpos {contract : InstrumentContract} {quantity : ℚ} (h : quantity ≤ 0) :
    contract.baseQuantity quantity ≤ 0 := by
  unfold InstrumentContract.baseQuantity
  split
  · exact h
  · exact mul_nonpos_of_nonpos_of_nonneg h
      (mul_pos contract.contractValue_pos contract.contractMultiplier_pos).le

/-! ### Definite answers -/

/-- A definite answer: the exchange knows the order and names one of the states that the
reconciler handles. -/
def OrderResponse.definite (response : OrderResponse) : Option OkxOrderData :=
  match response.data with
  | some (data :: _) =>
    if response.code = "0" ∧ (updateFromData data).isSome then some data else none
  | some [] | none => none

theorem interpret_of_definite {response : OrderResponse} {data : OkxOrderData}
    (h : response.definite = some data) :
    ∃ update, updateFromData data = some update ∧
      interpretExchangeResponse response = some update := by
  unfold OrderResponse.definite at h
  split at h
  · next first rest hdata =>
    split at h
    · next hcode =>
      cases h
      obtain ⟨update, hupdate⟩ := Option.isSome_iff_exists.mp hcode.2
      refine ⟨update, hupdate, ?_⟩
      simp only [interpretExchangeResponse, hdata, hcode.1, if_true, hupdate]
    · cases h
  · cases h
  · cases h

theorem updateFromData_cases {data : OkxOrderData} {update : OrderUpdate}
    (h : updateFromData data = some update) :
    ((data.state.toLower = "live" ∨ data.state.toLower = "partially_filled") ∧
      update.state = .submitted) ∨
    (data.state.toLower = "filled" ∧ update.state = .filled ∧
      update.filledQty = data.accFillSz) ∨
    ((data.state.toLower = "canceled" ∨ data.state.toLower = "mmp_canceled") ∧
      update.state = .canceled) := by
  unfold updateFromData at h
  simp only [] at h
  split at h
  · next hlive =>
    cases h
    exact .inl ⟨hlive, rfl⟩
  · split at h
    · next hclosed =>
      cases h
      rcases hclosed with hf | hc | hm
      · exact .inr (.inl ⟨hf, if_pos hf, rfl⟩)
      · refine .inr (.inr ⟨.inl hc, if_neg ?_⟩)
        rw [hc]
        decide
      · refine .inr (.inr ⟨.inr hm, if_neg ?_⟩)
        rw [hm]
        decide
    · cases h

/-! ### The stored order -/

/-- What holds of a row that order states were saved to: its order state has its status, and a
filled quantity between nothing and what was requested, as every merge clamps it. -/
structure LedgerOrder.Stored (order : LedgerOrder) : Prop where
  status : order.orderState.status = order.row.state
  filled_nonneg : 0 ≤ order.orderState.filledQty
  filled_le : order.orderState.filledQty ≤ order.orderState.requestedQty

theorem accepted_of_awaitsAck {current next : OrderStatus} (h : awaitsAck current)
    (hvalid : validateTransition (some current) next ≠ .invalidTransition)
    (hnext : ¬ awaitsAck next) : (validateTransition (some current) next).accepted = true := by
  rcases h with rfl | rfl <;> revert hvalid hnext <;> cases next <;> simp [awaitsAck] <;> decide

theorem resolvedOrderState_requestedQty (current : OrderState) (update : OrderUpdate)
    (now : Timestamp) :
    (resolvedOrderState current update now).requestedQty = current.requestedQty := by
  unfold resolvedOrderState
  simp only []
  split <;> rfl

theorem orderState_of_saved {order saved : LedgerOrder} {state : OrderState}
    (h : order.saveOrderState state = .ok saved) :
    Execution.saveOrderState order.orderState state = .ok saved.orderState := by
  unfold LedgerOrder.saveOrderState ConvergedStore.saveOrderState at h
  simp only [] at h
  cases hmerge : Execution.saveOrderState order.row.hydrateOrderState state with
  | error e =>
    rw [hmerge] at h
    cases h
  | ok merged =>
    rw [hmerge] at h
    injection h with h
    subst h
    exact hmerge

theorem save_of_written {exchange : Exchange} {order saved : LedgerOrder} {counted : Bool}
    {update : OrderUpdate} (h : writeUpdate exchange order update = .written saved counted) :
    order.saveOrderState (resolvedOrderState order.orderState update exchange.now) = .ok saved := by
  unfold writeUpdate at h
  split at h
  · cases h
  · split at h
    · cases h
    · next stored hsave =>
      have hsaved : stored = saved := by
        split at h <;> cases h <;> rfl
      rw [hsave, hsaved]

theorem orderState_of_written {exchange : Exchange} {order saved : LedgerOrder} {counted : Bool}
    {response : OrderResponse} {data : OkxOrderData} (hstuck : order.isStuck = true)
    (hstored : order.Stored)
    (hanswer : exchange.getOrder order.row.symbol order.clientOrderId = .answered response)
    (hdefinite : response.definite = some data)
    (h : resolveOrder exchange order = .written saved counted) :
    ∃ update, updateFromData data = some update ∧
      saved.orderState = mergeAccepted order.orderState
        (resolvedOrderState order.orderState update exchange.now) := by
  obtain ⟨update, hupdate, hinterpret⟩ := interpret_of_definite hdefinite
  refine ⟨update, hupdate, ?_⟩
  unfold resolveOrder at h
  rw [hanswer] at h
  simp only [hinterpret] at h
  split at h
  · cases h
  · have hsave := orderState_of_saved (save_of_written h)
    -- the status change is accepted, since a stuck order is at the very beginning
    have hawait : awaitsAck order.orderState.status := by
      rw [hstored.status]
      exact isStuck_eq_true hstuck
    have hvalid : validateTransition (some order.orderState.status)
        (resolvedOrderState order.orderState update exchange.now).status ≠
          .invalidTransition := by
      intro hinvalid
      unfold Execution.saveOrderState at hsave
      rw [if_pos hinvalid] at hsave
      cases hsave
    have haccepted := accepted_of_awaitsAck hawait hvalid (by
      rw [resolvedOrderState_status]
      exact not_awaitsAck_interpret hinterpret)
    rw [saveOrderState_eq_ok hsave]
    simp only [merge, haccepted, if_true]

theorem filledQty_mergeAccepted {current incoming : OrderState} (hpos : 0 ≤ current.filledQty)
    (hle : current.filledQty ≤ current.requestedQty)
    (hreq : incoming.requestedQty = current.requestedQty) :
    (mergeAccepted current incoming).filledQty =
      min (max current.filledQty incoming.filledQty) current.requestedQty := by
  have hrequested : mergedRequested current incoming = current.requestedQty := by
    unfold mergedRequested
    rw [hreq, ite_self]
  have hnonneg : 0 ≤ min (max current.filledQty incoming.filledQty) current.requestedQty :=
    le_min (hpos.trans (le_max_left _ _)) (hpos.trans hle)
  unfold mergeAccepted
  rw [filledQty_normalize, OrderState.clampedFilled, mergeFields_filledQty,
    mergeFields_requestedQty, mergedFilled, hrequested, max_eq_left hnonneg, min_assoc, min_self]

/-! ### What is kept, and when -/

/-- The stored order has the larger of what it had and what the exchange has executed, at least
once it is terminal, and a filled one does not exceed what was requested. -/
def KeepsExecution (contract : InstrumentContract) (before after : OrderState)
    (accFillSz : Option ℚ) : Prop :=
  (after.status.isTerminal = true →
    after.filledQty = max before.filledQty (contract.baseQuantity (accFillSz.getD 0))) ∧
  (after.status = .filled → after.filledQty ≤ before.requestedQty)

/-- When the reconciler keeps it. A filled order: the exchange's number is the executed
quantity already and does not exceed the order, or both reach the requested quantity, or neither
exceeds what was known. A canceled one: nothing was executed beyond what was known. -/
def KeepsWhen (contract : InstrumentContract) (order : OrderState) (data : OkxOrderData) : Prop :=
  let executed := contract.baseQuantity (data.accFillSz.getD 0)
  if data.state.toLower = "filled" then
    match data.accFillSz.filter (fun qty => 0 < qty) with
    | none => order.filledQty = order.requestedQty
    | some reported =>
      (executed ≤ order.filledQty ∧
        (reported ≤ order.filledQty ∨ order.filledQty = order.requestedQty)) ∨
      (order.filledQty < executed ∧
        ((executed = reported ∧ reported ≤ order.requestedQty) ∨
          (executed = order.requestedQty ∧ order.requestedQty ≤ reported)))
  else if data.state.toLower = "live" ∨ data.state.toLower = "partially_filled" then
    order.Complete → executed ≤ order.filledQty
  else executed ≤ order.filledQty

theorem min_max_eq_max_iff {known reported executed requested : ℚ} (hle : known ≤ requested) :
    min (max known reported) requested = max known executed ↔
      (executed ≤ known ∧ (reported ≤ known ∨ known = requested)) ∨
      (known < executed ∧ ((executed = reported ∧ reported ≤ requested) ∨
        (executed = requested ∧ requested ≤ reported))) := by
  rcases le_or_gt executed known with he | he
  · rw [max_eq_left he]
    constructor
    · intro h
      left
      refine ⟨he, ?_⟩
      by_contra hcon
      push Not at hcon
      -- otherwise the report would lift an order that had executed nothing new
      have hlt : known < requested := lt_of_le_of_ne hle hcon.2
      have : known < min (max known reported) requested :=
        lt_min (lt_max_of_lt_right hcon.1) hlt
      exact this.ne' h
    · rintro (⟨-, hr | hr⟩ | ⟨hlt, -⟩)
      · rw [max_eq_left hr, min_eq_left hle]
      · rw [hr, min_eq_right (le_max_left _ _)]
      · exact absurd hlt (not_lt.mpr he)
  · rw [max_eq_right he.le]
    constructor
    · intro h
      right
      refine ⟨he, ?_⟩
      -- the clamp is inactive or gives the requested quantity
      rcases le_total reported requested with hr | hr
      · left
        rw [min_eq_left (max_le hle hr)] at h
        have hmax : max known reported = reported := by
          refine max_eq_right (le_of_lt ?_)
          by_contra hcon
          rw [max_eq_left (not_lt.mp hcon)] at h
          exact he.ne h
        exact ⟨by rw [← h, hmax], hr⟩
      · right
        rw [min_eq_right (hr.trans (le_max_right _ _))] at h
        exact ⟨h.symm, hr⟩
    · rintro (⟨hlt, -⟩ | ⟨-, ⟨rfl, hr⟩ | ⟨rfl, hr⟩⟩)
      · exact absurd he (not_lt.mpr hlt)
      · rw [max_eq_right he.le, min_eq_left hr]
      · exact min_eq_right (hr.trans (le_max_right _ _))

section Merged

variable {current : OrderState} {update : OrderUpdate} {now : Timestamp}

theorem resolvedOrderState_filledQty_of_ne (h : update.state ≠ .filled) :
    (resolvedOrderState current update now).filledQty = current.filledQty := by
  simp [resolvedOrderState, h]

theorem filledQty_mergeAccepted_of_ne (hnonneg : 0 ≤ current.filledQty)
    (hle : current.filledQty ≤ current.requestedQty) (h : update.state ≠ .filled) :
    (mergeAccepted current (resolvedOrderState current update now)).filledQty =
      current.filledQty := by
  rw [filledQty_mergeAccepted hnonneg hle (resolvedOrderState_requestedQty current update now),
    resolvedOrderState_filledQty_of_ne h, max_self, min_eq_left hle]

theorem isTerminal_mergeAccepted_of_open (hle : current.filledQty ≤ current.requestedQty)
    (h : update.state = .submitted) :
    (mergeAccepted current (resolvedOrderState current update now)).status.isTerminal = true ↔
      current.Complete := by
  have hreq := resolvedOrderState_requestedQty current update now
  have hsame : (resolvedOrderState current update now).filledQty = current.filledQty :=
    resolvedOrderState_filledQty_of_ne (by rw [h]; exact nofun)
  have hopen : update.state.isTerminal = false := by rw [h]; rfl
  have hcomplete : (mergeFields current (resolvedOrderState current update now)).Complete ↔
      current.Complete := by
    apply complete_congr
    · rw [mergeFields_requestedQty, mergedRequested, hreq, ite_self]
    · rw [mergeFields_filledQty, mergedFilled, mergedRequested, hreq, ite_self, hsame, max_self,
        min_eq_left hle]
  rw [mergeAccepted, ← hcomplete]
  constructor
  · intro ht
    by_contra hc
    rw [isTerminal_normalize_of_not_complete hc, mergeFields_status, resolvedOrderState_status,
      hopen] at ht
    cases ht
  · intro hc
    rw [normalize_status_of_complete hc]
    rfl

theorem isTerminal_mergeAccepted_resolved (h : update.state.isTerminal = true) :
    (mergeAccepted current (resolvedOrderState current update now)).status.isTerminal = true := by
  apply isTerminal_mergeAccepted
  rw [resolvedOrderState_status]
  exact h

theorem filledQty_mergeAccepted_filled (hnonneg : 0 ≤ current.filledQty)
    (hle : current.filledQty ≤ current.requestedQty) (h : update.state = .filled) :
    (mergeAccepted current (resolvedOrderState current update now)).filledQty =
      match update.filledQty.filter (fun qty => 0 < qty) with
      | none => current.requestedQty
      | some reported => min (max current.filledQty reported) current.requestedQty := by
  rw [filledQty_mergeAccepted hnonneg hle (resolvedOrderState_requestedQty current update now)]
  cases hacc : update.filledQty.filter (fun qty => 0 < qty) with
  | none =>
    have hinc : (resolvedOrderState current update now).filledQty =
        max current.filledQty current.requestedQty := by
      simp [resolvedOrderState, h, hacc]
    rw [hinc, max_eq_right (le_max_left _ _), max_eq_right hle, min_self]
  | some reported =>
    have hinc : (resolvedOrderState current update now).filledQty =
        max current.filledQty reported := by
      simp [resolvedOrderState, h, hacc]
    rw [hinc, max_eq_right (le_max_left _ _)]

end Merged

theorem getD_nonpos_of_filter_eq_none {reported : Option ℚ}
    (h : reported.filter (fun qty => 0 < qty) = none) : reported.getD 0 ≤ 0 := by
  cases hsz : reported with
  | none => exact le_rfl
  | some qty =>
    rw [hsz] at h
    by_contra hcon
    have hpos : 0 < qty := not_le.mp hcon
    simp [Option.filter, hpos] at h

theorem keepsExecution_of_written_iff {exchange : Exchange} {order saved : LedgerOrder}
    {counted : Bool} {response : OrderResponse} {data : OkxOrderData}
    (contract : InstrumentContract) (hstuck : order.isStuck = true) (hstored : order.Stored)
    (hanswer : exchange.getOrder order.row.symbol order.clientOrderId = .answered response)
    (hdefinite : response.definite = some data)
    (h : resolveOrder exchange order = .written saved counted) :
    KeepsExecution contract order.orderState saved.orderState data.accFillSz ↔
      KeepsWhen contract order.orderState data := by
  obtain ⟨update, hupdate, hsaved⟩ :=
    orderState_of_written hstuck hstored hanswer hdefinite h
  have hnonneg := hstored.filled_nonneg
  have hle := hstored.filled_le
  -- whatever is stored is clamped to the requested quantity
  have hclamped : saved.orderState.status = .filled →
      saved.orderState.filledQty ≤ order.orderState.requestedQty := by
    intro _
    rw [hsaved, filledQty_mergeAccepted hnonneg hle
      (resolvedOrderState_requestedQty order.orderState update exchange.now)]
    exact min_le_right _ _
  have hkeeps : KeepsExecution contract order.orderState saved.orderState data.accFillSz ↔
      (saved.orderState.status.isTerminal = true → saved.orderState.filledQty =
        max order.orderState.filledQty (contract.baseQuantity (data.accFillSz.getD 0))) :=
    and_iff_left hclamped
  rw [hkeeps, hsaved]
  unfold KeepsWhen
  simp only []
  rcases updateFromData_cases hupdate with ⟨hlive, hstate⟩ | ⟨hfill, hstate, hqty⟩ |
    ⟨hcancel, hstate⟩
  · -- live: nothing is taken over, and the order is terminal only if it was complete
    have hnot : ¬ data.state.toLower = "filled" := by
      rcases hlive with hl | hl <;> rw [hl] <;> decide
    rw [if_neg hnot, if_pos hlive, isTerminal_mergeAccepted_of_open hle hstate,
      filledQty_mergeAccepted_of_ne hnonneg hle (by rw [hstate]; exact nofun), eq_comm,
      max_eq_left_iff]
  · rw [if_pos hfill, isTerminal_mergeAccepted_resolved (by rw [hstate]; rfl),
      filledQty_mergeAccepted_filled hnonneg hle hstate, hqty]
    simp only [forall_const]
    cases hacc : data.accFillSz.filter (fun qty => 0 < qty) with
    | none =>
      have hexec : contract.baseQuantity (data.accFillSz.getD 0) ≤ 0 :=
        baseQuantity_nonpos (getD_nonpos_of_filter_eq_none hacc)
      simp only []
      rw [max_eq_left (hexec.trans hnonneg)]
      exact eq_comm
    | some reported => exact min_max_eq_max_iff hle
  · -- canceled: nothing is taken over either
    have hnot : ¬ data.state.toLower = "filled" := by
      rcases hcancel with hc | hc <;> rw [hc] <;> decide
    have hnot' : ¬ (data.state.toLower = "live" ∨ data.state.toLower = "partially_filled") := by
      rcases hcancel with hc | hc <;> rw [hc] <;> decide
    rw [if_neg hnot, if_neg hnot', isTerminal_mergeAccepted_resolved (by rw [hstate]; rfl),
      filledQty_mergeAccepted_of_ne hnonneg hle (by rw [hstate]; exact nofun)]
    simp only [forall_const]
    rw [eq_comm, max_eq_left_iff]

/-! ### A pass over all stuck orders -/

theorem orders_reconcileStuckOrders {exchange : Exchange} {orders openOrders : List LedgerOrder}
    (hkeys : (orders.map LedgerOrder.clientOrderId).Nodup) (hopen : openOrders.Nodup)
    (hmem : openOrders ⊆ orders) :
    (reconcileStuckOrders (some exchange) orders openOrders).orders =
      orders.map fun order =>
        if order ∈ collectStuckOrders openOrders then afterAnswer exchange order else order :=
  (reconcileAll_eq exchange (hopen.filter LedgerOrder.isStuck) { orders := orders } hkeys
    fun _ hother => hmem (List.mem_of_mem_filter hother)).1

theorem mem_orders_reconcileStuckOrders (exchange : Exchange) {orders openOrders : List LedgerOrder}
    {order : LedgerOrder} (after : LedgerOrder) (hkeys : (orders.map LedgerOrder.clientOrderId).Nodup)
    (hopen : openOrders.Nodup) (hmem : openOrders ⊆ orders)
    (horder : order ∈ collectStuckOrders openOrders) :
    (after ∈ (reconcileStuckOrders (some exchange) orders openOrders).orders ∧
      after.clientOrderId = order.clientOrderId) ↔ after = afterAnswer exchange order := by
  have hin : order ∈ orders := hmem (List.mem_of_mem_filter horder)
  rw [orders_reconcileStuckOrders hkeys hopen hmem]
  constructor
  · rintro ⟨hafter, hid⟩
    obtain ⟨other, hother, rfl⟩ := List.mem_map.mp hafter
    have hsame : other = order := by
      apply List.inj_on_of_nodup_map hkeys hother hin
      split at hid
      · rwa [clientOrderId_afterAnswer] at hid
      · exact hid
    rw [hsame, if_pos horder]
  · rintro rfl
    exact ⟨List.mem_map.mpr ⟨order, hin, if_pos horder⟩, clientOrderId_afterAnswer exchange order⟩

/-- **What a pass keeps.**  A stuck order with a definite answer that is written holds afterwards
the larger of what it had and what the exchange has executed exactly under `KeepsWhen`. -/
theorem reconcile_keeps_execution_iff (exchange : Exchange) (contract : InstrumentContract)
    (orders openOrders : List LedgerOrder) (order : LedgerOrder) (response : OrderResponse)
    (data : OkxOrderData) (hkeys : (orders.map LedgerOrder.clientOrderId).Nodup)
    (hopen : openOrders.Nodup) (hmem : openOrders ⊆ orders)
    (horder : order ∈ collectStuckOrders openOrders) (hstored : order.Stored)
    (hanswer : exchange.getOrder order.row.symbol order.clientOrderId = .answered response)
    (hdefinite : response.definite = some data)
    (hwritten : (resolveOrder exchange order).saved.isSome = true) :
    (∀ after ∈ (reconcileStuckOrders (some exchange) orders openOrders).orders,
      after.clientOrderId = order.clientOrderId →
        KeepsExecution contract order.orderState after.orderState data.accFillSz) ↔
      KeepsWhen contract order.orderState data := by
  have hstuck : order.isStuck = true := (List.mem_filter.mp horder).2
  cases hres : resolveOrder exchange order with
  | skipped => simp [hres, Resolution.saved] at hwritten
  | unreachable => simp [hres, Resolution.saved] at hwritten
  | written saved counted =>
    have hone := keepsExecution_of_written_iff contract hstuck hstored hanswer hdefinite hres
    have hsaved : afterAnswer exchange order = saved := by simp [afterAnswer, hres, Resolution.saved]
    rw [← hone]
    have hafter := fun after =>
      mem_orders_reconcileStuckOrders exchange after hkeys hopen hmem horder
    constructor
    · intro hall
      obtain ⟨hin, hid⟩ := (hafter _).mpr hsaved.symm
      exact hall saved hin hid
    · intro hkept after hin hid
      rw [(hafter after).mp ⟨hin, hid⟩, hsaved]
      exact hkept

/-- A spot order of one coin whose acknowledgement was lost. -/
def lostAck : LedgerOrder where
  row :=
    { clientOrderId := "o-1", intentId := "i-1", symbol := "BTC-USDT", venueOrderId := none,
      requestedQty := 1, state := .submitting, createdAt := 0, sourceSystem := "okx"
      orderState := some
        { clientOrderId := "o-1", intentId := "i-1", symbol := "BTC-USDT", status := .submitting,
          requestedQty := 1, remainingQty := 1 } }
  productType := .spot
  marginMode := .cash

/-- The exchange answers for every order with one state and one accumulated fill. -/
def answering (state : String) (accFillSz : ℚ) : Exchange where
  getOrder := fun _ _ =>
    .answered
      { code := "0", data := some [{ state := state, ordId := "x-1", accFillSz := some accFillSz }] }
  writer := .outbox fun _ => .committed
  now := 1

theorem unit_contractValue_pos : (0 : ℚ) < 1 := one_pos

def spotContract : InstrumentContract where
  contractType := .spot
  contractValue := 1
  contractMultiplier := 1
  contractValue_pos := unit_contractValue_pos
  contractMultiplier_pos := unit_contractValue_pos
  spotFace := fun _ => ⟨rfl, rfl⟩

theorem lostAck_stored : lostAck.Stored :=
  ⟨rfl, by decide +kernel, by decide +kernel⟩

theorem reconcile_keeps_execution_filled :
    (∀ after ∈ (reconcileStuckOrders (some (answering "filled" 1)) [lostAck] [lostAck]).orders,
      after.clientOrderId = lostAck.clientOrderId →
        KeepsExecution spotContract lostAck.orderState after.orderState (some 1)) ↔
      KeepsWhen spotContract lostAck.orderState
        { state := "filled", ordId := "x-1", accFillSz := some 1 } :=
  reconcile_keeps_execution_iff (answering "filled" 1) spotContract [lostAck] [lostAck] lostAck
    { code := "0", data := some [{ state := "filled", ordId := "x-1", accFillSz := some 1 }] }
    { state := "filled", ordId := "x-1", accFillSz := some 1 } (by decide) (by decide) (by decide)
    (by decide) lostAck_stored rfl (by decide +kernel) (by decide +kernel)

/-- **A canceled order loses its partial fill**: two fifths were executed before the cancel, and
the stored order says that nothing was. -/
theorem canceled_partial_fill_lost :
    ¬ ∀ (exchange : Exchange) (contract : InstrumentContract) (orders openOrders : List LedgerOrder)
      (order : LedgerOrder) (response : OrderResponse) (data : OkxOrderData),
      (orders.map LedgerOrder.clientOrderId).Nodup → openOrders.Nodup → openOrders ⊆ orders →
      order ∈ collectStuckOrders openOrders → order.Stored →
      exchange.getOrder order.row.symbol order.clientOrderId = .answered response →
      response.definite = some data → (resolveOrder exchange order).saved.isSome = true →
      ∀ after ∈ (reconcileStuckOrders (some exchange) orders openOrders).orders,
        after.clientOrderId = order.clientOrderId →
          KeepsExecution contract order.orderState after.orderState data.accFillSz := by
  intro h
  have hkept := h (answering "canceled" (2 / 5)) spotContract [lostAck] [lostAck] lostAck _
    { state := "canceled", ordId := "x-1", accFillSz := some (2 / 5) } (by decide) (by decide)
    (by decide) (by decide) lostAck_stored rfl (by decide +kernel) (by decide +kernel)
    (afterAnswer (answering "canceled" (2 / 5)) lostAck) (by decide +kernel) (by decide +kernel)
  have hlost := hkept.1 (by decide +kernel)
  revert hlost
  decide +kernel

end Aats.Recovery
