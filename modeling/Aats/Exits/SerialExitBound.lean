import Aats.Exits.SerialExit

/-!
# An exit sends no more than its target

What a child may still take of the target of its exit is what it has filled and, while it is open,
what it may fill yet. The dispatch loop keeps the sum of this over all children within the target
as long as nobody else sends an order of the exit between its look at the parent and the saving of
the new reference. Nothing in the code prevents that.

## Main definitions
* `Room` — what is stored leaves room for the order that is about to be recorded.
* `dispatchesApart` — no two tasks record an order at once, and what else the bound needs.

## Main results
* `serial_exit_within_target` — **the bound**, in every run of this kind.
* `overlapping_resume_over_exits` — two tasks that record an order at once.
-/

namespace Aats.Exits

open Execution Recovery Reconciliation Runs

/-! ### What an order may take of the target -/

def ExitOrder.isOpen (order : ExitOrder) : Bool :=
  (mapChildOrderStateToAggregateCategory order).isOpen

/-- What an order may take: all of it while it is open, then what it has filled. -/
def ExitOrder.exposure (order : ExitOrder) : ℚ :=
  if order.isOpen = true then order.requestedQty else order.filledQty

def ChildExitOrderRef.exposure (ref : ChildExitOrderRef) : ℚ :=
  ref.knownFilledQuantity +
    if ref.aggregateCategory.isOpen = true then ref.remainingQuantityEstimate else 0

def exposureOf (refs : List ChildExitOrderRef) : ℚ :=
  (refs.map ChildExitOrderRef.exposure).sum

def exposureAt (refs : List ChildExitOrderRef) (clientOrderId : String) : ℚ :=
  ((KeyedList.lookup ChildExitOrderRef.clientOrderId refs clientOrderId).map
    ChildExitOrderRef.exposure).getD 0

theorem filled_working_unknown_eq (refs : List ChildExitOrderRef) :
    filledOf refs + workingOf refs + unknownOf refs = exposureOf refs := by
  unfold filledOf workingOf unknownOf exposureOf
  simp only [sumOver_eq, ← List.sum_map_add]
  congr 1
  refine List.map_congr_left fun ref _ => ?_
  unfold ChildExitOrderRef.exposure
  cases ref.aggregateCategory <;> simp [ChildExitOrderCategory.isOpen]

structure Accounted (order : OrderState) : Prop where
  filled_nonneg : 0 ≤ order.filledQty
  filled_le : order.filledQty ≤ order.requestedQty
  remaining_le : order.remainingQty ≤ order.requestedQty - order.filledQty

theorem Accounted.requested_nonneg {order : OrderState} (h : Accounted order) :
    0 ≤ order.requestedQty :=
  h.filled_nonneg.trans h.filled_le

theorem exposure_nonneg {order : ExitOrder} (h : Accounted order.toOrderState) :
    0 ≤ order.exposure := by
  unfold ExitOrder.exposure
  split
  · exact h.requested_nonneg
  · exact h.filled_nonneg

theorem exposure_le_requested {order : ExitOrder} (h : Accounted order.toOrderState) :
    order.exposure ≤ order.requestedQty := by
  unfold ExitOrder.exposure
  split
  · exact le_rfl
  · exact h.filled_le

theorem exposure_childRef (exit : SerialExit) {order : ExitOrder} (now : Timestamp)
    (h : Accounted order.toOrderState) : (exit.childRef order now).exposure = order.exposure := by
  have hestimate : remainingQuantityEstimate order.toOrderState =
      order.requestedQty - order.filledQty := by
    have hpos : 0 ≤ order.requestedQty - order.filledQty := sub_nonneg.mpr h.filled_le
    unfold remainingQuantityEstimate
    simp only [max_eq_left hpos]
    split
    · exact max_eq_right h.remaining_le
    · rfl
  show order.filledQty + (if order.isOpen = true then
    remainingQuantityEstimate order.toOrderState else 0) = order.exposure
  unfold ExitOrder.exposure
  split
  · rw [hestimate]
    ring
  · rw [add_zero]

/-! ### Writing an order -/

section Write

variable {state current incoming : OrderState}

theorem accounted_normalize (hrequested : 0 ≤ state.requestedQty)
    (hremaining : state.remainingQty ≤ state.requestedQty - state.clampedFilled) :
    Accounted (normalize state) := by
  have hfilled : 0 ≤ state.clampedFilled := le_min (le_max_right _ _) hrequested
  have hle : state.clampedFilled ≤ state.requestedQty := min_le_right _ _
  refine ⟨?_, ?_, ?_⟩
  · rw [filledQty_normalize]
    exact hfilled
  · rw [filledQty_normalize, requestedQty_normalize]
    exact hle
  · rw [filledQty_normalize, requestedQty_normalize]
    have hpos : 0 ≤ state.requestedQty - state.clampedFilled := sub_nonneg.mpr hle
    rcases remainingQty_normalize state with ⟨-, heq⟩ | heq | heq
    · rw [heq]
      exact hpos
    · rw [heq]
      exact max_le le_rfl hpos
    · rw [heq]
      exact max_le ((min_le_left _ _).trans hremaining) hpos

theorem mergedRequested_nonneg (h : Accounted current) : 0 ≤ mergedRequested current incoming := by
  unfold mergedRequested
  split
  · next hpos => exact hpos.le
  · exact h.requested_nonneg

theorem clampedFilled_mergeFields (h : Accounted current) :
    (mergeFields current incoming).clampedFilled = mergedFilled current incoming := by
  have hnonneg : 0 ≤ mergedFilled current incoming :=
    le_min (h.filled_nonneg.trans (le_max_left _ _)) (mergedRequested_nonneg h)
  unfold OrderState.clampedFilled
  rw [mergeFields_filledQty, mergeFields_requestedQty, max_eq_left hnonneg]
  exact min_eq_left (min_le_right _ _)

theorem accounted_mergeAccepted (h : Accounted current) :
    Accounted (mergeAccepted current incoming) := by
  refine accounted_normalize (mergedRequested_nonneg h) ?_
  rw [clampedFilled_mergeFields h]
  show mergedRemaining current incoming (mergedRequested current incoming)
    (mergedFilled current incoming) ≤ _
  have hle : mergedFilled current incoming ≤ mergedRequested current incoming := min_le_right _ _
  have hfloor : max (mergedRequested current incoming - mergedFilled current incoming) 0 =
      mergedRequested current incoming - mergedFilled current incoming :=
    max_eq_left (sub_nonneg.mpr hle)
  unfold mergedRemaining
  simp only [hfloor]
  split_ifs
  · exact (min_le_left _ _).trans (min_le_left _ _)
  · exact min_le_left _ _
  · exact min_le_left _ _
  · exact le_rfl

theorem requestedQty_mergeAccepted :
    (mergeAccepted current incoming).requestedQty = mergedRequested current incoming :=
  requestedQty_normalize _

theorem filledQty_mergeAccepted_eq (h : Accounted current) :
    (mergeAccepted current incoming).filledQty = mergedFilled current incoming := by
  unfold mergeAccepted
  rw [filledQty_normalize, clampedFilled_mergeFields h]

theorem accounted_merge (h : Accounted current) : Accounted (merge (some current) incoming) := by
  simp only [merge]
  split
  · exact accounted_mergeAccepted h
  · unfold mergeWithoutRegression
    split
    · exact accounted_mergeAccepted h
    · exact ⟨h.filled_nonneg, h.filled_le, h.remaining_le⟩

theorem requestedQty_merge_le :
    (merge (some current) incoming).requestedQty ≤
      max current.requestedQty incoming.requestedQty := by
  have hmerged : ∀ incoming, mergedRequested current incoming ≤
      max current.requestedQty incoming.requestedQty := by
    intro incoming
    unfold mergedRequested
    split
    · exact le_max_right _ _
    · exact le_max_left _ _
  simp only [merge]
  split
  · rw [requestedQty_mergeAccepted]
    exact hmerged incoming
  · unfold mergeWithoutRegression
    split
    · rw [requestedQty_mergeAccepted]
      refine (hmerged _).trans ?_
      show max current.requestedQty current.requestedQty ≤ _
      rw [max_self]
      exact le_max_left _ _
    · exact le_max_left _ _

theorem filledQty_merge_le (h : Accounted current) (hle : incoming.filledQty ≤ current.filledQty) :
    (merge (some current) incoming).filledQty ≤ current.filledQty := by
  have hmerged : ∀ incoming : OrderState, incoming.filledQty ≤ current.filledQty →
      (mergeAccepted current incoming).filledQty ≤ current.filledQty := by
    intro incoming hle
    rw [filledQty_mergeAccepted_eq h]
    exact (min_le_left _ _).trans (max_le le_rfl hle)
  simp only [merge]
  split
  · exact hmerged incoming hle
  · unfold mergeWithoutRegression
    split
    · exact hmerged _ hle
    · exact le_rfl

end Write

theorem toOrderState_mergeExitOrder (current incoming : ExitOrder) :
    (mergeExitOrder (some current) incoming).toOrderState =
      merge (some current.toOrderState) incoming.toOrderState := by
  unfold mergeExitOrder
  simp only
  split <;> rfl

theorem clientOrderId_merge {current incoming : OrderState}
    (h : current.clientOrderId = incoming.clientOrderId) :
    (merge (some current) incoming).clientOrderId = incoming.clientOrderId := by
  simp only [merge]
  split
  · exact clientOrderId_normalize _
  · unfold mergeWithoutRegression
    split
    · exact (clientOrderId_normalize _).trans h
    · exact h

section Store

variable {exit : SerialExit} {store : ExitStore} {order current : ExitOrder}

theorem clientOrderId_of_getOrderState {clientOrderId : String}
    (h : store.getOrderState clientOrderId = some current) :
    current.clientOrderId = clientOrderId := by
  simpa using List.find?_some h

theorem mem_of_getOrderState {clientOrderId : String}
    (h : store.getOrderState clientOrderId = some current) : current ∈ store.orders :=
  KeyedList.mem_of_lookup h

theorem clientOrderId_written : (store.written order).clientOrderId = order.clientOrderId := by
  unfold ExitStore.written
  cases hstored : store.getOrderState order.clientOrderId with
  | none => exact clientOrderId_normalize order.toOrderState
  | some current =>
    have hid := clientOrderId_of_getOrderState hstored
    rw [toOrderState_mergeExitOrder]
    exact clientOrderId_merge hid

theorem getOrderState_write (clientOrderId : String) :
    (store.write order).getOrderState clientOrderId =
      if clientOrderId = order.clientOrderId then some (store.written order)
      else store.getOrderState clientOrderId := by
  unfold ExitStore.getOrderState ExitStore.write
  rw [KeyedList.lookup_upsert, clientOrderId_written]

def WritePurpose.recorded : WritePurpose → Option ℚ
  | .anchor intent => some intent.quantity
  | .slice _ quantity => some quantity
  | .outcome _ | .report => none

/-- What is assumed of a write. News on an open order ask for no more than it, and a closed order
is not filled further and not opened again. -/
def writeKeeps (store : ExitStore) (purpose : WritePurpose) (order : ExitOrder) : Prop :=
  match store.getOrderState order.clientOrderId with
  | none => True
  | some current =>
    if current.isOpen = true then
      purpose.recorded = none → order.requestedQty ≤ current.requestedQty
    else order.filledQty ≤ current.filledQty ∧ (store.written order).isOpen = false

instance (store : ExitStore) (purpose : WritePurpose) (order : ExitOrder) :
    Decidable (writeKeeps store purpose order) := by
  unfold writeKeeps
  split <;> infer_instance

/-- **A write** leaves an order that may take no more than it took before, or than what is being
recorded. -/
theorem exposure_written {purpose : WritePurpose} (hkeeps : writeKeeps store purpose order)
    (hstored : store.getOrderState order.clientOrderId = some current)
    (haccounted : Accounted current.toOrderState) :
    Accounted (store.written order).toOrderState ∧
      ((store.written order).exposure ≤ current.exposure ∨
        purpose.recorded ≠ none ∧ (store.written order).exposure ≤ order.requestedQty) := by
  unfold writeKeeps at hkeeps
  rw [hstored] at hkeeps
  have hmerge : (store.written order).toOrderState =
      merge (some current.toOrderState) order.toOrderState := by
    unfold ExitStore.written
    rw [hstored]
    exact toOrderState_mergeExitOrder current order
  have haccounted' : Accounted (store.written order).toOrderState := by
    rw [hmerge]
    exact accounted_merge haccounted
  refine ⟨haccounted', ?_⟩
  simp only at hkeeps
  split at hkeeps
  · next hopen =>
    -- an open order takes what it asks for
    have hcurrent : current.exposure = current.requestedQty := if_pos hopen
    have hle : (store.written order).exposure ≤ max current.requestedQty order.requestedQty := by
      refine (exposure_le_requested haccounted').trans ?_
      rw [hmerge]
      exact requestedQty_merge_le
    cases hrecorded : purpose.recorded with
    | none =>
      rw [max_eq_left (hkeeps hrecorded)] at hle
      exact .inl (hcurrent ▸ hle)
    | some quantity =>
      rcases le_max_iff.mp hle with hle | hle
      · exact .inl (hcurrent ▸ hle)
      · exact .inr ⟨Option.some_ne_none _, hle⟩
  · next hclosed =>
    -- a closed order takes what it has filled
    refine .inl ?_
    have hwritten : (store.written order).exposure = (store.written order).filledQty := by
      unfold ExitOrder.exposure
      rw [if_neg (by rw [hkeeps.2]; exact Bool.false_ne_true)]
    have hcurrent : current.exposure = current.filledQty := if_neg hclosed
    rw [hwritten, hcurrent, hmerge]
    exact filledQty_merge_le haccounted hkeeps.1

theorem exposure_written_new (hstored : store.getOrderState order.clientOrderId = none)
    (hrequested : 0 ≤ order.requestedQty) (hfilled : order.filledQty = 0)
    (hremaining : order.remainingQty = order.requestedQty) :
    Accounted (store.written order).toOrderState ∧
      (store.written order).exposure ≤ order.requestedQty := by
  have hmerge : (store.written order).toOrderState = normalize order.toOrderState := by
    unfold ExitStore.written
    rw [hstored]
    rfl
  have hclamped : order.clampedFilled = 0 := by
    unfold OrderState.clampedFilled
    rw [hfilled, max_self, min_eq_left hrequested]
  have haccounted : Accounted (store.written order).toOrderState := by
    rw [hmerge]
    refine accounted_normalize hrequested ?_
    rw [hclamped, hremaining, sub_zero]
  refine ⟨haccounted, (exposure_le_requested haccounted).trans ?_⟩
  rw [hmerge, requestedQty_normalize]

end Store

/-! ### Room for the order that is being recorded -/

/-- What is kept free for an order that is about to be recorded, beyond what it takes already. -/
def reserved (recording : Option (String × ℚ)) (children : List ChildExitOrderRef) : ℚ :=
  match recording with
  | none => 0
  | some (clientOrderId, quantity) => max (quantity - exposureAt children clientOrderId) 0

/-- The children and the order that is being recorded fit into the target, and no stored order may
take more than its child or its recording says. -/
structure Room (target : ℚ) (recording : Option (String × ℚ)) (children : List ChildExitOrderRef)
    (orders : List ExitOrder) : Prop where
  childIds : (children.map ChildExitOrderRef.clientOrderId).Nodup
  orderIds : (orders.map fun order => order.clientOrderId).Nodup
  nonneg : ∀ ref ∈ children, 0 ≤ ref.exposure
  known : ∀ ref ∈ children, ∃ order ∈ orders, order.clientOrderId = ref.clientOrderId
  accounted : ∀ order ∈ orders, Accounted order.toOrderState
  covered : ∀ order ∈ orders, order.exposure ≤ exposureAt children order.clientOrderId ∨
    ∃ quantity, recording = some (order.clientOrderId, quantity) ∧ order.exposure ≤ quantity
  fits : exposureOf children + reserved recording children ≤ target

section Room

variable {exit : SerialExit} {target : ℚ} {recording : Option (String × ℚ)}
  {children : List ChildExitOrderRef} {orders : List ExitOrder} {order : ExitOrder}
  {now : Timestamp}

theorem exposureAt_saveChild (children : List ChildExitOrderRef) (ref : ChildExitOrderRef)
    (clientOrderId : String) :
    exposureAt (saveChild children ref) clientOrderId =
      if clientOrderId = ref.clientOrderId then ref.exposure
      else exposureAt children clientOrderId := by
  unfold exposureAt saveChild
  rw [KeyedList.lookup_upsert]
  split <;> rfl

theorem exposureOf_saveChild (h : (children.map ChildExitOrderRef.clientOrderId).Nodup)
    (ref : ChildExitOrderRef) :
    exposureOf (saveChild children ref) =
      exposureOf children + (ref.exposure - exposureAt children ref.clientOrderId) :=
  KeyedList.sum_upsert h

theorem reserved_nonneg (recording : Option (String × ℚ)) (children : List ChildExitOrderRef) :
    0 ≤ reserved recording children := by
  unfold reserved
  split
  · exact le_rfl
  · exact le_max_right _ _

namespace Room

theorem exposureAt_nonneg (h : Room target recording children orders) (clientOrderId : String) :
    0 ≤ exposureAt children clientOrderId := by
  unfold exposureAt
  cases href : KeyedList.lookup ChildExitOrderRef.clientOrderId children clientOrderId with
  | none => exact le_rfl
  | some ref => exact h.nonneg ref (KeyedList.mem_of_lookup href)

theorem exposureOf_le (h : Room target recording children orders) : exposureOf children ≤ target :=
  (le_add_of_nonneg_right (reserved_nonneg recording children)).trans h.fits

theorem order_unique (h : Room target recording children orders) {other : ExitOrder}
    (horder : order ∈ orders) (hother : other ∈ orders)
    (hid : other.clientOrderId = order.clientOrderId) : other = order :=
  List.inj_on_of_nodup_map h.orderIds hother horder hid

variable (exit now) in
theorem exposure_saveRef (h : Room target recording children orders) (horder : order ∈ orders) :
    exposureOf (saveChild children (exit.childRef order now)) +
        reserved recording (saveChild children (exit.childRef order now)) ≤
      exposureOf children + reserved recording children := by
  have hexposure := exposure_childRef exit now (h.accounted order horder)
  have hid : (exit.childRef order now).clientOrderId = order.clientOrderId := rfl
  rw [exposureOf_saveChild h.childIds, hexposure, hid]
  unfold reserved
  rcases h.covered order horder with hle | ⟨quantity, rfl, hle⟩
  · -- the order took as much before
    cases recording with
    | none =>
      simp only
      linarith
    | some recording =>
      obtain ⟨clientOrderId, quantity⟩ := recording
      simp only [exposureAt_saveChild, hid, hexposure]
      split
      · next heq =>
        subst heq
        rcases max_cases (quantity - order.exposure) 0 with ⟨hmax, -⟩ | ⟨hmax, -⟩
        · rw [hmax]
          linarith [le_max_left (quantity - exposureAt children order.clientOrderId) 0]
        · rw [hmax]
          linarith [le_max_right (quantity - exposureAt children order.clientOrderId) 0]
      · linarith
  · -- the order is the one that is being recorded
    simp only [exposureAt_saveChild, hid, hexposure, if_pos]
    rw [max_eq_left (sub_nonneg.mpr hle)]
    linarith [le_max_left (quantity - exposureAt children order.clientOrderId) 0]

variable (exit now) in
theorem saveRef (h : Room target recording children orders) (horder : order ∈ orders) :
    Room target recording (saveChild children (exit.childRef order now)) orders := by
  have hexposure := exposure_childRef exit now (h.accounted order horder)
  have hid : (exit.childRef order now).clientOrderId = order.clientOrderId := rfl
  refine ⟨KeyedList.nodup_keys_upsert h.childIds, h.orderIds, ?_, ?_, h.accounted, ?_, ?_⟩
  · intro ref href
    rcases KeyedList.mem_upsert.mp href with rfl | ⟨href, -⟩
    · rw [hexposure]
      exact exposure_nonneg (h.accounted order horder)
    · exact h.nonneg ref href
  · intro ref href
    rcases KeyedList.mem_upsert.mp href with rfl | ⟨href, -⟩
    · exact ⟨order, horder, rfl⟩
    · exact h.known ref href
  · intro other hother
    rw [exposureAt_saveChild, hid]
    split
    · next heq =>
      rw [h.order_unique horder hother heq, hexposure]
      exact .inl le_rfl
    · exact h.covered other hother
  · exact (h.exposure_saveRef exit now horder).trans h.fits

theorem saveRefs (h : Room target recording children orders) {refs : List ChildExitOrderRef}
    (hrefs : ∀ ref ∈ refs, ∃ order ∈ orders, ref = exit.childRef order now) :
    Room target recording (refs.foldl saveChild children) orders := by
  induction refs generalizing children with
  | nil => exact h
  | cons ref refs ih =>
    obtain ⟨order, horder, rfl⟩ := hrefs ref List.mem_cons_self
    exact ih (h.saveRef exit now horder) fun other hother => hrefs other (List.mem_cons_of_mem _ hother)

variable (exit now) in
theorem release {clientOrderId : String} {quantity : ℚ}
    (h : Room target (some (clientOrderId, quantity)) children orders) (horder : order ∈ orders)
    (hid : order.clientOrderId = clientOrderId) :
    Room target none (saveChild children (exit.childRef order now)) orders := by
  have hsaved := h.saveRef exit now horder
  refine { hsaved with covered := ?_, fits := ?_ }
  · intro other hother
    rcases hsaved.covered other hother with hle | ⟨quantity', heq, -⟩
    · exact .inl hle
    · rw [Option.some.injEq, Prod.mk.injEq, ← hid] at heq
      rw [h.order_unique horder hother heq.1.symm, exposureAt_saveChild,
        exposure_childRef exit now (h.accounted order horder)]
      exact .inl (by simp [SerialExit.childRef, childExitOrderRefFromOrderState])
  · show _ + 0 ≤ target
    rw [add_zero]
    exact hsaved.exposureOf_le

theorem reserve (h : Room target none children orders) (clientOrderId : String) {quantity : ℚ}
    (hquantity : 0 ≤ quantity) (hfits : exposureOf children + quantity ≤ target) :
    Room target (some (clientOrderId, quantity)) children orders := by
  refine { h with covered := ?_, fits := ?_ }
  · intro order horder
    rcases h.covered order horder with hle | ⟨_, heq, -⟩
    · exact .inl hle
    · cases heq
  · have hle : reserved (some (clientOrderId, quantity)) children ≤ quantity :=
      max_le (sub_le_self _ (h.exposureAt_nonneg clientOrderId)) hquantity
    linarith

end Room

end Room

/-- What is known of an order state that is about to be written: if it records a quantity, it asks
for it and is a new order or one that is stored, else it is on a stored order. -/
def WritesOrder (store : ExitStore) (purpose : WritePurpose) (order : ExitOrder) : Prop :=
  match purpose.recorded with
  | some quantity =>
    order.requestedQty = quantity ∧ 0 ≤ quantity ∧
      (store.getOrderState order.clientOrderId = none →
        order.filledQty = 0 ∧ order.remainingQty = quantity)
  | none => (store.getOrderState order.clientOrderId).isSome = true

theorem Room.written_covered {target : ℚ} {recording : Option (String × ℚ)} {store : ExitStore}
    {purpose : WritePurpose} {order : ExitOrder}
    (h : Room target recording store.record.children store.orders)
    (hkeeps : writeKeeps store purpose order) (hwrites : WritesOrder store purpose order)
    (hrecording : ∀ quantity, purpose.recorded = some quantity →
      recording = some (order.clientOrderId, quantity)) :
    Accounted (store.written order).toOrderState ∧
      ((store.written order).exposure ≤ exposureAt store.record.children order.clientOrderId ∨
        ∃ quantity, recording = some (order.clientOrderId, quantity) ∧
          (store.written order).exposure ≤ quantity) := by
  cases hstored : store.getOrderState order.clientOrderId with
  | none =>
    unfold WritesOrder at hwrites
    cases hrecorded : purpose.recorded with
    | none =>
      rw [hrecorded] at hwrites
      simp only [hstored] at hwrites
      cases hwrites
    | some quantity =>
      rw [hrecorded] at hwrites
      obtain ⟨hrequested, hquantity, hnew⟩ := hwrites
      obtain ⟨hfilled, hremaining⟩ := hnew hstored
      obtain ⟨haccounted, hle⟩ := exposure_written_new hstored (hrequested ▸ hquantity) hfilled
        (hremaining.trans hrequested.symm)
      exact ⟨haccounted, .inr ⟨quantity, hrecording quantity hrecorded, hrequested ▸ hle⟩⟩
  | some current =>
    have hmem := mem_of_getOrderState hstored
    have hcurrent := clientOrderId_of_getOrderState hstored
    obtain ⟨haccounted, hle⟩ := exposure_written hkeeps hstored (h.accounted current hmem)
    refine ⟨haccounted, ?_⟩
    rcases hle with hle | ⟨hrecorded, hle⟩
    · rcases h.covered current hmem with hcovered | ⟨quantity, heq, hcovered⟩
      · exact .inl (hle.trans (hcurrent ▸ hcovered))
      · exact .inr ⟨quantity, hcurrent ▸ heq, hle.trans hcovered⟩
    · obtain ⟨quantity, hquantity⟩ := Option.ne_none_iff_exists'.mp hrecorded
      unfold WritesOrder at hwrites
      rw [hquantity] at hwrites
      exact .inr ⟨quantity, hrecording quantity hquantity, hle.trans hwrites.1.le⟩

theorem Room.write {target : ℚ} {recording : Option (String × ℚ)} {store : ExitStore}
    {purpose : WritePurpose} {order : ExitOrder}
    (h : Room target recording store.record.children store.orders)
    (hkeeps : writeKeeps store purpose order) (hwrites : WritesOrder store purpose order)
    (hrecording : ∀ quantity, purpose.recorded = some quantity →
      recording = some (order.clientOrderId, quantity)) :
    Room target recording store.record.children (store.write order).orders := by
  have hid : (store.written order).clientOrderId = order.clientOrderId := clientOrderId_written
  obtain ⟨haccounted, hcovered⟩ := h.written_covered hkeeps hwrites hrecording
  refine ⟨h.childIds, KeyedList.nodup_keys_upsert h.orderIds, h.nonneg, ?_, ?_, ?_, h.fits⟩
  · intro ref href
    obtain ⟨other, hother, heq⟩ := h.known ref href
    by_cases hsame : other.clientOrderId = order.clientOrderId
    · exact ⟨store.written order, KeyedList.mem_upsert.mpr (.inl rfl),
        hid.trans (hsame.symm.trans heq)⟩
    · exact ⟨other, KeyedList.mem_upsert.mpr (.inr ⟨hother, hid ▸ hsame⟩), heq⟩
  · intro other hother
    rcases KeyedList.mem_upsert.mp hother with rfl | ⟨hother, -⟩
    · exact haccounted
    · exact h.accounted other hother
  · intro other hother
    rcases KeyedList.mem_upsert.mp hother with rfl | ⟨hother, -⟩
    · rw [hid]
      exact hcovered
    · exact h.covered other hother

/-! ### Tasks that record an order -/

/-- The order that a task is about to record, and its quantity: from the look at the parent, or
from the taking up of an intent, until the reference of the order is saved. -/
def ExitPlace.recording : ExitPlace → Option (String × ℚ)
  | .writing purpose order | .saving purpose order =>
    purpose.recorded.map (order.clientOrderId, ·)
  | .idle | .splitLimit _ _ | .resumeLimit _ _ _ | .submitting _ _ _ => none

section Tasks

variable {n : ℕ} {exit : SerialExit} {target : ℚ} {s : Tasks ExitStore ExitPlace n} {i : Fin n}
  {store : ExitStore} {place : ExitPlace} {recording : Option (String × ℚ)}

/-- At most one task is about to record an order. -/
def OneRecorder (s : Tasks ExitStore ExitPlace n) : Prop :=
  ∀ i j, (s.task i).recording.isSome = true → (s.task j).recording.isSome = true → i = j

instance (s : Tasks ExitStore ExitPlace n) : Decidable (OneRecorder s) := by
  unfold OneRecorder
  infer_instance

/-- `recording` is what some task is about to record. -/
def Records (s : Tasks ExitStore ExitPlace n) (recording : Option (String × ℚ)) : Prop :=
  ∀ order, recording = some order ↔ ∃ i, (s.task i).recording = some order

abbrev moved (s : Tasks ExitStore ExitPlace n) (i : Fin n) (store : ExitStore) (place : ExitPlace) :
    Tasks ExitStore ExitPlace n :=
  { shared := store, task := Function.update s.task i place }

theorem Records.move (h : Records s recording) (hsame : place.recording = (s.task i).recording) :
    Records (moved s i store place) recording := by
  intro order
  have htask : ∀ j, ((moved s i store place).task j).recording = (s.task j).recording := by
    intro j
    show (Function.update s.task i place j).recording = _
    by_cases hj : j = i
    · rw [hj, Function.update_self, hsame]
    · rw [Function.update_of_ne hj]
  simp only [htask]
  exact h order

theorem Records.none_of_enter (h : Records s recording) (hapart : OneRecorder (moved s i store place))
    (hbefore : (s.task i).recording = none) (hplace : place.recording.isSome = true) :
    recording = none := by
  by_contra hne
  obtain ⟨order, horder⟩ := Option.ne_none_iff_exists'.mp hne
  obtain ⟨j, hj⟩ := (h order).mp horder
  have hji : j ≠ i := by
    rintro rfl
    rw [hbefore] at hj
    cases hj
  refine hji (hapart j i ?_ ?_)
  · show (Function.update s.task i place j).recording.isSome = true
    rw [Function.update_of_ne hji, hj]
    rfl
  · show (Function.update s.task i place i).recording.isSome = true
    rw [Function.update_self]
    exact hplace

theorem records_of_mover (hothers : ∀ j, j ≠ i → (s.task j).recording = none) :
    Records (moved s i store place) place.recording := by
  intro order
  constructor
  · intro h
    refine ⟨i, ?_⟩
    show (Function.update s.task i place i).recording = _
    rw [Function.update_self, h]
  · rintro ⟨j, hj⟩
    have hj : (Function.update s.task i place j).recording = some order := hj
    by_cases hji : j = i
    · rwa [hji, Function.update_self] at hj
    · rw [Function.update_of_ne hji, hothers j hji] at hj
      cases hj

theorem Records.task_eq_none (h : Records s none) (j : Fin n) : (s.task j).recording = none := by
  cases hj : (s.task j).recording with
  | none => rfl
  | some order => cases (h order).mpr ⟨j, hj⟩

theorem OneRecorder.others (hapart : OneRecorder s) (hmover : (s.task i).recording.isSome = true)
    (j : Fin n) (hj : j ≠ i) : (s.task j).recording = none := by
  by_contra hne
  exact hj (hapart j i (Option.isSome_iff_ne_none.mpr hne) hmover)

/-! ### The invariant -/

/-- A loop is past its start, so that its next slice is not its first. -/
def LoopOk (loop : SerialLoop) : Prop := loop.startSliceIndex ≤ loop.sliceIndex

/-- What is known of what an order state is written for. -/
def PurposeOk : WritePurpose → Prop
  | .slice loop quantity => LoopOk loop ∧ quantity ≤ loop.splitLimit
  | .outcome (some loop) => LoopOk loop
  | .anchor _ | .outcome none | .report => True

def PlaceOk (target : ℚ) (store : ExitStore) : ExitPlace → Prop
  | .idle => True
  | .writing purpose order => PurposeOk purpose ∧ WritesOrder store purpose order
  | .saving purpose _ => PurposeOk purpose
  | .splitLimit _ clientOrderId => (store.getOrderState clientOrderId).isSome = true
  | .resumeLimit parent _ nextSliceIndex =>
    parent.targetExitQuantity = target ∧ 2 ≤ nextSliceIndex
  | .submitting loop clientOrderId quantity =>
    (store.getOrderState clientOrderId).isSome = true ∧
      ∀ l ∈ loop, LoopOk l ∧ quantity ≤ l.splitLimit

structure SerialInv (target : ℚ) (s : Tasks ExitStore ExitPlace n) : Prop where
  parent : ∃ parent, s.shared.record.parent = some parent ∧ parent.targetExitQuantity = target
  children : s.shared.record.children ≠ []
  room : ∃ recording, Records s recording ∧
    Room target recording s.shared.record.children s.shared.orders
  apart : OneRecorder s
  places : ∀ i, PlaceOk target s.shared (s.task i)

def KeepsOrders (store after : ExitStore) : Prop :=
  ∀ clientOrderId, (store.getOrderState clientOrderId).isSome = true →
    (after.getOrderState clientOrderId).isSome = true

theorem PlaceOk.mono {after : ExitStore} (h : PlaceOk target store place)
    (hkeeps : KeepsOrders store after) : PlaceOk target after place := by
  cases place with
  | idle => trivial
  | writing purpose order =>
    refine ⟨h.1, ?_⟩
    have hwrites := h.2
    unfold WritesOrder at hwrites ⊢
    cases hrecorded : purpose.recorded with
    | none =>
      rw [hrecorded] at hwrites
      exact hkeeps _ hwrites
    | some quantity =>
      rw [hrecorded] at hwrites
      refine ⟨hwrites.1, hwrites.2.1, fun hnone => hwrites.2.2 ?_⟩
      by_contra hne
      have hsome := hkeeps _ (Option.isSome_iff_ne_none.mpr hne)
      rw [hnone] at hsome
      cases hsome
  | saving purpose order => exact h
  | splitLimit intent clientOrderId => exact hkeeps _ h
  | resumeLimit parent intent nextSliceIndex => exact h
  | submitting loop clientOrderId quantity => exact ⟨hkeeps _ h.1, h.2⟩

theorem keepsOrders_of_eq {after : ExitStore} (h : after.orders = store.orders) :
    KeepsOrders store after := by
  intro clientOrderId hsome
  unfold ExitStore.getOrderState
  rw [h]
  exact hsome

theorem keepsOrders_write (order : ExitOrder) : KeepsOrders store (store.write order) := by
  intro clientOrderId hsome
  rw [getOrderState_write]
  split
  · rfl
  · exact hsome

end Tasks

/-! ### The stored parent -/

section Record

variable {exit : SerialExit} {target : ℚ} {store : ExitStore} {record : ExitRecord}
  {parent : ExitParent} {now : Timestamp}

theorem parent_recomputeFrom (record : ExitRecord) (parent : ExitParent)
    (transform : ParentTransform) (now : Timestamp) :
    (recomputeFrom record parent transform now).children = record.children ∧
      ∃ stored, (recomputeFrom record parent transform now).parent = some stored ∧
        stored.targetExitQuantity = parent.targetExitQuantity := by
  refine ⟨rfl, _, rfl, ?_⟩
  rw [merge_target]
  exact transform_target transform

theorem exposureOf_add_le (hmatch : MatchesChildren record) (hparent : record.parent = some parent)
    (hopen : parent.aggregateStatus.isTerminal = false) {quantity : ℚ} (hpos : 0 < quantity)
    (hle : quantity ≤ parent.remainingDispatchableQuantity) :
    exposureOf record.children + quantity ≤ parent.targetExitQuantity := by
  have hleft : parent.remainingDispatchableQuantity =
      max (parent.targetExitQuantity - filledOf record.children - workingOf record.children -
        unknownOf record.children) 0 :=
    congrArg ExitQuantities.dispatchable (hmatch parent hparent hopen)
  have hsum := filled_working_unknown_eq record.children
  rw [hleft] at hle
  rcases le_max_iff.mp hle with hle | hle
  · linarith
  · exact absurd hle (not_le.mpr hpos)

theorem not_stops_of_open (h : stopsSerialExit parent = false) :
    parent.aggregateStatus.isTerminal = false := by
  unfold stopsSerialExit at h
  rw [decide_eq_false_iff_not, not_or] at h
  cases hstatus : parent.aggregateStatus <;> simp_all [ParentAggregateStatus.isTerminal]

theorem writesOrder_submitting (purpose : WritePurpose) (intent : ExitIntent)
    (clientOrderId : String) (hrecorded : purpose.recorded = some intent.quantity)
    (hquantity : 0 ≤ intent.quantity) :
    WritesOrder store purpose (submittingStateForIntent exit (store.getOrderState clientOrderId)
      intent clientOrderId now) := by
  unfold WritesOrder
  rw [hrecorded]
  refine ⟨rfl, hquantity, fun hnone => ?_⟩
  have hnone : store.getOrderState clientOrderId = none := hnone
  rw [hnone]
  exact ⟨rfl, rfl⟩

theorem childQuantity_of_some {loop : SerialLoop} (hfirst : loop.atFirstSlice = false)
    {quantity : ℚ} (h : loop.childQuantity (some parent) = some quantity) :
    0 < quantity ∧ quantity ≤ loop.splitLimit ∧ quantity ≤ parent.remainingDispatchableQuantity ∧
      parent.aggregateStatus.isTerminal = false := by
  have hremaining : loop.remainingQuantity (some parent) = parent.remainingDispatchableQuantity := by
    unfold SerialLoop.remainingQuantity
    rw [hfirst]
  have hpos : (0 : ℚ) < epsilon12 := by decide +kernel
  unfold SerialLoop.childQuantity at h
  rw [hremaining] at h
  split_ifs at h with hstops _ hsmall
  cases h
  exact ⟨hpos.trans (not_le.mp hsmall), min_le_left _ _, min_le_right _ _,
    not_stops_of_open (Bool.eq_false_of_not_eq_true hstops)⟩

variable (exit now) in
/-- **A later slice.**  The loop ends, or it records no more than its limit and no more than the
parent says may be sent. -/
theorem executeSlice_cases {loop : SerialLoop} (hfirst : loop.atFirstSlice = false)
    (hparent : store.record.parent = some parent) :
    executeSlice exit store loop now = .idle ∨
      ∃ intent clientOrderId, 0 < intent.quantity ∧ intent.quantity ≤ loop.splitLimit ∧
        intent.quantity ≤ parent.remainingDispatchableQuantity ∧
        parent.aggregateStatus.isTerminal = false ∧
        executeSlice exit store loop now = .writing (.slice loop intent.quantity)
          (submittingStateForIntent exit (store.getOrderState clientOrderId) intent clientOrderId
            now) := by
  unfold executeSlice
  rw [hparent, hfirst]
  split
  · exact .inl rfl
  · cases hquantity : loop.childQuantity (some parent) with
    | none => exact .inl rfl
    | some quantity =>
      obtain ⟨hpos, hlimit, hremaining, hopen⟩ := childQuantity_of_some hfirst hquantity
      have hintent : (splitChildIntent loop.intent quantity loop.sliceIndex).quantity = quantity := by
        unfold splitChildIntent
        split <;> rfl
      refine .inr ⟨splitChildIntent loop.intent quantity loop.sliceIndex,
        exit.derivedChildClientOrderId (splitChildIntent loop.intent quantity loop.sliceIndex), ?_⟩
      rw [hintent]
      exact ⟨hpos, hlimit, hremaining, hopen, rfl⟩

theorem placeOk_executeSlice {loop : SerialLoop} (hfirst : loop.atFirstSlice = false)
    (hloop : LoopOk loop) (hparent : store.record.parent = some parent) :
    PlaceOk target store (executeSlice exit store loop now) := by
  rcases executeSlice_cases exit now hfirst hparent with
    heq | ⟨intent, clientOrderId, hpos, hlimit, -, -, heq⟩
  · rw [heq]
    trivial
  · rw [heq]
    exact ⟨⟨hloop, hlimit⟩, writesOrder_submitting _ intent clientOrderId rfl hpos.le⟩

theorem room_executeSlice {loop : SerialLoop} (hfirst : loop.atFirstSlice = false)
    (hparent : store.record.parent = some parent) (htarget : parent.targetExitQuantity = target)
    (hmatch : MatchesChildren store.record)
    (hroom : Room target none store.record.children store.orders) :
    Room target (executeSlice exit store loop now).recording store.record.children store.orders := by
  rcases executeSlice_cases exit now hfirst hparent with
    heq | ⟨intent, clientOrderId, hpos, -, hremaining, hopen, heq⟩
  · rw [heq]
    exact hroom
  · rw [heq]
    have hfits := exposureOf_add_le hmatch hparent hopen hpos hremaining
    exact hroom.reserve _ hpos.le (htarget ▸ hfits)

end Record

/-! ### Moves -/

section Moves

variable {n : ℕ} {exit : SerialExit} {target : ℚ} {s t : Tasks ExitStore ExitPlace n} {i : Fin n}
  {store : ExitStore} {place : ExitPlace} {now : Timestamp}

def HasParent (target : ℚ) (record : ExitRecord) : Prop :=
  (∃ parent, record.parent = some parent ∧ parent.targetExitQuantity = target) ∧
    record.children ≠ []

theorem SerialInv.move (h : SerialInv target s) (hapart : OneRecorder (moved s i store place))
    (hrecord : HasParent target store.record) (hkeeps : KeepsOrders s.shared store)
    (hplace : PlaceOk target store place)
    (hroom : ∃ recording, Records (moved s i store place) recording ∧
      Room target recording store.record.children store.orders) :
    SerialInv target (moved s i store place) := by
  refine ⟨hrecord.1, hrecord.2, hroom, hapart, ?_⟩
  exact (tasksInv_step (I := fun _ => True) (J := fun store _ place => PlaceOk target store place)
    trivial hplace fun j _ => (h.places j).mono hkeeps).each

theorem SerialInv.move_of_none (h : SerialInv target s)
    (hapart : OneRecorder (moved s i store place)) (hrecord : HasParent target store.record)
    (hkeeps : KeepsOrders s.shared store) (hplace : PlaceOk target store place)
    (hbefore : (s.task i).recording = none)
    (hsame : ∀ recording, Room target recording s.shared.record.children s.shared.orders →
      Room target recording store.record.children store.orders)
    (henter : Room target none store.record.children store.orders →
      Room target place.recording store.record.children store.orders) :
    SerialInv target (moved s i store place) := by
  obtain ⟨recording, hrecords, hroom⟩ := h.room
  refine h.move hapart hrecord hkeeps hplace ?_
  cases hrecording : place.recording with
  | none => exact ⟨recording, hrecords.move (hrecording.trans hbefore.symm), hsame recording hroom⟩
  | some order =>
    have hsome : place.recording.isSome = true := by
      rw [hrecording]
      rfl
    obtain rfl := hrecords.none_of_enter hapart hbefore hsome
    exact ⟨place.recording, records_of_mover fun j _ => hrecords.task_eq_none j,
      henter (hsame none hroom)⟩

theorem SerialInv.move_same (h : SerialInv target s)
    (hapart : OneRecorder (moved s i store place)) (hrecord : HasParent target store.record)
    (hkeeps : KeepsOrders s.shared store) (hplace : PlaceOk target store place)
    (hsame : place.recording = (s.task i).recording)
    (hroom : ∀ recording, Records s recording →
      Room target recording s.shared.record.children s.shared.orders →
        Room target recording store.record.children store.orders) :
    SerialInv target (moved s i store place) := by
  obtain ⟨recording, hrecords, hbefore⟩ := h.room
  exact h.move hapart hrecord hkeeps hplace
    ⟨recording, hrecords.move hsame, hroom recording hrecords hbefore⟩

theorem SerialInv.move_release (h : SerialInv target s)
    (hapart : OneRecorder (moved s i store place)) (hrecord : HasParent target store.record)
    (hkeeps : KeepsOrders s.shared store) (hplace : PlaceOk target store place)
    {order : String × ℚ} (hbefore : (s.task i).recording = some order)
    (hafter : place.recording = none)
    (hroom : Room target (some order) s.shared.record.children s.shared.orders →
      Room target none store.record.children store.orders) :
    SerialInv target (moved s i store place) := by
  obtain ⟨recording, hrecords, hold⟩ := h.room
  obtain rfl := (hrecords order).mpr ⟨i, hbefore⟩
  have hsome : (s.task i).recording.isSome = true := by
    rw [hbefore]
    rfl
  refine h.move hapart hrecord hkeeps hplace ⟨place.recording,
    records_of_mover (h.apart.others hsome), ?_⟩
  rw [hafter]
  exact hroom hold

/-! ### What the moves do to the stored parent -/

theorem saveChild_ne_nil (children : List ChildExitOrderRef) (ref : ChildExitOrderRef) :
    saveChild children ref ≠ [] :=
  List.ne_nil_of_mem (KeyedList.mem_upsert.mpr (.inl rfl))

theorem foldl_saveChild_ne_nil {children : List ChildExitOrderRef} (h : children ≠ [])
    (refs : List ChildExitOrderRef) : refs.foldl saveChild children ≠ [] := by
  induction refs generalizing children with
  | nil => exact h
  | cons ref refs ih => exact ih (saveChild_ne_nil children ref)

theorem hasParent_recomputeFrom {record : ExitRecord} {parent : ExitParent}
    (hchildren : record.children ≠ []) (htarget : parent.targetExitQuantity = target)
    (transform : ParentTransform) : HasParent target (recomputeFrom record parent transform now) := by
  obtain ⟨hsame, stored, hstored, hkept⟩ := parent_recomputeFrom record parent transform now
  exact ⟨⟨stored, hstored, hkept.trans htarget⟩, hsame ▸ hchildren⟩

theorem sync_record (exit : SerialExit) (store : ExitStore) (order : ExitOrder) (now : Timestamp)
    (h : ∃ parent, store.record.parent = some parent ∧ parent.targetExitQuantity = target) :
    HasParent target (syncExitExecutionIntent exit store order now).record ∧
      MatchesChildren (syncExitExecutionIntent exit store order now).record ∧
      (syncExitExecutionIntent exit store order now).record.children =
        saveChild store.record.children (exit.childRef order now) := by
  obtain ⟨parent, hparent, htarget⟩ := h
  have hrecord : (syncExitExecutionIntent exit store order now).record =
      recomputeFrom { store.record with
        children := saveChild store.record.children (exit.childRef order now) } parent .keep now :=
    saveChildRefs_of_parent hparent _ _ _
  rw [hrecord]
  exact ⟨hasParent_recomputeFrom (saveChild_ne_nil _ _) htarget .keep, matches_recomputeFrom .keep,
    rfl⟩

theorem recompute_record {record after : ExitRecord} {transform : ParentTransform}
    (h : HasParent target record) (hafter : recomputeParent record transform now = some after) :
    HasParent target after ∧ MatchesChildren after ∧ after.children = record.children := by
  obtain ⟨⟨parent, hparent, htarget⟩, hchildren⟩ := h
  obtain ⟨current, hcurrent, rfl⟩ := Option.map_eq_some_iff.mp hafter
  rw [hparent, Option.some.injEq] at hcurrent
  subst hcurrent
  exact ⟨hasParent_recomputeFrom hchildren htarget transform, matches_recomputeFrom transform, rfl⟩

theorem saveCopy_record {record : ExitRecord} {copy : ExitParent} (h : HasParent target record)
    (hcopy : copy.targetExitQuantity = target) :
    HasParent target (saveExitExecutionIntent record copy) := by
  obtain ⟨⟨parent, hparent, -⟩, hchildren⟩ := h
  refine ⟨⟨_, rfl, ?_⟩, hchildren⟩
  rw [hparent, merge_target, hcopy]

theorem refreshed_of_known {recording : Option (String × ℚ)}
    (hroom : Room target recording store.record.children store.orders) :
    ∀ ref ∈ refreshedChildRefsForParent exit store now,
      ∃ order ∈ store.orders, ref = exit.childRef order now := by
  intro ref href
  unfold refreshedChildRefsForParent at href
  rcases List.mem_append.mp href with href | href
  · obtain ⟨child, hchild, rfl⟩ := List.mem_map.mp href
    obtain ⟨order, horder, hid⟩ := hroom.known child hchild
    have hstored : store.getOrderState child.clientOrderId = some order := by
      rw [← hid]
      exact KeyedList.lookup_of_mem hroom.orderIds horder
    rw [hstored]
    exact ⟨order, horder, rfl⟩
  · obtain ⟨order, horder, rfl⟩ := List.mem_map.mp href
    exact ⟨order, (List.mem_filter.mp horder).1, rfl⟩

variable (exit now) in
theorem refresh_record (h : HasParent target store.record) :
    HasParent target (refreshExitExecutionIntent exit store now).record ∧
      (refreshExitExecutionIntent exit store now).orders = store.orders ∧
      ∀ recording, Room target recording store.record.children store.orders →
        Room target recording (refreshExitExecutionIntent exit store now).record.children
          store.orders := by
  have hstored := h
  obtain ⟨⟨parent, hparent, htarget⟩, hchildren⟩ := h
  unfold refreshExitExecutionIntent
  rw [hparent]
  simp only
  split
  · exact ⟨hstored, rfl, fun _ hroom => hroom⟩
  · split
    · next hnone =>
      -- a parent with children is not without references
      refine absurd (List.append_eq_nil_iff.mp hnone).1 ?_
      rw [List.map_eq_nil_iff]
      exact hchildren
    · rw [saveChildRefs_of_parent hparent]
      exact ⟨hasParent_recomputeFrom (foldl_saveChild_ne_nil hchildren _) htarget _, rfl,
        fun recording hroom => hroom.saveRefs (refreshed_of_known hroom)⟩

/-! ### Steps -/

/-- An intent is taken up for a quantity that the target has left. -/
def intentFits (record : ExitRecord) (intent : ExitIntent) : Prop :=
  0 ≤ intent.quantity ∧
    match record.parent with
    | none => True
    | some parent =>
      filledOf record.children + workingOf record.children + unknownOf record.children +
        intent.quantity ≤ parent.targetExitQuantity

instance (record : ExitRecord) (intent : ExitIntent) : Decidable (intentFits record intent) := by
  unfold intentFits
  cases record.parent <;> infer_instance

def savesStoredOrder (exit : SerialExit) (store : ExitStore) (persisted : ExitOrder)
    (now : Timestamp) : Prop :=
  (store.getOrderState persisted.clientOrderId).map (exit.childRef · now) =
    some (exit.childRef persisted now)

instance (exit : SerialExit) (store : ExitStore) (persisted : ExitOrder) (now : Timestamp) :
    Decidable (savesStoredOrder exit store persisted now) :=
  inferInstanceAs (Decidable (_ = _))

def moveFits (exit : SerialExit) (store : ExitStore) (place : ExitPlace)
    (input : ExitInput × Timestamp) : Prop :=
  match place, input with
  | .idle, (.takeUp intent _, _) => intentFits store.record intent
  | .writing purpose order, (.proceed, _) => writeKeeps store purpose order
  | .saving _ persisted, (.proceed, now) => savesStoredOrder exit store persisted now
  | _, _ => True

instance (exit : SerialExit) (store : ExitStore) (place : ExitPlace)
    (input : ExitInput × Timestamp) : Decidable (moveFits exit store place input) := by
  unfold moveFits
  split <;> infer_instance

/-- The orders of the exit are dispatched apart: an intent is taken up only for what the target
has left, and no two tasks are about to record an order at once. Besides, references are saved of
orders as they are stored, and what is learned of an order keeps to `writeKeeps`. -/
def dispatchesApart (exit : SerialExit) (s : Tasks ExitStore ExitPlace n)
    (label : Fin n × ExitInput × Timestamp) : Prop :=
  moveFits exit s.shared (s.task label.1) label.2 ∧
    match serialExitStep exit s label with
    | none => True
    | some after => OneRecorder after

instance (exit : SerialExit) (s : Tasks ExitStore ExitPlace n)
    (label : Fin n × ExitInput × Timestamp) : Decidable (dispatchesApart exit s label) := by
  unfold dispatchesApart
  cases serialExitStep exit s label <;> infer_instance

theorem SerialInv.stay (h : SerialInv target s) (hapart : OneRecorder (moved s i s.shared place))
    (hbefore : (s.task i).recording = none) (hafter : place.recording = none)
    (hplace : PlaceOk target s.shared place) : SerialInv target (moved s i s.shared place) :=
  h.move_of_none hapart ⟨h.parent, h.children⟩ (fun _ hsome => hsome) hplace hbefore
    (fun _ hroom => hroom) (fun hroom => hafter ▸ hroom)

theorem SerialInv.takeUp (h : SerialInv target s) {intent : ExitIntent} {clientOrderId : String}
    (hplace : place = .writing (.anchor intent) (submittingStateForIntent exit
      (s.shared.getOrderState clientOrderId) intent clientOrderId now))
    (hapart : OneRecorder (moved s i s.shared place)) (hbefore : (s.task i).recording = none)
    (hfits : intentFits s.shared.record intent) :
    SerialInv target (moved s i s.shared place) := by
  subst hplace
  obtain ⟨parent, hparent, htarget⟩ := h.parent
  unfold intentFits at hfits
  rw [hparent] at hfits
  have hsum := filled_working_unknown_eq s.shared.record.children
  refine h.move_of_none hapart ⟨h.parent, h.children⟩ (fun _ hsome => hsome)
    ⟨trivial, writesOrder_submitting _ intent clientOrderId rfl hfits.1⟩ hbefore
    (fun _ hroom => hroom) (fun hroom => ?_)
  exact hroom.reserve clientOrderId hfits.1 (by rw [← htarget]; linarith [hfits.2])

theorem SerialInv.resume (h : SerialInv target s) {parent : ExitParent} {intent : ExitIntent}
    {nextSliceIndex : ℕ} {answer : Option ℚ} (hplace : s.task i = .resumeLimit parent intent nextSliceIndex)
    (hadvance : resumeWithLimit exit s.shared parent intent nextSliceIndex answer now =
      some (store, place))
    (hapart : OneRecorder (moved s i store place)) : SerialInv target (moved s i store place) := by
  have hbefore : (s.task i).recording = none := by
    rw [hplace]
    rfl
  have hok := h.places i
  rw [hplace] at hok
  unfold resumeWithLimit at hadvance
  split at hadvance
  · -- the copy that was read before is saved with an issue
    cases hadvance
    exact h.move_of_none hapart (saveCopy_record ⟨h.parent, h.children⟩ hok.1)
      (keepsOrders_of_eq rfl) trivial hbefore (fun _ hroom => hroom) (fun hroom => hroom)
  · next splitLimit _ =>
    simp only [Option.bind_eq_bind, Option.bind_eq_some_iff, Option.pure_def, Option.some.injEq,
      Prod.mk.injEq] at hadvance
    obtain ⟨record, hrecord, rfl, hadvance⟩ := hadvance
    obtain ⟨hparent, hmatch, hchildren⟩ := recompute_record ⟨h.parent, h.children⟩ hrecord
    obtain ⟨stored, hstored, htarget⟩ := hparent.1
    unfold executeSerialExitSplit at hadvance
    have hsame : ∀ recording, Room target recording s.shared.record.children s.shared.orders →
        Room target recording record.children s.shared.orders := by
      intro recording hroom
      rw [hchildren]
      exact hroom
    split at hadvance
    · subst hadvance
      exact h.move_of_none hapart hparent (keepsOrders_of_eq rfl) trivial hbefore hsame
        (fun hroom => hroom)
    · subst hadvance
      have hfirst : ∀ loop : SerialLoop, loop.startSliceIndex = nextSliceIndex →
          loop.atFirstSlice = false := by
        intro loop hstart
        unfold SerialLoop.atFirstSlice
        rw [decide_eq_false_iff_not, hstart]
        intro hle
        have := hok.2
        omega
      exact h.move_of_none hapart hparent (keepsOrders_of_eq rfl)
        (placeOk_executeSlice (hfirst _ rfl) le_rfl hstored) hbefore hsame
        (room_executeSlice (hfirst _ rfl) hstored htarget hmatch)

theorem SerialInv.write (h : SerialInv target s) {purpose : WritePurpose} {order : ExitOrder}
    (hplace : s.task i = .writing purpose order)
    (hapart : OneRecorder
      (moved s i (s.shared.write order) (.saving purpose (s.shared.written order))))
    (hkeeps : writeKeeps s.shared purpose order) :
    SerialInv target (moved s i (s.shared.write order) (.saving purpose (s.shared.written order))) := by
  have hok := h.places i
  rw [hplace] at hok
  have hrecording : (s.task i).recording = purpose.recorded.map (order.clientOrderId, ·) := by
    rw [hplace]
    rfl
  refine h.move_same hapart ⟨h.parent, h.children⟩ (keepsOrders_write order) hok.1 ?_
    fun recording hrecords hroom => hroom.write hkeeps hok.2 fun quantity hquantity => ?_
  · rw [hrecording]
    show purpose.recorded.map ((s.shared.written order).clientOrderId, ·) = _
    rw [clientOrderId_written]
  · exact (hrecords _).mpr ⟨i, by rw [hrecording, hquantity]; rfl⟩

theorem atFirstSlice_next {loop : SerialLoop} (h : LoopOk loop) :
    { loop with sliceIndex := loop.sliceIndex + 1 }.atFirstSlice = false := by
  unfold SerialLoop.atFirstSlice
  rw [decide_eq_false_iff_not]
  rintro ⟨heq, -⟩
  unfold LoopOk at h
  simp only at heq
  omega

theorem SerialInv.save (h : SerialInv target s) {purpose : WritePurpose} {persisted : ExitOrder}
    (hplace : s.task i = .saving purpose persisted)
    (hafter : store = syncExitExecutionIntent exit s.shared persisted now)
    (hapart : OneRecorder (moved s i store (afterSaving exit store persisted now purpose)))
    (hsaves : savesStoredOrder exit s.shared persisted now) :
    SerialInv target (moved s i store (afterSaving exit store persisted now purpose)) := by
  have hok := h.places i
  rw [hplace] at hok
  obtain ⟨order, horder, href⟩ := Option.map_eq_some_iff.mp hsaves
  have hmem := mem_of_getOrderState horder
  have hid := clientOrderId_of_getOrderState horder
  have hstored : (store.getOrderState persisted.clientOrderId).isSome = true := by
    rw [hafter]
    exact Option.isSome_iff_exists.mpr ⟨order, horder⟩
  obtain ⟨hrecord, hmatch, hchildren⟩ :=
    sync_record exit s.shared persisted now h.parent
  have horders : store.orders = s.shared.orders := by
    rw [hafter]
    rfl
  have hkeeps := keepsOrders_of_eq horders
  rw [← hafter] at hrecord hmatch hchildren
  rw [← href] at hchildren
  obtain ⟨parent, hparent, htarget⟩ := hrecord.1
  have hsame : ∀ recording, Room target recording s.shared.record.children s.shared.orders →
      Room target recording store.record.children store.orders := by
    intro recording hroom
    rw [hchildren, horders]
    exact hroom.saveRef exit now hmem
  have hrelease : ∀ quantity, purpose.recorded = some quantity →
      Room target (some (persisted.clientOrderId, quantity)) s.shared.record.children
        s.shared.orders → Room target none store.record.children store.orders := by
    intro quantity _ hroom
    rw [hchildren, horders]
    exact hroom.release exit now hmem hid
  have hbefore : (s.task i).recording = purpose.recorded.map (persisted.clientOrderId, ·) := by
    rw [hplace]
    rfl
  cases purpose with
  | anchor intent =>
    exact h.move_release hapart hrecord hkeeps hstored hbefore rfl (hrelease _ rfl)
  | slice loop quantity =>
    refine h.move_release hapart hrecord hkeeps ⟨hstored, ?_⟩ hbefore rfl (hrelease _ rfl)
    rintro _ ⟨⟩
    exact hok
  | report =>
    exact h.move_of_none hapart hrecord hkeeps trivial hbefore hsame fun hroom => hroom
  | outcome loop =>
    cases loop with
    | none => exact h.move_of_none hapart hrecord hkeeps trivial hbefore hsame fun hroom => hroom
    | some loop =>
      simp only [afterSaving, afterSlice] at hapart ⊢
      split at hapart
      · next hcontinue =>
        rw [if_pos hcontinue]
        have hfirst := atFirstSlice_next hok
        exact h.move_of_none hapart hrecord hkeeps
          (placeOk_executeSlice hfirst (le_trans hok (Nat.le_succ _)) hparent) hbefore hsame
          (room_executeSlice hfirst hparent htarget hmatch)
      · next hend =>
        rw [if_neg hend]
        exact h.move_of_none hapart hrecord hkeeps trivial hbefore hsame fun hroom => hroom

theorem executeSerialExitSplit_first (exit : SerialExit) (store : ExitStore) (intent : ExitIntent)
    (clientOrderId : String) (splitLimit : ℚ) (now : Timestamp) :
    executeSerialExitSplit exit store intent clientOrderId splitLimit 1 now = .idle ∨
      ∃ loop quantity, LoopOk loop ∧ quantity ≤ loop.splitLimit ∧
        executeSerialExitSplit exit store intent clientOrderId splitLimit 1 now =
          .submitting (some loop) clientOrderId quantity := by
  unfold executeSerialExitSplit executeSlice
  split
  · exact .inl rfl
  · split
    · exact .inl rfl
    · split
      · exact .inl rfl
      · next quantity hquantity =>
        refine .inr ⟨_, quantity, le_rfl, ?_, rfl⟩
        unfold SerialLoop.childQuantity at hquantity
        split_ifs at hquantity
        cases hquantity
        exact min_le_left _ _

theorem resume_place {parent : ExitParent} (store : ExitStore)
    (htarget : parent.targetExitQuantity = target) (hchildren : store.record.children ≠ []) :
    (resumeExitExecutionParent store parent).recording = none ∧
      PlaceOk target store (resumeExitExecutionParent store parent) := by
  unfold resumeExitExecutionParent
  have hlength : 1 ≤ store.record.children.length := List.length_pos_of_ne_nil hchildren
  split
  · exact ⟨rfl, trivial⟩
  · split
    · exact ⟨rfl, trivial⟩
    · split
      · exact ⟨rfl, trivial⟩
      · exact ⟨rfl, htarget, Nat.succ_le_succ hlength⟩

theorem serialInv_step {label : Fin n × ExitInput × Timestamp} (h : SerialInv target s)
    (hok : dispatchesApart exit s label) (hstep : serialExitStep exit s label = some t) :
    SerialInv target t := by
  obtain ⟨i, input⟩ := label
  obtain ⟨hfits, hapart⟩ := hok
  rw [hstep] at hapart
  obtain ⟨store, place, hadvance, rfl⟩ := tasksStep_eq_some hstep
  have hplace := h.places i
  simp only at hfits
  generalize htask : s.task i = before at hadvance hfits hplace
  have hnone : before.recording = none → (s.task i).recording = none := fun heq => htask ▸ heq
  unfold advanceExit at hadvance
  split at hadvance
  · -- an intent is taken up
    cases hadvance
    exact h.takeUp rfl hapart (hnone rfl) hfits
  · -- news on an order
    split at hadvance
    · next hstored =>
      cases hadvance
      exact h.stay hapart (hnone rfl) rfl ⟨trivial, hstored⟩
    · cases hadvance
  · -- the exit is to be resumed
    obtain ⟨parent, hparent, hadvance⟩ := Option.map_eq_some_iff.mp hadvance
    cases hadvance
    obtain ⟨stored, hstored, htarget⟩ := h.parent
    rw [hparent, Option.some.injEq] at hstored
    subst hstored
    obtain ⟨hafter, hok⟩ := resume_place s.shared htarget h.children
    exact h.stay hapart (hnone rfl) hafter hok
  · -- the references are refreshed
    cases hadvance
    obtain ⟨hrecord, horders, hroom⟩ := refresh_record exit _ ⟨h.parent, h.children⟩
    refine h.move_of_none hapart hrecord (keepsOrders_of_eq horders) trivial (hnone rfl) ?_
      fun hroom => hroom
    intro recording hbefore
    rw [horders]
    exact hroom recording hbefore
  · -- a cancel is requested
    obtain ⟨record, hrecord, hadvance⟩ := Option.map_eq_some_iff.mp hadvance
    cases hadvance
    obtain ⟨hparent, -, hchildren⟩ := recompute_record ⟨h.parent, h.children⟩ hrecord
    refine h.move_of_none hapart hparent (keepsOrders_of_eq rfl) trivial (hnone rfl) ?_
      fun hroom => hroom
    intro recording hroom
    rw [hchildren]
    exact hroom
  · -- an order state is written
    cases hadvance
    exact h.write htask hapart hfits
  · -- the reference of an order is saved
    cases hadvance
    exact h.save htask rfl hapart hfits
  · -- the limit of an intent
    split at hadvance
    · cases hadvance
      refine h.stay hapart (hnone rfl) rfl ⟨hplace, ?_⟩
      rintro _ ⟨⟩
    · next intent clientOrderId _ _ _ splitLimit _ =>
      cases hadvance
      rcases executeSerialExitSplit_first exit s.shared intent clientOrderId splitLimit _ with
        heq | ⟨loop, quantity, hloop, hlimit, heq⟩
      · rw [heq] at hapart ⊢
        exact h.stay hapart (hnone rfl) rfl trivial
      · rw [heq] at hapart ⊢
        refine h.stay hapart (hnone rfl) rfl ⟨hplace, ?_⟩
        rintro _ ⟨⟩
        exact ⟨hloop, hlimit⟩
  · -- the limit of an exit that is resumed
    exact h.resume htask hadvance hapart
  · -- the exchange has answered
    split at hadvance
    · next loop _ _ _ _ hanswer =>
      cases hadvance
      refine h.stay hapart (hnone rfl) rfl ⟨?_, ?_⟩
      · cases loop with
        | none => trivial
        | some loop => exact (hplace.2 loop rfl).1
      · unfold WritesOrder
        rw [hanswer.1]
        exact hplace.1
    · cases hadvance
  · cases hadvance

theorem room_recordedExit (exit : SerialExit) {intent : ExitIntent} (clientOrderId : String)
    (now : Timestamp) (hquantity : 0 ≤ intent.quantity) :
    HasParent intent.quantity (recordedExit exit intent clientOrderId now).record ∧
      Room intent.quantity none (recordedExit exit intent clientOrderId now).record.children
        (recordedExit exit intent clientOrderId now).orders ∧
      ((recordedExit exit intent clientOrderId now).getOrderState clientOrderId).isSome = true := by
  set order := submittingStateForIntent exit none intent clientOrderId now
  set parent := addDispatchTemplate (exit.createParent order) intent
  set store : ExitStore := { record := saveExitExecutionIntent {} parent }
  have htarget : parent.targetExitQuantity = intent.quantity := max_eq_left hquantity
  have hempty : Room intent.quantity (some (clientOrderId, intent.quantity)) [] [] := by
    refine ⟨List.nodup_nil, List.nodup_nil, by simp, by simp, by simp, by simp, ?_⟩
    show (0 : ℚ) + max (intent.quantity - 0) 0 ≤ _
    rw [zero_add, sub_zero, max_eq_left hquantity]
  have hwrites : WritesOrder store (.anchor intent) order :=
    writesOrder_submitting (.anchor intent) intent clientOrderId rfl hquantity
  have hwritten : Room intent.quantity (some (clientOrderId, intent.quantity)) []
      (store.write order).orders :=
    (show Room _ _ store.record.children store.orders from hempty).write trivial hwrites
      (by rintro _ ⟨⟩; rfl)
  have hstate : (store.write order).getOrderState order.clientOrderId =
      some (store.written order) := (getOrderState_write order.clientOrderId).trans (if_pos rfl)
  have hroom := hwritten.release exit now (mem_of_getOrderState hstate) clientOrderId_written
  obtain ⟨hrecord, -, hchildren⟩ := sync_record exit (store.write order) (store.written order) now
    ⟨parent, rfl, htarget⟩
  refine ⟨hrecord, ?_, Option.isSome_iff_exists.mpr ⟨_, hstate⟩⟩
  show Room _ none (syncExitExecutionIntent exit (store.write order) (store.written order)
    now).record.children (store.write order).orders
  rw [hchildren]
  exact hroom

theorem serialInv_start (exit : SerialExit) (first : Fin n) {intent : ExitIntent}
    (clientOrderId : String) (now : Timestamp) (hquantity : 0 ≤ intent.quantity) :
    SerialInv intent.quantity (serialExitStart exit first intent clientOrderId now) := by
  obtain ⟨hrecord, hroom, hstored⟩ := room_recordedExit exit clientOrderId now hquantity
  have htask : ∀ j, (serialExitStart exit first intent clientOrderId now).task j =
      if j = first then .splitLimit intent clientOrderId else .idle := by
    intro j
    show Function.update (fun _ => ExitPlace.idle) first _ j = _
    rw [Function.update_apply]
  have hnone : ∀ j, ((serialExitStart exit first intent clientOrderId now).task j).recording =
      none := by
    intro j
    rw [htask]
    split
    · rfl
    · rfl
  refine ⟨hrecord.1, hrecord.2, ⟨none, fun _ => ⟨by rintro ⟨⟩, ?_⟩, hroom⟩, ?_, ?_⟩
  · rintro ⟨j, hj⟩
    rw [hnone] at hj
    cases hj
  · intro i j hi
    rw [hnone] at hi
    cases hi
  · intro j
    rw [htask]
    split
    · exact hstored
    · trivial

end Moves

/-- **An exit stays within its target**, in every run whose orders are dispatched apart: whenever
the parent is recomputed, what its children have filled and may fill yet is within the target, and
no slice is larger than its limit. -/
theorem serial_exit_within_target {n : ℕ} (exit : SerialExit) (first : Fin n) (intent : ExitIntent)
    (clientOrderId : String) (start : Timestamp) (hquantity : 0 ≤ intent.quantity)
    (labels : List (Fin n × ExitInput × Timestamp)) (s : Tasks ExitStore ExitPlace n)
    (hmeets : Meets (serialExitStep exit) (dispatchesApart exit)
      (serialExitStart exit first intent clientOrderId start) labels)
    (hrun : run (serialExitStep exit) (serialExitStart exit first intent clientOrderId start)
      labels = some s) :
    (∃ parent, s.shared.record.parent = some parent ∧
      parent.targetExitQuantity = intent.quantity) ∧
    (∀ parent now, let after := recomputeExitExecutionIntent parent s.shared.record.children now
      after.aggregatedFilledQuantity + after.openChildWorkingQuantity +
        after.openChildUnknownQuantity ≤ intent.quantity) ∧
    ∀ i loop childId quantity, s.task i = .submitting (some loop) childId quantity →
      quantity ≤ loop.splitLimit := by
  have hinv : SerialInv intent.quantity s :=
    run_invariant_of_meets (fun _ _ _ hinv hok hstep => serialInv_step hinv hok hstep)
      (serialInv_start exit first clientOrderId start hquantity) hmeets hrun
  refine ⟨hinv.parent, fun parent now => ?_, fun i loop childId quantity hplace => ?_⟩
  · obtain ⟨recording, -, hroom⟩ := hinv.room
    show filledOf s.shared.record.children + workingOf s.shared.record.children +
      unknownOf s.shared.record.children ≤ intent.quantity
    rw [filled_working_unknown_eq]
    exact hroom.exposureOf_le
  · have hok := hinv.places i
    rw [hplace] at hok
    exact (hok.2 loop rfl).2

/-! ### Two tasks at one exit -/

/-- An exit whose slices are known by the keys of their intents. -/
def sampleExit : SerialExit where
  parentIntentId := "exit_parent:x"
  reduceOnly := true
  derivedChildClientOrderId := DispatchTemplate.idempotencyKey

def orderWith (clientOrderId : String) (status : OrderStatus) (requested filled : ℚ) : ExitOrder where
  clientOrderId := clientOrderId
  status := status
  requestedQty := requested
  filledQty := filled
  remainingQty := requested - filled
  reduceOnly := true

def exitTen : ExitIntent := { intentId := "i", idempotencyKey := "c1", quantity := 10 }

def serialExitAfter (labels : List (Fin 2 × ExitInput × Timestamp)) : Tasks ExitStore ExitPlace 2 :=
  (run (serialExitStep sampleExit) (serialExitStart sampleExit 0 exitTen "c1" 0) labels).getD
    (serialExitStart sampleExit 0 exitTen "c1" 0)

def writeAndSave (task : Fin 2) (now : Timestamp) : List (Fin 2 × ExitInput × Timestamp) :=
  [(task, .proceed, now), (task, .proceed, now)]

/-- Of a first slice of six coins four are filled, and a second one is sent. -/
def secondSliceSent : List (Fin 2 × ExitInput × Timestamp) :=
  [(0, .limit (some 6), 1), (0, .outcome (orderWith "c1" .canceled 6 4), 2)] ++
    writeAndSave 0 3 ++ writeAndSave 0 4

theorem serial_exit_within_target_secondSlice :
    (∃ parent, (serialExitAfter secondSliceSent).shared.record.parent = some parent ∧
      parent.targetExitQuantity = exitTen.quantity) ∧
    ∀ parent now,
      let children := (serialExitAfter secondSliceSent).shared.record.children
      let after := recomputeExitExecutionIntent parent children now
      after.aggregatedFilledQuantity + after.openChildWorkingQuantity +
        after.openChildUnknownQuantity ≤ exitTen.quantity :=
  (serial_exit_within_target sampleExit 0 exitTen "c1" 0 (by decide +kernel) secondSliceSent
    (serialExitAfter secondSliceSent) (by decide +kernel)
    (Option.getD_of_ne_none (by decide +kernel) _).symm).imp_right And.left

/-- A post-only order for the exit ends with one coin filled. While its task takes up an intent
for the other nine, the synchronization resumes the exit and sends six of them. -/
def overlappingResume : List (Fin 2 × ExitInput × Timestamp) :=
  [(0, .limit none, 1), (0, .outcome (orderWith "c1" .submitted 10 0), 2)] ++ writeAndSave 0 3 ++
    [(0, .report (orderWith "c1" .canceled 10 1), 4)] ++ writeAndSave 0 5 ++
    [(0, .takeUp { intentId := "i:pof", idempotencyKey := "c1:pof", quantity := 9 } "c1:pof", 6),
      (1, .resume, 7), (1, .limit (some 6), 8)] ++ writeAndSave 1 9 ++ writeAndSave 0 10 ++
    [(0, .limit (some 6), 11), (1, .outcome (orderWith "c1:slice:2" .filled 6 6), 12)] ++
    writeAndSave 1 13 ++ [(0, .outcome (orderWith "c1:pof" .filled 6 6), 14)] ++ writeAndSave 0 15

/-- Thirteen coins are sold for an exit of ten. -/
theorem overlapping_resume_over_exits :
    (run (serialExitStep sampleExit) (serialExitStart sampleExit (0 : Fin 2) exitTen "c1" 0)
        overlappingResume).isSome = true ∧
      filledOf (serialExitAfter overlappingResume).shared.record.children = 13 ∧
      ((serialExitAfter overlappingResume).shared.record.parent.map
        ExitParent.targetExitQuantity) = some 10 := by
  decide +kernel

end Aats.Exits
