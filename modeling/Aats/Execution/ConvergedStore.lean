import Aats.FillOrdering
import Aats.Execution.MergeRuns
import Mathlib.Algebra.Order.BigOperators.Group.List

/-!
# The converged execution repository

`storage/execution_repo_converged_postgres.py`: order states and fills of one order arrive in any
order. A row that an order state creates is written by `merge` only, fills leave its order state
alone. A fill for an unknown order creates a synthetic row, marked `converged_fill_backfill`,
whose order state is rebuilt from all its fills each time one is added; its requested quantity
is what was filled.

## Main results
* `runCalls_stored` — what is stored if an order state comes first, and if a fill comes first.
-/

namespace Aats.Execution

/-! ### Rows -/

/-- The mark of a row that was created for a fill. -/
def convergedFillBackfill : String := "converged_fill_backfill"

/-- A row of `execution_orders`, with the parts of its `raw_payload` that are read back:
`source_system` and `order_state`. -/
structure ExecutionOrderRow where
  clientOrderId : String
  intentId : String
  symbol : String
  venueOrderId : Option String
  requestedQty : ℚ
  state : OrderStatus
  createdAt : Timestamp
  sourceSystem : String
  orderState : Option OrderState
  deriving DecidableEq

/-- `_hydrate_order_state`: the order state in the payload, else one made up from the columns. -/
def ExecutionOrderRow.hydrateOrderState (row : ExecutionOrderRow) : OrderState :=
  match row.orderState with
  | some orderState => orderState
  | none =>
    { clientOrderId := row.clientOrderId
      intentId := row.intentId
      symbol := row.symbol
      exchangeOrderId := row.venueOrderId
      status := row.state
      submissionMode :=
        if row.sourceSystem = "" then "converged_execution_repo" else row.sourceSystem
      submittedTs := if row.state = .created then none else some row.createdAt
      lastUpdateTs := some row.createdAt
      requestedQty := row.requestedQty
      remainingQty := row.requestedQty }

structure ConvergedStore where
  row : Option ExecutionOrderRow := none
  fills : List FillRecord := []
  deriving DecidableEq

namespace ConvergedStore

/-- The stored order state, `get_order_state`. -/
def orderState (store : ConvergedStore) : Option OrderState :=
  store.row.map ExecutionOrderRow.hydrateOrderState

/-! ### Saving an order state -/

/-- The `source_system` of a row: it stays what it was when the row was created. -/
def sourceSystemOf (existing : String) (merged : OrderState) : String :=
  if existing = "" then
    if merged.submissionMode = "" then "converged_execution_repo" else merged.submissionMode
  else existing

/-- `save_order_state_in_session`. The requested quantity of the row is written only when the
row is created. -/
def saveOrderState (store : ConvergedStore) (state : OrderState) (createdAt : Timestamp) :
    Except InvalidOrderStateTransition ConvergedStore :=
  match store.row with
  | none =>
    -- no order yet: nothing to validate the status against
    let merged := merge none state
    .ok { store with
      row := some
        { clientOrderId := merged.clientOrderId
          intentId := merged.intentId
          symbol := merged.symbol
          venueOrderId := merged.exchangeOrderId
          requestedQty := merged.requestedQty
          state := merged.status
          createdAt := createdAt
          sourceSystem := sourceSystemOf "" merged
          orderState := some merged } }
  | some row =>
    match Execution.saveOrderState row.hydrateOrderState state with
    | .error e => .error e
    | .ok merged =>
      .ok { store with
        row := some
          { row with
            state := merged.status
            venueOrderId := strOr merged.exchangeOrderId row.venueOrderId
            sourceSystem := sourceSystemOf row.sourceSystem merged
            orderState := some merged } }

/-! ### Saving a fill -/

/-- The row that `save_fill_in_session` creates for an unknown order: it requests what the fill
has filled. -/
def syntheticRow (fill : FillRecord) : ExecutionOrderRow where
  clientOrderId := fill.clientOrderId
  intentId := fill.intentId
  symbol := fill.symbol
  venueOrderId := some fill.exchangeOrderId
  requestedQty := fill.fillQty
  state := fill.orderStatusAfterFill.getD .filled
  createdAt := fill.createdAt
  sourceSystem := convergedFillBackfill
  orderState := none

/-- `try_fill_fee_cost_in_quote(fill)`, with an unsupported fee counted as zero. -/
def feeCostOrZero (fill : FillEvent) : ℚ :=
  match fillFeeDeltaInQuote fill none none with
  | .ok delta => |delta|
  | .error _ => 0

/-- The order state that `_refresh_synthetic_order_state_from_fills` builds from the fills of an
order, of which `lastFill` is the last one in processing order. -/
def stateFromFills (row : ExecutionOrderRow) (fills : List FillRecord) (lastFill : FillRecord) :
    OrderState :=
  let totalFilledQty := (fills.map (·.fillQty)).sum
  let requestedQty := max row.requestedQty totalFilledQty
  let remainingQty := max (requestedQty - totalFilledQty) 0
  { clientOrderId := row.clientOrderId
    intentId := row.intentId
    symbol := row.symbol
    exchangeOrderId := strOr row.venueOrderId (some lastFill.exchangeOrderId)
    status := lastFill.orderStatusAfterFill.getD
      (if remainingQty ≤ 0 then .filled else .partiallyFilled)
    submissionMode := if row.sourceSystem = "" then convergedFillBackfill else row.sourceSystem
    submittedTs := some row.createdAt
    lastUpdateTs := some lastFill.ingestionTimestamp
    lastExchangeUpdateTs := some lastFill.exchangeTimestamp
    requestedQty := requestedQty
    filledQty := totalFilledQty
    remainingQty := remainingQty
    averageFillPrice :=
      if 0 < totalFilledQty then
        some ((fills.map (fun fill => fill.fillQty * fill.fillPrice)).sum / totalFilledQty)
      else none
    fees := (fills.map (fun fill => feeCostOrZero fill.toFillEvent)).sum
    submissionPayload := [] }

/-- `_refresh_synthetic_order_state_from_fills`: a row with an order state is left alone, unless
it carries the mark of a row created for a fill. -/
def refreshSyntheticOrderStateFromFills (row : ExecutionOrderRow) (fills : List FillRecord) :
    ExecutionOrderRow :=
  if row.orderState.isSome ∧ row.sourceSystem ≠ convergedFillBackfill then row
  else
    match (sortedFills fills).getLast? with
    | none => row
    | some lastFill =>
      let orderState := stateFromFills row (sortedFills fills) lastFill
      { row with
        state := orderState.status
        venueOrderId := strOr orderState.exchangeOrderId row.venueOrderId
        orderState := some orderState }

def hasFill (store : ConvergedStore) (fillId : String) : Bool :=
  store.fills.any (·.fillId = fillId)

/-- `save_fill_in_session`. -/
def saveFill (store : ConvergedStore) (fill : FillRecord) : Bool × ConvergedStore :=
  let row := store.row.getD (syntheticRow fill)
  -- the row is created before the duplicate is noticed
  if store.hasFill fill.fillId then (false, { store with row := some row })
  else
    let fills := store.fills ++ [fill]
    (true, { row := some (refreshSyntheticOrderStateFromFills row fills), fills := fills })

/-! ### Any interleaving -/

inductive Call
  | saveOrderState (state : OrderState) (createdAt : Timestamp)
  | saveFill (fill : FillRecord)
  deriving DecidableEq

def applyCall (store : ConvergedStore) : Call → ConvergedStore
  | .saveOrderState state createdAt =>
    match store.saveOrderState state createdAt with
    | .ok saved => saved
    | .error _ => store
  | .saveFill fill => (store.saveFill fill).2

def runCalls (store : ConvergedStore) (calls : List Call) : ConvergedStore :=
  calls.foldl applyCall store

theorem runCalls_concat (store : ConvergedStore) (calls : List Call) (call : Call) :
    store.runCalls (calls ++ [call]) = (store.runCalls calls).applyCall call := by
  unfold runCalls
  rw [List.foldl_append]
  rfl

def fillsOf (calls : List Call) : List FillRecord :=
  calls.filterMap (fun call => match call with
    | .saveFill fill => some fill
    | .saveOrderState _ _ => none)

def statesOf (calls : List Call) : List OrderState :=
  calls.filterMap (fun call => match call with
    | .saveOrderState state _ => some state
    | .saveFill _ => none)

/-- The calls speak of one order: the order states carry its requested quantity, the fills are
distinct and sum to at most that, and no order state reports more than was filled. -/
structure OfOrder (requested : ℚ) (calls : List Call) : Prop where
  requested_pos : 0 < requested
  requested_eq : ∀ state ∈ statesOf calls, state.requestedQty = requested
  distinct : ((fillsOf calls).map (·.fillId)).Nodup
  fillQty_nonneg : ∀ fill ∈ fillsOf calls, 0 ≤ fill.fillQty
  sum_le : ((fillsOf calls).map (·.fillQty)).sum ≤ requested
  reported_le : ∀ state ∈ statesOf calls,
    state.filledQty ≤ ((fillsOf calls).map (·.fillQty)).sum

/-- The order states of a run whose save did not raise. -/
def savedStates : ConvergedStore → List Call → List OrderState
  | _, [] => []
  | store, .saveFill fill :: calls => savedStates (store.applyCall (.saveFill fill)) calls
  | store, .saveOrderState state createdAt :: calls =>
    match store.saveOrderState state createdAt with
    | .ok saved => state :: savedStates saved calls
    | .error _ => savedStates store calls

theorem savedStates_subset (store : ConvergedStore) (calls : List Call) :
    store.savedStates calls ⊆ statesOf calls := by
  induction calls generalizing store with
  | nil => exact List.Subset.refl _
  | cons call calls ih =>
    cases call with
    | saveFill fill => exact ih _
    | saveOrderState state createdAt =>
      unfold savedStates
      split
      · exact List.cons_subset_cons state (ih _)
      · exact List.Subset.trans (ih store) (List.subset_cons_self _ _)

/-! ### When an order state comes first -/

/-- The row was created for an order state, not for a fill. -/
def Genuine (store : ConvergedStore) (order : OrderState) : Prop :=
  ∃ row, store.row = some row ∧ row.orderState = some order ∧
    row.sourceSystem ≠ "" ∧ row.sourceSystem ≠ convergedFillBackfill

variable {store : ConvergedStore} {order : OrderState}

theorem Genuine.orderState_eq (h : store.Genuine order) : store.orderState = some order := by
  obtain ⟨row, hrow, horder, -, -⟩ := h
  unfold orderState
  rw [hrow, Option.map_some, ExecutionOrderRow.hydrateOrderState, horder]

theorem genuine_first {first : OrderState} {createdAt : Timestamp}
    (hmode : first.submissionMode ≠ convergedFillBackfill) :
    (applyCall {} (.saveOrderState first createdAt)).Genuine (merge none first) := by
  have hmerged : (merge none first).submissionMode = first.submissionMode := by
    show (normalize first).submissionMode = _
    unfold normalize
    split
    · rfl
    · split
      · rfl
      · split <;> rfl
  refine ⟨_, rfl, rfl, ?_, ?_⟩
  · show sourceSystemOf "" (merge none first) ≠ ""
    unfold sourceSystemOf
    rw [if_pos rfl]
    split
    · decide
    · next h => exact h
  · show sourceSystemOf "" (merge none first) ≠ convergedFillBackfill
    unfold sourceSystemOf
    rw [if_pos rfl, hmerged]
    split
    · decide
    · exact hmode

theorem Genuine.saveFill (h : store.Genuine order) (fill : FillRecord) :
    (store.applyCall (.saveFill fill)).Genuine order := by
  obtain ⟨row, hrow, horder, hne, hmark⟩ := h
  refine ⟨row, ?_, horder, hne, hmark⟩
  -- the row has an order state and no mark, so it is not refreshed
  show (store.saveFill fill).2.row = some row
  unfold ConvergedStore.saveFill
  rw [hrow, Option.getD_some]
  split
  · rfl
  · show some (refreshSyntheticOrderStateFromFills row (store.fills ++ [fill])) = some row
    unfold refreshSyntheticOrderStateFromFills
    rw [if_pos ⟨by rw [horder]; rfl, hmark⟩]

theorem Genuine.saveOrderState (h : store.Genuine order) (state : OrderState)
    (createdAt : Timestamp) :
    (∃ saved, store.saveOrderState state createdAt = .ok saved ∧
      saved.Genuine (merge (some order) state)) ∨
    ∃ e, store.saveOrderState state createdAt = .error e := by
  obtain ⟨row, hrow, horder, hne, hmark⟩ := h
  have hhydrate : row.hydrateOrderState = order := by
    rw [ExecutionOrderRow.hydrateOrderState, horder]
  unfold ConvergedStore.saveOrderState
  rw [hrow]
  simp only []
  rw [hhydrate]
  cases hsave : Execution.saveOrderState order state with
  | error e => exact .inr ⟨e, rfl⟩
  | ok merged =>
    have hmerged := saveOrderState_eq_ok hsave
    -- the mark cannot come in later: the source of a row stays
    have hsource : sourceSystemOf row.sourceSystem merged = row.sourceSystem := if_neg hne
    refine .inl ⟨_, rfl, _, rfl, ?_, ?_, ?_⟩
    · rw [hmerged]
    · rw [hsource]
      exact hne
    · rw [hsource]
      exact hmark

/-- **A genuine row is written by `merge` only**: after any calls it holds the merge of the order
states whose save did not raise. -/
theorem Genuine.runCalls (h : store.Genuine order) (calls : List Call) :
    (store.runCalls calls).Genuine
      ((store.savedStates calls).foldl (fun current state => merge (some current) state) order) := by
  -- forwards through the calls: `savedStates` is what the rest of the run still merges in
  induction calls generalizing store order with
  | nil => exact h
  | cons call calls ih =>
    cases call with
    | saveFill fill => exact ih (h.saveFill fill)
    | saveOrderState state createdAt =>
      rcases h.saveOrderState state createdAt with ⟨saved, hsave, hgenuine⟩ | ⟨e, hsave⟩
      · have happly : store.applyCall (.saveOrderState state createdAt) = saved := by
          simp only [applyCall, hsave]
        have hstates : store.savedStates (.saveOrderState state createdAt :: calls) =
            state :: saved.savedStates calls := by
          simp only [savedStates, hsave]
        rw [hstates]
        show ((store.applyCall _).runCalls calls).Genuine _
        rw [happly]
        exact ih hgenuine
      · have happly : store.applyCall (.saveOrderState state createdAt) = store := by
          simp only [applyCall, hsave]
        have hstates : store.savedStates (.saveOrderState state createdAt :: calls) =
            store.savedStates calls := by
          simp only [savedStates, hsave]
        rw [hstates]
        show ((store.applyCall _).runCalls calls).Genuine _
        rw [happly]
        exact ih h

/-! ### When only fills have come -/

/-- The row was created for a fill, and its order state is the one that the fills give. -/
def Synthetic (store : ConvergedStore) (fills : List FillRecord) : Prop :=
  store.fills = fills ∧
    ∃ row first order, store.row = some row ∧ first ∈ fills ∧ row.requestedQty = first.fillQty ∧
      row.sourceSystem = convergedFillBackfill ∧ row.orderState = some order ∧
      order.requestedQty = max first.fillQty (fills.map (·.fillQty)).sum ∧
      order.filledQty = (fills.map (·.fillQty)).sum

theorem refresh_of_backfill {row : ExecutionOrderRow} {fills : List FillRecord}
    (hmark : row.sourceSystem = convergedFillBackfill) (hne : fills ≠ []) :
    ∃ order,
      (refreshSyntheticOrderStateFromFills row fills).orderState = some order ∧
      (refreshSyntheticOrderStateFromFills row fills).requestedQty = row.requestedQty ∧
      (refreshSyntheticOrderStateFromFills row fills).sourceSystem = row.sourceSystem ∧
      order.requestedQty = max row.requestedQty (fills.map (·.fillQty)).sum ∧
      order.filledQty = (fills.map (·.fillQty)).sum := by
  have hsorted : sortedFills fills ≠ [] := by
    intro h
    exact hne (h ▸ sortedFills_perm fills).nil_eq.symm
  have hsum : ((sortedFills fills).map (·.fillQty)).sum = (fills.map (·.fillQty)).sum :=
    ((sortedFills_perm fills).map _).sum_eq
  unfold refreshSyntheticOrderStateFromFills
  rw [if_neg (fun h => h.2 hmark), List.getLast?_eq_getLast_of_ne_nil hsorted]
  refine ⟨_, rfl, rfl, rfl, ?_, ?_⟩
  · show max row.requestedQty ((sortedFills fills).map (·.fillQty)).sum = _
    rw [hsum]
  · exact hsum

theorem synthetic_first (fill : FillRecord) :
    (applyCall {} (.saveFill fill)).Synthetic [fill] := by
  obtain ⟨order, horder, hreq, hmark, hoReq, hoFilled⟩ :=
    refresh_of_backfill (show (syntheticRow fill).sourceSystem = convergedFillBackfill from rfl)
      (List.cons_ne_nil fill [])
  exact ⟨rfl, _, fill, order, rfl, List.mem_singleton_self _, hreq, hmark, horder, hoReq, hoFilled⟩

theorem applyCall_saveFill {fills : List FillRecord} {row : ExecutionOrderRow} {fill : FillRecord}
    (hfills : store.fills = fills) (hrow : store.row = some row)
    (hnew : fill.fillId ∉ fills.map (·.fillId)) :
    store.applyCall (.saveFill fill) =
      { row := some (refreshSyntheticOrderStateFromFills row (fills ++ [fill])),
        fills := fills ++ [fill] } := by
  have hhas : store.hasFill fill.fillId = false := by
    unfold hasFill
    rw [hfills, List.any_eq_false]
    intro other hmem hid
    exact hnew (List.mem_map.mpr ⟨other, hmem, by simpa using hid⟩)
  show (store.saveFill fill).2 = _
  unfold ConvergedStore.saveFill
  rw [hhas, hrow, hfills]
  rfl

theorem Synthetic.saveFill {fills : List FillRecord} (h : store.Synthetic fills)
    {fill : FillRecord} (hnew : fill.fillId ∉ fills.map (·.fillId)) :
    (store.applyCall (.saveFill fill)).Synthetic (fills ++ [fill]) := by
  obtain ⟨hfills, row, first, order, hrow, hfirst, hreq, hmark, -, -, -⟩ := h
  obtain ⟨order', horder', hreq', hmark', hoReq, hoFilled⟩ :=
    refresh_of_backfill hmark (List.append_ne_nil_of_right_ne_nil fills (List.cons_ne_nil fill []))
  rw [applyCall_saveFill hfills hrow hnew]
  rw [hreq] at hreq' hoReq
  exact ⟨rfl, _, first, order', rfl, List.mem_append_left _ hfirst, hreq', hmark'.trans hmark,
    horder', hoReq, hoFilled⟩

theorem synthetic_runCalls (fill : FillRecord) (fills : List FillRecord)
    (hdistinct : ((fill :: fills).map (·.fillId)).Nodup) :
    (runCalls {} ((fill :: fills).map Call.saveFill)).Synthetic (fill :: fills) := by
  induction fills using List.reverseRecOn with
  | nil => exact synthetic_first fill
  | append_singleton fills last ih =>
    rw [← List.cons_append, List.map_append, List.nodup_append] at hdistinct
    obtain ⟨hbefore, -, hnew⟩ := hdistinct
    rw [← List.cons_append, List.map_append, List.map_singleton, runCalls_concat]
    apply (ih hbefore).saveFill
    intro hmem
    exact hnew _ hmem _ (List.mem_singleton_self _) rfl

/-! ### When a fill comes first -/

theorem sum_fillQty_nonneg {fills : List FillRecord} (h : ∀ fill ∈ fills, 0 ≤ fill.fillQty) :
    0 ≤ (fills.map (·.fillQty)).sum := by
  apply List.sum_nonneg
  intro quantity hmem
  obtain ⟨fill, hfill, rfl⟩ := List.mem_map.mp hmem
  exact h fill hfill

/-- The filled quantity of an order is between two bounds and no more than it requests. -/
structure FilledBetween (low high : ℚ) (order : OrderState) : Prop where
  low_le : low ≤ order.filledQty
  le_high : order.filledQty ≤ high
  le_requested : order.filledQty ≤ order.requestedQty

theorem FilledBetween.mergeAccepted {low high : ℚ} {current incoming : OrderState} (hlow : 0 ≤ low)
    (h : FilledBetween low high current)
    (hreq : current.filledQty ≤ mergedRequested current incoming)
    (hfilled : incoming.filledQty ≤ high) :
    FilledBetween low high (mergeAccepted current incoming) := by
  have hmerged : current.filledQty ≤ mergedFilled current incoming :=
    le_min (le_max_left _ _) hreq
  have hnonneg : 0 ≤ mergedFilled current incoming := (hlow.trans h.low_le).trans hmerged
  have heq : (Execution.mergeAccepted current incoming).filledQty =
      mergedFilled current incoming := by
    unfold Execution.mergeAccepted
    rw [filledQty_normalize, OrderState.clampedFilled, mergeFields_filledQty,
      mergeFields_requestedQty, max_eq_left hnonneg]
    exact min_eq_left (min_le_right _ _)
  refine ⟨?_, ?_, ?_⟩
  · rw [heq]
    exact h.low_le.trans hmerged
  · rw [heq]
    exact (min_le_left _ _).trans (max_le h.le_high hfilled)
  · unfold Execution.mergeAccepted
    rw [filledQty_normalize, requestedQty_normalize]
    exact clampedFilled_le _

theorem FilledBetween.merge {requested low high : ℚ} {current incoming : OrderState}
    (hpos : 0 < requested) (hlow : 0 ≤ low) (h : FilledBetween low high current)
    (hhigh : high ≤ requested) (hi : incoming.requestedQty = requested)
    (hfilled : incoming.filledQty ≤ high) :
    FilledBetween low high (merge (some current) incoming) := by
  simp only [Execution.merge]
  split
  · have hreq : mergedRequested current incoming = requested := mergedRequested_of_eq hpos hi
    exact h.mergeAccepted hlow ((h.le_high.trans hhigh).trans_eq hreq.symm) hfilled
  · unfold mergeWithoutRegression
    split
    · -- a refused update is taken as one of the current requested quantity
      have hreq : mergedRequested current (quantityUpdate current incoming) =
          current.requestedQty := by
        unfold mergedRequested
        split <;> rfl
      have hupdate : (quantityUpdate current incoming).filledQty ≤ high := hfilled
      exact h.mergeAccepted hlow (h.le_requested.trans_eq hreq.symm) hupdate
    · exact ⟨h.low_le, h.le_high, h.le_requested⟩

/-- The row was created for a fill: its order state has filled at least what the fills sum to. -/
def Backfilled (high : ℚ) (store : ConvergedStore) (fills : List FillRecord) : Prop :=
  store.fills = fills ∧
    ∃ row order, store.row = some row ∧ row.sourceSystem = convergedFillBackfill ∧
      row.orderState = some order ∧ FilledBetween (fills.map (·.fillQty)).sum high order

variable {high : ℚ} {fills : List FillRecord}

theorem Synthetic.backfilled (h : store.Synthetic fills)
    (hhigh : (fills.map (·.fillQty)).sum ≤ high) : store.Backfilled high fills := by
  obtain ⟨hfills, row, first, order, hrow, -, -, hmark, horder, hreq, hfilled⟩ := h
  refine ⟨hfills, row, order, hrow, hmark, horder, hfilled.ge, hfilled.trans_le hhigh, ?_⟩
  rw [hreq, hfilled]
  exact le_max_right _ _

theorem Backfilled.saveFill (h : store.Backfilled high fills) {fill : FillRecord}
    (hnew : fill.fillId ∉ fills.map (·.fillId))
    (hhigh : ((fills ++ [fill]).map (·.fillQty)).sum ≤ high) :
    (store.applyCall (.saveFill fill)).Backfilled high (fills ++ [fill]) := by
  obtain ⟨hfills, row, order, hrow, hmark, -, -⟩ := h
  obtain ⟨order', horder', -, hmark', hoReq, hoFilled⟩ :=
    refresh_of_backfill hmark (List.append_ne_nil_of_right_ne_nil fills (List.cons_ne_nil fill []))
  rw [applyCall_saveFill hfills hrow hnew]
  refine ⟨rfl, _, order', rfl, hmark'.trans hmark, horder', hoFilled.ge,
    hoFilled.trans_le hhigh, ?_⟩
  rw [hoReq, hoFilled]
  exact le_max_right _ _

theorem Backfilled.saveOrderState {requested : ℚ} (h : store.Backfilled high fills)
    (hpos : 0 < requested) (hsum : 0 ≤ (fills.map (·.fillQty)).sum) (hhigh : high ≤ requested)
    {state : OrderState} (createdAt : Timestamp) (hreq : state.requestedQty = requested)
    (hfilled : state.filledQty ≤ high) :
    (store.applyCall (.saveOrderState state createdAt)).Backfilled high fills := by
  obtain ⟨hfills, row, order, hrow, hmark, horder, hbetween⟩ := h
  have hhydrate : row.hydrateOrderState = order := by
    rw [ExecutionOrderRow.hydrateOrderState, horder]
  unfold applyCall ConvergedStore.saveOrderState
  rw [hrow]
  simp only []
  rw [hhydrate]
  cases hsave : Execution.saveOrderState order state with
  | error e => exact ⟨hfills, row, order, hrow, hmark, horder, hbetween⟩
  | ok merged =>
    have hmerged := saveOrderState_eq_ok hsave
    have hne : row.sourceSystem ≠ "" := by
      rw [hmark]
      decide
    refine ⟨hfills, _, merged, rfl, (if_neg hne).trans hmark, rfl, ?_⟩
    rw [hmerged]
    exact hbetween.merge hpos hsum hhigh hreq hfilled

/-- **A row created for a fill** never shows less than its fills, whatever comes after. -/
theorem Backfilled.runCalls {requested : ℚ} (h : store.Backfilled high fills)
    (hpos : 0 < requested) (hhigh : high ≤ requested) {calls : List Call}
    (hdistinct : ((fills ++ fillsOf calls).map (·.fillId)).Nodup)
    (hnonneg : ∀ fill ∈ fills ++ fillsOf calls, 0 ≤ fill.fillQty)
    (hsum : ((fills ++ fillsOf calls).map (·.fillQty)).sum ≤ high)
    (hreq : ∀ state ∈ statesOf calls, state.requestedQty = requested)
    (hfilled : ∀ state ∈ statesOf calls, state.filledQty ≤ high) :
    (store.runCalls calls).Backfilled high (fills ++ fillsOf calls) := by
  -- forwards through the calls: `fills` are those saved so far
  induction calls generalizing store fills with
  | nil =>
    rw [show fillsOf [] = [] from rfl, List.append_nil]
    exact h
  | cons call calls ih =>
    cases call with
    | saveFill fill =>
      have hsplit : fills ++ fillsOf (.saveFill fill :: calls) =
          (fills ++ [fill]) ++ fillsOf calls := by
        rw [List.append_assoc]
        rfl
      rw [hsplit] at hdistinct hnonneg hsum ⊢
      have hnew : fill.fillId ∉ fills.map (·.fillId) := by
        rw [List.map_append, List.map_append, List.append_assoc, List.nodup_append] at hdistinct
        intro hmem
        exact hdistinct.2.2 _ hmem _ (List.mem_append_left _ (List.mem_singleton_self _)) rfl
      have hbefore : ((fills ++ [fill]).map (·.fillQty)).sum ≤ high := by
        have hrest : 0 ≤ ((fillsOf calls).map (·.fillQty)).sum :=
          sum_fillQty_nonneg (fun other hmem => hnonneg other (List.mem_append_right _ hmem))
        rw [List.map_append, List.sum_append] at hsum
        linarith
      exact ih (h.saveFill hnew hbefore) hdistinct hnonneg hsum hreq hfilled
    | saveOrderState state createdAt =>
      have hsaved : 0 ≤ (fills.map (·.fillQty)).sum :=
        sum_fillQty_nonneg (fun other hmem => hnonneg other (List.mem_append_left _ hmem))
      have hstep := h.saveOrderState hpos hsaved hhigh createdAt
        (hreq state (List.mem_cons_self ..)) (hfilled state (List.mem_cons_self ..))
      exact ih hstep hdistinct hnonneg hsum
        (fun other hmem => hreq other (List.mem_cons_of_mem _ hmem))
        (fun other hmem => hfilled other (List.mem_cons_of_mem _ hmem))

/-! ### What is stored -/

theorem status_filled_mergeAll {requested : ℚ} {first : OrderState} {updates : List OrderState}
    (hpos : 0 < requested) (hfirst : first.requestedQty = requested)
    (hreq : ∀ update ∈ updates, update.requestedQty = requested)
    (h : (mergeAll first updates).status = .filled) :
    requested - epsilon12 ≤ (mergeAll first updates).filledQty ∨
      ∃ update ∈ first :: updates, update.status = .filled := by
  induction updates using List.reverseRecOn with
  | nil =>
    rcases status_normalize_cases first with hs | ⟨-, hs⟩ | ⟨-, hs⟩
    · exact .inr ⟨first, List.mem_cons_self .., hs.symm.trans h⟩
    · cases hs.symm.trans h
    · rw [hfirst] at hs
      exact .inl hs
  | append_singleton updates incoming ih =>
    have hreq' : ∀ update ∈ updates, update.requestedQty = requested := by
      intro update hmem
      exact hreq update (by simp [hmem])
    have hc := inRange_mergeAll hpos hfirst hreq'
    have hi := hreq incoming (by simp)
    have hstep := safeStep_merge hpos hc hi
    rw [mergeAll_concat] at h ⊢
    rcases status_merge_filled hpos hc hi h with hs | hs | hs
    · -- it was `FILLED` before, and what was filled does not shrink
      rcases ih hreq' hs with hle | ⟨update, hmem, hup⟩
      · exact .inl (hle.trans hstep.filled_le)
      · exact .inr ⟨update, by rw [← List.cons_append]; exact List.mem_append_left _ hmem, hup⟩
    · exact .inr ⟨incoming, by simp, hs⟩
    · exact .inl hs

/-- What is stored about an order of the requested quantity after a run of calls that saved these
order states: the requested quantity, the largest filled quantity reported, and `FILLED` only if
that reaches the requested quantity or a saved state says so. -/
structure StoredAs (requested : ℚ) (saved : List OrderState) (stored : OrderState) : Prop where
  requested_eq : stored.requestedQty = requested
  filled_greatest : IsGreatest {x | x ∈ 0 :: saved.map (·.filledQty)} stored.filledQty
  filled_status : stored.status = .filled →
    requested - epsilon12 ≤ stored.filledQty ∨ ∃ state ∈ saved, state.status = .filled

theorem isGreatest_mergeAll {requested : ℚ} {first : OrderState} {updates : List OrderState}
    (hpos : 0 < requested) (hreq : ∀ update ∈ first :: updates, update.requestedQty = requested)
    (hle : ∀ update ∈ first :: updates, update.filledQty ≤ requested) :
    IsGreatest {x | x ∈ 0 :: (first :: updates).map (·.filledQty)}
      (mergeAll first updates).filledQty := by
  obtain ⟨order, filled, fees, horder, hgreatest, -, hfilled, -⟩ :=
    mergeUpdates_totals hpos (List.cons_ne_nil first updates) hreq
  rw [mergeUpdates_cons, Option.some_inj] at horder
  have hmem : filled ∈ (first :: updates).map (·.filledQty) := hgreatest.1
  have hfilled_le : filled ≤ requested := by
    obtain ⟨update, hupdate, rfl⟩ := List.mem_map.mp hmem
    exact hle update hupdate
  rw [horder, hfilled, min_eq_left (max_le hfilled_le hpos.le)]
  refine ⟨?_, ?_⟩
  · rcases max_choice filled 0 with h | h
    · rw [h]
      exact List.mem_cons_of_mem _ hmem
    · rw [h]
      exact List.mem_cons_self ..
  · intro x hx
    rcases List.mem_cons.mp hx with rfl | hx
    · exact le_max_right _ _
    · exact (hgreatest.2 hx).trans (le_max_left _ _)

theorem runCalls_order_first {requested : ℚ} {first : OrderState} {createdAt : Timestamp}
    {rest : List Call} (h : OfOrder requested (.saveOrderState first createdAt :: rest))
    (hmode : first.submissionMode ≠ convergedFillBackfill) :
    ∃ stored, (runCalls {} (.saveOrderState first createdAt :: rest)).orderState = some stored ∧
      StoredAs requested (savedStates {} (.saveOrderState first createdAt :: rest)) stored := by
  obtain ⟨store, hstore⟩ : ∃ store : ConvergedStore,
      store = applyCall {} (.saveOrderState first createdAt) := ⟨_, rfl⟩
  have hgenuine : store.Genuine (merge none first) := hstore ▸ genuine_first hmode
  have hsaved : savedStates {} (.saveOrderState first createdAt :: rest) =
      first :: store.savedStates rest := by
    rw [hstore]
    rfl
  have hstates : ∀ state ∈ first :: store.savedStates rest,
      state ∈ statesOf (.saveOrderState first createdAt :: rest) := by
    rw [← hsaved]
    exact savedStates_subset _ _
  have hreq : ∀ state ∈ first :: store.savedStates rest, state.requestedQty = requested :=
    fun state hmem => h.requested_eq state (hstates state hmem)
  have hle : ∀ state ∈ first :: store.savedStates rest, state.filledQty ≤ requested :=
    fun state hmem => (h.reported_le state (hstates state hmem)).trans h.sum_le
  have hfirst := hreq first (List.mem_cons_self ..)
  have hrest : ∀ state ∈ store.savedStates rest, state.requestedQty = requested :=
    fun state hmem => hreq state (List.mem_cons_of_mem _ hmem)
  refine ⟨mergeAll first (store.savedStates rest), ?_, ?_, ?_, ?_⟩
  · show (runCalls (applyCall {} _) rest).orderState = _
    rw [← hstore]
    exact (hgenuine.runCalls rest).orderState_eq
  · exact (inRange_mergeAll h.requested_pos hfirst hrest).requested_eq
  · rw [hsaved]
    exact isGreatest_mergeAll h.requested_pos hreq hle
  · rw [hsaved]
    exact status_filled_mergeAll h.requested_pos hfirst hrest

theorem runCalls_fill_after_order {first : OrderState} {createdAt : Timestamp}
    (hmode : first.submissionMode ≠ convergedFillBackfill) (rest : List Call) (fill : FillRecord) :
    (runCalls {} (.saveOrderState first createdAt :: rest ++ [.saveFill fill])).orderState =
      (runCalls {} (.saveOrderState first createdAt :: rest)).orderState := by
  have hgenuine : (runCalls {} (.saveOrderState first createdAt :: rest)).Genuine _ :=
    (genuine_first hmode).runCalls rest
  rw [runCalls_concat]
  exact (hgenuine.saveFill fill).orderState_eq.trans hgenuine.orderState_eq.symm

theorem eq_map_saveFill {calls : List Call} (h : statesOf calls = []) :
    calls = (fillsOf calls).map Call.saveFill := by
  induction calls with
  | nil => rfl
  | cons call calls ih =>
    cases call with
    | saveOrderState state createdAt => cases h
    | saveFill fill => exact congrArg _ (ih h)

theorem runCalls_only_fills {fills : List FillRecord} (hne : fills ≠ [])
    (hdistinct : (fills.map (·.fillId)).Nodup) (hnonneg : ∀ fill ∈ fills, 0 ≤ fill.fillQty) :
    ∃ stored, (runCalls {} (fills.map Call.saveFill)).orderState = some stored ∧
      stored.requestedQty = (fills.map (·.fillQty)).sum := by
  cases fills with
  | nil => exact absurd rfl hne
  | cons fill fills =>
    obtain ⟨-, row, first, order, hrow, hfirst, -, -, horder, hreq, -⟩ :=
      synthetic_runCalls fill fills hdistinct
    refine ⟨order, ?_, ?_⟩
    · unfold orderState
      rw [hrow, Option.map_some, ExecutionOrderRow.hydrateOrderState, horder]
    · -- the row requests what its first fill has filled, which is no more than the sum
      rw [hreq]
      apply max_eq_right
      have hquantities : ∀ quantity ∈ (fill :: fills).map (·.fillQty), 0 ≤ quantity := by
        intro quantity hmem
        obtain ⟨other, hother, rfl⟩ := List.mem_map.mp hmem
        exact hnonneg other hother
      exact List.single_le_sum hquantities _ (List.mem_map_of_mem hfirst)

/-- If a fill comes first, the stored order has filled what all the fills sum to, and that is the
largest quantity reported. -/
theorem runCalls_fill_first {requested : ℚ} {first : FillRecord} {rest : List Call}
    (h : OfOrder requested (.saveFill first :: rest)) :
    ∃ stored, (runCalls {} (.saveFill first :: rest)).orderState = some stored ∧
      IsGreatest {x | x ∈ ((fillsOf (.saveFill first :: rest)).map (·.fillQty)).sum ::
        (statesOf (.saveFill first :: rest)).map (·.filledQty)} stored.filledQty ∧
      stored.filledQty = ((fillsOf (.saveFill first :: rest)).map (·.fillQty)).sum := by
  obtain ⟨total, htotal⟩ : ∃ total, total =
      ((fillsOf (.saveFill first :: rest)).map (·.fillQty)).sum := ⟨_, rfl⟩
  have hfirst : ([first].map (·.fillQty)).sum ≤ total := by
    have hrest : 0 ≤ ((fillsOf rest).map (·.fillQty)).sum :=
      sum_fillQty_nonneg (fun fill hmem => h.fillQty_nonneg fill (List.mem_cons_of_mem _ hmem))
    rw [htotal, show fillsOf (.saveFill first :: rest) = [first] ++ fillsOf rest from rfl,
      List.map_append, List.sum_append]
    linarith
  have hreported : ∀ state ∈ statesOf rest, state.filledQty ≤ total := by
    intro state hmem
    rw [htotal]
    exact h.reported_le state hmem
  obtain ⟨-, row, order, hrow, -, horder, hbetween⟩ :=
    ((synthetic_first first).backfilled hfirst).runCalls h.requested_pos
      (htotal.trans_le h.sum_le) h.distinct h.fillQty_nonneg htotal.ge h.requested_eq hreported
  -- the quantity lies between what the fills sum to and the largest one reported
  have hfilled : order.filledQty = total :=
    le_antisymm hbetween.le_high (htotal.trans_le hbetween.low_le)
  rw [← htotal]
  refine ⟨order, ?_, ⟨?_, ?_⟩, hfilled⟩
  · show ((applyCall {} (.saveFill first)).runCalls rest).orderState = _
    unfold orderState
    rw [hrow, Option.map_some, ExecutionOrderRow.hydrateOrderState, horder]
  · rw [hfilled]
    exact List.mem_cons_self ..
  · intro x hx
    rw [hfilled]
    rcases List.mem_cons.mp hx with rfl | hx
    · exact le_refl _
    · obtain ⟨state, hstate, rfl⟩ := List.mem_map.mp hx
      exact hreported state hstate

/-- **What the repository stores about an order**, for every run of calls that speak of it. If
the first call saves an order state (not marked as a backfill), the stored one has the true
requested quantity and the largest filled quantity of the order states saved, it is `FILLED` only
if that reaches the requested quantity or a saved state says so, and no fill changes it. If the
first call saves a fill, the stored one has filled what all the fills sum to, the largest quantity
reported; as long as only fills have come, it requests that too. -/
theorem runCalls_stored {requested : ℚ} {calls : List Call} (h : OfOrder requested calls) :
    (∀ first createdAt rest, calls = .saveOrderState first createdAt :: rest →
      first.submissionMode ≠ convergedFillBackfill →
      (∃ stored, (runCalls {} calls).orderState = some stored ∧
        StoredAs requested (savedStates {} calls) stored) ∧
      ∀ before fill after, calls = before ++ .saveFill fill :: after →
        (runCalls {} (before ++ [.saveFill fill])).orderState =
          (runCalls {} before).orderState) ∧
    (∀ first rest, calls = .saveFill first :: rest →
      ∃ stored, (runCalls {} calls).orderState = some stored ∧
        IsGreatest {x | x ∈ ((fillsOf calls).map (·.fillQty)).sum ::
          (statesOf calls).map (·.filledQty)} stored.filledQty ∧
        (statesOf calls = [] → stored.requestedQty = stored.filledQty)) := by
  refine ⟨?_, ?_⟩
  · rintro first createdAt rest rfl hmode
    refine ⟨runCalls_order_first h hmode, ?_⟩
    intro before fill after hcalls
    cases before with
    | nil => cases hcalls
    | cons call before =>
      rw [List.cons_append, List.cons.injEq] at hcalls
      rw [← hcalls.1]
      exact runCalls_fill_after_order hmode before fill
  · rintro first rest rfl
    obtain ⟨stored, hstored, hgreatest, hfilled⟩ := runCalls_fill_first h
    refine ⟨stored, hstored, hgreatest, ?_⟩
    intro hstates
    have hne : fillsOf (.saveFill first :: rest) ≠ [] := List.cons_ne_nil first (fillsOf rest)
    obtain ⟨other, hother, hreq⟩ := runCalls_only_fills hne h.distinct h.fillQty_nonneg
    rw [eq_map_saveFill hstates, hother, Option.some_inj] at hstored
    rw [hfilled, ← hstored, hreq]

/-- An order of two units is saved as submitted, and then one unit of it is filled. -/
def submittedThenFill : List Call :=
  [.saveOrderState { status := .submitted, requestedQty := 2, remainingQty := 2 } 0,
    .saveFill { fillId := "f1", symbol := "BTC-USDT", side := .buy, fillQty := 1, fillPrice := 100,
                feeAmount := 0, exchangeTimestamp := 1, ingestionTimestamp := 1 }]

theorem ofOrder_submittedThenFill : OfOrder 2 submittedThenFill := by
  refine ⟨by norm_num, ?_, by decide +kernel, ?_, by decide +kernel, ?_⟩
  all_goals
    intro x hx
    rcases List.mem_singleton.mp hx with rfl
    decide +kernel

/-- **A fill that the stored order does not show**: it was created for an order state. -/
theorem submittedThenFill_not_counted :
    ¬ ∀ (requested : ℚ) (calls : List Call), OfOrder requested calls → statesOf calls ≠ [] →
      ∃ stored, (runCalls {} calls).orderState = some stored ∧
        stored.requestedQty = requested ∧
        IsGreatest {x | x ∈ ((fillsOf calls).map (·.fillQty)).sum ::
          (statesOf calls).map (·.filledQty)} stored.filledQty ∧
        (stored.status = .filled → requested - epsilon12 ≤ stored.filledQty) := by
  intro h
  obtain ⟨stored, hstored, -, hgreatest, -⟩ :=
    h 2 submittedThenFill ofOrder_submittedThenFill (by decide +kernel)
  have hzero : (runCalls {} submittedThenFill).orderState.map (·.filledQty) = some 0 := by
    decide +kernel
  rw [hstored, Option.map_some, Option.some_inj] at hzero
  have hle : ((fillsOf submittedThenFill).map (·.fillQty)).sum ≤ stored.filledQty :=
    hgreatest.2 (List.mem_cons_self ..)
  rw [hzero] at hle
  revert hle
  decide +kernel

theorem runCalls_stored_submittedThenFill :
    (runCalls {} submittedThenFill).orderState =
      (runCalls {} (submittedThenFill.take 1)).orderState :=
  ((runCalls_stored ofOrder_submittedThenFill).1 _ _ _ rfl (by decide)).2
    (submittedThenFill.take 1) _ _ rfl

end ConvergedStore

end Aats.Execution
