import Aats.Lib.Runs
import Aats.Execution.OrderStore

/-!
# Concurrent consumption of one obligation

The fill persistence operations of one order run concurrently: each previews the obligation
from the row it reads on the event loop, and its transaction runs later in a worker thread
and overwrites the row. A run is a list of previews and writes in any order.

The row accounts for the saved fills (`Accounts`) as long as every write finds the row its
preview has read. If another write came in between, that write's consumption is overwritten
(`concurrent_fills_lose_consumption`).

## Main definitions
* `Accounts` — the obligation has consumed exactly the saved consumable fills.

## Main results
* `no_lost_obligation_update` — every run of writes that find their row unchanged does.
-/

namespace Aats.Execution

open Runs

/-! ### Operations -/

inductive FillOperation
  /-- `_persist_fill`. -/
  | single (fill : FillEvent)
  /-- `_persist_order_state_with_fills_atomic`. -/
  | batch (orderState : OrderState) (fills : List FillEvent)
  deriving DecidableEq

def FillOperation.fills : FillOperation → List FillEvent
  | .single fill => [fill]
  | .batch _ fills => fills

/-- An operation between its preview and its write: the row it read and what it is going to
write. -/
structure Previewed where
  op : FillOperation
  read : Option OrderObligation
  perFill : List (Option OrderObligation)
  final : Option OrderObligation
  deriving DecidableEq

def FillOperation.preview (op : FillOperation) (read : Option OrderObligation) : Previewed :=
  match op with
  | .single fill =>
    { op := op, read := read, perFill := [read.map (applyFillToObligation fill)], final := none }
  | .batch orderState fills =>
    let preview := previewChainedFillObligationsAndFinalize read fills orderState
    { op := op, read := read, perFill := preview.1, final := preview.2 }

/-- The transaction of a previewed operation; an exception writes nothing. -/
def Previewed.write (p : Previewed) (store : OrderStore) : OrderStore :=
  match p.op with
  | .single fill => (store.persistFillSync fill (p.perFill.headD none)).2
  | .batch orderState fills =>
    match store.persistOrderStateWithFillsSync orderState fills p.perFill p.final with
    | .ok next => next
    | .error _ => store

structure RaceState where
  store : OrderStore
  inFlight : List (ℕ × Previewed) := []
  deriving DecidableEq

inductive RaceStep
  | preview (task : ℕ) (op : FillOperation)
  /-- The transaction of the task commits or fails. -/
  | write (task : ℕ)
  deriving DecidableEq

def RaceState.previewed (s : RaceState) (task : ℕ) : Option Previewed :=
  (s.inFlight.find? (·.1 = task)).map (·.2)

def race (s : RaceState) : RaceStep → Option RaceState
  | .preview task op =>
    match s.previewed task with
    | some _ => none
    | none => some { s with inFlight := s.inFlight ++ [(task, op.preview s.store.obligation)] }
  | .write task =>
    match s.previewed task with
    | none => none
    | some p =>
      some { store := p.write s.store, inFlight := s.inFlight.filter (·.1 ≠ task) }

/-- An order with a reservation of which nothing has been consumed. -/
def RaceState.start (order : OrderState) (reserveCurrency : String) (reservedAmount : ℚ)
    (productType : ProductType) : RaceState where
  store :=
    { order := order
      obligation := some
        { reserveCurrency := reserveCurrency
          reservedAmount := reservedAmount
          productType := productType } }

/-! ### What the row accounts for -/

/-- What a fill consumes of an obligation, if it is consumable: its fee can be valued and the
amount exceeds the tolerance. -/
def consumption (obligation : OrderObligation) (fill : FillEvent) : Option ℚ :=
  match fillConsumptionAmount fill obligation with
  | .ok amount => if amount ≤ epsilon12 then none else some amount
  | .error _ => none

/-- The obligation has consumed exactly the consumable ones of the given fills, in their
order, and blocked only fills among them. -/
structure Accounts (obligation : OrderObligation) (fills : List FillEvent) : Prop where
  ids : obligation.consumedFillIds =
    (fills.filter fun f => (consumption obligation f).isSome).map (·.fillId)
  amount : obligation.consumedAmount = (fills.filterMap (consumption obligation)).sum
  blocked : ∀ id ∈ obligation.blockedFillIds, ∃ f ∈ fills, f.fillId = id

/-- No lost update: the consumed fills are all the saved consumable ones, and the consumed
amount is the sum of what they consume. -/
def NoLostUpdate (store : OrderStore) : Prop :=
  ∀ o ∈ store.obligation,
    (∀ f ∈ store.fills, (consumption o f).isSome → f.fillId ∈ o.consumedFillIds) ∧
    o.consumedAmount = (store.fills.filterMap (consumption o)).sum

instance (store : OrderStore) : Decidable (NoLostUpdate store) :=
  inferInstanceAs (Decidable (∀ o ∈ store.obligation, _ ∧ _))

theorem consumption_congr {a b : OrderObligation} (hp : a.productType = b.productType)
    (hr : a.reserveCurrency = b.reserveCurrency) : consumption a = consumption b := by
  funext fill
  unfold consumption fillConsumptionAmount
  rw [hp, hr]

@[simp] theorem consumption_block (o : OrderObligation) (id : String)
    (details : UnsupportedFeeCurrencyDetails) : consumption (o.block id details) = consumption o :=
  consumption_congr rfl rfl

@[simp] theorem consumption_consume (o : OrderObligation) (id : String) (amount : ℚ) :
    consumption (o.consume id amount) = consumption o :=
  consumption_congr rfl rfl

theorem accounts_applyFill_new {o : OrderObligation} {fills : List FillEvent} {fill : FillEvent}
    (h : Accounts o fills) (hnew : ∀ f ∈ fills, f.fillId ≠ fill.fillId) :
    Accounts (applyFillToObligation fill o) (fills ++ [fill]) := by
  have hc : fill.fillId ∉ o.consumedFillIds := by
    rw [h.ids]
    intro hmem
    obtain ⟨f, hf, hid⟩ := List.mem_map.mp hmem
    exact hnew f (List.mem_of_mem_filter hf) hid
  have hb : fill.fillId ∉ o.blockedFillIds := by
    intro hmem
    obtain ⟨f, hf, hid⟩ := h.blocked _ hmem
    exact hnew f hf hid
  unfold applyFillToObligation
  rw [if_neg hc, if_neg hb]
  cases ha : fillConsumptionAmount fill o with
  | error details =>
    -- a fee that cannot be valued: the fill is blocked and consumes nothing
    have hcons : consumption o fill = none := by simp [consumption, ha]
    constructor
    · simp [List.filter_append, hcons, ← h.ids]
    · simp [List.filterMap_append, hcons, ← h.amount]
    · intro id hid
      rcases List.mem_append.mp hid with hid | hid
      · obtain ⟨f, hf, hfid⟩ := h.blocked id hid
        exact ⟨f, List.mem_append_left _ hf, hfid⟩
      · exact ⟨fill, by simp, (List.mem_singleton.mp hid).symm⟩
  | ok amount =>
    by_cases hle : amount ≤ epsilon12
    · have hcons : consumption o fill = none := by simp [consumption, ha, hle]
      simp only [hle, ↓reduceIte]
      constructor
      · simp [List.filter_append, hcons, ← h.ids]
      · simp [List.filterMap_append, hcons, ← h.amount]
      · intro id hid
        obtain ⟨f, hf, hfid⟩ := h.blocked id hid
        exact ⟨f, List.mem_append_left _ hf, hfid⟩
    · have hcons : consumption o fill = some amount := by simp [consumption, ha, hle]
      simp only [hle, ↓reduceIte]
      constructor
      · simp [List.filter_append, hcons, ← h.ids]
      · simp [List.filterMap_append, hcons, ← h.amount]
      · intro id hid
        obtain ⟨f, hf, hfid⟩ := h.blocked id hid
        exact ⟨f, List.mem_append_left _ hf, hfid⟩

theorem accounts_applyFill_known {o : OrderObligation} {fills : List FillEvent} {fill : FillEvent}
    (h : Accounts o fills) (hmem : fill ∈ fills) : Accounts (applyFillToObligation fill o) fills := by
  rcases applyFillToObligation_cases fill o with he | ⟨details, ha, he⟩ | ⟨amount, ha, hlt, hc, -, -⟩
  · rw [he]
    exact h
  · rw [he]
    refine ⟨by simpa using h.ids, by simpa using h.amount, ?_⟩
    intro id hid
    rcases List.mem_append.mp hid with hid | hid
    · exact h.blocked id hid
    · exact ⟨fill, hmem, (List.mem_singleton.mp hid).symm⟩
  · -- a consumable saved fill was consumed before, so it is not consumed again
    exfalso
    apply hc
    have hcons : (consumption o fill).isSome := by simp [consumption, ha, not_le.mpr hlt]
    rw [h.ids]
    exact List.mem_map.mpr ⟨fill, List.mem_filter.mpr ⟨hmem, hcons⟩, rfl⟩

theorem accounts_finalization {o final : OrderObligation} {orderState : OrderState}
    {fills : List FillEvent} (h : Accounts o fills)
    (hf : applyFinalizationToObligation orderState (some o) = some final) :
    Accounts final fills := by
  unfold applyFinalizationToObligation at hf
  split at hf
  · cases hf
  · simp only at hf
    split at hf
    · injection hf with hf
      exact hf ▸ h
    · injection hf with hf
      subst hf
      exact ⟨h.ids, h.amount, h.blocked⟩

/-! ### Writes that find their row -/

variable {fillOf : String → FillEvent}

def NamedBy (fillOf : String → FillEvent) (fills : List FillEvent) : Prop :=
  ∀ f ∈ fills, fillOf f.fillId = f

instance (fillOf : String → FillEvent) (fills : List FillEvent) : Decidable (NamedBy fillOf fills) :=
  inferInstanceAs (Decidable (∀ f ∈ fills, _))

/-- The stored row and the previewed obligation `chain` both account for the saved fills, and
there is a row only if there is a preview. -/
structure RowOk (fillOf : String → FillEvent) (store : OrderStore) (chain : Option OrderObligation) :
    Prop where
  named : NamedBy fillOf store.fills
  row : ∀ o ∈ store.obligation, Accounts o store.fills
  preview : ∀ o ∈ chain, Accounts o store.fills
  absent : chain = none → store.obligation = none

theorem mem_fills_of_hasFill {store : OrderStore} {fill : FillEvent}
    (hn : NamedBy fillOf store.fills) (hf : fillOf fill.fillId = fill)
    (h : store.hasFill fill.fillId = true) : fill ∈ store.fills := by
  obtain ⟨g, hg, hid⟩ := List.any_eq_true.mp h
  have hid' : g.fillId = fill.fillId := by simpa using hid
  have hgf : g = fill := by rw [← hn g hg, hid', hf]
  exact hgf ▸ hg

theorem forall_ne_of_not_hasFill {store : OrderStore} {fill : FillEvent}
    (h : ¬ store.hasFill fill.fillId = true) : ∀ f ∈ store.fills, f.fillId ≠ fill.fillId := by
  intro f hf hid
  apply h
  exact List.any_eq_true.mpr ⟨f, hf, by simpa using hid⟩

theorem rowOk_saveFill {store : OrderStore} {chain : Option OrderObligation} {fill : FillEvent}
    (h : RowOk fillOf store chain) (hf : fillOf fill.fillId = fill) :
    RowOk fillOf
      (if store.hasFill fill.fillId then store
        else { store with fills := store.fills ++ [fill] }.saveObligation
          (chain.map (applyFillToObligation fill)))
      (chain.map (applyFillToObligation fill)) := by
  split
  · next hdup =>
    have hmem := mem_fills_of_hasFill h.named hf hdup
    refine ⟨h.named, h.row, ?_, ?_⟩
    · intro o ho
      obtain ⟨o', ho', rfl⟩ := Option.mem_map.mp ho
      exact accounts_applyFill_known (h.preview o' ho') hmem
    · intro hnone
      exact h.absent (Option.map_eq_none_iff.mp hnone)
  · next hnew =>
    have hne := forall_ne_of_not_hasFill hnew
    have hnamed : NamedBy fillOf (store.fills ++ [fill]) := by
      intro f hmem
      rcases List.mem_append.mp hmem with hmem | hmem
      · exact h.named f hmem
      · rw [List.mem_singleton.mp hmem, hf]
    cases chain with
    | none =>
      refine ⟨hnamed, ?_, ?_, fun _ => h.absent rfl⟩
      · intro o ho
        -- no obligation to preview, so none is stored
        have hnone : store.obligation = none := h.absent rfl
        change o ∈ store.obligation at ho
        rw [hnone] at ho
        cases ho
      · intro o ho
        cases ho
    | some o =>
      have hacc := accounts_applyFill_new (h.preview o rfl) hne
      refine ⟨hnamed, ?_, ?_, ?_⟩
      · intro o' ho'
        rw [Option.map_some, OrderStore.saveObligation_some, Option.mem_some_iff] at ho'
        exact ho' ▸ hacc
      · intro o' ho'
        rw [Option.map_some, Option.mem_some_iff] at ho'
        exact ho' ▸ hacc
      · intro hnone
        cases hnone

theorem accounts_saveFillsWithObligations (fills : List FillEvent) {store : OrderStore}
    {chain : Option OrderObligation} (h : RowOk fillOf store chain) (hf : NamedBy fillOf fills) :
    RowOk fillOf (store.saveFillsWithObligations fills (chainFills chain fills))
      (chainEnd chain fills) := by
  -- along the loop the row may lag behind the chain, but both account for the same fills
  induction fills generalizing store chain with
  | nil =>
    cases chain with
    | none => exact h
    | some o => exact h
  | cons fill fills ih =>
    have hstep := rowOk_saveFill h (hf fill List.mem_cons_self)
    have hrest : NamedBy fillOf fills := fun f hmem => hf f (List.mem_cons_of_mem _ hmem)
    have hih := ih hstep hrest
    cases chain with
    | none =>
      simp only [chainFills, chainEnd, OrderStore.saveFillsWithObligations, OrderStore.saveFill,
        Option.map_none] at hih ⊢
      split at hih
      · next hdup =>
        rw [if_pos hdup]
        cases fills <;> exact hih
      · next hnew =>
        rw [if_neg hnew]
        cases fills <;> exact hih
    | some o =>
      simp only [chainFills, chainEnd, OrderStore.saveFillsWithObligations, OrderStore.saveFill,
        Option.map_some] at hih ⊢
      split at hih
      · next hdup =>
        rw [if_pos hdup]
        exact hih
      · next hnew =>
        rw [if_neg hnew]
        exact hih

theorem rowOk_write {store : OrderStore} {op : FillOperation}
    (h : RowOk fillOf store store.obligation) (hf : NamedBy fillOf op.fills) :
    RowOk fillOf ((op.preview store.obligation).write store)
      ((op.preview store.obligation).write store).obligation := by
  cases op with
  | single fill =>
    have hstep := rowOk_saveFill h (hf fill List.mem_cons_self)
    simp only [FillOperation.preview, Previewed.write, OrderStore.persistFillSync,
      OrderStore.saveFill, List.headD_cons] at hstep ⊢
    by_cases hdup : store.hasFill fill.fillId = true
    · rw [if_pos hdup] at hstep ⊢
      exact h
    · rw [if_neg hdup] at hstep ⊢
      exact ⟨hstep.named, hstep.row, hstep.row, id⟩
  | batch orderState fills =>
    simp only [FillOperation.preview, Previewed.write, OrderStore.persistOrderStateWithFillsSync,
      previewChainedFillObligationsAndFinalize]
    cases hs : saveOrderState store.order orderState with
    | error e => exact h
    | ok merged =>
      have hmerged : RowOk fillOf { store with order := merged } store.obligation :=
        ⟨h.named, h.row, h.preview, h.absent⟩
      have hloop := accounts_saveFillsWithObligations fills hmerged hf
      simp only
      cases hfinal : applyFinalizationToObligation orderState (chainEnd store.obligation fills) with
      | none => exact ⟨hloop.named, hloop.row, hloop.row, id⟩
      | some final =>
        cases hend : chainEnd store.obligation fills with
        | none => simp [hend, applyFinalizationToObligation] at hfinal
        | some last =>
          rw [hend] at hfinal
          -- the final row is the last of the chain, released
          have hacc := accounts_finalization (hloop.preview last hend) hfinal
          have hrow : ∀ o ∈ some final, Accounts o
              ({ store with order := merged }.saveFillsWithObligations fills
                (chainFills store.obligation fills)).fills := by
            intro o ho
            rw [Option.mem_some_iff] at ho
            exact ho ▸ hacc
          exact ⟨hloop.named, hrow, hrow, id⟩

/-- The operation has no row to write: all its fills are stored already and it does not
finalize. -/
def Previewed.Idle (p : Previewed) (store : OrderStore) : Prop :=
  (∀ f ∈ p.op.fills, store.hasFill f.fillId = true) ∧ p.final = none

instance (p : Previewed) (store : OrderStore) : Decidable (p.Idle store) :=
  inferInstanceAs (Decidable ((∀ f ∈ p.op.fills, _) ∧ _))

theorem saveFillsWithObligations_of_stored {store : OrderStore} {fills : List FillEvent}
    (h : ∀ f ∈ fills, store.hasFill f.fillId = true) (obligations : List (Option OrderObligation)) :
    store.saveFillsWithObligations fills obligations = store := by
  induction fills generalizing obligations with
  | nil => rfl
  | cons fill fills ih =>
    cases obligations with
    | nil => rfl
    | cons obligation obligations =>
      simp only [OrderStore.saveFillsWithObligations, OrderStore.saveFill,
        h fill List.mem_cons_self, ↓reduceIte]
      exact ih (fun f hf => h f (List.mem_cons_of_mem _ hf)) obligations

theorem write_of_idle {p : Previewed} {store : OrderStore} (h : p.Idle store) :
    (p.write store).obligation = store.obligation ∧ (p.write store).fills = store.fills := by
  obtain ⟨hstored, hfinal⟩ := h
  cases hop : p.op with
  | single fill =>
    have hfill : store.hasFill fill.fillId = true := hstored fill (by simp [hop, FillOperation.fills])
    simp [Previewed.write, hop, OrderStore.persistFillSync, OrderStore.saveFill, hfill]
  | batch orderState fills =>
    have hfills : ∀ merged : OrderState, ∀ f ∈ fills,
        { store with order := merged }.hasFill f.fillId = true := by
      intro merged f hf
      exact hstored f (by rw [hop]; exact hf)
    simp only [Previewed.write, hop, OrderStore.persistOrderStateWithFillsSync, hfinal]
    cases hs : saveOrderState store.order orderState with
    | error e => exact ⟨rfl, rfl⟩
    | ok merged => simp [saveFillsWithObligations_of_stored (hfills merged)]

/-! ### Runs -/

/-- The invariant: the row accounts for the saved fills, and what is in flight is the preview
of the row it read. -/
structure RaceInv (fillOf : String → FillEvent) (s : RaceState) : Prop where
  row : RowOk fillOf s.store s.store.obligation
  flight : ∀ e ∈ s.inFlight, e.2 = e.2.op.preview e.2.read ∧ NamedBy fillOf e.2.op.fills

/-- The step does not lose an update: a fill id always names the same fill, and a write that
has a row to write finds the one that its preview read. -/
def RaceStep.FindsRow (fillOf : String → FillEvent) (s : RaceState) : RaceStep → Prop
  | .preview _ op => NamedBy fillOf op.fills
  | .write task => ∀ p ∈ s.previewed task, s.store.obligation = p.read ∨ p.Idle s.store

instance (fillOf : String → FillEvent) (s : RaceState) (step : RaceStep) :
    Decidable (step.FindsRow fillOf s) :=
  match step with
  | .preview _ op => inferInstanceAs (Decidable (NamedBy fillOf op.fills))
  | .write task => inferInstanceAs (Decidable (∀ p ∈ s.previewed task, _))

theorem FillOperation.preview_op (op : FillOperation) (read : Option OrderObligation) :
    (op.preview read).op = op := by
  cases op <;> rfl

theorem FillOperation.preview_read (op : FillOperation) (read : Option OrderObligation) :
    (op.preview read).read = read := by
  cases op <;> rfl

theorem mem_inFlight_of_previewed {s : RaceState} {task : ℕ} {p : Previewed}
    (h : s.previewed task = some p) : (task, p) ∈ s.inFlight := by
  obtain ⟨e, he, rfl⟩ := Option.map_eq_some_iff.mp h
  have hid : e.1 = task := by simpa using List.find?_some he
  rw [← hid]
  exact List.mem_of_find?_eq_some he

theorem race_keeps_inv (s : RaceState) (step : RaceStep) (t : RaceState) (h : RaceInv fillOf s)
    (hok : step.FindsRow fillOf s) (hstep : race s step = some t) : RaceInv fillOf t := by
  cases step with
  | preview task op =>
    simp only [race] at hstep
    split at hstep
    · cases hstep
    · injection hstep with hstep
      subst hstep
      refine ⟨h.row, ?_⟩
      intro e he
      rcases List.mem_append.mp he with he | he
      · exact h.flight e he
      · rw [List.mem_singleton.mp he]
        simp only [FillOperation.preview_op, FillOperation.preview_read]
        exact ⟨trivial, hok⟩
  | write task =>
    simp only [race] at hstep
    split at hstep
    · cases hstep
    · next p hp =>
      injection hstep with hstep
      subst hstep
      obtain ⟨hpreview, hnamed⟩ := h.flight _ (mem_inFlight_of_previewed hp)
      simp only at hpreview hnamed
      refine ⟨?_, fun e he => h.flight e (List.mem_of_mem_filter he)⟩
      rcases hok p hp with hread | hidle
      · rw [← hread] at hpreview
        rw [hpreview]
        exact rowOk_write h.row hnamed
      · obtain ⟨hrow, hfills⟩ := write_of_idle hidle
        have hacc : ∀ o ∈ s.store.obligation, Accounts o (p.write s.store).fills := by
          rw [hfills]
          exact h.row.row
        rw [hrow]
        exact ⟨by rw [hfills]; exact h.row.named, by rw [hrow]; exact hacc, hacc,
          fun hnone => hrow.trans hnone⟩

theorem raceInv_start (order : OrderState) (reserveCurrency : String) (reservedAmount : ℚ)
    (productType : ProductType) :
    RaceInv fillOf (.start order reserveCurrency reservedAmount productType) where
  row := by
    have hacc : ∀ o ∈ (RaceState.start order reserveCurrency reservedAmount
        productType).store.obligation, Accounts o [] := by
      intro o ho
      rw [RaceState.start, Option.mem_some_iff] at ho
      subst ho
      exact ⟨rfl, rfl, by simp⟩
    exact ⟨by simp [NamedBy, RaceState.start], hacc, hacc, id⟩
  flight := by simp [RaceState.start]

/-- **No lost obligation update** in every run in which each write that has a row to write
finds the one its preview read (and a fill id always names the same fill). -/
theorem no_lost_obligation_update (fillOf : String → FillEvent) (order : OrderState)
    (reserveCurrency : String) (reservedAmount : ℚ) (productType : ProductType)
    (steps : List RaceStep) (s : RaceState)
    (hmeets : Meets race (fun s step => step.FindsRow fillOf s)
      (.start order reserveCurrency reservedAmount productType) steps)
    (hrun : run race (.start order reserveCurrency reservedAmount productType) steps = some s) :
    NoLostUpdate s.store := by
  have hinv := run_invariant_of_meets race_keeps_inv
    (raceInv_start order reserveCurrency reservedAmount productType) hmeets hrun
  intro o ho
  have hacc := hinv.row.row o ho
  refine ⟨?_, hacc.amount⟩
  intro f hf hcons
  rw [hacc.ids]
  exact List.mem_map.mpr ⟨f, List.mem_filter.mpr ⟨hf, hcons⟩, rfl⟩

def twoCoins : OrderState where
  symbol := "BTC-USDT"
  status := .submitted
  requestedQty := 2
  remainingQty := 2

/-- A fill of one of the two coins at 100. -/
def oneCoin (fillId : String) : FillEvent where
  fillId := fillId
  symbol := "BTC-USDT"
  side := .buy
  fillQty := 1
  fillPrice := 100
  feeAmount := 0

/-- A fill persisted by itself, then a batch with that fill and another one. -/
def oneAfterTheOther : List RaceStep :=
  [.preview 0 (.single (oneCoin "fill-1")), .write 0,
    .preview 1 (.batch twoCoins [oneCoin "fill-1", oneCoin "fill-2"]), .write 1]

/-- Two fills persisted at the same time: both previews read the row before either write. -/
def bothAtOnce : List RaceStep :=
  [.preview 0 (.single (oneCoin "fill-1")), .preview 1 (.single (oneCoin "fill-2")),
    .write 0, .write 1]

/-- The race for two coins with a reservation of 201, run to the end of the steps. -/
def twoCoinsAfter (steps : List RaceStep) : RaceState :=
  (run race (.start twoCoins "USDT" 201 .spot) steps).getD (.start twoCoins "USDT" 201 .spot)

theorem no_lost_obligation_update_in_turn :
    (twoCoinsAfter oneAfterTheOther).store.fills = [oneCoin "fill-1", oneCoin "fill-2"] ∧
      NoLostUpdate (twoCoinsAfter oneAfterTheOther).store :=
  ⟨by decide +kernel, no_lost_obligation_update oneCoin twoCoins "USDT" 201 .spot oneAfterTheOther
    (twoCoinsAfter oneAfterTheOther) (by decide +kernel) (by decide +kernel)⟩

/-! ### A lost update -/

/-- Both fills are saved and both operations are done, but the obligation has consumed only
the second one. -/
theorem concurrent_fills_lose_consumption :
    ¬ ∀ (order : OrderState) (reserveCurrency : String) (reservedAmount : ℚ)
        (productType : ProductType) (steps : List RaceStep) (s : RaceState),
      run race (.start order reserveCurrency reservedAmount productType) steps = some s →
      s.inFlight = [] → NoLostUpdate s.store := by
  intro h
  have hlost := h twoCoins "USDT" 201 .spot bothAtOnce (twoCoinsAfter bothAtOnce)
    (by decide +kernel) (by decide +kernel)
  revert hlost
  decide +kernel

end Aats.Execution
