import Aats.Recovery.PortfolioRecovery

/-!
# Replaying fills on an exchange baseline

`rebuild_snapshot_from_baseline` of `reconciliation_service/repair.py`, which
`ReplayEngine._rebuild_snapshot` repeats. A baseline is the account of the exchange at one moment,
so that it reflects the fills executed by then. The rebuild applies the fills taken in from then
on. A fill that was executed before the baseline and taken in after it is in both.

## Main definitions
* `SameAccount` — two states hold the same quantities, entry prices and balances.
* `Reflects` — a baseline is the account after exactly the fills executed by its time.

## Main results
* `sortedFills_split` — the fills executed by a moment are processed before all others.
* `rebuild_counts_once_iff` — **which times of fills are counted once**.
-/

namespace Aats.Recovery

open Portfolio
open Execution (Timestamp)

/-! ### Equal accounts -/

structure SameAccount (left right : PortfolioState) : Prop where
  quantity : ∀ key, left.quantityOf key = right.quantityOf key
  avgEntryPrice : ∀ key, left.avgEntryPriceOf key = right.avgEntryPriceOf key
  balance : ∀ currency, left.balances.balance currency = right.balances.balance currency

theorem sameAccount_refl (state : PortfolioState) : SameAccount state state :=
  ⟨fun _ => rfl, fun _ => rfl, fun _ => rfl⟩

section Book

variable {left right : PortfolioState}

theorem SameAccount.bookFill (h : SameAccount left right) (fill : FillEvent) (fee : ℚ) :
    SameAccount (left.bookFill fill fee).2 (right.bookFill fill fee).2 := by
  have hbooking : left.booking fill = right.booking fill := by
    unfold PortfolioState.booking
    rw [h.quantity, h.avgEntryPrice]
  constructor
  · intro key
    by_cases hkey : key = positionKeyForFill fill
    · rw [hkey, PortfolioState.quantityOf_bookFill_self, PortfolioState.quantityOf_bookFill_self,
        hbooking]
    · rw [PortfolioState.quantityOf_bookFill_ne hkey, PortfolioState.quantityOf_bookFill_ne hkey]
      exact h.quantity key
  · intro key
    by_cases hkey : key = positionKeyForFill fill
    · rw [hkey, PortfolioState.avgEntryPriceOf_bookFill_self,
        PortfolioState.avgEntryPriceOf_bookFill_self, hbooking]
    · rw [PortfolioState.avgEntryPriceOf_bookFill_ne hkey,
        PortfolioState.avgEntryPriceOf_bookFill_ne hkey]
      exact h.avgEntryPrice key
  · intro currency
    rw [PortfolioState.balance_bookFill, PortfolioState.balance_bookFill, hbooking, h.balance]

theorem fresh_bookFill {state : PortfolioState} {fill : FillEvent} {fills : List FillEvent}
    (hnot : fill.fillId ∉ fills.map (·.fillId))
    (h : ∀ other ∈ fill :: fills, other.fillId ∉ state.appliedFillIds) (fee : ℚ) :
    ∀ other ∈ fills, other.fillId ∉ (state.bookFill fill fee).2.appliedFillIds := by
  intro other hmem
  rw [PortfolioState.bookFill_appliedFillIds, Finset.mem_insert, not_or]
  refine ⟨?_, h other (List.mem_cons_of_mem _ hmem)⟩
  intro heq
  exact hnot (heq ▸ List.mem_map_of_mem hmem)

/-- The same fills leave equal accounts equal, if they were applied before to both or to none. -/
theorem SameAccount.replay_of_applied_iff (h : SameAccount left right) {fills : List FillEvent}
    (happlied : ∀ fill ∈ fills,
      fill.fillId ∈ left.appliedFillIds ↔ fill.fillId ∈ right.appliedFillIds)
    {final : PortfolioState} (hreplay : Portfolio.replay right fills = .ok final) :
    ∃ final', Portfolio.replay left fills = .ok final' ∧ SameAccount final' final := by
  induction fills generalizing left right with
  | nil =>
    cases hreplay
    exact ⟨left, rfl, h⟩
  | cons fill fills ih =>
    obtain ⟨hfill, hfills⟩ := List.forall_mem_cons.mp happlied
    unfold Portfolio.replay at hreplay ⊢
    rcases right.applyFill_cases fill with ⟨hid, result, hright, -⟩ | ⟨-, e, hright⟩ | ⟨hid, -⟩
    · rcases left.applyFill_cases fill with ⟨-, result', hleft, -⟩ | ⟨hnot, -⟩ | ⟨hnot, -⟩
      · rw [hright] at hreplay
        rw [hleft]
        exact ih h hfills hreplay
      · exact absurd (hfill.mpr hid) hnot
      · exact absurd (hfill.mpr hid) hnot
    · rw [hright] at hreplay
      cases hreplay
    -- new to one account and so to the other: both book it with the same fee
    · have hnew : fill.fillId ∉ left.appliedFillIds := fun hmem => hid (hfill.mp hmem)
      rw [PortfolioState.applyFill_of_new hid] at hreplay
      rw [PortfolioState.applyFill_of_new hnew]
      cases hfee : fillFeeDeltaInQuote fill (baseOf fill) (quoteOf fill) with
      | error e =>
        rw [hfee] at hreplay
        cases hreplay
      | ok fee =>
        rw [hfee] at hreplay
        have hnext : ∀ other ∈ fills, other.fillId ∈ (left.bookFill fill fee).2.appliedFillIds ↔
            other.fillId ∈ (right.bookFill fill fee).2.appliedFillIds := by
          intro other hmem
          rw [PortfolioState.bookFill_appliedFillIds, PortfolioState.bookFill_appliedFillIds,
            Finset.mem_insert, Finset.mem_insert]
          exact or_congr_right (hfills other hmem)
        exact ih (h.bookFill fill fee) hnext hreplay

theorem SameAccount.replay (h : SameAccount left right) {fills : List FillEvent}
    (hleft : ∀ fill ∈ fills, fill.fillId ∉ left.appliedFillIds)
    (hright : ∀ fill ∈ fills, fill.fillId ∉ right.appliedFillIds) {final : PortfolioState}
    (hreplay : Portfolio.replay right fills = .ok final) :
    ∃ final', Portfolio.replay left fills = .ok final' ∧ SameAccount final' final :=
  h.replay_of_applied_iff (fun fill hmem => iff_of_false (hleft fill hmem) (hright fill hmem))
    hreplay

end Book

theorem replay_append_eq_ok {state final : PortfolioState} {fills others : List FillEvent} :
    replay state (fills ++ others) = .ok final ↔
      ∃ mid, replay state fills = .ok mid ∧ replay mid others = .ok final := by
  induction fills generalizing state with
  | nil => simp
  | cons fill fills ih =>
    rw [List.cons_append, replay, replay]
    cases state.applyFill fill with
    | error e => simp
    | ok applied => exact ih

/-! ### States and snapshots -/

structure Shows (snapshot : PortfolioSnapshot) (state : PortfolioState) : Prop where
  quantity : ∀ key, snapshot.quantityOf key = quantizeDecimal (state.quantityOf key)
  avgEntryPrice : ∀ key, snapshot.avgEntryPriceOf key = quantizeDecimal (state.avgEntryPriceOf key)
  balance : ∀ currency,
    snapshot.balances.balance currency = quantizeDecimal (state.balances.balance currency)

theorem shows_buildSnapshot (prices : PriceProvider) (origin : SnapshotOrigin)
    (fillId : Option String) (now : Timestamp) (productType : ProductType) (marginMode : MarginMode)
    (state : PortfolioState) :
    Shows (buildSnapshot prices origin fillId now productType marginMode state) state :=
  ⟨quantityOf_buildSnapshot prices origin fillId now productType marginMode state,
    avgEntryPriceOf_buildSnapshot prices origin fillId now productType marginMode state,
    balance_buildSnapshot prices origin fillId now productType marginMode state⟩

/-- Rounding to twelve decimals changes nothing that a state holds. -/
structure Rounded (state : PortfolioState) : Prop where
  quantity : ∀ key, quantizeDecimal (state.quantityOf key) = state.quantityOf key
  avgEntryPrice : ∀ key, quantizeDecimal (state.avgEntryPriceOf key) = state.avgEntryPriceOf key
  balance : ∀ currency,
    quantizeDecimal (state.balances.balance currency) = state.balances.balance currency

/-- A position that counts as flat has no entry price. -/
def FlatClosed (state : PortfolioState) : Prop :=
  ∀ key, isEffectivelyZero (state.quantityOf key) = true → state.avgEntryPriceOf key = 0

theorem flatClosed_initialState (usdt : ℚ) : FlatClosed (initialState usdt) := fun _ _ => rfl

theorem flatClosed_load (snapshot : PortfolioSnapshot) (ids : Finset String) (fees : ℚ) :
    FlatClosed (loadPortfolioSnapshot snapshot ids fees) := by
  intro key hzero
  rw [quantityOf_load] at hzero
  rw [avgEntryPriceOf_load]
  split at hzero
  · next hflat => rw [if_pos hflat]
  · next hopen => exact absurd hzero hopen

theorem flatClosed_bookFill {state : PortfolioState} (h : FlatClosed state) (fill : FillEvent)
    (fee : ℚ) : FlatClosed (state.bookFill fill fee).2 := by
  intro key hzero
  by_cases hkey : key = positionKeyForFill fill
  · rw [hkey, PortfolioState.quantityOf_bookFill_self] at hzero
    rw [hkey, PortfolioState.avgEntryPriceOf_bookFill_self]
    split at hzero
    · next hflat => rw [if_pos hflat]
    · next hopen => exact absurd hzero hopen
  · rw [PortfolioState.quantityOf_bookFill_ne hkey] at hzero
    rw [PortfolioState.avgEntryPriceOf_bookFill_ne hkey]
    exact h key hzero

theorem flatClosed_replay {state final : PortfolioState} {fills : List FillEvent}
    (h : FlatClosed state) (hreplay : replay state fills = .ok final) : FlatClosed final := by
  induction fills generalizing state with
  | nil =>
    cases hreplay
    exact h
  | cons fill fills ih =>
    rw [replay] at hreplay
    rcases state.applyFill_cases fill with ⟨-, result, happly, -⟩ | ⟨-, e, happly⟩ |
      ⟨-, fee, happly⟩
    · rw [happly] at hreplay
      exact ih h hreplay
    · rw [happly] at hreplay
      cases hreplay
    · rw [happly] at hreplay
      exact ih (flatClosed_bookFill h fill fee) hreplay

theorem Shows.load {snapshot : PortfolioSnapshot} {state : PortfolioState}
    (h : Shows snapshot state) (hrounded : Rounded state) (hclosed : FlatClosed state) (ids : Finset String) (fees : ℚ) :
    SameAccount (loadPortfolioSnapshot snapshot ids fees) state := by
  have hquantity : ∀ key, snapshot.quantityOf key = state.quantityOf key :=
    fun key => (h.quantity key).trans (hrounded.quantity key)
  constructor
  · intro key
    rw [quantityOf_load, hquantity]
    split
    · next hzero => rw [← hrounded.quantity, quantizeDecimal, if_pos hzero]
    · rfl
  · intro key
    rw [avgEntryPriceOf_load, hquantity]
    split
    · next hzero => exact (hclosed key hzero).symm
    · exact (h.avgEntryPrice key).trans (hrounded.avgEntryPrice key)
  · intro currency
    rw [balance_load]
    exact (h.balance currency).trans (hrounded.balance currency)

/-! ### The fills executed by a moment -/

theorem filter_append_filter_not {α : Type*} {keep : α → Bool} {items : List α}
    (h : items.Pairwise (fun a b => keep b = true → keep a = true)) :
    items.filter keep ++ items.filter (fun a => !keep a) = items := by
  induction items with
  | nil => rfl
  | cons a items ih =>
    rw [List.pairwise_cons] at h
    by_cases ha : keep a = true
    · rw [List.filter_cons_of_pos ha, List.filter_cons_of_neg (by simp [ha]), List.cons_append,
        ih h.2]
    · have hrest : items.filter keep = [] := by
        rw [List.filter_eq_nil_iff]
        exact fun b hb hkeep => ha (h.1 b hb hkeep)
      have hall : items.filter (fun a => !keep a) = items := by
        rw [List.filter_eq_self]
        intro b hb
        rw [Bool.not_eq_true']
        exact Bool.eq_false_iff.mpr fun hkeep => ha (h.1 b hb hkeep)
      rw [List.filter_cons_of_neg ha, hrest, List.filter_cons_of_pos (by simp [ha]), hall,
        List.nil_append]

def executedBy (moment : Timestamp) (fill : FillRecord) : Bool :=
  decide (fill.exchangeTimestamp ≤ moment)

theorem sortedFills_append (keep : FillRecord → Bool) {fills : List FillRecord}
    (h : ∀ a ∈ fills, ∀ b ∈ fills, keep a = true → keep b = false →
      fillProcessingSortKey a < fillProcessingSortKey b) :
    sortedFills fills =
      sortedFills (fills.filter keep) ++ sortedFills (fills.filter (fun fill => !keep fill)) := by
  rw [← sortedFills_filter, ← sortedFills_filter]
  symm
  apply filter_append_filter_not
  apply (pairwise_sortedFills fills).imp_of_mem
  intro a b ha hb hab hkeep
  by_contra hnot
  have hlt := h b (mem_sortedFills.mp hb) a (mem_sortedFills.mp ha) hkeep
    (Bool.eq_false_iff.mpr hnot)
  exact absurd hab (not_le.mpr hlt)

theorem sortedFills_split (moment : Timestamp) (fills : List FillRecord) :
    sortedFills fills = sortedFills (fills.filter (executedBy moment)) ++
      sortedFills (fills.filter (fun fill => !executedBy moment fill)) := by
  apply sortedFills_append (executedBy moment)
  intro a _ b _ ha hb
  have hbefore : a.exchangeTimestamp ≤ moment := of_decide_eq_true ha
  have hafter : moment < b.exchangeTimestamp := not_le.mp (of_decide_eq_false hb)
  exact Prod.Lex.lt_iff.mpr (Or.inl (hbefore.trans_lt hafter))

/-! ### The rebuild -/

/-- What a rebuild reads besides the baseline and the fills: the prices, the clock and the scope. -/
structure RebuildContext where
  livePrice : PriceProvider
  now : Timestamp
  productType : ProductType := .derivatives
  marginMode : MarginMode := .cross

/-- The product type of a snapshot: derivatives if there is a position in them. -/
def productTypeOf (default : ProductType) (state : PortfolioState) : ProductType :=
  if (records state).any (fun record => record.productType = .derivatives) then .derivatives
  else default

def rebuildSnapshotFromBaseline (context : RebuildContext) (baseline : PortfolioSnapshot)
    (fills : List FillRecord) : Except UnsupportedFeeCurrencyError PortfolioSnapshot :=
  (rebuildFromBaseline fills baseline).map fun state =>
    buildSnapshot context.livePrice .fillDerived none context.now
      (productTypeOf context.productType state) context.marginMode state

def Reflects (baseline : PortfolioSnapshot) (account : PortfolioState) (fills : List FillRecord) :
    Prop :=
  ∃ state, replay account (orderedFills (fills.filter (executedBy baseline.snapshotTs))) = .ok state ∧
    SameAccount (loadPortfolioSnapshot baseline ∅ 0) state

/-- The rebuild shows what the account holds after all fills, each counted once. -/
def CountsOnce (context : RebuildContext) (baseline : PortfolioSnapshot) (account : PortfolioState)
    (fills : List FillRecord) : Prop :=
  ∀ final, replay account (orderedFills fills) = .ok final →
    ∃ rebuilt, rebuildSnapshotFromBaseline context baseline fills = .ok rebuilt ∧
      Shows rebuilt final

/-- A fill of these times is counted by a baseline and by the rebuild on it: it was executed by
the time of the baseline and taken in then or later. -/
def Straddles (moment : Timestamp) (times : Timestamp × Timestamp) : Prop :=
  times.1 ≤ moment ∧ moment ≤ times.2

instance (moment : Timestamp) (times : Timestamp × Timestamp) :
    Decidable (Straddles moment times) :=
  inferInstanceAs (Decidable (_ ∧ _))

/-- When a fill was executed and when it was taken in. -/
def timesOf (fill : FillRecord) : Timestamp × Timestamp :=
  (fill.exchangeTimestamp, fill.ingestionTimestamp)

section Rebuild

variable {baseline : PortfolioSnapshot} {fills : List FillRecord}

theorem fillsSince_eq (hdelay : ∀ fill ∈ fills, fill.exchangeTimestamp ≤ fill.ingestionTimestamp)
    (h : ∀ fill ∈ fills, ¬ Straddles baseline.snapshotTs (timesOf fill)) :
    fillsSince fills baseline =
      sortedFills (fills.filter (fun fill => !executedBy baseline.snapshotTs fill)) := by
  unfold fillsSince
  rw [sortedFills_filter]
  apply congrArg sortedFills
  apply List.filter_congr
  intro fill hmem
  unfold executedBy
  rw [← decide_not, decide_eq_decide, not_le]
  constructor
  · intro hle
    by_contra hexec
    exact h fill hmem ⟨not_lt.mp hexec, hle⟩
  · intro hlt
    exact (hlt.trans_le (hdelay fill hmem)).le

theorem ids_orderedFills (fills : List FillRecord) :
    ((orderedFills fills).map (·.fillId)).Perm (fills.map (·.fillId)) := by
  unfold orderedFills
  rw [List.map_map]
  exact (sortedFills_perm fills).map _

theorem countsOnce_of_not_straddles (context : RebuildContext) {account : PortfolioState}
    (hnodup : (fills.map (·.fillId)).Nodup)
    (hdelay : ∀ fill ∈ fills, fill.exchangeTimestamp ≤ fill.ingestionTimestamp)
    (haccount : account.appliedFillIds = ∅) (hreflects : Reflects baseline account fills)
    (h : ∀ fill ∈ fills, ¬ Straddles baseline.snapshotTs (timesOf fill)) :
    CountsOnce context baseline account fills := by
  intro final hfinal
  obtain ⟨state, hbefore, hsame⟩ := hreflects
  -- the exchange goes through the fills before the baseline, then through those after it
  have hsplit : orderedFills fills =
      orderedFills (fills.filter (executedBy baseline.snapshotTs)) ++
        orderedFills (fills.filter (fun fill => !executedBy baseline.snapshotTs fill)) := by
    unfold orderedFills
    rw [sortedFills_split baseline.snapshotTs fills, List.map_append]
  rw [hsplit, replay_append_eq_ok] at hfinal
  obtain ⟨mid, hmid, hafter⟩ := hfinal
  obtain rfl : state = mid := Except.ok.inj (hbefore.symm.trans hmid)
  have hids := ids_orderedFills fills
  rw [hsplit, List.map_append] at hids
  have hdisjoint := List.nodup_append.mp (hids.nodup_iff.mpr hnodup)
  have hfresh : ∀ fill ∈ orderedFills (fills.filter
      (fun fill => !executedBy baseline.snapshotTs fill)), fill.fillId ∉ state.appliedFillIds := by
    intro fill hmem happlied
    rw [mem_appliedFillIds_of_replay hbefore, haccount] at happlied
    rcases happlied with hempty | ⟨other, hother, heq⟩
    · exact absurd hempty (Finset.notMem_empty _)
    · exact hdisjoint.2.2 _ (List.mem_map_of_mem hother) _ (List.mem_map_of_mem hmem) heq
  obtain ⟨rebuilt, hrebuilt, haccount'⟩ := hsame.replay
    (fun fill _ => Finset.notMem_empty fill.fillId) hfresh hafter
  have hrebuild : rebuildFromBaseline fills baseline = .ok rebuilt := by
    unfold rebuildFromBaseline
    rw [fillsSince_eq hdelay h]
    exact hrebuilt
  refine ⟨_, by rw [rebuildSnapshotFromBaseline, hrebuild]; rfl, ?_, ?_, ?_⟩
  · intro key
    rw [quantityOf_buildSnapshot, haccount'.quantity]
  · intro key
    rw [avgEntryPriceOf_buildSnapshot, haccount'.avgEntryPrice]
  · intro currency
    rw [balance_buildSnapshot, haccount'.balance]

end Rebuild

/-! ### Bitcoins bought one by one -/

def boughtAt (fillId : String) (times : Timestamp × Timestamp) : FillRecord where
  fillId := fillId
  symbol := "BTC-USDT"
  side := .buy
  fillQty := 1
  fillPrice := 1
  feeAmount := 0
  feeCurrency := some "USDT"
  exchangeTimestamp := times.1
  ingestionTimestamp := times.2

/-- One purchase for each pair of times, each with an id of its own. -/
def purchases : List (Timestamp × Timestamp) → List FillRecord
  | [] => []
  | times :: rest => boughtAt (String.ofList (List.replicate rest.length 'f')) times :: purchases rest

/-- The account after a number of purchases. -/
structure Bought (count : ℕ) (state : PortfolioState) : Prop where
  quantity : ∀ key, state.quantityOf key = if key = "BTC-USDT" then (count : ℚ) else 0
  avgEntryPrice : ∀ key, state.avgEntryPriceOf key = if key = "BTC-USDT" ∧ count ≠ 0 then 1 else 0
  balance : ∀ currency, state.balances.balance currency =
    if currency = "BTC" then (count : ℚ) else if currency = "USDT" then -(count : ℚ) else 0

theorem timesOf_purchases (times : List (Timestamp × Timestamp)) :
    (purchases times).map timesOf = times := by
  induction times with
  | nil => rfl
  | cons t rest ih =>
    rw [purchases, List.map_cons, ih]
    rfl

theorem eq_boughtAt_of_mem {times : List (Timestamp × Timestamp)} {fill : FillRecord}
    (h : fill ∈ purchases times) : ∃ n < times.length,
      fill = boughtAt (String.ofList (List.replicate n 'f')) (timesOf fill) := by
  induction times with
  | nil => cases h
  | cons t rest ih =>
    rcases List.mem_cons.mp h with rfl | hmem
    · exact ⟨rest.length, Nat.lt_succ_self _, rfl⟩
    · obtain ⟨n, hn, heq⟩ := ih hmem
      exact ⟨n, hn.trans (Nat.lt_succ_self _), heq⟩

theorem nodup_purchases (times : List (Timestamp × Timestamp)) :
    ((purchases times).map (·.fillId)).Nodup := by
  induction times with
  | nil => exact List.nodup_nil
  | cons t rest ih =>
    rw [purchases, List.map_cons, List.nodup_cons]
    refine ⟨?_, ih⟩
    intro hmem
    obtain ⟨fill, hfill, hid⟩ := List.mem_map.mp hmem
    obtain ⟨n, hn, heq⟩ := eq_boughtAt_of_mem hfill
    rw [heq] at hid
    have hlist := String.ofList_injective hid
    have hlength := congrArg List.length hlist
    rw [List.length_replicate, List.length_replicate] at hlength
    omega

theorem Bought.booking {count : ℕ} {state : PortfolioState} (h : Bought count state)
    (fillId : String) (times : Timestamp × Timestamp) :
    (state.booking (boughtAt fillId times).toFillEvent).1 = (count + 1 : ℕ) ∧
      (state.booking (boughtAt fillId times).toFillEvent).2.1 = 1 := by
  have hbooking : state.booking (boughtAt fillId times).toFillEvent =
      bookQuantity count (if (count : ℕ) ≠ 0 then 1 else 0) 1 1 := by
    have hkey : positionKeyForFill (boughtAt fillId times).toFillEvent = "BTC-USDT" := rfl
    unfold PortfolioState.booking
    rw [hkey, h.quantity, h.avgEntryPrice, if_pos rfl]
    simp only [true_and]
    rfl
  rw [hbooking]
  constructor
  · rw [bookQuantity_quantity]
    push_cast
    ring
  · have hpos : (0 : ℚ) ≤ count := Nat.cast_nonneg count
    have hstep : epsilon12 < 1 := by norm_num [epsilon12]
    have hgrid : Holdings.OnGrid (1 : ℚ) count := ⟨count, by simp⟩
    rw [(bookQuantity_same _ 1 hstep hgrid ⟨1, by simp⟩ (.inl ⟨hpos, zero_le_one⟩)).2,
      if_neg (by positivity), abs_of_nonneg hpos, abs_one, abs_of_nonneg (by positivity),
      div_eq_one_iff_eq (by positivity), mul_one, add_left_inj]
    by_cases hzero : count = 0
    · rw [hzero]
      simp
    · rw [if_pos hzero, mul_one]

theorem balance_boughtAt (state : PortfolioState) (fillId : String) (times : Timestamp × Timestamp)
    (fee : ℚ) (currency : String) :
    (state.bookFill (boughtAt fillId times).toFillEvent fee).2.balances.balance currency =
      state.balances.balance currency +
        ((if "USDT" = currency then -1 else 0) + (if "BTC" = currency then 1 else 0)) := by
  have hcurrencies : resolveSymbolCurrencies "BTC-USDT" = (some "BTC", some "USDT") := by decide
  have hquote : quoteOf (boughtAt fillId times).toFillEvent = some "USDT" :=
    congrArg Prod.snd hcurrencies
  have hbase : baseOf (boughtAt fillId times).toFillEvent = some "BTC" :=
    congrArg Prod.fst hcurrencies
  -- a spot fill settles no PnL, and the fee of a purchase is zero
  have hpnl : pnlFlow (boughtAt fillId times).toFillEvent (bookedPnl
      (state.booking (boughtAt fillId times).toFillEvent).2.2) currency = 0 :=
    if_neg fun hp => nomatch hp.1
  have hfee : feeFlow (boughtAt fillId times).toFillEvent currency = 0 := ite_self 0
  have hspot : spotFlow (boughtAt fillId times).toFillEvent currency =
      (if "USDT" = currency then -1 else 0) + (if "BTC" = currency then 1 else 0) := by
    unfold spotFlow
    rw [hquote, hbase]
    simp only [Option.some.injEq]
    show (if "USDT" = currency then -((1 : ℚ) * 1) else 0) + _ = _
    rw [mul_one]
    rfl
  rw [PortfolioState.balance_bookFill, hpnl, hfee, hspot]
  ring

theorem Bought.bookFill {count : ℕ} {state : PortfolioState} (h : Bought count state)
    (fillId : String) (times : Timestamp × Timestamp) (fee : ℚ) :
    Bought (count + 1) (state.bookFill (boughtAt fillId times).toFillEvent fee).2 := by
  have hkey : positionKeyForFill (boughtAt fillId times).toFillEvent = "BTC-USDT" := rfl
  obtain ⟨hquantity, havg⟩ := h.booking fillId times
  -- a whole number of bitcoins does not count as flat
  have hopen : ¬ isEffectivelyZero ((count + 1 : ℕ) : ℚ) = true := by
    have hgrid : Holdings.OnGrid (1 : ℚ) (count + 1 : ℕ) := ⟨(count + 1 : ℕ), by simp⟩
    rw [isEffectivelyZero_iff (by norm_num [epsilon12]) hgrid, Nat.cast_eq_zero]
    omega
  constructor
  · intro key
    by_cases heq : key = "BTC-USDT"
    · rw [heq, ← hkey, PortfolioState.quantityOf_bookFill_self, hquantity, if_neg hopen, if_pos rfl]
    · have hother : key ≠ positionKeyForFill (boughtAt fillId times).toFillEvent := heq
      rw [PortfolioState.quantityOf_bookFill_ne hother, h.quantity, if_neg heq, if_neg heq]
  · intro key
    by_cases heq : key = "BTC-USDT"
    · rw [heq, ← hkey, PortfolioState.avgEntryPriceOf_bookFill_self, hquantity, if_neg hopen, havg,
        if_pos ⟨rfl, Nat.succ_ne_zero count⟩]
    · have hother : key ≠ positionKeyForFill (boughtAt fillId times).toFillEvent := heq
      rw [PortfolioState.avgEntryPriceOf_bookFill_ne hother, h.avgEntryPrice,
        if_neg fun hand => heq hand.1, if_neg fun hand => heq hand.1]
  · intro currency
    rw [balance_boughtAt, h.balance]
    by_cases hbtc : currency = "BTC"
    · subst hbtc
      simp
    · by_cases husdt : currency = "USDT"
      · subst husdt
        simp
        ring
      · simp [hbtc, husdt, Ne.symm hbtc, Ne.symm husdt]

theorem Bought.replay {count : ℕ} {state : PortfolioState} (h : Bought count state)
    {fills : List FillRecord} (hbought : ∀ fill ∈ fills, ∃ id, fill = boughtAt id (timesOf fill))
    (hnodup : (fills.map (·.fillId)).Nodup)
    (hfresh : ∀ fill ∈ fills, fill.fillId ∉ state.appliedFillIds) :
    ∃ final, Portfolio.replay state (fills.map FillRecord.toFillEvent) = .ok final ∧
      Bought (count + fills.length) final := by
  induction fills generalizing state count with
  | nil => exact ⟨state, rfl, h⟩
  | cons fill fills ih =>
    rw [List.map_cons, List.nodup_cons] at hnodup
    obtain ⟨id, hfill⟩ := hbought fill List.mem_cons_self
    have hfee : fillFeeDeltaInQuote fill.toFillEvent (baseOf fill.toFillEvent)
        (quoteOf fill.toFillEvent) = .ok 0 := by
      rw [hfill]
      rfl
    have hnext : Bought (count + 1) (state.bookFill fill.toFillEvent 0).2 := by
      rw [hfill]
      exact h.bookFill id _ 0
    obtain ⟨final, hfinal, hcount⟩ := ih hnext
      (fun other hmem => hbought other (List.mem_cons_of_mem _ hmem)) hnodup.2
      (by
        intro other hmem
        rw [PortfolioState.bookFill_appliedFillIds, Finset.mem_insert, not_or]
        refine ⟨?_, hfresh other (List.mem_cons_of_mem _ hmem)⟩
        intro heq
        exact hnodup.1 (heq ▸ List.mem_map_of_mem hmem))
    refine ⟨final, ?_, ?_⟩
    · rw [List.map_cons, Portfolio.replay,
        PortfolioState.applyFill_of_new (hfresh fill List.mem_cons_self), hfee]
      exact hfinal
    · rw [List.length_cons, Nat.add_comm fills.length 1, ← Nat.add_assoc]
      exact hcount

theorem quantizeDecimal_intCast (n : ℤ) : quantizeDecimal n = n := by
  have hgrid : Holdings.OnGrid (1 : ℚ) n := ⟨n, by simp⟩
  have hround : roundHalfEven ((n : ℚ) * 10 ^ 12) = n * 10 ^ 12 := by
    have hcast : (n : ℚ) * 10 ^ 12 = ((n * 10 ^ 12 : ℤ) : ℚ) := by push_cast; ring
    rw [hcast]
    unfold roundHalfEven
    simp only [Int.floor_intCast, sub_self]
    rw [if_pos (by norm_num)]
  unfold quantizeDecimal
  split
  · next hzero =>
    rw [(isEffectivelyZero_iff (by norm_num [epsilon12]) hgrid).mp hzero]
  · rw [hround]
    push_cast
    exact mul_div_cancel_right₀ _ (by norm_num)

theorem Bought.initial : Bought 0 (initialState 0) where
  quantity key := by
    rw [Nat.cast_zero, ite_self]
    rfl
  avgEntryPrice key := by
    rw [if_neg fun h => h.2 rfl]
    rfl
  balance currency := by
    rw [Nat.cast_zero, neg_zero, ite_self, ite_self, initialState, Balances.balance_insert, ite_eq_left_iff]
    exact fun _ => rfl

def baselineAt (moment : Timestamp) (state : PortfolioState) : PortfolioSnapshot :=
  { buildSnapshot (fun _ => 1) .exchangeImport none moment .spot .cash state with
    snapshotTs := moment }

theorem Bought.rounded {count : ℕ} {state : PortfolioState} (h : Bought count state) :
    Rounded state := by
  have hint : ∀ n : ℕ, quantizeDecimal n = n := fun n => by exact_mod_cast quantizeDecimal_intCast n
  have hneg : ∀ n : ℕ, quantizeDecimal (-(n : ℚ)) = -(n : ℚ) := fun n => by
    exact_mod_cast quantizeDecimal_intCast (-(n : ℤ))
  have hone : quantizeDecimal 1 = 1 := by exact_mod_cast hint 1
  constructor
  · intro key
    rw [h.quantity, apply_ite quantizeDecimal, hint, quantizeDecimal_zero]
  · intro key
    rw [h.avgEntryPrice, apply_ite quantizeDecimal, hone, quantizeDecimal_zero]
  · intro currency
    rw [h.balance, apply_ite quantizeDecimal, apply_ite quantizeDecimal, hint, hneg,
      quantizeDecimal_zero]

theorem Bought.flatClosed {count : ℕ} {state : PortfolioState} (h : Bought count state) :
    FlatClosed state := by
  intro key hzero
  have hgrid : Holdings.OnGrid (1 : ℚ) (state.quantityOf key) := by
    rw [h.quantity]
    split
    · exact ⟨count, by simp⟩
    · exact Holdings.onGrid_zero 1
  have hflat := (isEffectivelyZero_iff (by norm_num [epsilon12]) hgrid).mp hzero
  rw [h.quantity] at hflat
  rw [h.avgEntryPrice, if_neg]
  rintro ⟨hkey, hne⟩
  rw [if_pos hkey, Nat.cast_eq_zero] at hflat
  exact hne hflat

theorem Bought.load {count : ℕ} {state : PortfolioState} (h : Bought count state)
    (moment : Timestamp) :
    SameAccount (loadPortfolioSnapshot (baselineAt moment state) ∅ 0) state := by
  have hshows : Shows (baselineAt moment state) state :=
    shows_buildSnapshot (fun _ => 1) .exchangeImport none moment .spot .cash state
  exact hshows.load h.rounded h.flatClosed ∅ 0

theorem Bought.congr {count : ℕ} {left right : PortfolioState} (h : Bought count right)
    (hsame : SameAccount left right) : Bought count left :=
  ⟨fun key => (hsame.quantity key).trans (h.quantity key),
    fun key => (hsame.avgEntryPrice key).trans (h.avgEntryPrice key),
    fun currency => (hsame.balance currency).trans (h.balance currency)⟩

theorem countP_add_countP {α : Type*} {p q : α → Bool} {items : List α}
    (h : ∀ a ∈ items, p a = true ∨ q a = true) :
    items.countP p + items.countP q = items.length + items.countP (fun a => p a && q a) := by
  induction items with
  | nil => rfl
  | cons a items ih =>
    have hrest := ih fun b hb => h b (List.mem_cons_of_mem _ hb)
    rw [List.countP_cons, List.countP_cons, List.countP_cons, List.length_cons]
    rcases h a List.mem_cons_self with hp | hq
    · cases hq : q a <;> simp [hp] <;> omega
    · cases hp : p a <;> simp [hq] <;> omega

theorem Bought.replay_filter {count : ℕ} {state : PortfolioState} (h : Bought count state)
    (hnew : state.appliedFillIds = ∅) (times : List (Timestamp × Timestamp))
    (keep : FillRecord → Bool) : ∃ final,
      Portfolio.replay state (orderedFills ((purchases times).filter keep)) = .ok final ∧
        Bought (count + (purchases times).countP keep) final := by
  have hperm := sortedFills_perm ((purchases times).filter keep)
  have hnodup : ((sortedFills ((purchases times).filter keep)).map (·.fillId)).Nodup := by
    rw [(hperm.map _).nodup_iff]
    exact List.Nodup.sublist (List.Sublist.map _ List.filter_sublist) (nodup_purchases times)
  have hbought : ∀ fill ∈ sortedFills ((purchases times).filter keep),
      ∃ id, fill = boughtAt id (timesOf fill) := by
    intro fill hmem
    obtain ⟨n, -, heq⟩ := eq_boughtAt_of_mem (List.mem_of_mem_filter (mem_sortedFills.mp hmem))
    exact ⟨_, heq⟩
  obtain ⟨final, hfinal, hcount⟩ := h.replay hbought hnodup
    (fun fill _ => hnew ▸ Finset.notMem_empty fill.fillId)
  rw [hperm.length_eq, ← List.countP_eq_length_filter] at hcount
  exact ⟨final, hfinal, hcount⟩

theorem length_lt_of_straddles {moment : Timestamp} {times : List (Timestamp × Timestamp)}
    (hdelay : ∀ t ∈ times, t.1 ≤ t.2) (hstraddles : ∃ t ∈ times, Straddles moment t) :
    (purchases times).length < (purchases times).countP (executedBy moment) +
      (purchases times).countP (fun fill => decide (moment ≤ fill.ingestionTimestamp)) := by
  have hcover : ∀ fill ∈ purchases times, executedBy moment fill = true ∨
      decide (moment ≤ fill.ingestionTimestamp) = true := by
    intro fill hmem
    have htimes : timesOf fill ∈ times := by
      have hmap := List.mem_map_of_mem (f := timesOf) hmem
      rwa [timesOf_purchases] at hmap
    have hle : fill.exchangeTimestamp ≤ fill.ingestionTimestamp := hdelay _ htimes
    unfold executedBy
    rw [decide_eq_true_iff, decide_eq_true_iff]
    by_cases hexecuted : fill.exchangeTimestamp ≤ moment
    · exact .inl hexecuted
    · exact .inr ((not_le.mp hexecuted).le.trans hle)
  have htwice : 0 < (purchases times).countP (fun fill =>
      executedBy moment fill && decide (moment ≤ fill.ingestionTimestamp)) := by
    obtain ⟨t, ht, hexecuted, htaken⟩ := hstraddles
    rw [← timesOf_purchases times] at ht
    obtain ⟨fill, hmem, rfl⟩ := List.mem_map.mp ht
    rw [List.countP_pos_iff]
    refine ⟨fill, hmem, ?_⟩
    rw [Bool.and_eq_true]
    exact ⟨decide_eq_true hexecuted, decide_eq_true htaken⟩
  have hcount := countP_add_countP hcover
  omega

theorem straddler_counts_twice (context : RebuildContext) (moment : Timestamp)
    (times : List (Timestamp × Timestamp)) (hdelay : ∀ t ∈ times, t.1 ≤ t.2)
    (hstraddles : ∃ t ∈ times, Straddles moment t) :
    ∃ baseline account fills, baseline.snapshotTs = moment ∧ fills.map timesOf = times ∧
      (fills.map (·.fillId)).Nodup ∧ account.appliedFillIds = ∅ ∧ Reflects baseline account fills ∧
      ¬ CountsOnce context baseline account fills := by
  obtain ⟨before, hbefore, hbeforeCount⟩ :=
    Bought.initial.replay_filter rfl times (executedBy moment)
  obtain ⟨final, hfinal, hfinalCount⟩ := Bought.initial.replay_filter rfl times (fun _ => true)
  rw [List.filter_true, List.countP_true, Nat.zero_add] at *
  have hload := hbeforeCount.load moment
  refine ⟨baselineAt moment before, initialState 0, purchases times, rfl, timesOf_purchases times,
    nodup_purchases times, rfl, ⟨before, hbefore, hload⟩, ?_⟩
  intro honce
  obtain ⟨snapshot, hsnapshot, hshows⟩ := honce final hfinal
  obtain ⟨rebuilt, hrebuilt, hrebuiltCount⟩ := (hbeforeCount.congr hload).replay_filter rfl times
    (fun fill => decide (moment ≤ fill.ingestionTimestamp))
  have hrebuild : rebuildFromBaseline (purchases times) (baselineAt moment before) =
      .ok rebuilt := by
    unfold rebuildFromBaseline fillsSince
    rw [sortedFills_filter]
    exact hrebuilt
  rw [rebuildSnapshotFromBaseline, hrebuild] at hsnapshot
  cases hsnapshot
  -- the rebuild has as many bitcoins as there are fills before the cut and after it
  have hquantity := hshows.quantity "BTC-USDT"
  rw [quantityOf_buildSnapshot, hrebuiltCount.quantity, hfinalCount.quantity, if_pos rfl,
    if_pos rfl] at hquantity
  have hint : ∀ n : ℕ, quantizeDecimal n = n := fun n => by exact_mod_cast quantizeDecimal_intCast n
  rw [hint, hint, Nat.cast_inj] at hquantity
  have hmore := length_lt_of_straddles hdelay hstraddles
  omega

/-! ### Which times are counted once -/

/-- **Which times of fills are counted once**: those of which none is executed by the time of the
baseline and taken in then or later. -/
theorem rebuild_counts_once_iff (context : RebuildContext) (moment : Timestamp)
    (times : List (Timestamp × Timestamp)) (hdelay : ∀ t ∈ times, t.1 ≤ t.2) :
    (∀ baseline account fills, baseline.snapshotTs = moment → fills.map timesOf = times →
      (fills.map (·.fillId)).Nodup → account.appliedFillIds = ∅ → Reflects baseline account fills →
      CountsOnce context baseline account fills) ↔
    ∀ t ∈ times, ¬ Straddles moment t := by
  constructor
  · intro h t ht hstraddles
    obtain ⟨baseline, account, fills, hmoment, htimes, hnodup, happlied, hreflects, hnot⟩ :=
      straddler_counts_twice context moment times hdelay ⟨t, ht, hstraddles⟩
    exact hnot (h baseline account fills hmoment htimes hnodup happlied hreflects)
  · rintro h baseline account fills rfl rfl hnodup happlied hreflects
    refine countsOnce_of_not_straddles context hnodup ?_ happlied hreflects ?_
    · exact fun fill hmem => hdelay _ (List.mem_map_of_mem hmem)
    · exact fun fill hmem => h _ (List.mem_map_of_mem hmem)

theorem rebuild_counts_once_apart :
    (∀ baseline account fills, baseline.snapshotTs = 10 →
      fills.map timesOf = [(3, 5), (12, 14)] → (fills.map (·.fillId)).Nodup →
      account.appliedFillIds = ∅ → Reflects baseline account fills →
      CountsOnce { livePrice := fun _ => 1, now := 20 } baseline account fills) ↔
    ∀ t ∈ [((3 : Timestamp), (5 : Timestamp)), (12, 14)], ¬ Straddles 10 t :=
  rebuild_counts_once_iff { livePrice := fun _ => 1, now := 20 } 10 [(3, 5), (12, 14)] (by decide)

theorem late_fill_counts_twice : ¬ ∀ (context : RebuildContext) (baseline : PortfolioSnapshot)
    (account : PortfolioState) (fills : List FillRecord), (fills.map (·.fillId)).Nodup →
    (∀ fill ∈ fills, fill.exchangeTimestamp ≤ fill.ingestionTimestamp) →
    account.appliedFillIds = ∅ → Reflects baseline account fills →
    CountsOnce context baseline account fills := by
  intro h
  have htwice := straddler_counts_twice { livePrice := fun _ => 1, now := 20 }
    2 [(1, 3)] (by decide) ⟨(1, 3), List.mem_singleton_self _, by decide⟩
  obtain ⟨baseline, account, fills, -, htimes, hnodup, happlied, hreflects, hnot⟩ := htwice
  refine hnot (h _ baseline account fills hnodup ?_ happlied hreflects)
  intro fill hmem
  have htime : timesOf fill ∈ [((1 : Timestamp), (3 : Timestamp))] :=
    htimes ▸ List.mem_map_of_mem hmem
  have hpair : timesOf fill = (1, 3) := List.mem_singleton.mp htime
  obtain ⟨hexecuted, htaken⟩ := Prod.mk.inj hpair
  rw [hexecuted, htaken]
  decide

end Aats.Recovery
