import Aats.ExecutionRealism.L2EventReplay

/-!
# The replay invents no liquidity

What one order takes is added to the ledgers, and the ledgers stay below what was displayed and what was
traded. The bounds are carried through the levels or the trades of one order, and then from order to
order.

## Main definitions
* `takenAt`, `usedOf` — what some fills took of a level, and what some orders used of a trade.
* `DepthBounded`, `TradeBounded` — the ledgers do not exceed what was observed.

## Main results
* `takeLevels_spec`, `hitByTrades_spec` — **one order**.
* `taken_le`, `used_le` — **all orders together take no more than was there**.
-/

namespace Aats.ExecutionRealism

open Fallible StableSort

/-! ### What is taken -/

def takenAt (side : Side) (fills : List L2Fill) (key : DepthKey) : ℚ :=
  filledOf (fills.filter fun fill =>
    key.2.1 = side ∧ fill.sourceRef = .book key.1 (key.2.2 + 1))

def usedOf (uses : List TradeUse) (index : ℕ) : ℚ :=
  ((uses.filter fun use => use.index = index).map fun use => use.queue + use.filled).sum

@[simp] theorem filledOf_nil : filledOf [] = 0 := rfl

@[simp] theorem filledOf_append (fills later : List L2Fill) :
    filledOf (fills ++ later) = filledOf fills + filledOf later := by
  unfold filledOf
  rw [List.map_append, List.sum_append]

@[simp] theorem filledOf_singleton (fill : L2Fill) : filledOf [fill] = fill.quantity :=
  List.sum_singleton

@[simp] theorem takenAt_nil (side : Side) (key : DepthKey) : takenAt side [] key = 0 := rfl

@[simp] theorem takenAt_append (side : Side) (fills later : List L2Fill) (key : DepthKey) :
    takenAt side (fills ++ later) key = takenAt side fills key + takenAt side later key := by
  unfold takenAt
  rw [List.filter_append, filledOf_append]

@[simp] theorem usedOf_nil (index : ℕ) : usedOf [] index = 0 := rfl

@[simp] theorem usedOf_append (uses later : List TradeUse) (index : ℕ) :
    usedOf (uses ++ later) index = usedOf uses index + usedOf later index := by
  unfold usedOf
  rw [List.filter_append, List.map_append, List.sum_append]

theorem usedOf_singleton (use : TradeUse) (index : ℕ) :
    usedOf [use] index = if use.index = index then use.queue + use.filled else 0 := by
  unfold usedOf
  by_cases h : use.index = index
  · simp [h]
  · simp [h]

theorem takenAt_eq_zero {side : Side} {fills : List L2Fill} {key : DepthKey}
    (h : ∀ fill ∈ fills, key.2.1 = side → fill.sourceRef ≠ .book key.1 (key.2.2 + 1)) :
    takenAt side fills key = 0 := by
  unfold takenAt
  rw [List.filter_eq_nil_iff.mpr]
  · rfl
  · intro fill hfill htrue
    obtain ⟨hside, hsource⟩ := of_decide_eq_true htrue
    exact h fill hfill hside hsource

theorem le_of_le_max_of_pos {quantity left : ℚ} (h : quantity ≤ max 0 left) (hpos : 0 < quantity) :
    quantity ≤ left :=
  (le_max_iff.mp h).resolve_left (not_le.mpr hpos)

/-! ### A taker -/

section Taker

variable {request : L2OrderRequest} {snapshot : L2OrderBookSnapshot} {policy : L2ReplayPolicy}

structure TakerRun (request : L2OrderRequest) (snapshot : L2OrderBookSnapshot)
    (policy : L2ReplayPolicy) (before after : TakerState) (fills : List L2Fill) : Prop where
  fills_eq : after.fills = before.fills ++ fills
  consumed : ∀ key, after.depthConsumed key = before.depthConsumed key + takenAt request.side fills key
  remaining : after.remaining = before.remaining - filledOf fills
  source : ∀ fill ∈ fills, ∃ index level, (snapshot.taken request.side)[index]? = some level ∧
    fill = takerFill snapshot policy index level fill.quantity ∧ 0 < fill.quantity ∧
    outsideLimit request level.price = false

theorem TakerRun.refl (state : TakerState) : TakerRun request snapshot policy state state [] where
  fills_eq := (List.append_nil _).symm
  consumed _ := (add_zero _).symm
  remaining := (sub_zero _).symm
  source _ h := absurd h List.not_mem_nil

theorem TakerRun.trans {first second third : TakerState} {fills later : List L2Fill}
    (h : TakerRun request snapshot policy first second fills)
    (h' : TakerRun request snapshot policy second third later) :
    TakerRun request snapshot policy first third (fills ++ later) where
  fills_eq := by rw [h'.fills_eq, h.fills_eq, List.append_assoc]
  consumed key := by rw [h'.consumed, h.consumed, takenAt_append, add_assoc]
  remaining := by rw [h'.remaining, h.remaining, filledOf_append, sub_sub]
  source fill hfill := (List.mem_append.mp hfill).elim (h.source fill) (h'.source fill)

/-- The ledger does not exceed the levels that a side takes. -/
def WithinLevels (request : L2OrderRequest) (snapshot : L2OrderBookSnapshot)
    (depthConsumed : DepthKey → ℚ) : Prop :=
  ∀ index level, (snapshot.taken request.side)[index]? = some level →
    depthConsumed (snapshot.collectorSequence, request.side, index) ≤ level.quantity

theorem getElem?_of_drop {α : Type*} {all rest : List α} {a : α} {index : ℕ}
    (h : all.drop index = a :: rest) : all[index]? = some a ∧ all.drop (index + 1) = rest := by
  constructor
  · rw [← List.head?_drop, h]
    rfl
  · rw [← List.tail_drop, h]
    rfl

theorem takerRun_take {level : OrderBookLevel} {index : ℕ} {state after : TakerState} {quantity : ℚ}
    (hlevel : (snapshot.taken request.side)[index]? = some level)
    (hinside : outsideLimit request level.price = false) (hpos : 0 < quantity)
    (hafter : after = {
      remaining := state.remaining - quantity
      fills := state.fills ++ [takerFill snapshot policy index level quantity]
      depthConsumed := Function.update state.depthConsumed
        (snapshot.collectorSequence, request.side, index)
        (state.depthConsumed (snapshot.collectorSequence, request.side, index) + quantity) }) :
    TakerRun request snapshot policy state after [takerFill snapshot policy index level quantity] where
  fills_eq := by rw [hafter]
  consumed key := by
    rw [hafter]
    dsimp only
    by_cases hkey : key = (snapshot.collectorSequence, request.side, index)
    · rw [hkey, Function.update_self]
      simp [takenAt, takerFill]
    · rw [Function.update_of_ne hkey, takenAt_eq_zero, add_zero]
      intro fill hfill hside hsource
      rw [List.mem_singleton.mp hfill] at hsource
      obtain ⟨hsequence, hindex⟩ := SourceRef.book.inj hsource
      exact hkey (Prod.ext hsequence.symm (Prod.ext hside (Nat.succ.inj hindex).symm))
  remaining := by
    rw [hafter, filledOf_singleton]
    rfl
  source fill hfill := by
    rw [List.mem_singleton.mp hfill]
    exact ⟨index, level, hlevel, rfl, hpos, hinside⟩

theorem withinLevels_take {level : OrderBookLevel} {index : ℕ} {depthConsumed : DepthKey → ℚ}
    {quantity : ℚ} (hwithin : WithinLevels request snapshot depthConsumed)
    (hlevel : (snapshot.taken request.side)[index]? = some level)
    (hquantity : quantity ≤ level.quantity -
      depthConsumed (snapshot.collectorSequence, request.side, index)) :
    WithinLevels request snapshot (Function.update depthConsumed
      (snapshot.collectorSequence, request.side, index)
      (depthConsumed (snapshot.collectorSequence, request.side, index) + quantity)) := by
  intro other otherLevel hother
  by_cases hindex : other = index
  · subst hindex
    rw [hlevel] at hother
    cases hother
    rw [Function.update_self]
    linarith
  · rw [Function.update_of_ne fun heq => hindex (congrArg (fun key : DepthKey => key.2.2) heq)]
    exact hwithin other otherLevel hother

theorem takeLevels_spec {index : ℕ} {levels : List OrderBookLevel} {state : TakerState}
    (hlevels : (snapshot.taken request.side).drop index = levels) (hpos : 0 < state.remaining)
    (hwithin : WithinLevels request snapshot state.depthConsumed) :
    ∃ fills, TakerRun request snapshot policy state
        (takeLevels request snapshot policy index levels state) fills ∧
      0 ≤ (takeLevels request snapshot policy index levels state).remaining ∧
      WithinLevels request snapshot
        (takeLevels request snapshot policy index levels state).depthConsumed := by
  fun_induction takeLevels request snapshot policy index levels state with
  | case1 index state => exact ⟨[], .refl state, hpos.le, hwithin⟩
  | case2 index level rest state houtside => exact ⟨[], .refl state, hpos.le, hwithin⟩
  | case3 index level rest state hinside key available quantity hnone ih =>
    exact ih (getElem?_of_drop hlevels).2 hpos hwithin
  | case4 index level rest state hinside key available quantity hsome after hdone =>
    obtain ⟨hlevel, -⟩ := getElem?_of_drop hlevels
    have hleft : quantity ≤ level.quantity - state.depthConsumed key :=
      le_of_le_max_of_pos (min_le_right _ _) (not_le.mp hsome)
    refine ⟨_, takerRun_take hlevel (Bool.not_eq_true _ ▸ hinside) (not_le.mp hsome) rfl, ?_,
      withinLevels_take hwithin hlevel hleft⟩
    exact sub_nonneg.mpr (min_le_left _ _)
  | case5 index level rest state hinside key available quantity hsome after hmore ih =>
    obtain ⟨hlevel, hrest⟩ := getElem?_of_drop hlevels
    have hleft : quantity ≤ level.quantity - state.depthConsumed key :=
      le_of_le_max_of_pos (min_le_right _ _) (not_le.mp hsome)
    obtain ⟨fills, hrun, hremaining, hbounded⟩ :=
      ih hrest (not_le.mp hmore) (withinLevels_take hwithin hlevel hleft)
    have htake : TakerRun request snapshot policy state after
        [takerFill snapshot policy index level quantity] :=
      takerRun_take hlevel (Bool.not_eq_true _ ▸ hinside) (not_le.mp hsome) rfl
    exact ⟨_, htake.trans hrun, hremaining, hbounded⟩

end Taker

/-! ### A passive order -/

section Passive

variable {request : L2OrderRequest} {snapshot : L2OrderBookSnapshot} {policy : L2ReplayPolicy}
variable {trades : List L2TradeEvent}

def fillOfUse (request : L2OrderRequest) (policy : L2ReplayPolicy) (trades : List L2TradeEvent)
    (use : TradeUse) : Option L2Fill :=
  if 0 < use.filled then
    trades[use.index]?.map fun trade => makerFill request policy trade use.filled
  else none

structure PassiveRun (request : L2OrderRequest) (snapshot : L2OrderBookSnapshot)
    (policy : L2ReplayPolicy) (trades : List L2TradeEvent) (before after : PassiveState)
    (uses : List TradeUse) : Prop where
  fills_eq : after.fills = before.fills ++ uses.filterMap (fillOfUse request policy trades)
  uses_eq : after.uses = before.uses ++ uses
  consumed : ∀ index, after.tradeConsumed index = before.tradeConsumed index + usedOf uses index
  remaining : after.remaining =
    before.remaining - filledOf (uses.filterMap (fillOfUse request policy trades))
  source : ∀ use ∈ uses, 0 ≤ use.queue ∧ 0 ≤ use.filled ∧ ∃ trade, trades[use.index]? = some trade ∧
    snapshot.ts < trade.ts ∧ trade.ts ≤ request.deadline

theorem PassiveRun.refl (state : PassiveState) :
    PassiveRun request snapshot policy trades state state [] where
  fills_eq := (List.append_nil _).symm
  uses_eq := (List.append_nil _).symm
  consumed _ := (add_zero _).symm
  remaining := (sub_zero _).symm
  source _ h := absurd h List.not_mem_nil

theorem PassiveRun.trans {first second third : PassiveState} {uses later : List TradeUse}
    (h : PassiveRun request snapshot policy trades first second uses)
    (h' : PassiveRun request snapshot policy trades second third later) :
    PassiveRun request snapshot policy trades first third (uses ++ later) where
  fills_eq := by rw [h'.fills_eq, h.fills_eq, List.filterMap_append, List.append_assoc]
  uses_eq := by rw [h'.uses_eq, h.uses_eq, List.append_assoc]
  consumed index := by rw [h'.consumed, h.consumed, usedOf_append, add_assoc]
  remaining := by rw [h'.remaining, h.remaining, List.filterMap_append, filledOf_append, sub_sub]
  source use huse := (List.mem_append.mp huse).elim (h.source use) (h'.source use)

def WithinTrades (trades : List L2TradeEvent) (tradeConsumed : ℕ → ℚ) : Prop :=
  ∀ index trade, trades[index]? = some trade → tradeConsumed index ≤ trade.quantity

theorem update_eq_add_usedOf (tradeConsumed : ℕ → ℚ) (use : TradeUse) (index : ℕ) :
    Function.update tradeConsumed use.index (tradeConsumed use.index + (use.queue + use.filled)) index =
      tradeConsumed index + usedOf [use] index := by
  rw [usedOf_singleton]
  by_cases h : use.index = index
  · rw [h, Function.update_self, if_pos rfl]
  · rw [Function.update_of_ne (Ne.symm h), if_neg h, add_zero]

theorem withinTrades_update {trade : L2TradeEvent} {index : ℕ} {tradeConsumed : ℕ → ℚ} {amount : ℚ}
    (hwithin : WithinTrades trades tradeConsumed) (htrade : trades[index]? = some trade)
    (hamount : amount ≤ trade.quantity) :
    WithinTrades trades (Function.update tradeConsumed index amount) := by
  intro other otherTrade hother
  by_cases hindex : other = index
  · subst hindex
    rw [htrade] at hother
    cases hother
    rw [Function.update_self]
    exact hamount
  · rw [Function.update_of_ne hindex]
    exact hwithin other otherTrade hother

section Step

variable {index : ℕ} {trade : L2TradeEvent} {state : PassiveState} {queue quantity : ℚ}

theorem passiveRun_queued (htrade : trades[index]? = some trade) (hafter : snapshot.ts < trade.ts)
    (hbefore : trade.ts ≤ request.deadline) (hqueue : 0 ≤ queue) :
    PassiveRun request snapshot policy trades state (state.queued index queue)
      [{ index, queue, filled := 0 }] where
  fills_eq := by simp [PassiveState.queued, fillOfUse]
  uses_eq := rfl
  consumed other := by
    have hadd := update_eq_add_usedOf state.tradeConsumed { index, queue, filled := 0 } other
    rwa [add_zero] at hadd
  remaining := by simp [PassiveState.queued, fillOfUse]
  source use huse := by
    rw [List.mem_singleton.mp huse]
    exact ⟨hqueue, le_rfl, trade, htrade, hafter, hbefore⟩

theorem passiveRun_hit (htrade : trades[index]? = some trade) (hafter : snapshot.ts < trade.ts)
    (hbefore : trade.ts ≤ request.deadline) (hqueue : 0 ≤ queue) (hquantity : 0 < quantity) :
    PassiveRun request snapshot policy trades state
      (state.hit index queue quantity (makerFill request policy trade quantity))
      [{ index, queue, filled := quantity }] where
  fills_eq := by simp [PassiveState.hit, fillOfUse, hquantity, htrade]
  uses_eq := rfl
  consumed other := by
    have hadd := update_eq_add_usedOf state.tradeConsumed { index, queue, filled := quantity } other
    rwa [← add_assoc] at hadd
  remaining := by simp [PassiveState.hit, fillOfUse, hquantity, htrade, makerFill]
  source use huse := by
    rw [List.mem_singleton.mp huse]
    exact ⟨hqueue, hquantity.le, trade, htrade, hafter, hbefore⟩

end Step

/-- **A passive order**: it is filled up to its target, and no trade gives more than what is left of
it. -/
theorem hitByTrades_spec {index : ℕ} {rest : List L2TradeEvent} {state : PassiveState}
    (hrest : trades.drop index = rest) (hpos : 0 < state.remaining) (hqueue : 0 ≤ state.queueAhead)
    (hwithin : WithinTrades trades state.tradeConsumed) :
    ∃ uses, PassiveRun request snapshot policy trades state
        (hitByTrades request snapshot policy index rest state) uses ∧
      0 ≤ (hitByTrades request snapshot policy index rest state).remaining ∧
      WithinTrades trades (hitByTrades request snapshot policy index rest state).tradeConsumed := by
  fun_induction hitByTrades request snapshot policy index rest state with
  | case1 index state => exact ⟨[], .refl state, hpos.le, hwithin⟩
  | case2 index trade rest state hbefore ih =>
    exact ih (getElem?_of_drop hrest).2 hpos hqueue hwithin
  | case3 index trade rest state hafter hlate => exact ⟨[], .refl state, hpos.le, hwithin⟩
  | case4 index trade rest state hafter hintime hmiss ih =>
    exact ih (getElem?_of_drop hrest).2 hpos hqueue hwithin
  | case5 index trade rest state hafter hintime hhits available hnone ih =>
    exact ih (getElem?_of_drop hrest).2 hpos hqueue hwithin
  | case6 index trade rest state hafter hintime hhits available hsome queue hcleared ih =>
    obtain ⟨htrade, hdrop⟩ := getElem?_of_drop hrest
    have hleft : available ≤ trade.quantity - state.tradeConsumed index :=
      le_of_le_max_of_pos le_rfl (not_le.mp hsome)
    have hqueue0 : 0 ≤ queue := le_min hqueue (not_le.mp hsome).le
    have hqueueLe : queue ≤ available := min_le_right _ _
    obtain ⟨uses, hrun, hremaining, hbounded⟩ := ih hdrop hpos
      (sub_nonneg.mpr (min_le_left _ _)) (withinTrades_update hwithin htrade (by linarith))
    exact ⟨_, (passiveRun_queued htrade (not_le.mp hafter) (not_lt.mp hintime) hqueue0).trans hrun,
      hremaining, hbounded⟩
  | case7 index trade rest state hafter hintime hhits available hsome queue hcleared quantity after
      hdone =>
    obtain ⟨htrade, hdrop⟩ := getElem?_of_drop hrest
    have hleft : available ≤ trade.quantity - state.tradeConsumed index :=
      le_of_le_max_of_pos le_rfl (not_le.mp hsome)
    have hqueue0 : 0 ≤ queue := le_min hqueue (not_le.mp hsome).le
    have hquantityLe : quantity ≤ available - queue := min_le_right _ _
    have hquantity : 0 < quantity := lt_min hpos (not_le.mp fun h => hcleared (.inr h))
    exact ⟨_, passiveRun_hit htrade (not_le.mp hafter) (not_lt.mp hintime) hqueue0 hquantity,
      sub_nonneg.mpr (min_le_left _ _), withinTrades_update hwithin htrade (by linarith)⟩
  | case8 index trade rest state hafter hintime hhits available hsome queue hcleared quantity after
      hmore ih =>
    obtain ⟨htrade, hdrop⟩ := getElem?_of_drop hrest
    have hleft : available ≤ trade.quantity - state.tradeConsumed index :=
      le_of_le_max_of_pos le_rfl (not_le.mp hsome)
    have hqueue0 : 0 ≤ queue := le_min hqueue (not_le.mp hsome).le
    have hquantityLe : quantity ≤ available - queue := min_le_right _ _
    have hquantity : 0 < quantity := lt_min hpos (not_le.mp fun h => hcleared (.inr h))
    obtain ⟨uses, hrun, hremaining, hbounded⟩ := ih hdrop (not_le.mp hmore)
      (sub_nonneg.mpr (min_le_left _ _)) (withinTrades_update hwithin htrade (by linarith))
    exact ⟨_, (passiveRun_hit htrade (not_le.mp hafter) (not_lt.mp hintime) hqueue0 hquantity).trans
      hrun, hremaining, hbounded⟩

end Passive

/-! ### One order -/

section Order

variable {request : L2OrderRequest} {snapshot : L2OrderBookSnapshot} {policy : L2ReplayPolicy}
variable {snapshots : List L2OrderBookSnapshot} {trades : List L2TradeEvent}

structure Arrives (snapshots : List L2OrderBookSnapshot) (request : L2OrderRequest)
    (policy : L2ReplayPolicy) (snapshot : L2OrderBookSnapshot) : Prop where
  mem : snapshot ∈ snapshots
  after : request.submittedAt ≤ snapshot.ts
  before : snapshot.ts ≤ snapshotDeadline request policy
  first : ∀ other ∈ snapshots, request.submittedAt ≤ other.ts →
    other.ts ≤ snapshotDeadline request policy → snapshotKey snapshot ≤ snapshotKey other

theorem snapshotForRequest_spec
    (hsorted : snapshots.Pairwise fun a b => snapshotKey a ≤ snapshotKey b)
    (h : snapshotForRequest request policy snapshots = some snapshot) :
    Arrives snapshots request policy snapshot := by
  induction snapshots with
  | nil => cases h
  | cons head rest ih =>
    obtain ⟨hfirst, hrest⟩ := List.pairwise_cons.mp hsorted
    rw [snapshotForRequest] at h
    split at h
    · next hwindow =>
      cases h
      refine ⟨List.mem_cons_self, hwindow.1, hwindow.2, fun other hother _ _ => ?_⟩
      rcases List.mem_cons.mp hother with rfl | hother
      · exact le_rfl
      · exact hfirst other hother
    · next hwindow =>
      split at h
      · cases h
      · obtain ⟨hmem, hafter, hbefore, hother⟩ := ih hrest h
        refine ⟨List.mem_cons_of_mem _ hmem, hafter, hbefore, fun other hmem' hlow hhigh => ?_⟩
        rcases List.mem_cons.mp hmem' with rfl | hmem'
        · exact absurd ⟨hlow, hhigh⟩ hwindow
        · exact hother other hmem' hlow hhigh

/-- What holds of the result of one order, whatever the others took. -/
structure SoundResult (snapshots : List L2OrderBookSnapshot) (trades : List L2TradeEvent)
    (policy : L2ReplayPolicy) (replayed : Replayed) : Prop where
  filled_eq : replayed.result.filledQuantity = filledOf replayed.result.fills
  filled_le : replayed.result.filledQuantity ≤ replayed.request.targetQuantity
  status : replayed.result.status = .filled ↔
    replayed.result.filledQuantity = replayed.request.targetQuantity
  quantity : ∀ fill ∈ replayed.result.fills, 0 < fill.quantity
  limit : ∀ fill ∈ replayed.result.fills, ∀ limit ∈ replayed.request.limitPrice,
    match replayed.request.side with
    | .buy => fill.price ≤ limit
    | .sell => limit ≤ fill.price
  taker : ∀ fill ∈ replayed.result.fills, fill.liquidity = .taker →
    ∃ snapshot, Arrives snapshots replayed.request policy snapshot ∧ fill.ts = snapshot.ts ∧
      ∃ index level, (snapshot.taken replayed.request.side)[index]? = some level ∧
        fill.price = level.price ∧ fill.sourceRef = .book snapshot.collectorSequence (index + 1)
  maker : ∀ fill ∈ replayed.result.fills, fill.liquidity = .maker →
    ∃ snapshot, Arrives snapshots replayed.request policy snapshot ∧
      ∃ use ∈ replayed.uses, ∃ trade, trades[use.index]? = some trade ∧ fill.quantity = use.filled ∧
        fill.ts = trade.ts ∧ fill.sourceRef = .trade trade.tradeId ∧
        snapshot.ts < trade.ts ∧ trade.ts ≤ replayed.request.deadline
  made : replayed.request.orderKind = .postOnly → replayed.result.fills =
    replayed.uses.filterMap (fillOfUse replayed.request policy trades)
  uses : ∀ use ∈ replayed.uses, 0 ≤ use.queue ∧ 0 ≤ use.filled

theorem SoundResult.of_mem_iff {others : List L2OrderBookSnapshot} {replayed : Replayed}
    (h : SoundResult snapshots trades policy replayed)
    (hmem : ∀ snapshot, snapshot ∈ snapshots ↔ snapshot ∈ others) :
    SoundResult others trades policy replayed := by
  have harrives : ∀ snapshot, Arrives snapshots replayed.request policy snapshot →
      Arrives others replayed.request policy snapshot := fun snapshot ⟨hin, hafter, hbefore, hfirst⟩ =>
    ⟨(hmem snapshot).mp hin, hafter, hbefore, fun other hother => hfirst other ((hmem other).mpr hother)⟩
  refine { h with taker := ?_, maker := ?_ }
  · intro fill hfill htaker
    obtain ⟨snapshot, harrival, hrest⟩ := h.taker fill hfill htaker
    exact ⟨snapshot, harrives snapshot harrival, hrest⟩
  · intro fill hfill hmaker
    obtain ⟨snapshot, harrival, hrest⟩ := h.maker fill hfill hmaker
    exact ⟨snapshot, harrives snapshot harrival, hrest⟩

/-- Nothing is taken beyond what is displayed. -/
def DepthBounded (snapshots : List L2OrderBookSnapshot) (depthConsumed : DepthKey → ℚ) : Prop :=
  ∀ snapshot ∈ snapshots, ∀ side index level, (snapshot.taken side)[index]? = some level →
    depthConsumed (snapshot.collectorSequence, side, index) ≤ level.quantity

structure Turn (snapshots : List L2OrderBookSnapshot) (trades : List L2TradeEvent)
    (policy : L2ReplayPolicy) (request : L2OrderRequest) (before after : Books)
    (replayed : Replayed) : Prop where
  request_eq : replayed.request = request
  sound : SoundResult snapshots trades policy replayed
  depth : ∀ key, after.depthConsumed key =
    before.depthConsumed key + takenAt request.side replayed.result.fills key
  trade : ∀ index, after.tradeConsumed index =
    before.tradeConsumed index + usedOf replayed.uses index
  depthBounded : DepthBounded snapshots after.depthConsumed
  tradeBounded : WithinTrades trades after.tradeConsumed

theorem statusOf_eq_filled {filled : ℚ} (hle : filled ≤ request.targetQuantity) :
    statusOf request filled false = .filled ↔ filled = request.targetQuantity := by
  have hpos := request.target_pos
  unfold statusOf
  rw [if_neg Bool.false_ne_true]
  constructor
  · intro h
    split at h
    · cases h
    · split at h
      · cases h
      · next hless => exact le_antisymm hle (not_lt.mp hless)
  · intro h
    rw [if_neg (h ▸ hpos.ne'), if_neg (h ▸ lt_irrefl _)]

theorem soundResult_empty (snapshot : Option L2OrderBookSnapshot) (reasonCode : String)
    (rejected : Bool) :
    SoundResult snapshots trades policy
      { request, result := buildResult request snapshot [] reasonCode rejected } where
  filled_eq := rfl
  filled_le := request.target_pos.le
  status := by
    refine iff_of_false ?_ request.target_pos.ne
    cases rejected with
    | true => exact fun h => by cases h
    | false => exact fun h => by cases h
  quantity _ h := absurd h List.not_mem_nil
  limit _ h := absurd h List.not_mem_nil
  taker _ h := absurd h List.not_mem_nil
  maker _ h := absurd h List.not_mem_nil
  made _ := rfl
  uses _ h := absurd h List.not_mem_nil

theorem turn_empty {books : Books} (snapshot : Option L2OrderBookSnapshot) (reasonCode : String)
    (rejected : Bool) (hdepth : DepthBounded snapshots books.depthConsumed)
    (htrade : WithinTrades trades books.tradeConsumed) :
    Turn snapshots trades policy request books books
      { request, result := buildResult request snapshot [] reasonCode rejected } where
  request_eq := rfl
  sound := soundResult_empty snapshot reasonCode rejected
  depth _ := (add_zero _).symm
  trade _ := (add_zero _).symm
  depthBounded := hdepth
  tradeBounded := htrade

theorem le_of_not_outsideLimit {price : ℚ} (h : outsideLimit request price = false) :
    ∀ limit ∈ request.limitPrice,
      match request.side with
      | .buy => price ≤ limit
      | .sell => limit ≤ price := by
  intro limit hlimit
  rw [Option.mem_def] at hlimit
  unfold outsideLimit at h
  rw [hlimit] at h
  cases hside : request.side with
  | buy =>
    rw [hside] at h
    exact not_lt.mp (of_decide_eq_false h)
  | sell =>
    rw [hside] at h
    exact not_lt.mp (of_decide_eq_false h)

theorem eq_of_collectorSequence_eq {other : L2OrderBookSnapshot}
    (hsequence : (snapshots.map (·.collectorSequence)).Pairwise (· < ·))
    (h : snapshot ∈ snapshots) (h' : other ∈ snapshots)
    (heq : other.collectorSequence = snapshot.collectorSequence) : other = snapshot :=
  List.inj_on_of_nodup_map (hsequence.imp ne_of_lt) h' h heq

theorem turn_taker {books : Books} (harrives : Arrives snapshots request policy snapshot)
    (hkind : request.orderKind ≠ .postOnly)
    (hsequence : (snapshots.map (·.collectorSequence)).Pairwise (· < ·))
    (hdepth : DepthBounded snapshots books.depthConsumed)
    (htrade : WithinTrades trades books.tradeConsumed) :
    Turn snapshots trades policy request books
      { books with
        depthConsumed := (replayTaker request snapshot policy books.depthConsumed).1.depthConsumed }
      { request, result := (replayTaker request snapshot policy books.depthConsumed).2 } := by
  obtain ⟨fills, hrun, hremaining, hwithin⟩ := @takeLevels_spec request snapshot policy 0
    (snapshot.taken request.side)
    { remaining := request.targetQuantity, fills := [], depthConsumed := books.depthConsumed } rfl
    request.target_pos (hdepth snapshot harrives.mem request.side)
  unfold replayTaker
  dsimp only
  generalize takeLevels request snapshot policy 0 (snapshot.taken request.side)
    { remaining := request.targetQuantity, fills := [], depthConsumed := books.depthConsumed } =
    after at hrun hremaining hwithin ⊢
  have hfills : after.fills = fills := hrun.fills_eq
  have hle : filledOf fills ≤ request.targetQuantity := by
    have h := hrun.remaining
    dsimp only at h
    linarith
  constructor
  case request_eq => rfl
  case sound =>
    constructor
    case filled_eq => rfl
    case filled_le =>
      show filledOf after.fills ≤ _
      rw [hfills]
      exact hle
    case status =>
      show statusOf request (filledOf after.fills) false = .filled ↔ filledOf after.fills = _
      rw [hfills]
      exact statusOf_eq_filled hle
    case quantity =>
      intro fill hfill
      obtain ⟨_, _, _, _, hpos, _⟩ := hrun.source fill (hfills ▸ hfill)
      exact hpos
    case limit =>
      intro fill hfill
      obtain ⟨_, level, _, heq, _, hinside⟩ := hrun.source fill (hfills ▸ hfill)
      rw [heq]
      exact le_of_not_outsideLimit hinside
    case taker =>
      intro fill hfill _
      obtain ⟨index, level, hlevel, heq, _, _⟩ := hrun.source fill (hfills ▸ hfill)
      rw [heq]
      exact ⟨snapshot, harrives, rfl, index, level, hlevel, rfl, rfl⟩
    case maker =>
      intro fill hfill hmaker
      obtain ⟨_, _, _, heq, _, _⟩ := hrun.source fill (hfills ▸ hfill)
      rw [heq] at hmaker
      cases hmaker
    case made => exact fun h => absurd h hkind
    case uses => exact fun _ h => absurd h List.not_mem_nil
  case depth =>
    intro key
    show after.depthConsumed key = _ + takenAt request.side after.fills key
    rw [hfills]
    exact hrun.consumed key
  case trade => exact fun _ => (add_zero _).symm
  case depthBounded =>
    intro other hother side index level hlevel
    by_cases hkey : other = snapshot ∧ side = request.side
    · obtain ⟨rfl, rfl⟩ := hkey
      exact hwithin index level hlevel
    · -- another snapshot, or the other side of this one: nothing was taken there
      show after.depthConsumed _ ≤ _
      rw [hrun.consumed, takenAt_eq_zero, add_zero]
      · exact hdepth other hother side index level hlevel
      · intro fill hfill hside hsource
        obtain ⟨_, _, _, heq, _, _⟩ := hrun.source fill hfill
        rw [heq] at hsource
        refine hkey ⟨?_, hside⟩
        exact eq_of_collectorSequence_eq hsequence harrives.mem hother
          (SourceRef.book.inj hsource).1.symm
  case tradeBounded => exact htrade

theorem exists_use {uses : List TradeUse} {fill : L2Fill}
    (h : fill ∈ uses.filterMap (fillOfUse request policy trades)) :
    ∃ use ∈ uses, 0 < use.filled ∧ ∃ trade, trades[use.index]? = some trade ∧
      fill = makerFill request policy trade use.filled := by
  obtain ⟨use, huse, hfill⟩ := List.mem_filterMap.mp h
  unfold fillOfUse at hfill
  split at hfill
  · next hpos =>
    obtain ⟨trade, htrade, rfl⟩ := Option.map_eq_some_iff.mp hfill
    exact ⟨use, huse, hpos, trade, htrade, rfl⟩
  · cases hfill

theorem visibleQueue_nonneg {visible : ℚ} (h : visibleQueue request snapshot = some visible) :
    0 ≤ visible := by
  obtain ⟨level, -, rfl⟩ := Option.map_eq_some_iff.mp h
  exact level.quantity_pos.le

theorem turn_queued {books : Books} {visible : ℚ} {reason : PassiveState → String}
    (harrives : Arrives snapshots request policy snapshot)
    (hvisible : visibleQueue request snapshot = some visible)
    (hdepth : DepthBounded snapshots books.depthConsumed)
    (htrade : WithinTrades trades books.tradeConsumed) {after : PassiveState}
    (hafter : hitByTrades request snapshot policy 0 trades
      { queueAhead := visible * policy.queueAheadMultiplier, remaining := request.targetQuantity,
        fills := [], tradeConsumed := books.tradeConsumed, uses := [] } = after) :
    Turn snapshots trades policy request books { books with tradeConsumed := after.tradeConsumed }
      { request
        result := buildResult request (some snapshot) after.fills (reason after) false
        uses := after.uses } := by
  obtain ⟨uses, hrun, hremaining, hwithin⟩ := @hitByTrades_spec request snapshot policy trades 0 trades
    { queueAhead := visible * policy.queueAheadMultiplier, remaining := request.targetQuantity,
      fills := [], tradeConsumed := books.tradeConsumed, uses := [] } rfl request.target_pos
    (mul_nonneg (visibleQueue_nonneg hvisible) policy.multiplier_nonneg) htrade
  rw [hafter] at hrun hremaining hwithin
  have hfills : after.fills = uses.filterMap (fillOfUse request policy trades) := hrun.fills_eq
  have huses : after.uses = uses := hrun.uses_eq
  have hle : filledOf (uses.filterMap (fillOfUse request policy trades)) ≤ request.targetQuantity := by
    have h := hrun.remaining
    dsimp only at h
    linarith
  constructor
  case request_eq => rfl
  case sound =>
    constructor
    case filled_eq => rfl
    case filled_le =>
      show filledOf after.fills ≤ _
      rw [hfills]
      exact hle
    case status =>
      show statusOf request (filledOf after.fills) false = .filled ↔ filledOf after.fills = _
      rw [hfills]
      exact statusOf_eq_filled hle
    case quantity =>
      intro fill hfill
      obtain ⟨use, _, hpos, trade, _, rfl⟩ := exists_use (hfills ▸ hfill)
      exact hpos
    case limit =>
      intro fill hfill limit hlimit
      obtain ⟨use, _, _, trade, _, rfl⟩ := exists_use (hfills ▸ hfill)
      have hprice : (makerFill request policy trade use.filled).price = limit := by
        show request.limitPrice.getD 0 = limit
        rw [Option.mem_def.mp hlimit]
        rfl
      rw [hprice]
      split
      · exact le_rfl
      · exact le_rfl
    case taker =>
      intro fill hfill htaker
      obtain ⟨use, _, _, trade, _, rfl⟩ := exists_use (hfills ▸ hfill)
      cases htaker
    case maker =>
      intro fill hfill _
      obtain ⟨use, huse, _, trade, htrade', rfl⟩ := exists_use (hfills ▸ hfill)
      obtain ⟨-, -, other, hother, hlate, hintime⟩ := hrun.source use huse
      rw [htrade'] at hother
      cases hother
      exact ⟨snapshot, harrives, use, huses ▸ huse, trade, htrade', rfl, rfl, rfl, hlate, hintime⟩
    case made =>
      intro _
      show after.fills = after.uses.filterMap _
      rw [hfills, huses]
    case uses =>
      intro use huse
      obtain ⟨hqueue, hfilled, -⟩ := hrun.source use (huses ▸ huse)
      exact ⟨hqueue, hfilled⟩
  case depth =>
    intro key
    refine (add_eq_left.mpr (takenAt_eq_zero fun fill hfill _ hsource => ?_)).symm
    obtain ⟨use, _, _, trade, _, rfl⟩ := exists_use (hfills ▸ hfill)
    cases hsource
  case trade =>
    intro index
    show after.tradeConsumed index = _ + usedOf after.uses index
    rw [huses]
    exact hrun.consumed index
  case depthBounded => exact hdepth
  case tradeBounded => exact hwithin

theorem turn_postOnly {books : Books} (harrives : Arrives snapshots request policy snapshot)
    (hdepth : DepthBounded snapshots books.depthConsumed)
    (htrade : WithinTrades trades books.tradeConsumed) :
    Turn snapshots trades policy request books
      { books with
        tradeConsumed := (replayPostOnly request snapshot trades policy books.tradeConsumed).1 }
      (replayPostOnly request snapshot trades policy books.tradeConsumed).2 := by
  unfold replayPostOnly
  split
  · exact turn_empty (some snapshot) _ true hdepth htrade
  · split
    · exact turn_empty (some snapshot) _ false hdepth htrade
    · next visible hvisible => exact turn_queued harrives hvisible hdepth htrade rfl

theorem replayOrder_spec {books : Books}
    (hsorted : snapshots.Pairwise fun a b => snapshotKey a ≤ snapshotKey b)
    (hsequence : (snapshots.map (·.collectorSequence)).Pairwise (· < ·))
    (hdepth : DepthBounded snapshots books.depthConsumed)
    (htrade : WithinTrades trades books.tradeConsumed) :
    Turn snapshots trades policy request books
      (replayOrder snapshots trades policy request books).1
      (replayOrder snapshots trades policy request books).2 := by
  unfold replayOrder
  split
  · exact turn_empty none _ false hdepth htrade
  · next snapshot harrival =>
    have harrives := snapshotForRequest_spec hsorted harrival
    split
    · exact turn_postOnly harrives hdepth htrade
    · next hkind => exact turn_taker harrives hkind hsequence hdepth htrade

end Order

/-! ### All orders -/

section Orders

variable {policy : L2ReplayPolicy} {snapshots : List L2OrderBookSnapshot}
variable {trades : List L2TradeEvent}

def takenByAll (replayed : List Replayed) (key : DepthKey) : ℚ :=
  (replayed.map fun order => takenAt order.request.side order.result.fills key).sum

def usedByAll (replayed : List Replayed) (index : ℕ) : ℚ :=
  (replayed.map fun order => usedOf order.uses index).sum

theorem takenByAll_cons (order : Replayed) (rest : List Replayed) (key : DepthKey) :
    takenByAll (order :: rest) key =
      takenAt order.request.side order.result.fills key + takenByAll rest key := by
  unfold takenByAll
  rw [List.map_cons, List.sum_cons]

theorem usedByAll_cons (order : Replayed) (rest : List Replayed) (index : ℕ) :
    usedByAll (order :: rest) index = usedOf order.uses index + usedByAll rest index := by
  unfold usedByAll
  rw [List.map_cons, List.sum_cons]

theorem replayOrders_cons (request : L2OrderRequest) (rest : List L2OrderRequest) (books : Books) :
    replayOrders snapshots trades policy (request :: rest) books =
      (replayOrder snapshots trades policy request books).2 ::
        replayOrders snapshots trades policy rest
          (replayOrder snapshots trades policy request books).1 := rfl

theorem replayOrders_spec (hsorted : snapshots.Pairwise fun a b => snapshotKey a ≤ snapshotKey b)
    (hsequence : (snapshots.map (·.collectorSequence)).Pairwise (· < ·))
    (requests : List L2OrderRequest) {books : Books}
    (hdepth : DepthBounded snapshots books.depthConsumed)
    (htrade : WithinTrades trades books.tradeConsumed) :
    (replayOrders snapshots trades policy requests books).map (·.request) = requests ∧
    (∀ order ∈ replayOrders snapshots trades policy requests books,
      SoundResult snapshots trades policy order) ∧
    DepthBounded snapshots (fun key => books.depthConsumed key +
      takenByAll (replayOrders snapshots trades policy requests books) key) ∧
    WithinTrades trades fun index => books.tradeConsumed index +
      usedByAll (replayOrders snapshots trades policy requests books) index := by
  induction requests generalizing books with
  | nil =>
    refine ⟨rfl, fun _ h => absurd h List.not_mem_nil, ?_, ?_⟩
    · simpa [replayOrders, takenByAll] using hdepth
    · simpa [replayOrders, usedByAll] using htrade
  | cons request rest ih =>
    have hturn : Turn snapshots trades policy request books
        (replayOrder snapshots trades policy request books).1
        (replayOrder snapshots trades policy request books).2 :=
      replayOrder_spec hsorted hsequence hdepth htrade
    obtain ⟨hrequests, hsound, hdepth', htrade'⟩ := ih hturn.depthBounded hturn.tradeBounded
    rw [replayOrders_cons]
    refine ⟨?_, ?_, ?_, ?_⟩
    · rw [List.map_cons, hrequests, hturn.request_eq]
    · intro order horder
      rcases List.mem_cons.mp horder with rfl | horder
      · exact hturn.sound
      · exact hsound order horder
    · intro snapshot hsnapshot side index level hlevel
      have hbound := hdepth' snapshot hsnapshot side index level hlevel
      dsimp only at hbound
      rw [hturn.depth, add_assoc] at hbound
      dsimp only
      rw [takenByAll_cons, hturn.request_eq]
      exact hbound
    · intro index trade hindex
      have hbound := htrade' index trade hindex
      dsimp only at hbound
      rw [hturn.trade, add_assoc] at hbound
      dsimp only
      rw [usedByAll_cons]
      exact hbound

end Orders

/-! ### The replay -/

theorem replayL2Orders_eq_ok {snapshots : List L2OrderBookSnapshot} {trades : List L2TradeEvent}
    {requests : List L2OrderRequest} {fingerprint : String} {policy : Option L2ReplayPolicy}
    {evidence : L2ExecutionEvidence}
    (h : replayL2Orders snapshots trades requests fingerprint policy = .ok evidence) :
    ((sortOn snapshotKey snapshots).map (·.collectorSequence)).Pairwise (· < ·) ∧
      evidence.replayed = replayOrders (sortOn snapshotKey snapshots) (sortOn tradeKey trades)
        (policy.getD defaultPolicy) (sortOn requestKey requests) {} := by
  unfold replayL2Orders at h
  obtain ⟨_, -, h⟩ := bind_eq_ok.mp h
  obtain ⟨_, -, h⟩ := bind_eq_ok.mp h
  obtain ⟨_, -, h⟩ := bind_eq_ok.mp h
  obtain ⟨_, hchain, h⟩ := bind_eq_ok.mp h
  cases pure_eq_ok.mp h
  exact ⟨List.isChain_iff_pairwise.mp (not_not.mp (raiseIf_eq_ok.mp hchain)), rfl⟩

theorem depthBounded_start (snapshots : List L2OrderBookSnapshot) :
    DepthBounded snapshots ({} : Books).depthConsumed :=
  fun _ _ _ _ level _ => level.quantity_pos.le

theorem withinTrades_start (trades : List L2TradeEvent) :
    WithinTrades trades ({} : Books).tradeConsumed :=
  fun _ trade _ => trade.quantity_pos.le

/-- **The replay never invents liquidity.** -/
theorem replay_never_invents_liquidity {snapshots : List L2OrderBookSnapshot}
    {trades : List L2TradeEvent} {requests : List L2OrderRequest} {fingerprint : String}
    {policy : Option L2ReplayPolicy} {evidence : L2ExecutionEvidence}
    (h : replayL2Orders snapshots trades requests fingerprint policy = .ok evidence) :
    (evidence.replayed.map (·.request)).Perm requests ∧
    (∀ order ∈ evidence.replayed,
      SoundResult snapshots (sortOn tradeKey trades) (policy.getD defaultPolicy) order) ∧
    (∀ snapshot ∈ snapshots, ∀ side index level, (snapshot.taken side)[index]? = some level →
      takenByAll evidence.replayed (snapshot.collectorSequence, side, index) ≤ level.quantity) ∧
    ∀ index trade, (sortOn tradeKey trades)[index]? = some trade →
      usedByAll evidence.replayed index ≤ trade.quantity := by
  obtain ⟨hsequence, hreplayed⟩ := replayL2Orders_eq_ok h
  obtain ⟨hrequests, hsound, hdepth, htrade⟩ := @replayOrders_spec (policy.getD defaultPolicy) _ _
    (pairwise_sortOn snapshotKey snapshots) hsequence (sortOn requestKey requests) {}
    (depthBounded_start _) (withinTrades_start (sortOn tradeKey trades))
  rw [← hreplayed] at hrequests hsound hdepth htrade
  refine ⟨hrequests ▸ sortOn_perm requestKey requests, fun order horder => ?_, ?_, ?_⟩
  · exact (hsound order horder).of_mem_iff fun snapshot => mem_sortOn snapshotKey
  · intro snapshot hsnapshot side index level hlevel
    have hbound := hdepth snapshot ((mem_sortOn snapshotKey).mpr hsnapshot) side index level hlevel
    exact (zero_add (takenByAll evidence.replayed _)).symm.trans_le hbound
  · intro index trade hindex
    have hbound := htrade index trade hindex
    exact (zero_add (usedByAll evidence.replayed index)).symm.trans_le hbound

/-! ### One order at one snapshot -/

theorem replayL2Orders_accepts {snapshots : List L2OrderBookSnapshot} {trades : List L2TradeEvent}
    {requests : List L2OrderRequest} {fingerprint symbol : String} (policy : Option L2ReplayPolicy)
    (hfingerprint : Execution.strip fingerprint ≠ "") (hsnapshots : snapshots ≠ [])
    (hrequests : requests ≠ [])
    (hsymbols : (∀ snapshot ∈ snapshots, snapshot.symbol = symbol) ∧
      (∀ trade ∈ trades, trade.symbol = symbol) ∧ ∀ request ∈ requests, request.symbol = symbol)
    (hsequence : ((sortOn snapshotKey snapshots).map (·.collectorSequence)).Pairwise (· < ·)) :
    ∃ evidence, replayL2Orders snapshots trades requests fingerprint policy = .ok evidence := by
  obtain ⟨hsnapshotSymbols, htradeSymbols, hrequestSymbols⟩ := hsymbols
  have hhead : ((sortOn snapshotKey snapshots).head?.map (·.symbol)).getD "" = symbol := by
    cases hsorted : sortOn snapshotKey snapshots with
    | nil =>
      have hperm := sortOn_perm snapshotKey snapshots
      rw [hsorted] at hperm
      exact absurd hperm.symm.eq_nil hsnapshots
    | cons first rest =>
      refine hsnapshotSymbols first ((mem_sortOn snapshotKey).mp ?_)
      rw [hsorted]
      exact List.mem_cons_self
  unfold replayL2Orders
  rw [raiseIf_of_not _ hfingerprint, ok_bind,
    raiseIf_of_not _ (not_or.mpr ⟨hsnapshots, hrequests⟩), ok_bind]
  dsimp only
  rw [hhead, raiseIf_of_not, ok_bind,
    raiseIf_of_not _ (not_not.mpr (List.isChain_iff_pairwise.mpr hsequence)), ok_bind]
  · exact ⟨_, rfl⟩
  · simp only [List.any_eq_true, decide_eq_true_eq, not_or, not_exists, not_and, not_not]
    exact ⟨fun snapshot hmem => hsnapshotSymbols snapshot ((mem_sortOn snapshotKey).mp hmem),
      fun trade hmem => htradeSymbols trade ((mem_sortOn tradeKey).mp hmem),
      fun request hmem => hrequestSymbols request ((mem_sortOn requestKey).mp hmem)⟩

theorem hundred_pos : (0 : ℚ) < 100 := by norm_num

theorem hundredOne_pos : (0 : ℚ) < 101 := by norm_num

theorem hundred_lt_hundredOne : (100 : ℚ) < 101 := by norm_num

/-- One coin on each side, at 100 and at 101. -/
def narrowBook : L2OrderBookSnapshot where
  symbol := "BTC-USDT"
  ts := 0
  collectorSequence := 1
  bids := [⟨100, 1, hundred_pos, zero_lt_one⟩]
  asks := [⟨101, 1, hundredOne_pos, zero_lt_one⟩]
  sequence_pos := zero_lt_one
  bids_ne := List.cons_ne_nil _ _
  asks_ne := List.cons_ne_nil _ _
  bids_length := Nat.le_of_ble_eq_true rfl
  asks_length := Nat.le_of_ble_eq_true rfl
  bids_descending := List.IsChain.singleton _
  asks_ascending := List.IsChain.singleton _
  uncrossed := hundred_lt_hundredOne

theorem two_quantity_pos : (0 : ℚ) < 2 := zero_lt_two

theorem marketLimit_iff : (none : Option ℚ) = none ↔ OrderKind.market = .market := iff_of_true rfl rfl

theorem marketLimit_pos : ∀ limit ∈ (none : Option ℚ), 0 < limit :=
  fun _ h => absurd h (Option.not_mem_none _)

def marketBuy : L2OrderRequest where
  orderId := "1"
  symbol := "BTC-USDT"
  submittedAt := 0
  side := .buy
  orderKind := .market
  targetQuantity := 2
  expectedEdgeBps := 0
  limitPrice := none
  maxWaitMs := 2000
  target_pos := two_quantity_pos
  limit_iff := marketLimit_iff
  limit_pos := marketLimit_pos
  wait_pos := default_wait_pos

theorem replay_never_invents_liquidity_marketBuy :
    ∃ evidence, replayL2Orders [narrowBook] [] [marketBuy] "f" none = .ok evidence ∧
      takenByAll evidence.replayed (1, .buy, 0) ≤ 1 := by
  obtain ⟨evidence, h⟩ := @replayL2Orders_accepts [narrowBook] [] [marketBuy] "f" "BTC-USDT" none
    (by decide +kernel)
    (List.cons_ne_nil _ _) (List.cons_ne_nil _ _)
    ⟨fun snapshot hmem => by rw [List.mem_singleton.mp hmem]; rfl,
      fun trade hmem => absurd hmem List.not_mem_nil,
      fun request hmem => by rw [List.mem_singleton.mp hmem]; rfl⟩ (List.pairwise_singleton _ _)
  exact ⟨evidence, h, (replay_never_invents_liquidity h).2.2.1 narrowBook List.mem_cons_self .buy 0 _
    rfl⟩

end Aats.ExecutionRealism
