import Aats.ExecutionRealism.L2Liquidity

/-!
# The replay does not look ahead

Two replays whose snapshots, trades and requests are the same up to a time give the same result to every
order whose deadline is not after it. An earlier order may have a later deadline, and then see another
future in each of the two; what it takes there belongs to later snapshots and trades. So the ledgers
agree on what was observed up to the time, after each order that was submitted by then.

## Main definitions
* `Agree` — two ledgers agree on some snapshots and on some trades.

## Main results
* `takeLevels_agree`, `hitByTrades_agree` — **one order, with the ledgers of the two replays**.
* `replayOrders_agree` — **all orders**.
-/

namespace Aats.ExecutionRealism

open Fallible StableSort

/-! ### A taker -/

section Taker

variable {request : L2OrderRequest} {snapshot : L2OrderBookSnapshot} {policy : L2ReplayPolicy}

theorem takeLevels_agree {shared : DepthKey → Prop}
    (hshared : ∀ index, shared (snapshot.collectorSequence, request.side, index))
    (levels : List OrderBookLevel) {index : ℕ} {remaining : ℚ} {fills : List L2Fill}
    {depth other : DepthKey → ℚ} (hagree : ∀ key, shared key → depth key = other key) :
    (takeLevels request snapshot policy index levels ⟨remaining, fills, depth⟩).remaining =
        (takeLevels request snapshot policy index levels ⟨remaining, fills, other⟩).remaining ∧
      (takeLevels request snapshot policy index levels ⟨remaining, fills, depth⟩).fills =
        (takeLevels request snapshot policy index levels ⟨remaining, fills, other⟩).fills ∧
      ∀ key, shared key →
        (takeLevels request snapshot policy index levels ⟨remaining, fills, depth⟩).depthConsumed key =
          (takeLevels request snapshot policy index levels ⟨remaining, fills, other⟩).depthConsumed
            key := by
  induction levels generalizing index remaining fills depth other with
  | nil => exact ⟨rfl, rfl, hagree⟩
  | cons level rest ih =>
    have hkey := hagree _ (hshared index)
    simp only [takeLevels, hkey]
    split
    · exact ⟨rfl, rfl, hagree⟩
    · split
      · exact ih hagree
      · have hafter : ∀ amount key, shared key →
            Function.update depth (snapshot.collectorSequence, request.side, index) amount key =
              Function.update other (snapshot.collectorSequence, request.side, index) amount key := by
          intro amount key hmem
          by_cases heq : key = (snapshot.collectorSequence, request.side, index)
          · rw [heq, Function.update_self, Function.update_self]
          · rw [Function.update_of_ne heq, Function.update_of_ne heq]
            exact hagree key hmem
        split
        · exact ⟨rfl, rfl, hafter _⟩
        · exact ih (hafter _)

theorem takeLevels_of_ne {key : DepthKey} (hne : key.1 ≠ snapshot.collectorSequence) {index : ℕ}
    {levels : List OrderBookLevel} {state : TakerState} :
    (takeLevels request snapshot policy index levels state).depthConsumed key =
      state.depthConsumed key := by
  fun_induction takeLevels request snapshot policy index levels state with
  | case1 => rfl
  | case2 => rfl
  | case3 index level rest state hinside place available quantity hnone ih => exact ih
  | case4 index level rest state hinside place available quantity hsome after hdone =>
    exact Function.update_of_ne (fun heq => hne (congrArg Prod.fst heq)) _ _
  | case5 index level rest state hinside place available quantity hsome after hmore ih =>
    exact ih.trans (Function.update_of_ne (fun heq => hne (congrArg Prod.fst heq)) _ _)

end Taker

/-! ### A passive order -/

section Passive

variable {request : L2OrderRequest} {snapshot : L2OrderBookSnapshot} {policy : L2ReplayPolicy}

/-- Two states of a passive order that differ at most in the ledger from a trade on. -/
structure PassiveAgree (bound : ℕ) (first second : PassiveState) : Prop where
  queueAhead : first.queueAhead = second.queueAhead
  remaining : first.remaining = second.remaining
  fills : first.fills = second.fills
  uses : first.uses = second.uses
  consumed : ∀ index < bound, first.tradeConsumed index = second.tradeConsumed index

variable {bound index : ℕ} {first second : PassiveState}

theorem PassiveAgree.update {amount : ℚ} (h : PassiveAgree bound first second) :
    ∀ other < bound, Function.update first.tradeConsumed index amount other =
      Function.update second.tradeConsumed index amount other := by
  intro other hother
  by_cases heq : other = index
  · rw [heq, Function.update_self, Function.update_self]
  · rw [Function.update_of_ne heq, Function.update_of_ne heq]
    exact h.consumed other hother

theorem PassiveAgree.queued {queue : ℚ} (h : PassiveAgree bound first second) (hindex : index < bound) :
    PassiveAgree bound (first.queued index queue) (second.queued index queue) where
  queueAhead := congrArg (· - queue) h.queueAhead
  remaining := h.remaining
  fills := h.fills
  uses := congrArg (· ++ _) h.uses
  consumed := by
    unfold PassiveState.queued
    rw [h.consumed index hindex]
    exact h.update

theorem PassiveAgree.hit {queue quantity : ℚ} {fill : L2Fill} (h : PassiveAgree bound first second)
    (hindex : index < bound) :
    PassiveAgree bound (first.hit index queue quantity fill)
      (second.hit index queue quantity fill) where
  queueAhead := congrArg (· - queue) h.queueAhead
  remaining := congrArg (· - quantity) h.remaining
  fills := congrArg (· ++ _) h.fills
  uses := congrArg (· ++ _) h.uses
  consumed := by
    unfold PassiveState.hit
    rw [h.consumed index hindex]
    exact h.update

theorem hitByTrades_of_lt {earlier : ℕ} {trades : List L2TradeEvent} {state : PassiveState}
    (hlt : earlier < index) :
    (hitByTrades request snapshot policy index trades state).tradeConsumed earlier =
      state.tradeConsumed earlier := by
  fun_induction hitByTrades request snapshot policy index trades state with
  | case1 => rfl
  | case2 index trade rest state hbefore ih => exact ih (by omega)
  | case3 => rfl
  | case4 index trade rest state hafter hintime hmiss ih => exact ih (by omega)
  | case5 index trade rest state hafter hintime hhits available hnone ih => exact ih (by omega)
  | case6 index trade rest state hafter hintime hhits available hsome queue hcleared ih =>
    exact (ih (by omega)).trans (Function.update_of_ne (by omega) _ _)
  | case7 index trade rest state hafter hintime hhits available hsome queue hcleared quantity after
      hdone => exact Function.update_of_ne (by omega) _ _
  | case8 index trade rest state hafter hintime hhits available hsome queue hcleared quantity after
      hmore ih => exact (ih (by omega)).trans (Function.update_of_ne (by omega) _ _)

theorem hitByTrades_skip {early rest : List L2TradeEvent} {state : PassiveState}
    (hearly : ∀ trade ∈ early, trade.ts ≤ snapshot.ts) :
    hitByTrades request snapshot policy index (early ++ rest) state =
      hitByTrades request snapshot policy (index + early.length) rest state := by
  induction early generalizing index with
  | nil => rfl
  | cons trade early ih =>
    rw [List.cons_append, hitByTrades, if_pos (hearly trade List.mem_cons_self),
      ih fun other hother => hearly other (List.mem_cons_of_mem _ hother), List.length_cons]
    congr 1
    omega

/-- Two states that agree on the ledger before a trade, and in all else if the loop has ended. -/
structure LedgerAgree (bound : ℕ) (ended : Prop) (first second : PassiveState) : Prop where
  consumed : ∀ index < bound, first.tradeConsumed index = second.tradeConsumed index
  all : ended → PassiveAgree bound first second

theorem PassiveAgree.ledger {ended : Prop} (h : PassiveAgree bound first second) :
    LedgerAgree bound ended first second :=
  ⟨h.consumed, fun _ => h⟩

/-- Trades that do not fill an order, as they come after its snapshot and its deadline. -/
def TooLate (request : L2OrderRequest) (snapshot : L2OrderBookSnapshot) (trades : List L2TradeEvent) :
    Prop :=
  ∀ trade ∈ trades, snapshot.ts < trade.ts ∧ request.deadline < trade.ts

theorem hitByTrades_late {late : List L2TradeEvent} {state : PassiveState}
    (hlate : TooLate request snapshot late) :
    hitByTrades request snapshot policy index late state = state := by
  cases late with
  | nil => rfl
  | cons trade rest =>
    obtain ⟨hafter, hpast⟩ := hlate trade List.mem_cons_self
    rw [hitByTrades, if_neg (not_le.mpr hafter), if_pos hpast]

theorem hitByTrades_agree (common : List L2TradeEvent) {late later : List L2TradeEvent}
    (hbound : bound = index + common.length) (h : PassiveAgree bound first second) :
    LedgerAgree bound (TooLate request snapshot late ∧ TooLate request snapshot later)
      (hitByTrades request snapshot policy index (common ++ late) first)
      (hitByTrades request snapshot policy index (common ++ later) second) := by
  induction common generalizing index first second with
  | nil =>
    rw [List.nil_append, List.nil_append]
    refine ⟨fun earlier hlt => ?_, fun hlate => ?_⟩
    · rw [List.length_nil, add_zero] at hbound
      rw [hitByTrades_of_lt (hbound ▸ hlt), hitByTrades_of_lt (hbound ▸ hlt)]
      exact h.consumed earlier hlt
    · rw [hitByTrades_late hlate.1, hitByTrades_late hlate.2]
      exact h
  | cons trade common ih =>
    rw [List.length_cons] at hbound
    have hindex : index < bound := by omega
    have hrest : bound = index + 1 + common.length := by omega
    simp only [List.cons_append, hitByTrades, h.consumed index hindex, h.queueAhead, h.remaining]
    split
    · exact ih hrest h
    split
    · exact h.ledger
    split
    · exact ih hrest h
    split
    · exact ih hrest h
    split
    · exact ih hrest (h.queued hindex)
    have hhit : ∀ queue quantity fill, PassiveAgree bound
        (first.hit index queue quantity fill) (second.hit index queue quantity fill) :=
      fun _ _ _ => h.hit hindex
    rw [(hhit _ _ _).remaining]
    split
    · exact (hhit _ _ _).ledger
    · exact ih hrest (hhit _ _ _)

end Passive

/-! ### One order -/

section Order

variable {request : L2OrderRequest} {policy : L2ReplayPolicy} {horizon : ℤ}
variable {known later other : List L2OrderBookSnapshot} {traded late latest : List L2TradeEvent}
variable {first second : Books}

structure Agree (known : List L2OrderBookSnapshot) (traded : List L2TradeEvent)
    (first second : Books) : Prop where
  depth : ∀ snapshot ∈ known, ∀ side index,
    first.depthConsumed (snapshot.collectorSequence, side, index) =
      second.depthConsumed (snapshot.collectorSequence, side, index)
  trade : ∀ index < traded.length, first.tradeConsumed index = second.tradeConsumed index

theorem Agree.trans {third : Books} (h : Agree known traded first second)
    (h' : Agree known traded second third) : Agree known traded first third :=
  ⟨fun snapshot hmem side index => (h.depth snapshot hmem side index).trans
    (h'.depth snapshot hmem side index), fun index hlt => (h.trade index hlt).trans (h'.trade index hlt)⟩

theorem Agree.symm (h : Agree known traded first second) : Agree known traded second first :=
  ⟨fun snapshot hmem side index => (h.depth snapshot hmem side index).symm,
    fun index hlt => (h.trade index hlt).symm⟩

/-- The observations up to a time, and some after it. -/
structure Observed (horizon : ℤ) (known later : List L2OrderBookSnapshot)
    (traded late : List L2TradeEvent) : Prop where
  known_le : ∀ snapshot ∈ known, snapshot.ts ≤ horizon
  lt_later : ∀ snapshot ∈ later, horizon < snapshot.ts
  traded_le : ∀ trade ∈ traded, trade.ts ≤ horizon
  lt_late : ∀ trade ∈ late, horizon < trade.ts
  sequence : ((known ++ later).map (·.collectorSequence)).Pairwise (· < ·)

theorem snapshotForRequest_append (request : L2OrderRequest) (policy : L2ReplayPolicy)
    (known : List L2OrderBookSnapshot) :
    (∃ snapshot ∈ known, ∀ later,
      snapshotForRequest request policy (known ++ later) = some snapshot) ∨
    ∀ later snapshot, snapshotForRequest request policy (known ++ later) = some snapshot →
      snapshot ∈ later ∧ snapshot.ts ≤ snapshotDeadline request policy := by
  induction known with
  | nil =>
    refine .inr fun later snapshot h => ?_
    rw [List.nil_append] at h
    induction later with
    | nil => cases h
    | cons head rest ih =>
      rw [snapshotForRequest] at h
      split at h
      · next hwindow =>
        cases h
        exact ⟨List.mem_cons_self, hwindow.2⟩
      · split at h
        · cases h
        · exact ⟨List.mem_cons_of_mem _ (ih h).1, (ih h).2⟩
  | cons head known ih =>
    simp only [List.cons_append, snapshotForRequest]
    split
    · exact .inl ⟨head, List.mem_cons_self, fun _ => rfl⟩
    · split
      · exact .inr fun _ _ h => by cases h
      · rcases ih with ⟨snapshot, hmem, heq⟩ | hlater
        · exact .inl ⟨snapshot, List.mem_cons_of_mem _ hmem, heq⟩
        · exact .inr hlater

theorem snapshotDeadline_le : snapshotDeadline request policy ≤ request.deadline := by
  have hmin := min_le_left request.maxWaitMs policy.maxSnapshotWaitMs
  unfold snapshotDeadline L2OrderRequest.deadline
  omega

theorem replayOrder_of_later (hobserved : Observed horizon known later traded late)
    (hlater : ∀ snapshot, snapshotForRequest request policy (known ++ later) = some snapshot →
      snapshot ∈ later) (books : Books) :
    Agree known traded
      (replayOrder (known ++ later) (traded ++ late) policy request books).1 books := by
  unfold replayOrder
  split
  · exact ⟨fun _ _ _ _ => rfl, fun _ _ => rfl⟩
  · next snapshot harrival =>
    have hmem := hlater snapshot harrival
    have hts := hobserved.lt_later snapshot hmem
    split
    · refine ⟨fun _ _ _ _ => rfl, fun index hindex => ?_⟩
      show (replayPostOnly request snapshot (traded ++ late) policy books.tradeConsumed).1 index = _
      unfold replayPostOnly
      split
      · rfl
      · split
        · rfl
        · dsimp only
          rw [hitByTrades_skip fun trade htrade => (hobserved.traded_le trade htrade).trans hts.le]
          exact hitByTrades_of_lt (by omega)
    · refine ⟨fun other hother side index => ?_, fun _ _ => rfl⟩
      refine takeLevels_of_ne fun heq => ?_
      have hsequence := hobserved.sequence
      rw [List.map_append, List.pairwise_append] at hsequence
      exact absurd heq (hsequence.2.2 _ (List.mem_map_of_mem hother) _ (List.mem_map_of_mem hmem)).ne

theorem PassiveAgree.reason {bound : ℕ} {state after : PassiveState}
    (h : PassiveAgree bound state after) : passiveReason state = passiveReason after := by
  unfold passiveReason
  rw [h.remaining, h.fills, h.queueAhead]

theorem replayPostOnly_agree {snapshot : L2OrderBookSnapshot} {consumed consumed' : ℕ → ℚ}
    (h : ∀ index < traded.length, consumed index = consumed' index) :
    (∀ index < traded.length,
      (replayPostOnly request snapshot (traded ++ late) policy consumed).1 index =
        (replayPostOnly request snapshot (traded ++ latest) policy consumed').1 index) ∧
    (TooLate request snapshot late → TooLate request snapshot latest →
      (replayPostOnly request snapshot (traded ++ late) policy consumed).2 =
        (replayPostOnly request snapshot (traded ++ latest) policy consumed').2) := by
  unfold replayPostOnly
  split
  · exact ⟨h, fun _ _ => rfl⟩
  split
  · exact ⟨h, fun _ _ => rfl⟩
  · next visible hvisible =>
    have hstart : PassiveAgree traded.length
        ⟨visible * policy.queueAheadMultiplier, request.targetQuantity, [], consumed, []⟩
        ⟨visible * policy.queueAheadMultiplier, request.targetQuantity, [], consumed', []⟩ :=
      ⟨rfl, rfl, rfl, rfl, h⟩
    have hagree : LedgerAgree traded.length (TooLate request snapshot late ∧
        TooLate request snapshot latest) _ _ :=
      @hitByTrades_agree request snapshot policy traded.length 0 _ _ traded late latest
        (Nat.zero_add _).symm hstart
    refine ⟨hagree.consumed, fun hlate hlatest => ?_⟩
    have hall := hagree.all ⟨hlate, hlatest⟩
    dsimp only
    rw [hall.reason, hall.fills, hall.uses]

theorem replayTaker_agree {snapshot : L2OrderBookSnapshot} (hmem : snapshot ∈ known)
    (h : Agree known traded first second) :
    (∀ observed ∈ known, ∀ side index,
      (replayTaker request snapshot policy first.depthConsumed).1.depthConsumed
          (observed.collectorSequence, side, index) =
        (replayTaker request snapshot policy second.depthConsumed).1.depthConsumed
          (observed.collectorSequence, side, index)) ∧
    (replayTaker request snapshot policy first.depthConsumed).2 =
      (replayTaker request snapshot policy second.depthConsumed).2 := by
  have hshared : ∀ key : DepthKey, (∃ observed ∈ known, key.1 = observed.collectorSequence) →
      first.depthConsumed key = second.depthConsumed key := by
    rintro ⟨_, side, index⟩ ⟨observed, hobserved, rfl⟩
    exact h.depth observed hobserved side index
  obtain ⟨hremaining, hfills, hdepth⟩ := @takeLevels_agree request snapshot policy
    (fun key => ∃ observed ∈ known, key.1 = observed.collectorSequence)
    (fun _ => ⟨snapshot, hmem, rfl⟩) (snapshot.taken request.side) 0 request.targetQuantity []
    first.depthConsumed second.depthConsumed hshared
  refine ⟨fun observed hobserved side index => hdepth _ ⟨observed, hobserved, rfl⟩, ?_⟩
  unfold replayTaker
  dsimp only
  rw [hremaining, hfills]

theorem replayOrder_agree (hobserved : Observed horizon known later traded late)
    (hobserved' : Observed horizon known other traded latest) (h : Agree known traded first second) :
    Agree known traded
      (replayOrder (known ++ later) (traded ++ late) policy request first).1
      (replayOrder (known ++ other) (traded ++ latest) policy request second).1 ∧
    (request.deadline ≤ horizon →
      (replayOrder (known ++ later) (traded ++ late) policy request first).2 =
        (replayOrder (known ++ other) (traded ++ latest) policy request second).2) := by
  rcases snapshotForRequest_append request policy known with ⟨snapshot, hmem, harrival⟩ | hlater
  · have hts := hobserved.known_le snapshot hmem
    unfold replayOrder
    rw [harrival, harrival]
    dsimp only
    split
    · obtain ⟨hconsumed, hresult⟩ := @replayPostOnly_agree request policy traded late latest snapshot
        first.tradeConsumed second.tradeConsumed h.trade
      refine ⟨⟨h.depth, hconsumed⟩, fun hdeadline => hresult ?_ ?_⟩
      · intro trade htrade
        have hlate := hobserved.lt_late trade htrade
        exact ⟨by omega, by omega⟩
      · intro trade htrade
        have hlate := hobserved'.lt_late trade htrade
        exact ⟨by omega, by omega⟩
    · obtain ⟨hdepth, hresult⟩ := @replayTaker_agree request policy known traded first second snapshot
        hmem h
      refine ⟨⟨hdepth, h.trade⟩, fun _ => ?_⟩
      rw [hresult]
  · refine ⟨?_, fun hdeadline => ?_⟩
    · have hfirst := replayOrder_of_later hobserved (fun snapshot hs => (hlater _ snapshot hs).1) first
      have hsecond := replayOrder_of_later hobserved' (fun snapshot hs => (hlater _ snapshot hs).1)
        second
      exact (hfirst.trans h).trans hsecond.symm
    · -- a later snapshot comes after the wait
      have hnone : ∀ others : List L2OrderBookSnapshot, (∀ snapshot ∈ others, horizon < snapshot.ts) →
          snapshotForRequest request policy (known ++ others) = none := by
        intro others hothers
        cases harrival : snapshotForRequest request policy (known ++ others) with
        | none => rfl
        | some snapshot =>
          obtain ⟨hmem, hwait⟩ := hlater others snapshot harrival
          have hts := hothers snapshot hmem
          have hle : snapshotDeadline request policy ≤ request.deadline := snapshotDeadline_le
          omega
      unfold replayOrder
      rw [hnone later hobserved.lt_later, hnone other hobserved'.lt_later]

theorem replayOrder_request (snapshots : List L2OrderBookSnapshot) (trades : List L2TradeEvent)
    (books : Books) : (replayOrder snapshots trades policy request books).2.request = request := by
  unfold replayOrder
  split
  · rfl
  split
  · dsimp only
    unfold replayPostOnly
    split
    · rfl
    split
    · rfl
    · rfl
  · rfl

theorem map_request_replayOrders (snapshots : List L2OrderBookSnapshot) (trades : List L2TradeEvent)
    (requests : List L2OrderRequest) (books : Books) :
    (replayOrders snapshots trades policy requests books).map (·.request) = requests := by
  induction requests generalizing books with
  | nil => rfl
  | cons request rest ih => rw [replayOrders_cons, List.map_cons, ih, replayOrder_request]

/-- The orders whose deadline is not after a time. -/
def settled (horizon : ℤ) (replayed : List Replayed) : List Replayed :=
  replayed.filter fun order => order.request.deadline ≤ horizon

theorem settled_of_late {requests : List L2OrderRequest}
    (hlate : ∀ request ∈ requests, horizon < request.deadline)
    (snapshots : List L2OrderBookSnapshot) (trades : List L2TradeEvent) (books : Books) :
    settled horizon (replayOrders snapshots trades policy requests books) = [] := by
  refine List.filter_eq_nil_iff.mpr fun order horder hdeadline => ?_
  have hmem : order.request ∈ requests := by
    rw [← map_request_replayOrders snapshots trades requests books]
    exact List.mem_map_of_mem horder
  exact absurd (of_decide_eq_true hdeadline) (not_le.mpr (hlate _ hmem))

theorem replayOrders_agree (hobserved : Observed horizon known later traded late)
    (hobserved' : Observed horizon known other traded latest) (asked : List L2OrderRequest)
    {more more' : List L2OrderRequest} (hmore : ∀ request ∈ more, horizon < request.deadline)
    (hmore' : ∀ request ∈ more', horizon < request.deadline) (h : Agree known traded first second) :
    settled horizon (replayOrders (known ++ later) (traded ++ late) policy (asked ++ more) first) =
      settled horizon
        (replayOrders (known ++ other) (traded ++ latest) policy (asked ++ more') second) := by
  induction asked generalizing first second with
  | nil =>
    rw [List.nil_append, List.nil_append, settled_of_late hmore, settled_of_late hmore']
  | cons request asked ih =>
    obtain ⟨hagree, hresult⟩ := @replayOrder_agree request policy _ _ _ _ _ _ _ _ _ hobserved hobserved' h
    have hrest := ih hagree
    unfold settled at hrest ⊢
    rw [List.cons_append, List.cons_append, replayOrders_cons, replayOrders_cons, List.filter_cons,
      List.filter_cons, replayOrder_request, replayOrder_request, hrest]
    split
    · next hdeadline => rw [hresult (of_decide_eq_true hdeadline)]
    · rfl

end Order

/-! ### Two inputs -/

structure ReplayInput where
  snapshots : List L2OrderBookSnapshot
  trades : List L2TradeEvent
  requests : List L2OrderRequest

def ReplayInput.replay (input : ReplayInput) (fingerprint : String) (policy : Option L2ReplayPolicy) :
    Except String L2ExecutionEvidence :=
  replayL2Orders input.snapshots input.trades input.requests fingerprint policy

/-- The part of an input up to a time: what was observed by then, and the orders whose deadline or
whose submission is not after it. -/
def ReplayInput.upTo (horizon : ℤ) (input : ReplayInput) : ReplayInput where
  snapshots := input.snapshots.filter fun snapshot => snapshot.ts ≤ horizon
  trades := input.trades.filter fun trade => trade.ts ≤ horizon
  requests := input.requests.filter fun request =>
    request.deadline ≤ horizon ∨ request.submittedAt ≤ horizon

/-- The lists of two inputs have the same items. -/
structure Reordered (first second : ReplayInput) : Prop where
  snapshots : first.snapshots.Perm second.snapshots
  trades : first.trades.Perm second.trades
  requests : first.requests.Perm second.requests

structure DistinctIds (input : ReplayInput) : Prop where
  snapshots : (input.snapshots.map (·.collectorSequence)).Nodup
  trades : (input.trades.map (·.tradeId)).Nodup
  requests : (input.requests.map (·.orderId)).Nodup

def ReplayInput.sorted (input : ReplayInput) : ReplayInput where
  snapshots := sortOn snapshotKey input.snapshots
  trades := sortOn tradeKey input.trades
  requests := sortOn requestKey input.requests

section Inputs

variable {first second : ReplayInput} {horizon : ℤ} {policy : Option L2ReplayPolicy}

theorem sorted_eq_of_reordered (h : Reordered first second) (hids : DistinctIds second) :
    first.sorted = second.sorted := by
  have hsnapshots : (second.snapshots.map snapshotKey).Nodup := by
    refine List.Nodup.of_map (fun key => (ofLex key).2) ?_
    rw [List.map_map]
    exact hids.snapshots
  have htrades : (second.trades.map tradeKey).Nodup := by
    refine List.Nodup.of_map (fun key => (ofLex key).2) ?_
    rw [List.map_map]
    exact hids.trades
  have hrequests : (second.requests.map requestKey).Nodup := by
    refine List.Nodup.of_map (fun key => (ofLex key).2) ?_
    rw [List.map_map]
    exact hids.requests
  unfold ReplayInput.sorted
  rw [sortOn_eq_of_perm snapshotKey h.snapshots hsnapshots,
    sortOn_eq_of_perm tradeKey h.trades htrades, sortOn_eq_of_perm requestKey h.requests hrequests]

/-- **The order of the lists does not matter** where no id occurs twice. -/
theorem replay_of_reordered (fingerprint : String) (h : Reordered first second)
    (hids : DistinctIds second) : first.replay fingerprint policy = second.replay fingerprint policy := by
  have hsorted := sorted_eq_of_reordered h hids
  have hsnapshots := congrArg ReplayInput.snapshots hsorted
  have htrades := congrArg ReplayInput.trades hsorted
  have hrequests := congrArg ReplayInput.requests hsorted
  dsimp only [ReplayInput.sorted] at hsnapshots htrades hrequests
  have hempty : first.snapshots = [] ∨ first.requests = [] ↔
      second.snapshots = [] ∨ second.requests = [] := by
    rw [← List.length_eq_zero_iff, ← List.length_eq_zero_iff, h.snapshots.length_eq,
      h.requests.length_eq, List.length_eq_zero_iff, List.length_eq_zero_iff]
  unfold ReplayInput.replay replayL2Orders
  rw [hsnapshots, htrades, hrequests, h.requests.length_eq, raiseIf_congr _ hempty]

theorem submittedAt_lt_deadline (request : L2OrderRequest) :
    request.submittedAt < request.deadline := by
  have hwait := request.wait_pos
  unfold L2OrderRequest.deadline
  omega

theorem upTo_requests (horizon : ℤ) (input : ReplayInput) :
    (input.upTo horizon).requests = input.requests.filter fun request =>
      request.submittedAt ≤ horizon := by
  refine List.filter_congr fun request _ => ?_
  have hlt := submittedAt_lt_deadline request
  rw [decide_eq_decide]
  omega

theorem sorted_eq_append (horizon : ℤ) (input : ReplayInput) :
    ∃ later late more, input.sorted = {
        snapshots := (input.upTo horizon).sorted.snapshots ++ later
        trades := (input.upTo horizon).sorted.trades ++ late
        requests := (input.upTo horizon).sorted.requests ++ more } ∧
      (∀ snapshot ∈ later, horizon < snapshot.ts) ∧ (∀ trade ∈ late, horizon < trade.ts) ∧
      ∀ request ∈ more, horizon < request.deadline := by
  refine ⟨sortOn snapshotKey (input.snapshots.filter fun snapshot => !decide (snapshot.ts ≤ horizon)),
    sortOn tradeKey (input.trades.filter fun trade => !decide (trade.ts ≤ horizon)),
    sortOn requestKey (input.requests.filter fun request => !decide (request.submittedAt ≤ horizon)),
    ?_, ?_, ?_, ?_⟩
  · have hrequests := upTo_requests horizon input
    unfold ReplayInput.sorted
    rw [hrequests]
    unfold ReplayInput.upTo
    dsimp only
    rw [← sortOn_eq_append, ← sortOn_eq_append, ← sortOn_eq_append]
    · intro a b hle hb
      have hb := of_decide_eq_true hb
      have hab := Prod.Lex.monotone_fst _ _ hle
      exact decide_eq_true (hab.trans hb)
    · intro a b hle hb
      have hb := of_decide_eq_true hb
      have hab := Prod.Lex.monotone_fst _ _ hle
      exact decide_eq_true (hab.trans hb)
    · intro a b hle hb
      have hb := of_decide_eq_true hb
      have hab := Prod.Lex.monotone_fst _ _ hle
      exact decide_eq_true (hab.trans hb)
  · intro snapshot hmem
    have hkept := (List.mem_filter.mp ((mem_sortOn snapshotKey).mp hmem)).2
    simpa using hkept
  · intro trade hmem
    have hkept := (List.mem_filter.mp ((mem_sortOn tradeKey).mp hmem)).2
    simpa using hkept
  · intro request hmem
    have hkept := (List.mem_filter.mp ((mem_sortOn requestKey).mp hmem)).2
    have hlt := submittedAt_lt_deadline request
    have hlate : horizon < request.submittedAt := by simpa using hkept
    omega

/-- **No lookahead**: what is sorted up to a time decides the results that are due by then. -/
theorem settled_eq_of_sorted {fingerprint fingerprint' : String}
    {evidence evidence' : L2ExecutionEvidence}
    (h : first.replay fingerprint policy = .ok evidence)
    (h' : second.replay fingerprint' policy = .ok evidence')
    (hsame : (first.upTo horizon).sorted = (second.upTo horizon).sorted) :
    settled horizon evidence.replayed = settled horizon evidence'.replayed := by
  obtain ⟨hsequence, hreplayed⟩ := replayL2Orders_eq_ok h
  obtain ⟨hsequence', hreplayed'⟩ := replayL2Orders_eq_ok h'
  obtain ⟨later, late, more, hsorted, hlater, hlate, hmore⟩ := sorted_eq_append horizon first
  obtain ⟨other, latest, more', hsorted', hother, hlatest, hmore'⟩ :=
    sorted_eq_append horizon second
  rw [← hsame] at hsorted'
  injection hsorted with hsnapshots htrades hrequests
  injection hsorted' with hsnapshots' htrades' hrequests'
  have hknown : ∀ snapshot ∈ (first.upTo horizon).sorted.snapshots, snapshot.ts ≤ horizon := by
    intro snapshot hmem
    exact of_decide_eq_true (List.mem_filter.mp ((mem_sortOn snapshotKey).mp hmem)).2
  have htraded : ∀ trade ∈ (first.upTo horizon).sorted.trades, trade.ts ≤ horizon := by
    intro trade hmem
    exact of_decide_eq_true (List.mem_filter.mp ((mem_sortOn tradeKey).mp hmem)).2
  rw [hsnapshots] at hsequence
  rw [hsnapshots'] at hsequence'
  rw [hreplayed, hreplayed', hsnapshots, hsnapshots', htrades, htrades', hrequests, hrequests']
  exact replayOrders_agree ⟨hknown, hlater, htraded, hlate, hsequence⟩
    ⟨hknown, hother, htraded, hlatest, hsequence'⟩ _ hmore hmore' ⟨fun _ _ _ _ => rfl, fun _ _ => rfl⟩

theorem DistinctIds.upTo (h : DistinctIds first) : DistinctIds (first.upTo horizon) where
  snapshots := h.snapshots.sublist (List.filter_sublist.map _)
  trades := h.trades.sublist (List.filter_sublist.map _)
  requests := h.requests.sublist (List.filter_sublist.map _)

end Inputs

/-- **The replay has no lookahead.**  Two inputs that are the same up to a time, in the same order or
else with distinct ids, give the same results to the orders that are due by then; and with distinct ids
the order of the lists does not matter at all. -/
theorem replay_has_no_lookahead (policy : Option L2ReplayPolicy) (horizon : ℤ)
    (first second : ReplayInput) (fingerprint fingerprint' : String) :
    (∀ evidence evidence', first.replay fingerprint policy = .ok evidence →
      second.replay fingerprint' policy = .ok evidence' →
      first.upTo horizon = second.upTo horizon ∨
        Reordered (first.upTo horizon) (second.upTo horizon) ∧ DistinctIds second →
      settled horizon evidence.replayed = settled horizon evidence'.replayed) ∧
    (Reordered first second → DistinctIds second →
      first.replay fingerprint policy = second.replay fingerprint policy) := by
  refine ⟨fun evidence evidence' h h' hsame => ?_, fun h hids => replay_of_reordered fingerprint h hids⟩
  rcases hsame with heq | ⟨hreordered, hids⟩
  · exact settled_eq_of_sorted h h' (congrArg ReplayInput.sorted heq)
  · exact settled_eq_of_sorted h h' (sorted_eq_of_reordered hreordered hids.upTo)

/-- The order again, after the deadline of the first. -/
def lateBuy : L2OrderRequest := { marketBuy with orderId := "2", submittedAt := 3000000 }

theorem replay_has_no_lookahead_marketBuy :
    ∃ evidence evidence',
      ReplayInput.replay ⟨[narrowBook], [], [marketBuy]⟩ "f" none = .ok evidence ∧
      ReplayInput.replay ⟨[narrowBook], [], [lateBuy, marketBuy]⟩ "f" none = .ok evidence' ∧
      settled 2000000 evidence.replayed = settled 2000000 evidence'.replayed := by
  have hfingerprint : Execution.strip "f" ≠ "" := by decide +kernel
  obtain ⟨evidence, h⟩ := @replayL2Orders_accepts [narrowBook] [] [marketBuy] "f" "BTC-USDT" none
    hfingerprint (List.cons_ne_nil _ _) (List.cons_ne_nil _ _)
    ⟨by simp [narrowBook], by simp, by simp [marketBuy]⟩ (List.pairwise_singleton _ _)
  obtain ⟨evidence', h'⟩ := @replayL2Orders_accepts [narrowBook] [] [lateBuy, marketBuy] "f"
    "BTC-USDT" none hfingerprint (List.cons_ne_nil _ _) (List.cons_ne_nil _ _)
    ⟨by simp [narrowBook], by simp, by simp [lateBuy, marketBuy]⟩ (List.pairwise_singleton _ _)
  refine ⟨evidence, evidence', h, h', ?_⟩
  refine (replay_has_no_lookahead none 2000000 ⟨[narrowBook], [], [marketBuy]⟩
    ⟨[narrowBook], [], [lateBuy, marketBuy]⟩ "f" "f").1 evidence evidence' h h' (.inl ?_)
  simp [ReplayInput.upTo, lateBuy, L2OrderRequest.deadline, marketBuy]

end Aats.ExecutionRealism
