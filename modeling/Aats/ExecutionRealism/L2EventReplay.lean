import Aats.Execution.CancelOrder
import Aats.Lib.BinaryRounding
import Aats.Lib.Fallible
import Aats.Lib.StableSort
import Mathlib.Data.Prod.Lex
import Mathlib.Data.String.Basic

/-!
# Replay of orders against an observed book

`data_platform/execution_realism/l2_event_replay.py`: orders are replayed one after the other against
snapshots of the five best levels and against public trades. A taker takes displayed depth of the first
snapshot after its arrival; a passive order waits behind the displayed queue and is filled by later
trades. What one order has taken is gone for the later ones: two ledgers, one for the levels and one for
the trades, are handed from order to order.

A time counts microseconds. A `Decimal` is a rational number, and a float is one of 53 bits.
-/

namespace Aats.ExecutionRealism

open Fallible Rounding StableSort
open Execution (strip)

/-! ### The inputs -/

inductive OrderKind where
  | market | iocLimit | postOnly
  deriving DecidableEq, Repr

inductive ReplayStatus where
  | filled | partialFill | noFill | rejected
  deriving DecidableEq, Repr

inductive Liquidity where
  | maker | taker
  deriving DecidableEq, Repr

structure OrderBookLevel where
  price : ℚ
  quantity : ℚ
  price_pos : 0 < price
  quantity_pos : 0 < quantity

structure L2OrderBookSnapshot where
  symbol : String
  ts : ℤ
  collectorSequence : ℤ
  bids : List OrderBookLevel
  asks : List OrderBookLevel
  sequence_pos : 0 < collectorSequence
  bids_ne : bids ≠ []
  asks_ne : asks ≠ []
  bids_length : bids.length ≤ 5
  asks_length : asks.length ≤ 5
  bids_descending : bids.IsChain fun left right => right.price < left.price
  asks_ascending : asks.IsChain fun left right => left.price < right.price
  uncrossed : (bids.head bids_ne).price < (asks.head asks_ne).price

structure L2TradeEvent where
  symbol : String
  ts : ℤ
  tradeId : String
  price : ℚ
  quantity : ℚ
  aggressorSide : Side
  price_pos : 0 < price
  quantity_pos : 0 < quantity

structure L2OrderRequest where
  orderId : String
  symbol : String
  submittedAt : ℤ
  side : Side
  orderKind : OrderKind
  targetQuantity : ℚ
  expectedEdgeBps : ℚ
  limitPrice : Option ℚ
  maxWaitMs : ℤ
  target_pos : 0 < targetQuantity
  limit_iff : limitPrice = none ↔ orderKind = .market
  limit_pos : ∀ limit ∈ limitPrice, 0 < limit
  wait_pos : 0 < maxWaitMs

structure L2ReplayPolicy where
  takerFeeBps : ℚ := 5
  makerFeeBps : ℚ := 2
  queueAheadMultiplier : ℚ := 1
  maxSnapshotWaitMs : ℤ := 2000
  taker_nonneg : 0 ≤ takerFeeBps
  multiplier_nonneg : 0 ≤ queueAheadMultiplier
  wait_pos : 0 < maxSnapshotWaitMs

def L2OrderBookSnapshot.midPrice (snapshot : L2OrderBookSnapshot) : ℚ :=
  ((snapshot.bids.head snapshot.bids_ne).price + (snapshot.asks.head snapshot.asks_ne).price) / 2

def L2OrderBookSnapshot.taken (snapshot : L2OrderBookSnapshot) : Side → List OrderBookLevel
  | .buy => snapshot.asks
  | .sell => snapshot.bids

def L2OrderBookSnapshot.joined (snapshot : L2OrderBookSnapshot) : Side → List OrderBookLevel
  | .buy => snapshot.bids
  | .sell => snapshot.asks

def L2OrderRequest.deadline (request : L2OrderRequest) : ℤ :=
  request.submittedAt + request.maxWaitMs * 1000

/-! ### The results -/

/-- `source_ref`, by its parts. -/
inductive SourceRef where
  /-- `book:{sequence}:level:{level}`, where the first level is 1. -/
  | book (sequence : ℤ) (level : ℕ)
  /-- `trade:{trade_id}`. -/
  | trade (tradeId : String)
  deriving DecidableEq, Repr

structure L2Fill where
  ts : ℤ
  quantity : ℚ
  price : ℚ
  liquidity : Liquidity
  feeBps : ℚ
  feeNotional : ℚ
  sourceRef : SourceRef
  deriving DecidableEq, Repr

structure L2OrderReplayResult where
  orderId : String
  status : ReplayStatus
  targetQuantity : ℚ
  filledQuantity : ℚ
  averageFillPrice : Option ℚ
  arrivalMidPrice : Option ℚ
  slippageBps : Option ℚ
  feeBpsWeighted : Option ℚ
  feeNotional : ℚ
  totalCostBps : Option ℚ
  costAdjustedEdgeBps : Option ℚ
  fills : List L2Fill
  reasonCode : String
  deriving DecidableEq, Repr

/-- `_status`. -/
def statusOf (request : L2OrderRequest) (filled : ℚ) (rejected : Bool) : ReplayStatus :=
  if rejected then .rejected
  else if filled = 0 then .noFill
  else if filled < request.targetQuantity then .partialFill
  else .filled

/-- `float(x)`. -/
def toFloat (x : ℚ) : ℚ := toBits 53 x

/-- `sum(fill.quantity for fill in fills)`. -/
def filledOf (fills : List L2Fill) : ℚ := (fills.map (·.quantity)).sum

def buildResult (request : L2OrderRequest) (snapshot : Option L2OrderBookSnapshot)
    (fills : List L2Fill) (reasonCode : String) (rejected : Bool) : L2OrderReplayResult :=
  let filled := filledOf fills
  let notional := (fills.map fun fill => fill.quantity * fill.price).sum
  let fees := (fills.map (·.feeNotional)).sum
  let average := if 0 < filled then some (notional / filled) else none
  let mid := snapshot.map (·.midPrice)
  let direction : ℚ := if request.side = .buy then 1 else -1
  let slippage := average.bind fun a => mid.map fun m => toFloat (direction * (a - m) / m * 10000)
  let weightedFee :=
    if slippage.isSome ∧ 0 < notional then some (toFloat (fees / notional * 10000)) else none
  let totalCost := slippage.map fun s => toFloat (s + weightedFee.getD 0)
  { orderId := request.orderId
    status := statusOf request filled rejected
    targetQuantity := request.targetQuantity
    filledQuantity := filled
    averageFillPrice := average
    arrivalMidPrice := mid
    slippageBps := slippage
    feeBpsWeighted := weightedFee
    feeNotional := fees
    totalCostBps := totalCost
    costAdjustedEdgeBps := totalCost.map fun cost => toFloat (request.expectedEdgeBps - cost)
    fills := fills
    reasonCode := reasonCode }

/-! ### Arrival -/

def snapshotDeadline (request : L2OrderRequest) (policy : L2ReplayPolicy) : ℤ :=
  request.submittedAt + min request.maxWaitMs policy.maxSnapshotWaitMs * 1000

def snapshotForRequest (request : L2OrderRequest) (policy : L2ReplayPolicy) :
    List L2OrderBookSnapshot → Option L2OrderBookSnapshot
  | [] => none
  | snapshot :: rest =>
    if request.submittedAt ≤ snapshot.ts ∧ snapshot.ts ≤ snapshotDeadline request policy then
      some snapshot
    else if snapshotDeadline request policy < snapshot.ts then none
    else snapshotForRequest request policy rest

def marketable (request : L2OrderRequest) (snapshot : L2OrderBookSnapshot) : Bool :=
  match request.limitPrice with
  | none => true
  | some limit =>
    match request.side with
    | .buy => (snapshot.asks.head snapshot.asks_ne).price ≤ limit
    | .sell => limit ≤ (snapshot.bids.head snapshot.bids_ne).price

/-! ### Takers -/

/-- The key of `depth_consumed`: a snapshot, the side of the order and the index of a level. -/
abbrev DepthKey := ℤ × Side × ℕ

def outsideLimit (request : L2OrderRequest) (price : ℚ) : Bool :=
  match request.limitPrice with
  | none => false
  | some limit =>
    match request.side with
    | .buy => limit < price
    | .sell => price < limit

structure TakerState where
  remaining : ℚ
  fills : List L2Fill
  depthConsumed : DepthKey → ℚ

def takerFill (snapshot : L2OrderBookSnapshot) (policy : L2ReplayPolicy) (index : ℕ)
    (level : OrderBookLevel) (quantity : ℚ) : L2Fill where
  ts := snapshot.ts
  quantity := quantity
  price := level.price
  liquidity := .taker
  feeBps := policy.takerFeeBps
  feeNotional := quantity * level.price * policy.takerFeeBps / 10000
  sourceRef := .book snapshot.collectorSequence (index + 1)

/-- The loop of `_replay_taker` over the levels. -/
def takeLevels (request : L2OrderRequest) (snapshot : L2OrderBookSnapshot) (policy : L2ReplayPolicy) :
    ℕ → List OrderBookLevel → TakerState → TakerState
  | _, [], state => state
  | index, level :: rest, state =>
    if outsideLimit request level.price then state
    else
      let key := (snapshot.collectorSequence, request.side, index)
      let available := max 0 (level.quantity - state.depthConsumed key)
      let quantity := min state.remaining available
      if quantity ≤ 0 then takeLevels request snapshot policy (index + 1) rest state
      else
        let after : TakerState :=
          { remaining := state.remaining - quantity
            fills := state.fills ++ [takerFill snapshot policy index level quantity]
            depthConsumed :=
              Function.update state.depthConsumed key (state.depthConsumed key + quantity) }
        if after.remaining ≤ 0 then after
        else takeLevels request snapshot policy (index + 1) rest after

def replayTaker (request : L2OrderRequest) (snapshot : L2OrderBookSnapshot) (policy : L2ReplayPolicy)
    (depthConsumed : DepthKey → ℚ) : TakerState × L2OrderReplayResult :=
  let state := takeLevels request snapshot policy 0 (snapshot.taken request.side)
    { remaining := request.targetQuantity, fills := [], depthConsumed }
  let reason := if state.remaining ≤ 0 then "top5_depth_filled" else "top5_depth_exhausted"
  (state, buildResult request (some snapshot) state.fills reason false)

/-! ### Passive orders -/

def visibleQueue (request : L2OrderRequest) (snapshot : L2OrderBookSnapshot) : Option ℚ :=
  ((snapshot.joined request.side).find? fun level => some level.price = request.limitPrice).map
    (·.quantity)

def tradeHitsPassiveOrder (request : L2OrderRequest) (trade : L2TradeEvent) : Bool :=
  match request.limitPrice with
  | none => false
  | some limit =>
    match request.side with
    | .buy => trade.aggressorSide = .sell ∧ trade.price ≤ limit
    | .sell => trade.aggressorSide = .buy ∧ limit ≤ trade.price

/-- What an order is charged of one trade: the queue before it, and its own fill. The source keeps
only their sum, in `trade_consumed`. -/
structure TradeUse where
  index : ℕ
  queue : ℚ
  filled : ℚ
  deriving DecidableEq, Repr

structure PassiveState where
  queueAhead : ℚ
  remaining : ℚ
  fills : List L2Fill
  tradeConsumed : ℕ → ℚ
  uses : List TradeUse

def makerFill (request : L2OrderRequest) (policy : L2ReplayPolicy) (trade : L2TradeEvent)
    (quantity : ℚ) : L2Fill where
  ts := trade.ts
  quantity := quantity
  price := request.limitPrice.getD 0
  liquidity := .maker
  feeBps := policy.makerFeeBps
  feeNotional := quantity * request.limitPrice.getD 0 * policy.makerFeeBps / 10000
  sourceRef := .trade trade.tradeId

/-- A trade clears the queue, and nothing of it is left for the order. -/
def PassiveState.queued (state : PassiveState) (index : ℕ) (queue : ℚ) : PassiveState where
  queueAhead := state.queueAhead - queue
  remaining := state.remaining
  fills := state.fills
  tradeConsumed := Function.update state.tradeConsumed index (state.tradeConsumed index + queue)
  uses := state.uses ++ [{ index, queue, filled := 0 }]

def PassiveState.hit (state : PassiveState) (index : ℕ) (queue quantity : ℚ) (fill : L2Fill) :
    PassiveState where
  queueAhead := state.queueAhead - queue
  remaining := state.remaining - quantity
  fills := state.fills ++ [fill]
  tradeConsumed :=
    Function.update state.tradeConsumed index (state.tradeConsumed index + queue + quantity)
  uses := state.uses ++ [{ index, queue, filled := quantity }]

/-- The loop of `_replay_post_only` over the trades. -/
def hitByTrades (request : L2OrderRequest) (snapshot : L2OrderBookSnapshot) (policy : L2ReplayPolicy) :
    ℕ → List L2TradeEvent → PassiveState → PassiveState
  | _, [], state => state
  | index, trade :: rest, state =>
    if trade.ts ≤ snapshot.ts then hitByTrades request snapshot policy (index + 1) rest state
    else if request.deadline < trade.ts then state
    else if ¬tradeHitsPassiveOrder request trade then
      hitByTrades request snapshot policy (index + 1) rest state
    else
      let available := max 0 (trade.quantity - state.tradeConsumed index)
      if available ≤ 0 then hitByTrades request snapshot policy (index + 1) rest state
      else
        let queue := min state.queueAhead available
        if 0 < state.queueAhead - queue ∨ available - queue ≤ 0 then
          hitByTrades request snapshot policy (index + 1) rest (state.queued index queue)
        else
          let quantity := min state.remaining (available - queue)
          let after := state.hit index queue quantity (makerFill request policy trade quantity)
          if after.remaining ≤ 0 then after
          else hitByTrades request snapshot policy (index + 1) rest after

def passiveReason (state : PassiveState) : String :=
  if state.remaining ≤ 0 then "passive_queue_filled"
  else if state.fills ≠ [] then "passive_queue_partial_fill"
  else if 0 < state.queueAhead then "passive_queue_not_cleared"
  else "passive_no_remaining_trade_liquidity"

/-! ### The orders in turn -/

/-- `depth_consumed` and `trade_consumed`. -/
structure Books where
  depthConsumed : DepthKey → ℚ := fun _ => 0
  tradeConsumed : ℕ → ℚ := fun _ => 0

structure Replayed where
  request : L2OrderRequest
  result : L2OrderReplayResult
  uses : List TradeUse := []

def replayPostOnly (request : L2OrderRequest) (snapshot : L2OrderBookSnapshot)
    (trades : List L2TradeEvent) (policy : L2ReplayPolicy) (tradeConsumed : ℕ → ℚ) :
    (ℕ → ℚ) × Replayed :=
  if marketable request snapshot then
    (tradeConsumed,
      { request, result := buildResult request (some snapshot) [] "post_only_would_cross" true })
  else
    match visibleQueue request snapshot with
    | none =>
      (tradeConsumed,
        { request
          result := buildResult request (some snapshot) [] "post_only_price_level_not_observed" false })
    | some visible =>
      let state := hitByTrades request snapshot policy 0 trades
        { queueAhead := visible * policy.queueAheadMultiplier
          remaining := request.targetQuantity
          fills := []
          tradeConsumed
          uses := [] }
      (state.tradeConsumed,
        { request
          result := buildResult request (some snapshot) state.fills (passiveReason state) false
          uses := state.uses })

/-- One turn of the loop of `replay_l2_orders`. -/
def replayOrder (snapshots : List L2OrderBookSnapshot) (trades : List L2TradeEvent)
    (policy : L2ReplayPolicy) (request : L2OrderRequest) (books : Books) : Books × Replayed :=
  match snapshotForRequest request policy snapshots with
  | none =>
    (books, { request, result := buildResult request none [] "fresh_arrival_snapshot_missing" false })
  | some snapshot =>
    if request.orderKind = .postOnly then
      let (tradeConsumed, replayed) :=
        replayPostOnly request snapshot trades policy books.tradeConsumed
      ({ books with tradeConsumed }, replayed)
    else
      let (state, result) := replayTaker request snapshot policy books.depthConsumed
      ({ books with depthConsumed := state.depthConsumed }, { request, result })

/-- The loop of `replay_l2_orders`. -/
def replayOrders (snapshots : List L2OrderBookSnapshot) (trades : List L2TradeEvent)
    (policy : L2ReplayPolicy) : List L2OrderRequest → Books → List Replayed
  | [], _ => []
  | request :: rest, books =>
    let (after, replayed) := replayOrder snapshots trades policy request books
    replayed :: replayOrders snapshots trades policy rest after

/-! ### The replay -/

/-- `key=lambda item: (item.ts, item.collector_sequence)`. -/
def snapshotKey (snapshot : L2OrderBookSnapshot) : ℤ ×ₗ ℤ :=
  toLex (snapshot.ts, snapshot.collectorSequence)

/-- `key=lambda item: (item.ts, item.trade_id)`. -/
def tradeKey (trade : L2TradeEvent) : ℤ ×ₗ String := toLex (trade.ts, trade.tradeId)

/-- `key=lambda item: (item.submitted_at, item.order_id)`. -/
def requestKey (request : L2OrderRequest) : ℤ ×ₗ String :=
  toLex (request.submittedAt, request.orderId)

theorem default_taker_nonneg : (0 : ℚ) ≤ 5 := by norm_num

theorem default_multiplier_nonneg : (0 : ℚ) ≤ 1 := zero_le_one

theorem default_wait_pos : (0 : ℤ) < 2000 := by norm_num

/-- `L2ReplayPolicy()`. -/
def defaultPolicy : L2ReplayPolicy where
  taker_nonneg := default_taker_nonneg
  multiplier_nonneg := default_multiplier_nonneg
  wait_pos := default_wait_pos

/-- `L2ExecutionEvidence`, as far as it does not add up the results. -/
structure L2ExecutionEvidence where
  symbol : String
  windowStart : ℤ
  windowEnd : ℤ
  requestCount : ℕ
  replayed : List Replayed

def L2ExecutionEvidence.results (evidence : L2ExecutionEvidence) : List L2OrderReplayResult :=
  evidence.replayed.map (·.result)

def replayL2Orders (snapshots : List L2OrderBookSnapshot) (trades : List L2TradeEvent)
    (requests : List L2OrderRequest) (fingerprint : String) (policy : Option L2ReplayPolicy) :
    Except String L2ExecutionEvidence := do
  raiseIf (strip fingerprint = "") "microstructure_eligibility_fingerprint_required"
  raiseIf (snapshots = [] ∨ requests = []) "snapshots_and_requests_required"
  let selectedPolicy := policy.getD defaultPolicy
  let orderedSnapshots := sortOn snapshotKey snapshots
  let orderedTrades := sortOn tradeKey trades
  let orderedRequests := sortOn requestKey requests
  let symbol := (orderedSnapshots.head?.map (·.symbol)).getD ""
  raiseIf (orderedSnapshots.any (·.symbol ≠ symbol) ∨ orderedTrades.any (·.symbol ≠ symbol) ∨
    orderedRequests.any (·.symbol ≠ symbol)) "l2_replay_symbol_mismatch"
  raiseIf (¬(orderedSnapshots.map (·.collectorSequence)).IsChain (· < ·))
    "collector_sequence_not_strictly_increasing"
  return {
    symbol
    windowStart := (orderedSnapshots.head?.map (·.ts)).getD 0
    windowEnd := (orderedSnapshots.getLast?.map (·.ts)).getD 0
    requestCount := requests.length
    replayed := replayOrders orderedSnapshots orderedTrades selectedPolicy orderedRequests {} }

end Aats.ExecutionRealism
