import Aats.FillOrdering
import Aats.Governance.AccountExposure
import Aats.Lib.KeyedList
import Aats.Portfolio.Snapshots

/-!
# Comparing local state with the exchange

The four diffs of `StateComparator` (`reconciliation_service/comparator.py`): open orders, fills,
balances and positions, each between what is stored, what the fills reconstruct and what the
exchange reports. A dictionary of the source is a list with one entry per key; iteration over it
is in sorted order. The instrument states and margin rows that a position diff only reports are
left out.

## Main definitions
* `CompareInputs` — what `compare` is given.

## Main results
* `differences_eq_nil` — two maps show no difference exactly if they agree up to the tolerance.
-/

namespace Aats.Reconciliation

open Execution (OrderStatus OrderState Timestamp)
open Governance (normalizePositionMode positionSideOfText signedQuantityForPositionSide)
open KeyedList
open Portfolio (PortfolioSnapshot Position)

/-! ### Inputs -/

/-- `OrderState`, with the fields the comparator reads besides. -/
structure LocalOrder extends OrderState where
  venue : String := "PAPER"
  createdAt : Timestamp := 0
  productType : ProductType := .spot
  marginMode : MarginMode := .cash
  positionMode : Option PositionMode := none
  posSide : Option PositionSide := none

structure ExchangeOpenOrder where
  clientOrderId : Option String := none
  exchangeOrderId : String
  status : String

structure ExchangePosition where
  symbol : String
  quantity : ℚ
  side : String := "net"
  marginMode : Option String := none
  marginAllocated : Option ℚ := none
  maintenanceMargin : Option ℚ := none
  marginRatio : Option ℚ := none
  liquidationPrice : Option ℚ := none

structure ExchangeBalance where
  currency : String
  total : ℚ

/-- `ExchangeAccountSnapshot`; of a fill only its id is read. -/
structure ExchangeAccountSnapshot where
  fetchedAt : Timestamp
  balances : List ExchangeBalance := []
  positions : List ExchangePosition := []
  openOrders : List ExchangeOpenOrder := []
  fillIds : List String := []
  positionMode : Option String := none
  accountConfigurationPositionMode : Option String := none

/-- A row of the top categories of the exchange bills. -/
structure BillCategory where
  semanticGroup : String := ""
  billType : String := ""
  subType : String := ""

structure ExchangeBillsSummary where
  available : Bool := false
  count : ℕ := 0
  topCategories : List BillCategory := []

structure UnknownWriteSettings where
  executionUnknownSubmitReviewAfterSeconds : ℚ := 30
  executionUnknownCancelReviewAfterSeconds : ℚ := 300

/-- The arguments of `compare`, with the settings of the comparator and the clock. -/
structure CompareInputs where
  productType : Option ProductType := none
  orderStates : List LocalOrder
  fills : List FillRecord
  storedSnapshot : PortfolioSnapshot
  reconstructedSnapshot : PortfolioSnapshot
  exchangeSnapshot : Option ExchangeAccountSnapshot := none
  exchangeComparisonEnabled : Bool := false
  compareExchangePortfolio : Bool := false
  acceptedExchangeFillIds : List String := []
  trustedExchangePortfolioBaseline : Bool := false
  exchangeBillsSummary : ExchangeBillsSummary := {}
  settings : Option UnknownWriteSettings := none
  now : Timestamp

/-! ### Texts -/

/-- The text of an `OrderLifecycleStatus`. -/
def statusText : OrderStatus → String
  | .created => "CREATED"
  | .submitting => "SUBMITTING"
  | .submitted => "SUBMITTED"
  | .partiallyFilled => "PARTIALLY_FILLED"
  | .filled => "FILLED"
  | .cancelPending => "CANCEL_PENDING"
  | .canceled => "CANCELED"
  | .rejected => "REJECTED"
  | .failed => "FAILED"
  | .blocked => "BLOCKED"
  | .dryRun => "DRY_RUN"
  | .expired => "EXPIRED"

/-- The text of a `PositionMode`. -/
def positionModeText : PositionMode → String
  | .netMode => "net_mode"
  | .longShortMode => "long_short_mode"

/-- The text of a `MarginModelType`. -/
def marginModeText : MarginMode → String
  | .cash => "cash"
  | .cross => "cross"
  | .isolated => "isolated"

/-- `OrderStateMachine.is_open`: the statuses that are not terminal. -/
def isOpen (status : OrderStatus) : Bool := !status.isTerminal

/-- `left or right` for texts: the first one unless it is missing or empty. -/
def textOr (left : Option String) (right : String) : String :=
  match left with
  | some text => if text = "" then right else text
  | none => right

/-! ### Differences of two maps -/

/-- `EPSILON_DECIMAL_9`. -/
def epsilon9 : ℚ := 1 / 10 ^ 9

/-- `sorted(set(keys))`. -/
def sortedSet (keys : List String) : List String := keys.dedup.insertionSort (· ≤ ·)

@[simp] theorem mem_sortedSet {key : String} {keys : List String} :
    key ∈ sortedSet keys ↔ key ∈ keys := by
  unfold sortedSet
  rw [List.mem_insertionSort, List.mem_dedup]

structure Discrepancy where
  key : String
  stored : ℚ
  other : ℚ

/-- The keys under which two maps differ by more than a tolerance. -/
def differences (tolerance : ℚ) (keys : List String) (stored other : String → ℚ) :
    List Discrepancy :=
  (sortedSet keys).filterMap fun key =>
    if tolerance < |stored key - other key| then
      some { key := key, stored := stored key, other := other key }
    else none

/-- **Two maps show no difference** exactly if they agree up to the tolerance. -/
theorem differences_eq_nil {tolerance : ℚ} {keys : List String} {stored other : String → ℚ}
    (h0 : 0 ≤ tolerance) (hkeys : ∀ key, key ∉ keys → stored key = other key) :
    differences tolerance keys stored other = [] ↔
      ∀ key, |stored key - other key| ≤ tolerance := by
  unfold differences
  rw [List.filterMap_eq_nil_iff]
  constructor
  · intro h key
    by_cases hmem : key ∈ keys
    · have hnone := h key (mem_sortedSet.mpr hmem)
      by_contra hlt
      rw [if_pos (not_le.mp hlt)] at hnone
      cases hnone
    · rw [hkeys key hmem, sub_self, abs_zero]
      exact h0
  · intro h key _
    rw [if_neg (not_lt.mpr (h key))]

/-! ### The diff of the orders -/

def orderKey (order : LocalOrder) : String := textOr order.exchangeOrderId order.clientOrderId

def exchangeOrderKey (order : ExchangeOpenOrder) : String :=
  textOr (some order.exchangeOrderId) (order.clientOrderId.getD "")

/-- A status that differs between the two sides. -/
structure StatusMismatch where
  key : String
  localStatus : String
  exchangeStatus : String

structure OpenOrderView where
  missingOnExchange : List String
  unexpectedOnExchange : List String
  statusMismatches : List StatusMismatch

structure OrderDiff where
  reconstructed : List Discrepancy
  exchange : Option OpenOrderView

def localOpenOrders (orders : List LocalOrder) : List LocalOrder :=
  orders.filter (fun order => order.venue = "OKX" && isOpen order.status)

def localStatus (order : LocalOrder) : String :=
  textOr order.exchangeStatus (statusText order.status)

/-- The exchange part of `_order_diff`, nothing if both sides agree. -/
def openOrderView (orders : List LocalOrder) (openOrders : List ExchangeOpenOrder) :
    Option OpenOrderView :=
  let localTable := ofItems orderKey (localOpenOrders orders)
  let exchangeTable := ofItems exchangeOrderKey openOrders
  let localKeys := sortedSet (localTable.map orderKey)
  let exchangeKeys := sortedSet (exchangeTable.map exchangeOrderKey)
  let missing := localKeys.filter (· ∉ exchangeKeys)
  let unexpected := exchangeKeys.filter (· ∉ localKeys)
  let statuses := localKeys.filterMap fun key =>
    match lookup orderKey localTable key, lookup exchangeOrderKey exchangeTable key with
    | some order, some exchangeOrder =>
      if (localStatus order).toLower = exchangeOrder.status.toLower.toLower then none
      else some { key := key, localStatus := localStatus order,
                  exchangeStatus := exchangeOrder.status }
    | _, _ => none
  if missing = [] ∧ unexpected = [] ∧ statuses.isEmpty then none
  else some { missingOnExchange := missing, unexpectedOnExchange := unexpected,
              statusMismatches := statuses }

def fillQtyOfIntent (fills : List FillRecord) (intentId : String) : ℚ :=
  ((fills.filter (·.intentId = intentId)).map (·.fillQty)).sum

/-- The orders whose filled quantity is not that of their fills, by intent. -/
def replayMismatches (orders : List LocalOrder) (fills : List FillRecord) : List Discrepancy :=
  ofItems (·.key) (orders.filterMap fun order =>
    if epsilon12 < |fillQtyOfIntent fills order.intentId - order.filledQty| then
      some { key := order.intentId, stored := order.filledQty,
             other := fillQtyOfIntent fills order.intentId }
    else none)

def orderDiff (orders : List LocalOrder) (fills : List FillRecord)
    (exchangeSnapshot : Option ExchangeAccountSnapshot) (exchangeComparisonEnabled : Bool) :
    OrderDiff where
  reconstructed := replayMismatches orders fills
  exchange :=
    match exchangeComparisonEnabled, exchangeSnapshot with
    | true, some snapshot => openOrderView orders snapshot.openOrders
    | _, _ => none

/-! ### The diff of the fills -/

structure FillView where
  missingOnExchange : List String
  unexpectedOnExchange : List String

structure OrphanFill where
  fillId : String
  intentId : String
  symbol : String

structure FillDiff where
  replayed : List OrphanFill
  exchange : Option FillView

def orphanFills (orders : List LocalOrder) (fills : List FillRecord) : List OrphanFill :=
  ofItems (·.fillId) ((fills.filter (fun fill => fill.intentId ∉ orders.map (·.intentId))).map
    fun fill => { fillId := fill.fillId, intentId := fill.intentId, symbol := fill.symbol })

/-- The exchange part of `_fill_diff`, nothing if both sides agree. -/
def fillView (fills : List FillRecord) (exchangeFillIds accepted : List String) : Option FillView :=
  let localIds := (fills.filter (·.venue = "OKX")).map (·.fillId)
  let missing := (sortedSet localIds).filter
    (fun fillId => fillId ∉ exchangeFillIds ∧ fillId ∉ accepted)
  let unexpected := (sortedSet exchangeFillIds).filter
    (fun fillId => fillId ∉ localIds ∧ fillId ∉ accepted)
  if missing = [] ∧ unexpected = [] then none
  else some { missingOnExchange := missing, unexpectedOnExchange := unexpected }

def fillDiff (orders : List LocalOrder) (fills : List FillRecord)
    (exchangeSnapshot : Option ExchangeAccountSnapshot) (exchangeComparisonEnabled : Bool)
    (acceptedExchangeFillIds : List String) : FillDiff where
  replayed := orphanFills orders fills
  exchange :=
    match exchangeComparisonEnabled, exchangeSnapshot with
    | true, some snapshot => fillView fills snapshot.fillIds acceptedExchangeFillIds
    | _, _ => none

/-! ### The diff of the balances -/

structure BalanceDiff where
  reconstructed : List Discrepancy
  exchange : List Discrepancy

/-- The total of a currency on the exchange; the last of several balances counts. -/
def exchangeTotal (balances : List ExchangeBalance) (currency : String) : ℚ :=
  ((lookup (·.currency) (ofItems (·.currency) balances) currency).map (·.total)).getD 0

def balanceDiff (stored reconstructed : Portfolio.Balances)
    (exchangeSnapshot : Option ExchangeAccountSnapshot) (compareExchangePortfolio : Bool) :
    BalanceDiff where
  reconstructed :=
    differences epsilon9 (stored.keys ++ reconstructed.keys) stored.balance reconstructed.balance
  exchange :=
    match compareExchangePortfolio, exchangeSnapshot with
    | true, some snapshot =>
      differences epsilon9 (stored.keys ++ snapshot.balances.map (·.currency)) stored.balance
        (exchangeTotal snapshot.balances)
    | _, _ => []

/-! ### Positions by key -/

abbrev QuantityMap := List (String × ℚ)

def quantityAt (quantities : QuantityMap) (key : String) : ℚ :=
  ((lookup Prod.fst quantities key).map Prod.snd).getD 0

/-- `_position_quantity_map`, without what counts as zero. -/
def positionQuantityMap (positions : List (Σ _ : String, Position)) : QuantityMap :=
  (positions.filter (fun entry => epsilon12 < |entry.2.positionQty|)).map
    (fun entry => (entry.1, entry.2.positionQty))

def derivativesPositions (snapshot : PortfolioSnapshot) : List (Σ _ : String, Position) :=
  snapshot.positions.entries.filter (fun entry => entry.2.productType = .derivatives)

/-- `_exchange_position_mode`: the configured mode or that of the snapshot. -/
def exchangePositionMode (snapshot : ExchangeAccountSnapshot) : Option String :=
  let mode := String.ofList (Governance.strip
    (textOr snapshot.accountConfigurationPositionMode (snapshot.positionMode.getD "")).toList)
  if mode = "" then none else some mode

def exchangeSide (mode : Option PositionMode) (position : ExchangePosition) : Option PositionSide :=
  normalizePositionSide (positionSideOfText position.side) mode

/-- `signed_quantity_for_position_side` of an exchange position. -/
def signedExchangeQuantity (mode : Option PositionMode) (position : ExchangePosition) : ℚ :=
  signedQuantityForPositionSide position.quantity (exchangeSide mode position)

/-- `position_key_for_exchange_position`. -/
def exchangePositionKey (mode : Option PositionMode) (position : ExchangePosition) : String :=
  buildPositionKey position.symbol .derivatives .cash mode (exchangeSide mode position)

/-- The exchange positions that do not count as zero, with their position mode. -/
def openExchangePositions (snapshot : ExchangeAccountSnapshot) : List ExchangePosition :=
  snapshot.positions.filter fun position =>
    epsilon12 < |signedExchangeQuantity (normalizePositionMode (exchangePositionMode snapshot))
      position|

/-- `_exchange_position_quantity_map`: the last of several positions with one key counts. -/
def exchangePositionQuantityMap (snapshot : ExchangeAccountSnapshot) : QuantityMap :=
  let mode := normalizePositionMode (exchangePositionMode snapshot)
  ofItems Prod.fst ((openExchangePositions snapshot).map fun position =>
    (exchangePositionKey mode position, signedExchangeQuantity mode position))

/-- What follows the first colon of a position key: `partition(":")`. -/
def keySuffix (key : String) : Option String :=
  match key.toList.dropWhile (· ≠ ':') with
  | [] => none
  | _ :: rest => some (String.ofList rest)

def symbolFromPositionKey (key : String) : String := String.ofList (key.toList.takeWhile (· ≠ ':'))

def legSideFromPositionKey (key : String) : Option PositionSide :=
  match keySuffix key with
  | none => none
  | some suffix =>
    match positionSideOfText suffix with
    | some .long => some .long
    | some .short => some .short
    | _ => none

/-! ### Margins -/

structure MarginRow where
  marginMode : Option String
  marginAllocated : Option ℚ
  maintenanceMargin : Option ℚ
  marginRatio : Option ℚ
  liquidationPrice : Option ℚ
  marginSource : String := ""

def storedMarginRow (position : Position) : MarginRow where
  marginMode := some (marginModeText position.marginMode)
  marginAllocated := some position.marginAllocated
  maintenanceMargin := some position.maintenanceMargin
  marginRatio := position.marginRatio
  liquidationPrice := position.liquidationPrice
  marginSource := position.marginSource

def snapshotPositionMarginMap (positions : List (Σ _ : String, Position)) : List (String × MarginRow) :=
  (positions.filter (fun entry => epsilon12 < |entry.2.positionQty|)).map
    (fun entry => (entry.1, storedMarginRow entry.2))

def exchangeMarginRow (position : ExchangePosition) : MarginRow where
  marginMode := position.marginMode
  marginAllocated := position.marginAllocated
  maintenanceMargin := position.maintenanceMargin
  marginRatio := position.marginRatio
  liquidationPrice := position.liquidationPrice

def exchangePositionMarginMap (snapshot : ExchangeAccountSnapshot) : List (String × MarginRow) :=
  let mode := normalizePositionMode (exchangePositionMode snapshot)
  ofItems Prod.fst ((openExchangePositions snapshot).map fun position =>
    (exchangePositionKey mode position, exchangeMarginRow position))

/-- A margin figure differs: it is there on one side only, or it is off by more than the
tolerance. -/
def metricDiffers : Option ℚ → Option ℚ → Bool
  | none, none => false
  | some stored, some exchange => decide (epsilon9 < |stored - exchange|)
  | _, _ => true

/-- `_position_margin_metric_mismatches`: the names of the figures that differ. -/
def marginMetricMismatches (stored exchange : MarginRow) : List String :=
  ([("margin_allocated", metricDiffers stored.marginAllocated exchange.marginAllocated),
    ("maintenance_margin", metricDiffers stored.maintenanceMargin exchange.maintenanceMargin),
    ("margin_ratio", metricDiffers stored.marginRatio exchange.marginRatio),
    ("liquidation_price", metricDiffers stored.liquidationPrice exchange.liquidationPrice)].filter
      (·.2)).map (·.1)

/-- A margin mode as the comparison reads it: stripped, in lower case, nothing if empty. -/
def marginModeOf (row : MarginRow) : Option (List Char) :=
  match Governance.normalizedText (row.marginMode.getD "") with
  | [] => none
  | mode => some mode

def marginModeDiffers (stored exchange : MarginRow) : Bool :=
  match marginModeOf stored, marginModeOf exchange with
  | some mode, some other => decide (mode ≠ other)
  | _, _ => false

/-! ### The diff of the positions -/

/-- `_position_diff`, with the keys of the positions whose margins differ. -/
structure PositionDiff where
  stored : QuantityMap
  reconstructed : QuantityMap
  reconstructedMismatches : List Discrepancy
  exchangeMismatches : List Discrepancy := []
  exchangeLegMismatches : List Discrepancy := []
  exchangeMarginMismatches : List String := []
  exchangeMarginModeMismatches : List String := []

/-- The keys of the positions that both sides have and for which a test holds. -/
def commonKeys (stored exchange : List (String × MarginRow)) (test : MarginRow → MarginRow → Bool) :
    List String :=
  (sortedSet (stored.map Prod.fst ++ exchange.map Prod.fst)).filter fun key =>
    match lookup Prod.fst stored key, lookup Prod.fst exchange key with
    | some row, some other => test row.2 other.2
    | _, _ => false

def exchangePositionDifferences (stored : PortfolioSnapshot) (snapshot : ExchangeAccountSnapshot) :
    List Discrepancy :=
  let storedPositions := positionQuantityMap (derivativesPositions stored)
  let exchangePositions := exchangePositionQuantityMap snapshot
  differences epsilon12 (storedPositions.map Prod.fst ++ exchangePositions.map Prod.fst)
    (quantityAt storedPositions) (quantityAt exchangePositions)

def positionDiff (stored reconstructed : PortfolioSnapshot)
    (exchangeSnapshot : Option ExchangeAccountSnapshot) (compareExchangePortfolio : Bool) :
    PositionDiff :=
  let storedPositions := positionQuantityMap stored.positions.entries
  let replayedPositions := positionQuantityMap reconstructed.positions.entries
  let localPart : PositionDiff :=
    { stored := storedPositions
      reconstructed := replayedPositions
      reconstructedMismatches :=
        differences epsilon12 (storedPositions.map Prod.fst ++ replayedPositions.map Prod.fst)
          (quantityAt storedPositions) (quantityAt replayedPositions) }
  match compareExchangePortfolio, exchangeSnapshot with
  | true, some snapshot =>
    if snapshot.positions.isEmpty then localPart
    else
      let mismatches := exchangePositionDifferences stored snapshot
      let storedMargin := snapshotPositionMarginMap (derivativesPositions stored)
      let exchangeMargin := exchangePositionMarginMap snapshot
      { localPart with
        exchangeMismatches := mismatches
        exchangeLegMismatches :=
          mismatches.filter (fun entry => (legSideFromPositionKey entry.key).isSome)
        exchangeMarginMismatches := commonKeys storedMargin exchangeMargin fun row other =>
          row.marginSource.toLower = "exchange" && marginMetricMismatches row other ≠ []
        exchangeMarginModeMismatches := commonKeys storedMargin exchangeMargin marginModeDiffers }
  | _, _ => localPart

/-! ### How current the snapshot is -/

/-- The times of local execution on the exchange, as the comparison goes through them. -/
def localExecutionTimes (orders : List LocalOrder) (fills : List FillRecord) : List Timestamp :=
  (orders.filter (·.venue = "OKX")).flatMap (fun order =>
    [order.lastExchangeUpdateTs, order.lastUpdateTs, order.submittedTs].reduceOption) ++
  (fills.filter (·.venue = "OKX")).flatMap (fun fill =>
    [fill.exchangeTimestamp, fill.ingestionTimestamp])

/-- `_exchange_snapshot_covers_local_execution`. -/
def snapshotCoversLocalExecution (orders : List LocalOrder) (fills : List FillRecord)
    (exchangeSnapshot : Option ExchangeAccountSnapshot) : Bool :=
  match exchangeSnapshot with
  | none => false
  | some snapshot =>
    -- the first time replaces the start, each further one if it is later
    match localExecutionTimes orders fills with
    | [] => true
    | first :: times =>
      decide (times.foldl (fun latest time => if latest < time then time else latest) first ≤
        snapshot.fetchedAt)

/-! ### When a diff is empty -/

theorem epsilon9_pos : 0 < epsilon9 := by norm_num [epsilon9]

theorem snapshotCoversLocalExecution_eq_true {orders : List LocalOrder} {fills : List FillRecord}
    {snapshot : ExchangeAccountSnapshot} :
    snapshotCoversLocalExecution orders fills (some snapshot) = true ↔
      ∀ time ∈ localExecutionTimes orders fills, time ≤ snapshot.fetchedAt := by
  have hfold : ∀ (times : List Timestamp) (first : Timestamp),
      times.foldl (fun latest time => if latest < time then time else latest) first ≤
        snapshot.fetchedAt ↔ first ≤ snapshot.fetchedAt ∧ ∀ time ∈ times, time ≤ snapshot.fetchedAt := by
    intro times
    induction times with
    | nil => simp
    | cons time times ih =>
      intro first
      rw [List.foldl_cons, ih, List.forall_mem_cons]
      constructor
      · rintro ⟨hnext, hrest⟩
        split at hnext
        · next hlt => exact ⟨hlt.le.trans hnext, hnext, hrest⟩
        · next hle => exact ⟨hnext, (not_lt.mp hle).trans hnext, hrest⟩
      · rintro ⟨hfirst, htime, hrest⟩
        refine ⟨?_, hrest⟩
        split
        · exact htime
        · exact hfirst
  unfold snapshotCoversLocalExecution
  cases localExecutionTimes orders fills with
  | nil => simp
  | cons first times =>
    simp only []
    rw [decide_eq_true_iff, hfold, List.forall_mem_cons]

theorem replayMismatches_eq_nil {orders : List LocalOrder} {fills : List FillRecord} :
    replayMismatches orders fills = [] ↔
      ∀ order ∈ orders, |fillQtyOfIntent fills order.intentId - order.filledQty| ≤ epsilon12 := by
  unfold replayMismatches
  rw [ofItems_eq_nil, List.filterMap_eq_nil_iff]
  apply forall_congr'
  intro order
  apply imp_congr_right
  intro _
  rw [← not_lt]
  split
  · next hlt => simp [hlt]
  · next hle => simp [hle]

theorem orphanFills_eq_nil {orders : List LocalOrder} {fills : List FillRecord} :
    orphanFills orders fills = [] ↔
      ∀ fill ∈ fills, ∃ order ∈ orders, order.intentId = fill.intentId := by
  unfold orphanFills
  rw [ofItems_eq_nil, List.map_eq_nil_iff, List.filter_eq_nil_iff]
  apply forall_congr'
  intro fill
  apply imp_congr_right
  intro _
  rw [decide_eq_true_iff, not_not, List.mem_map]

section OpenOrders

variable {orders : List LocalOrder} {openOrders : List ExchangeOpenOrder}

def filedOrder (orders : List LocalOrder) (key : String) : Option LocalOrder :=
  lookup orderKey (localOpenOrders orders).reverse key

def filedExchangeOrder (openOrders : List ExchangeOpenOrder) (key : String) :
    Option ExchangeOpenOrder :=
  lookup exchangeOrderKey openOrders.reverse key

theorem filedOrder_isSome {key : String} :
    (filedOrder orders key).isSome ↔ key ∈ (localOpenOrders orders).map orderKey := by
  unfold filedOrder
  rw [Option.isSome_iff_ne_none, ne_eq, lookup_eq_none, List.mem_map]
  simp

/-- **The exchange shows the same open orders** exactly if the same keys occur on both sides and
the orders filed under a key have the same status. -/
theorem openOrderView_eq_none :
    openOrderView orders openOrders = none ↔
      (∀ key, key ∈ (localOpenOrders orders).map orderKey ↔
        key ∈ openOrders.map exchangeOrderKey) ∧
      ∀ key order exchangeOrder, filedOrder orders key = some order →
        filedExchangeOrder openOrders key = some exchangeOrder →
        (localStatus order).toLower = exchangeOrder.status.toLower.toLower := by
  unfold openOrderView
  simp only [lookup_ofItems]
  rw [ite_eq_left_iff]
  simp only [reduceCtorEq, imp_false, not_not, List.isEmpty_iff, List.filter_eq_nil_iff,
    List.filterMap_eq_nil_iff, mem_sortedSet, mem_keys_ofItems, decide_eq_true_iff]
  constructor
  · rintro ⟨hmissing, hunexpected, hstatus⟩
    refine ⟨fun key => ⟨hmissing key, hunexpected key⟩, ?_⟩
    intro key order exchangeOrder horder hexchange
    have hmem : key ∈ (localOpenOrders orders).map orderKey :=
      filedOrder_isSome.mp (Option.isSome_iff_exists.mpr ⟨order, horder⟩)
    have hkey := hstatus key hmem
    unfold filedOrder at horder
    unfold filedExchangeOrder at hexchange
    rw [horder, hexchange] at hkey
    by_contra hne
    simp only [if_neg hne, reduceCtorEq] at hkey
  · rintro ⟨hkeys, hstatus⟩
    refine ⟨fun key hmem => (hkeys key).mp hmem, fun key hmem => (hkeys key).mpr hmem, ?_⟩
    intro key _
    split
    · next order exchangeOrder horder hexchange =>
      rw [if_pos (hstatus key order exchangeOrder horder hexchange)]
    · rfl

end OpenOrders

section FillIds

variable {fills : List FillRecord} {exchangeFillIds accepted : List String}

/-- A fill id of the exchange is unexpected if it is neither local nor accepted. -/
def UnexpectedFillId (fills : List FillRecord) (exchangeFillIds accepted : List String)
    (fillId : String) : Prop :=
  fillId ∈ exchangeFillIds ∧ fillId ∉ (fills.filter (·.venue = "OKX")).map (·.fillId) ∧
    fillId ∉ accepted

theorem mem_unexpected_fillView {fillId : String} :
    (∃ view, fillView fills exchangeFillIds accepted = some view ∧
      fillId ∈ view.unexpectedOnExchange) ↔
    UnexpectedFillId fills exchangeFillIds accepted fillId := by
  have hunexpected : fillId ∈ (sortedSet exchangeFillIds).filter (fun fillId =>
      fillId ∉ (fills.filter (·.venue = "OKX")).map (·.fillId) ∧ fillId ∉ accepted) ↔
      UnexpectedFillId fills exchangeFillIds accepted fillId := by
    rw [List.mem_filter, mem_sortedSet, decide_eq_true_iff]
    rfl
  rw [← hunexpected]
  unfold fillView
  simp only []
  split
  · next hnil =>
    rw [hnil.2]
    simp
  · simp

end FillIds

section Positions

/-- What a position map says of a quantity: nothing if it counts as zero. -/
def countedQuantity (quantity : ℚ) : ℚ := if epsilon12 < |quantity| then quantity else 0

theorem lookup_positionTable {α : Type} (positions : AList fun _ : String => Position)
    (test : Position → Bool) (row : Position → α) (key : String) :
    lookup Prod.fst ((positions.entries.filter (fun entry => test entry.2)).map
        (fun entry => (entry.1, row entry.2))) key =
      (positions.lookup key).bind
        (fun position => if test position then some (key, row position) else none) := by
  have hmem : ∀ position, positions.lookup key = some position ↔
      (⟨key, position⟩ : Σ _ : String, Position) ∈ positions.entries := by
    intro position
    exact AList.mem_lookup_iff
  have habsent : (∀ position, positions.lookup key = some position → test position = false) →
      lookup Prod.fst ((positions.entries.filter (fun entry => test entry.2)).map
        (fun entry => (entry.1, row entry.2))) key = none := by
    intro hnone
    rw [lookup_eq_none]
    intro item hitem hkey
    obtain ⟨entry, hentry, rfl⟩ := List.mem_map.mp hitem
    obtain ⟨hin, hpass⟩ := List.mem_filter.mp hentry
    have hsome : positions.lookup key = some entry.2 := by
      rw [hmem, ← hkey]
      exact hin
    rw [hnone entry.2 hsome] at hpass
    cases hpass
  cases hlookup : positions.lookup key with
  | none =>
    apply habsent
    intro position hsome
    rw [hlookup] at hsome
    cases hsome
  | some position =>
    simp only [Option.bind_some]
    split
    · next htest =>
      -- the table has one row a key, so the first one found is that of the position
      have hnodup : (((positions.entries.filter fun entry => test entry.2).map
          (fun entry => (entry.1, row entry.2))).map Prod.fst).Nodup := by
        rw [List.map_map]
        exact List.Nodup.sublist (List.Sublist.map _ List.filter_sublist) positions.nodupKeys
      exact lookup_of_mem hnodup (List.mem_map.mpr
        ⟨⟨key, position⟩, List.mem_filter.mpr ⟨(hmem position).mp hlookup, htest⟩, rfl⟩)
    · next htest =>
      apply habsent
      intro other hother
      obtain rfl : position = other := Option.some.inj (hlookup.symm.trans hother)
      exact Bool.not_eq_true _ ▸ htest

theorem quantityAt_positionQuantityMap (snapshot : PortfolioSnapshot) (test : Position → Bool)
    (key : String) :
    quantityAt (positionQuantityMap
        (snapshot.positions.entries.filter (fun entry => test entry.2))) key =
      match snapshot.positions.lookup key with
      | some position => if test position then countedQuantity position.positionQty else 0
      | none => 0 := by
  unfold quantityAt positionQuantityMap
  rw [List.filter_filter]
  rw [lookup_positionTable snapshot.positions
    (fun position => decide (epsilon12 < |position.positionQty|) && test position)]
  cases snapshot.positions.lookup key with
  | none => rfl
  | some position =>
    simp only [countedQuantity, Option.bind_some]
    by_cases hq : epsilon12 < |position.positionQty| <;> cases test position <;> simp [hq]

/-- The last position of the exchange with a key, of those that do not count as zero. -/
def lastOpenPosition (snapshot : ExchangeAccountSnapshot) (key : String) : Option ExchangePosition :=
  (openExchangePositions snapshot).reverse.find? fun position =>
    exchangePositionKey (normalizePositionMode (exchangePositionMode snapshot)) position = key

theorem lookup_exchangeTable {α : Type} (snapshot : ExchangeAccountSnapshot)
    (row : ExchangePosition → α) (key : String) :
    (lookup Prod.fst (ofItems Prod.fst ((openExchangePositions snapshot).map fun position =>
        (exchangePositionKey (normalizePositionMode (exchangePositionMode snapshot)) position,
          row position))) key).map Prod.snd = (lastOpenPosition snapshot key).map row := by
  rw [lookup_ofItems, ← List.map_reverse]
  unfold lookup lastOpenPosition
  rw [List.find?_map, Option.map_map]
  simp only [Function.comp_def]

theorem quantityAt_exchangePositionQuantityMap (snapshot : ExchangeAccountSnapshot) (key : String) :
    quantityAt (exchangePositionQuantityMap snapshot) key =
      ((lastOpenPosition snapshot key).map
        (signedExchangeQuantity (normalizePositionMode (exchangePositionMode snapshot)))).getD 0 := by
  unfold quantityAt exchangePositionQuantityMap
  simp only []
  rw [lookup_exchangeTable]

/-- **No position is on both sides with different figures** if the test holds of none. -/
theorem commonKeys_eq_nil {stored exchange : List (String × MarginRow)}
    {test : MarginRow → MarginRow → Bool} :
    commonKeys stored exchange test = [] ↔
      ∀ key row other, (lookup Prod.fst stored key).map Prod.snd = some row →
        (lookup Prod.fst exchange key).map Prod.snd = some other → test row other = false := by
  unfold commonKeys
  rw [List.filter_eq_nil_iff]
  constructor
  · intro h key row other hrow hother
    obtain ⟨entry, hentry, rfl⟩ := Option.map_eq_some_iff.mp hrow
    obtain ⟨exchangeEntry, hexchange, rfl⟩ := Option.map_eq_some_iff.mp hother
    have hmem : key ∈ sortedSet (stored.map Prod.fst ++ exchange.map Prod.fst) := by
      rw [mem_sortedSet, List.mem_append]
      left
      exact List.mem_map.mpr ⟨entry, mem_of_lookup hentry, key_of_lookup hentry⟩
    have hkey := h key hmem
    rw [hentry, hexchange] at hkey
    simpa using hkey
  · intro h key _ htest
    split at htest
    · next row other hrow hother =>
      rw [h key row.2 other.2 (by rw [hrow]; rfl) (by rw [hother]; rfl)] at htest
      cases htest
    · cases htest

theorem quantityAt_of_notMem {quantities : QuantityMap} {key : String}
    (h : key ∉ quantities.map Prod.fst) : quantityAt quantities key = 0 := by
  unfold quantityAt
  rw [lookup_eq_none.mpr]
  · rfl
  · intro entry hentry hkey
    exact h (List.mem_map.mpr ⟨entry, hentry, hkey⟩)

theorem differences_quantityAt_eq_nil {stored other : QuantityMap} :
    differences epsilon12 (stored.map Prod.fst ++ other.map Prod.fst) (quantityAt stored)
        (quantityAt other) = [] ↔
      ∀ key, |quantityAt stored key - quantityAt other key| ≤ epsilon12 := by
  apply differences_eq_nil epsilon12_pos.le
  intro key hkey
  rw [List.mem_append, not_or] at hkey
  rw [quantityAt_of_notMem hkey.1, quantityAt_of_notMem hkey.2]

theorem quantityAt_stored (snapshot : PortfolioSnapshot) (key : String) :
    quantityAt (positionQuantityMap snapshot.positions.entries) key =
      countedQuantity (snapshot.quantityOf key) := by
  have hall := quantityAt_positionQuantityMap snapshot (fun _ => true) key
  simp only [List.filter_true] at hall
  rw [hall]
  unfold PortfolioSnapshot.quantityOf
  cases snapshot.positions.lookup key with
  | none => simp [countedQuantity]
  | some position => rfl

theorem reconstructedMismatches_eq_nil {stored reconstructed : PortfolioSnapshot}
    {exchangeSnapshot : Option ExchangeAccountSnapshot} {compareExchangePortfolio : Bool} :
    (positionDiff stored reconstructed exchangeSnapshot
        compareExchangePortfolio).reconstructedMismatches = [] ↔
      ∀ key, |countedQuantity (stored.quantityOf key) -
        countedQuantity (reconstructed.quantityOf key)| ≤ epsilon12 := by
  have hpart : (positionDiff stored reconstructed exchangeSnapshot
      compareExchangePortfolio).reconstructedMismatches =
      differences epsilon12 ((positionQuantityMap stored.positions.entries).map Prod.fst ++
        (positionQuantityMap reconstructed.positions.entries).map Prod.fst)
        (quantityAt (positionQuantityMap stored.positions.entries))
        (quantityAt (positionQuantityMap reconstructed.positions.entries)) := by
    unfold positionDiff
    simp only []
    split
    · split
      · rfl
      · rfl
    · rfl
  rw [hpart, differences_quantityAt_eq_nil]
  simp only [quantityAt_stored]

end Positions

section BalanceDifferences

variable {stored reconstructed : Portfolio.Balances}
  {exchangeSnapshot : Option ExchangeAccountSnapshot} {compareExchangePortfolio : Bool}

/-- **No reconstructed balance differs** exactly if all balances agree up to the tolerance. -/
theorem balanceDiff_reconstructed_eq_nil :
    (balanceDiff stored reconstructed exchangeSnapshot compareExchangePortfolio).reconstructed = [] ↔
      ∀ currency, |stored.balance currency - reconstructed.balance currency| ≤ epsilon9 := by
  unfold balanceDiff
  apply differences_eq_nil epsilon9_pos.le
  intro currency hkey
  rw [List.mem_append, not_or] at hkey
  have habsent : ∀ balances : Portfolio.Balances, currency ∉ balances.keys →
      balances.balance currency = 0 := by
    intro balances hnone
    unfold Portfolio.Balances.balance
    rw [AList.lookup_eq_none.mpr hnone]
    rfl
  rw [habsent stored hkey.1, habsent reconstructed hkey.2]

/-- **No balance differs on the exchange** exactly if all balances agree up to the tolerance. -/
theorem balanceDiff_exchange_eq_nil {snapshot : ExchangeAccountSnapshot} :
    (balanceDiff stored reconstructed (some snapshot) true).exchange = [] ↔
      ∀ currency, |stored.balance currency - exchangeTotal snapshot.balances currency| ≤
        epsilon9 := by
  unfold balanceDiff
  apply differences_eq_nil epsilon9_pos.le
  intro currency hkey
  rw [List.mem_append, not_or] at hkey
  unfold Portfolio.Balances.balance exchangeTotal
  rw [AList.lookup_eq_none.mpr hkey.1, lookup_eq_none.mpr]
  · rfl
  · intro balance hbalance hcurrency
    exact hkey.2 (mem_keys_ofItems.mp (List.mem_map.mpr ⟨balance, hbalance, hcurrency⟩))

end BalanceDifferences

end Aats.Reconciliation
