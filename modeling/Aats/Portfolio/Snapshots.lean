import Aats.Execution.OrderStateMachine
import Aats.Lib.Dict
import Aats.Portfolio.CashFlow
import Mathlib.Algebra.Order.Floor.Ring
import Mathlib.Data.Rat.Floor

/-!
# Portfolio snapshots

`portfolio_service/snapshots.py`, the rounding of `decimals.py`, and `load_portfolio_snapshot`: a
snapshot is taken of a state at the prices of a provider and rounded to twelve decimals, and a
state is loaded from a snapshot without its positions that count as flat. The keys of a
snapshot's positions are those of the state it was taken of, so they are distinct.

## Main results
* `quantityOf_buildSnapshot`, `balance_buildSnapshot` — what a snapshot says about holdings
  depends on the state only, not on prices.
-/

namespace Aats.Portfolio

open Dict
open Execution (Timestamp)

/-! ### Rounding -/

def roundHalfEven (x : ℚ) : ℤ :=
  let low := ⌊x⌋
  let rest := x - low
  if rest < 1 / 2 then low
  else if 1 / 2 < rest then low + 1
  else if low % 2 = 0 then low
  else low + 1

def quantizeDecimal (value : ℚ) : ℚ :=
  if isEffectivelyZero value then 0 else roundHalfEven (value * 10 ^ 12) / 10 ^ 12

@[simp] theorem quantizeDecimal_zero : quantizeDecimal 0 = 0 := by
  rw [quantizeDecimal, if_pos isEffectivelyZero_zero]

/-! ### Records -/

/-- `PortfolioSnapshotOrigin`. -/
inductive SnapshotOrigin
  | fillDerived
  | exchangeImport
  | operatorRebaseline
  | localRepair
  | runtimeBootstrap
  | recoveryRebuild
  | recoveryAutoHealed
  | manualRebuild
  deriving DecidableEq, Repr

/-- `is_trusted_baseline_snapshot` looks at the origin. -/
def SnapshotOrigin.isTrustedBaseline : SnapshotOrigin → Bool
  | exchangeImport | operatorRebaseline => true
  | fillDerived | localRepair | runtimeBootstrap | recoveryRebuild | recoveryAutoHealed
  | manualRebuild => false

/-- `Position`, a position of a snapshot. -/
structure Position where
  symbol : String
  positionQty : ℚ
  positionNotional : ℚ
  avgEntryPrice : ℚ
  unrealizedPnl : ℚ
  productType : ProductType := .spot
  exposureSide : ExposureSide := .flat
  targetLeverage : ℚ := 1
  marginMode : MarginMode := .cash
  positionMode : Option PositionMode := none
  posSide : Option PositionSide := none
  instrumentFamily : Option String := none
  settleCurrency : Option String := none
  marginAllocated : ℚ := 0
  maintenanceMargin : ℚ := 0
  marginRatio : Option ℚ := none
  liquidationPrice : Option ℚ := none
  marginSource : String := "estimated"
  deriving DecidableEq, Repr

/-- `PortfolioSnapshot`, with its positions by their key and without the parts that only repeat
or break down its figures. -/
structure PortfolioSnapshot where
  sourceFillId : Option String := none
  snapshotOrigin : SnapshotOrigin := .fillDerived
  snapshotTs : Timestamp
  createdAt : Timestamp
  balances : Balances
  positions : AList fun _ : String => Position
  realizedPnl : ℚ
  unrealizedPnl : ℚ
  totalEquity : ℚ
  grossExposure : ℚ
  netExposure : ℚ
  marginUsage : ℚ := 0
  productType : ProductType := .spot
  marginMode : MarginMode := .cash
  deriving DecidableEq

def PortfolioSnapshot.quantityOf (snapshot : PortfolioSnapshot) (key : String) : ℚ :=
  ((snapshot.positions.lookup key).map (·.positionQty)).getD 0

def PortfolioSnapshot.avgEntryPriceOf (snapshot : PortfolioSnapshot) (key : String) : ℚ :=
  ((snapshot.positions.lookup key).map (·.avgEntryPrice)).getD 0

/-! ### Taking a snapshot -/

abbrev PriceProvider := String → ℚ

/-- The unrealized PnL of a record, `PortfolioPnLCalculator.unrealized_pnl`. -/
def recordUnrealized (prices : PriceProvider) (record : PositionRecord) : ℚ :=
  (prices record.symbol - record.avgEntryPrice) * record.quantity

def recordNotional (prices : PriceProvider) (record : PositionRecord) : ℚ :=
  record.quantity * prices record.symbol

def exchangeMargin (record : PositionRecord) : Bool :=
  decide (record.marginSource.toLower = "exchange")

/-- The margin of a record: the exchange's figure, or an estimate for derivatives. -/
def recordMargin (prices : PriceProvider) (record : PositionRecord) : ℚ :=
  if exchangeMargin record then record.marginAllocated
  else if record.productType = .derivatives then
    |recordNotional prices record| / max record.targetLeverage 1
  else 0

def positionOf (prices : PriceProvider) (record : PositionRecord) : Position where
  symbol := record.symbol
  positionQty := quantizeDecimal record.quantity
  positionNotional := quantizeDecimal (recordNotional prices record)
  avgEntryPrice := quantizeDecimal record.avgEntryPrice
  unrealizedPnl := quantizeDecimal (recordUnrealized prices record)
  productType := record.productType
  exposureSide := record.exposureSide
  targetLeverage := record.targetLeverage
  marginMode := record.marginMode
  positionMode := record.positionMode
  posSide := record.posSide
  instrumentFamily := record.instrumentFamily
  settleCurrency := record.settleCurrency
  marginAllocated := quantizeDecimal (recordMargin prices record)
  maintenanceMargin :=
    if exchangeMargin record then quantizeDecimal record.maintenanceMargin else 0
  marginRatio := if exchangeMargin record then record.marginRatio.map quantizeDecimal else none
  liquidationPrice :=
    if exchangeMargin record then record.liquidationPrice.map quantizeDecimal else none
  marginSource := if exchangeMargin record then "exchange" else "estimated"

def records (state : PortfolioState) : List PositionRecord :=
  state.positions.entries.map (·.2)

/-- The base currency of `_symbol_currencies`, empty if there is none. -/
def trackedBase (symbol : String) : String :=
  String.ofList (symbol.toList.takeWhile (· ≠ '-'))

/-- The value of the balances besides USDT that no spot position stands for. -/
def otherAssetEquity (prices : PriceProvider) (state : PortfolioState) : ℚ :=
  let tracked := ((records state).filter (·.productType ≠ .derivatives)).map
    (fun record => trackedBase record.symbol)
  (state.balances.entries.map fun entry =>
    if entry.1 = "USDT" ∨ entry.1 ∈ tracked.filter (· ≠ "") ∨ isEffectivelyZero entry.2 = true then 0
    else if 0 < prices (entry.1 ++ "-USDT") then entry.2 * prices (entry.1 ++ "-USDT")
    else 0).sum

/-- The equity of a state: its cash, its spot positions and other assets at their prices, and
the unrealized PnL of its derivatives. -/
def totalEquityOf (prices : PriceProvider) (state : PortfolioState) : ℚ :=
  state.balances.balance "USDT" +
    (((records state).filter (·.productType ≠ .derivatives)).map (recordNotional prices)).sum +
    otherAssetEquity prices state +
    (((records state).filter (·.productType = .derivatives)).map (recordUnrealized prices)).sum

/-- `build`, with the scope that the recovery copies into the snapshot. -/
def buildSnapshot (prices : PriceProvider) (snapshotOrigin : SnapshotOrigin)
    (sourceFillId : Option String) (now : Timestamp) (productType : ProductType)
    (marginMode : MarginMode) (state : PortfolioState) : PortfolioSnapshot where
  sourceFillId := sourceFillId
  snapshotOrigin := snapshotOrigin
  snapshotTs := now
  createdAt := now
  balances := mapValues (fun _ balance => quantizeDecimal balance) state.balances
  positions := mapValues (fun _ record => positionOf prices record) state.positions
  realizedPnl := quantizeDecimal state.realizedPnl
  unrealizedPnl := quantizeDecimal ((records state).map (recordUnrealized prices)).sum
  totalEquity := quantizeDecimal (totalEquityOf prices state)
  grossExposure :=
    quantizeDecimal ((records state).map (fun record => |recordNotional prices record|)).sum
  netExposure := quantizeDecimal ((records state).map (recordNotional prices)).sum
  marginUsage := quantizeDecimal
    (((records state).filter (·.productType = .derivatives)).map (recordMargin prices)).sum
  productType := productType
  marginMode := marginMode

/-! ### Loading a snapshot -/

def recordOf (key : String) (position : Position) : PositionRecord where
  symbol := position.symbol
  positionKey := some key
  quantity := position.positionQty
  avgEntryPrice := position.avgEntryPrice
  productType := position.productType
  targetLeverage := position.targetLeverage
  marginMode := position.marginMode
  positionMode := position.positionMode
  posSide := position.posSide
  instrumentFamily := position.instrumentFamily
  settleCurrency := position.settleCurrency
  marginAllocated := position.marginAllocated
  maintenanceMargin := position.maintenanceMargin
  marginRatio := position.marginRatio
  liquidationPrice := position.liquidationPrice
  marginSource := position.marginSource
  exposureSide := position.exposureSide

def loadPortfolioSnapshot (snapshot : PortfolioSnapshot) (appliedFillIds : Finset String)
    (totalFeesPaid : ℚ) : PortfolioState where
  positions := mapValues recordOf
    (filterValues (fun position => !isEffectivelyZero position.positionQty) snapshot.positions)
  balances :=
    if (snapshot.balances.lookup "USDT").isSome then snapshot.balances
    else snapshot.balances.insert "USDT" 0
  realizedPnl := snapshot.realizedPnl
  totalFeesPaid := totalFeesPaid
  appliedFillIds := appliedFillIds
  loadedFromExchangeSnapshot := false

/-! ### What a snapshot and a load say about holdings -/

section Holdings

variable (prices : PriceProvider) (origin : SnapshotOrigin) (fillId : Option String)
  (now : Timestamp) (productType : ProductType) (marginMode : MarginMode) (state : PortfolioState)

theorem quantityOf_buildSnapshot (key : String) :
    (buildSnapshot prices origin fillId now productType marginMode state).quantityOf key =
      quantizeDecimal (state.quantityOf key) := by
  unfold PortfolioSnapshot.quantityOf PortfolioState.quantityOf buildSnapshot
  rw [lookup_mapValues]
  cases state.positions.lookup key with
  | none => exact quantizeDecimal_zero.symm
  | some record => rfl

theorem avgEntryPriceOf_buildSnapshot (key : String) :
    (buildSnapshot prices origin fillId now productType marginMode state).avgEntryPriceOf key =
      quantizeDecimal (state.avgEntryPriceOf key) := by
  unfold PortfolioSnapshot.avgEntryPriceOf PortfolioState.avgEntryPriceOf buildSnapshot
  rw [lookup_mapValues]
  cases state.positions.lookup key with
  | none => exact quantizeDecimal_zero.symm
  | some record => rfl

theorem balance_buildSnapshot (currency : String) :
    (buildSnapshot prices origin fillId now productType marginMode state).balances.balance currency =
      quantizeDecimal (state.balances.balance currency) := by
  unfold buildSnapshot Balances.balance
  rw [lookup_mapValues]
  cases state.balances.lookup currency with
  | none => exact quantizeDecimal_zero.symm
  | some balance => rfl

end Holdings

section Load

variable (snapshot : PortfolioSnapshot) (ids : Finset String) (fees : ℚ)

theorem lookup_load (key : String) :
    (loadPortfolioSnapshot snapshot ids fees).positions.lookup key =
      ((snapshot.positions.lookup key).filter
        (fun position => !isEffectivelyZero position.positionQty)).map (recordOf key) := by
  unfold loadPortfolioSnapshot
  rw [lookup_mapValues, lookup_filterValues]

theorem quantityOf_load (key : String) :
    (loadPortfolioSnapshot snapshot ids fees).quantityOf key =
      if isEffectivelyZero (snapshot.quantityOf key) then 0 else snapshot.quantityOf key := by
  unfold PortfolioState.quantityOf PortfolioSnapshot.quantityOf
  rw [lookup_load]
  cases snapshot.positions.lookup key with
  | none => simp [isEffectivelyZero_zero]
  | some position =>
    by_cases hzero : isEffectivelyZero position.positionQty = true
    · simp [Option.filter, hzero]
    · simp [Option.filter, hzero, recordOf]

theorem avgEntryPriceOf_load (key : String) :
    (loadPortfolioSnapshot snapshot ids fees).avgEntryPriceOf key =
      if isEffectivelyZero (snapshot.quantityOf key) then 0 else snapshot.avgEntryPriceOf key := by
  unfold PortfolioState.avgEntryPriceOf PortfolioSnapshot.quantityOf
    PortfolioSnapshot.avgEntryPriceOf
  rw [lookup_load]
  cases snapshot.positions.lookup key with
  | none => simp [isEffectivelyZero_zero]
  | some position =>
    by_cases hzero : isEffectivelyZero position.positionQty = true
    · simp [Option.filter, hzero]
    · simp [Option.filter, hzero, recordOf]

theorem balance_load (currency : String) :
    (loadPortfolioSnapshot snapshot ids fees).balances.balance currency =
      snapshot.balances.balance currency := by
  unfold loadPortfolioSnapshot
  simp only []
  split
  · rfl
  · next hnone =>
    rw [Balances.balance_insert]
    split
    · next husdt =>
      have hlookup : snapshot.balances.lookup currency = none := by
        rw [← husdt]
        simpa using hnone
      unfold Balances.balance
      rw [hlookup]
      rfl
    · rfl

end Load

end Aats.Portfolio
