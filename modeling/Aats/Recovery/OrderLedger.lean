import Aats.Execution.ConvergedStore
import Aats.Lib.KeyedList

/-!
# The order ledger a restart reads

`services/runtime_scope.py` and the readers of `execution_orders` that the two recovery services
use: the rows of the runtime's scope, read once for the execution ledger and once, with the rule
for smart arbitrage, for the base recovery.

## Main definitions
* `LedgerOrder.isStuck` — `CREATED` or `SUBMITTING` without a venue order id.
-/

namespace Aats.Recovery

open Execution

/-! ### Scope -/

structure RuntimeStateScope where
  productType : ProductType
  marginMode : MarginMode
  allowedSymbols : List String
  defaultSymbol : String
  smartArbitrageSpotMarginModes : List MarginMode := [.cash]
  deriving DecidableEq, Repr

def RuntimeStateScope.symbols (scope : RuntimeStateScope) : List String :=
  if scope.allowedSymbols = [] then [scope.defaultSymbol] else scope.allowedSymbols

def RuntimeStateScope.symbolAllowed (scope : RuntimeStateScope) (symbol : String) : Bool :=
  decide (symbol ≠ "" ∧ symbol ∈ scope.symbols)

/-! ### Rows -/

/-- What ties an order or an obligation to a strategy; an absent reference is empty. -/
structure StrategyRefs where
  bundleId : String := ""
  sleeveId : String := ""
  allocationId : String := ""
  family : String := ""
  deriving DecidableEq, Repr

/-- A row of `execution_orders` with its scope columns. -/
structure LedgerOrder where
  row : ExecutionOrderRow
  refs : StrategyRefs := {}
  productType : ProductType
  marginMode : MarginMode
  deriving DecidableEq

structure LedgerObligation where
  obligation : OrderObligation
  refs : StrategyRefs := {}
  deriving DecidableEq

/-- `client_order_id`, which a row always has and no two rows share. -/
def LedgerOrder.clientOrderId (order : LedgerOrder) : String := order.row.clientOrderId

def LedgerOrder.orderState (order : LedgerOrder) : OrderState := order.row.hydrateOrderState

/-- `_collect_stuck_orders` keeps these: `CREATED` or `SUBMITTING`, and no venue order id. -/
def LedgerOrder.isStuck (order : LedgerOrder) : Bool :=
  decide ((order.row.state = .created ∨ order.row.state = .submitting) ∧
    strOr order.row.venueOrderId none = none)

/-! ### Reading rows -/

/-- The scope of `_orders_for_scope_query`. -/
def rowInScope (scope : RuntimeStateScope) (order : LedgerOrder) : Bool :=
  let symbols := scope.allowedSymbols.filter (· ≠ "")
  decide (order.productType = scope.productType ∧ order.marginMode = scope.marginMode ∧
    (symbols = [] ∨ order.row.symbol ∈ symbols))

def listOrdersForScope (scope : RuntimeStateScope) (orders : List LedgerOrder) (openOnly : Bool) :
    List LedgerOrder :=
  orders.filter fun order => rowInScope scope order && (!openOnly || !order.row.state.isTerminal)

/-- `_scope_order_query`: orders of smart arbitrage may trade spot with their own margin modes. -/
def orderMatchesScope (scope : RuntimeStateScope) (order : LedgerOrder) : Bool :=
  let regular := decide (order.productType = scope.productType ∧
    order.marginMode = scope.marginMode)
  let arbitrageSpot := decide (order.productType = .spot ∧
    order.marginMode ∈ scope.smartArbitrageSpotMarginModes)
  decide (order.row.symbol ∈ scope.symbols) &&
    if order.refs.family = "smart_arbitrage" then
      match scope.productType with
      | .spot => arbitrageSpot
      | .derivatives => arbitrageSpot || regular
    else regular

def orderStatesForScope (scope : RuntimeStateScope) (orders : List LedgerOrder) :
    List LedgerOrder :=
  orders.filter (orderMatchesScope scope)

/-- `infer_product_type_from_symbol`: swaps and dated futures are derivatives. -/
def inferProductTypeFromSymbol (symbol : String) : ProductType :=
  let normalized := symbol.toUpper.toList
  let tail := (normalized.reverse.takeWhile (· ≠ '-')).reverse
  if "-SWAP".toList <:+ normalized ∨ (tail ≠ [] ∧ tail.all Char.isDigit = true) then .derivatives
  else .spot

def inferredOrderStateProductType (order : LedgerOrder) : ProductType :=
  let payload := order.orderState.submissionPayload
  match payload.lookup "productType" with
  | some "spot" => .spot
  | some "derivatives" => .derivatives
  | _ =>
    let symbol := if order.row.symbol = "" then (payload.lookup "instId").getD ""
      else order.row.symbol
    if order.productType = .derivatives then .derivatives else inferProductTypeFromSymbol symbol

def marginModeOfText : String → Option MarginMode
  | "cash" => some .cash
  | "cross" => some .cross
  | "isolated" => some .isolated
  | _ => none

/-- `inferred_order_state_margin_mode`; derivatives have no cash margin. -/
def inferredOrderStateMarginMode (order : LedgerOrder) : MarginMode :=
  let payload := order.orderState.submissionPayload
  let written := ((payload.lookup "marginMode").bind marginModeOfText).or
    ((payload.lookup "tdMode").bind marginModeOfText)
  written.getD
    (if inferredOrderStateProductType order = .derivatives ∧ order.marginMode = .cash then .cross
    else order.marginMode)

def orderStateMatchesScope (scope : RuntimeStateScope) (order : LedgerOrder) : Bool :=
  let productType := inferredOrderStateProductType order
  let marginMode := inferredOrderStateMarginMode order
  scope.symbolAllowed order.row.symbol &&
    if scope.productType = .derivatives ∧ order.refs.family = "smart_arbitrage" then
      if productType = .spot then decide (marginMode ∈ scope.smartArbitrageSpotMarginModes)
      else decide (marginMode = scope.marginMode)
    else decide (productType = scope.productType ∧ marginMode = scope.marginMode)

def obligationMatchesScope (scope : RuntimeStateScope) (item : LedgerObligation) : Bool :=
  let regular := item.obligation.productType = scope.productType ∧
    item.obligation.marginMode = scope.marginMode
  scope.symbolAllowed item.obligation.symbol &&
    decide (if scope.productType = .derivatives ∧ item.refs.family = "smart_arbitrage" then
      if item.obligation.productType = .spot then
        item.obligation.marginMode ∈ scope.smartArbitrageSpotMarginModes
      else regular
    else regular)

end Aats.Recovery
