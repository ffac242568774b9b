import Aats.Schemas
import Mathlib.Data.List.Basic

/-!
# Fee currencies and position keys

The pure helpers of `services/accounting.py` and `portfolio_service/position_keys.py`:
which currencies a symbol trades, in which currency a fill pays its fee, what the fee is
worth in the quote currency, and under which key the portfolio books the position.
-/

namespace Aats

/-! ### Currencies of a symbol -/

/-- `resolve_symbol_currencies` without an instrument lookup: the first two non-empty parts
of the symbol between dashes. -/
def resolveSymbolCurrencies (symbol : String) : Option String × Option String :=
  if '-' ∈ symbol.toList then
    match ((symbol.toList.splitOn '-').filter (· ≠ [])).map String.ofList with
    | base :: quote :: _ => (some base, some quote)
    | _ => (none, none)
  else if symbol = "" then (none, none)
  else (some symbol, none)

/-- `resolved_fee_currency`. An empty `fee_currency` counts as absent; OKX takes the fee
of a buy in the base currency. -/
def resolvedFeeCurrency (fill : FillEvent) (baseCurrency quoteCurrency : Option String) :
    Option String :=
  match fill.feeCurrency.filter (· ≠ "") with
  | some currency => some currency
  | none =>
    if fill.venue = "OKX" then
      match fill.side with
      | .buy => baseCurrency
      | .sell => quoteCurrency
    else quoteCurrency

/-- `UnsupportedFeeCurrencyError` with its message. -/
structure UnsupportedFeeCurrencyError where
  message : String
  deriving DecidableEq, Repr

/-- A currency in an error text: Python's `currency or placeholder`. -/
def currencyOr (placeholder : String) : Option String → String
  | some currency => if currency = "" then placeholder else currency
  | none => placeholder

/-- The text of `UnsupportedFeeCurrencyError`. -/
def unsupportedFeeCurrency (fill : FillEvent) (feeCurrency base quote : Option String) :
    UnsupportedFeeCurrencyError where
  message := "unsupported_fill_fee_currency:" ++ currencyOr "UNRESOLVED" feeCurrency ++ ":" ++
    fill.symbol ++ ":" ++ currencyOr "UNKNOWN" base ++ ":" ++ currencyOr "UNKNOWN" quote

/-- `fill_fee_delta_in_quote`: the fee of a fill expressed in the quote currency. -/
def fillFeeDeltaInQuote (fill : FillEvent) (baseCurrency quoteCurrency : Option String) :
    Except UnsupportedFeeCurrencyError ℚ :=
  -- callers that know neither currency leave the resolution to this function
  let resolved :=
    if baseCurrency = none ∧ quoteCurrency = none then resolveSymbolCurrencies fill.symbol
    else (baseCurrency, quoteCurrency)
  if fill.feeAmount = 0 then .ok 0
  else
    let feeCurrency := resolvedFeeCurrency fill resolved.1 resolved.2
    if feeCurrency = resolved.2 ∧ feeCurrency ≠ none then .ok fill.feeAmount
    else if feeCurrency = resolved.1 then .ok (fill.feeAmount * fill.fillPrice)
    else .error (unsupportedFeeCurrency fill feeCurrency resolved.1 resolved.2)

/-- `unsupported_fee_currency_details`: what is recorded about a fee that cannot be
valued. -/
structure UnsupportedFeeCurrencyDetails where
  fillId : String
  symbol : String
  feeCurrency : Option String
  baseCurrency : Option String
  quoteCurrency : Option String
  venue : String
  side : Side
  fillPrice : ℚ
  feeAmount : ℚ
  error : String
  deriving DecidableEq, Repr

/-- `unsupported_fee_currency_details` for a fee error. -/
def unsupportedFeeCurrencyDetails (fill : FillEvent) (baseCurrency quoteCurrency : Option String)
    (error : UnsupportedFeeCurrencyError) : UnsupportedFeeCurrencyDetails :=
  let resolved :=
    if baseCurrency = none ∧ quoteCurrency = none then resolveSymbolCurrencies fill.symbol
    else (baseCurrency, quoteCurrency)
  { fillId := fill.fillId
    symbol := fill.symbol
    feeCurrency := resolvedFeeCurrency fill resolved.1 resolved.2
    baseCurrency := resolved.1
    quoteCurrency := resolved.2
    venue := fill.venue
    side := fill.side
    fillPrice := fill.fillPrice
    feeAmount := fill.feeAmount
    error := error.message }

/-! ### Position keys -/

/-- `normalize_position_side`: in long/short mode only `long` and `short` are sides. -/
def normalizePositionSide (value : Option PositionSide) (positionMode : Option PositionMode) :
    Option PositionSide :=
  match positionMode, value with
  | some .longShortMode, some .net => none
  | _, value => value

def buildPositionKey (symbol : String) (productType : ProductType) (marginMode : MarginMode)
    (positionMode : Option PositionMode) (posSide : Option PositionSide) : String :=
  match productType with
  | .spot =>
    match marginMode with
    | .cross => symbol ++ ":spot:cross"
    | .isolated => symbol ++ ":spot:isolated"
    | .cash => symbol
  | .derivatives =>
    match positionMode, normalizePositionSide posSide positionMode with
    | some .longShortMode, some .long => symbol ++ ":long"
    | some .longShortMode, some .short => symbol ++ ":short"
    | _, _ => symbol

def positionKeyForFill (fill : FillEvent) : String :=
  buildPositionKey fill.symbol fill.productType fill.marginMode fill.positionMode fill.posSide

def exposureSideFromQuantity (quantity : ℚ) : ExposureSide :=
  if epsilon12 < quantity then .long
  else if quantity < -epsilon12 then .short
  else .flat

end Aats
