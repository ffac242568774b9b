import Mathlib.Algebra.Order.Field.Rat
import Mathlib.Tactic.NormNum

/-!
# Shared records

The literal types and records of `aats/schemas` that more than one service reads. A
`Literal` of the source is an inductive type, a `Decimal` is a rational number (all
arithmetic is exact), and a record keeps the fields that some modelled function reads
or copies.
-/

namespace Aats

/-! ### Literal types -/

inductive Side
  | buy
  | sell
  deriving DecidableEq, Repr, Inhabited

inductive ProductType
  | spot
  | derivatives
  deriving DecidableEq, Repr, Inhabited

/-- `MarginModelType`. -/
inductive MarginMode
  | cash
  | cross
  | isolated
  deriving DecidableEq, Repr, Inhabited

inductive PositionMode
  | netMode
  | longShortMode
  deriving DecidableEq, Repr, Inhabited

inductive PositionSide
  | net
  | long
  | short
  deriving DecidableEq, Repr, Inhabited

inductive ExposureSide
  | long
  | short
  | flat
  deriving DecidableEq, Repr, Inhabited

/-! ### Fills -/

/-- `FillEvent`: one execution report of the exchange. A positive `feeAmount` is a cost,
a negative one a rebate. -/
structure FillEvent where
  fillId : String
  decisionId : String := ""
  intentId : String := ""
  clientOrderId : String := ""
  symbol : String
  venue : String := "PAPER"
  side : Side
  fillQty : ℚ
  fillPrice : ℚ
  feeAmount : ℚ
  feeCurrency : Option String := none
  positionMode : Option PositionMode := none
  posSide : Option PositionSide := none
  instrumentFamily : Option String := none
  settleCurrency : Option String := none
  productType : ProductType := .spot
  targetLeverage : ℚ := 1
  marginMode : MarginMode := .cash
  deriving DecidableEq, Repr

/-! ### Tolerance -/

/-- `EPSILON_DECIMAL_12`: quantities up to this size count as zero. -/
def epsilon12 : ℚ := 1 / 10 ^ 12

def isEffectivelyZero (value : ℚ) : Bool := decide (|value| ≤ epsilon12)

theorem epsilon12_pos : 0 < epsilon12 := by norm_num [epsilon12]

end Aats
