import Aats.Execution.CancelOrder
import Aats.Governance.RiskEngine
import Aats.Lib.KeyedList
import Aats.Portfolio.Snapshots

/-!
# The intents of the strategy sleeves

What a sleeve asks of the account, as `PortfolioAllocatorV2Phase2` of `strategy_engines/allocator.py`
reads it: what notional a request comes to, which part of it only takes risk away and is exempt from
the caps, and what a request becomes when it is scaled down.

## Main definitions
* `intentIsActionable` — a request that there is something to do about.
-/

namespace Aats.Allocation

open Execution (strip)
open Governance (LegOrderAction)
open Portfolio (quantizeDecimal)

/-! ### Records -/

inductive StrategyFamily
  | directional
  | smartArbitrage
  | spotGrid
  | dca
  | independent
  | protective
  | opportunistic
  deriving DecidableEq, Repr

def StrategyFamily.text : StrategyFamily → String
  | directional => "directional"
  | smartArbitrage => "smart_arbitrage"
  | spotGrid => "spot_grid"
  | dca => "dca"
  | independent => "independent"
  | protective => "protective"
  | opportunistic => "opportunistic"

inductive StrategyCandidateState
  | ready
  | inactive
  | disabled
  | incompatible
  | advisoryOnly
  | candidate
  | blocked
  | opening
  | active
  | rebalancing
  | unwinding
  | recovery
  deriving DecidableEq, Repr

inductive StrategyRouteAction
  | overrideTarget
  | holdCurrent
  | advisoryOnly
  | protectiveFallback
  deriving DecidableEq, Repr

inductive StrategySleeveExecutionBehavior
  | executeTarget
  | holdCurrent
  | advisoryOnly
  | suppressedAfterApproval
  | protectiveExecute
  deriving DecidableEq, Repr

/-- `AllocatorHedgePriorityClass`. -/
inductive HedgePriorityClass
  | standard
  | inventory
  | hedge
  | criticalHedge
  deriving DecidableEq, Repr

structure StrategyLegIntent where
  posSide : Option PositionSide := none
  action : Option LegOrderAction := none
  currentPositionQty : Option ℚ := none
  targetPositionQty : Option ℚ := none
  deltaPositionQty : Option ℚ := none
  referencePrice : Option ℚ := none
  pairId : Option String := none
  note : Option String := none
  deriving DecidableEq, Repr

/-- `StrategySleeveIntent`, with the metrics that are numbers. -/
structure StrategySleeveIntent where
  family : StrategyFamily
  strategySleeveId : String
  state : StrategyCandidateState := .inactive
  symbol : String
  productType : ProductType
  marginMode : MarginMode
  routeAction : StrategyRouteAction := .holdCurrent
  selectable : Bool := false
  executionCompatible : Bool := false
  executionBehavior : Option StrategySleeveExecutionBehavior := none
  currentPositionQty : ℚ := 0
  targetPositionQty : ℚ := 0
  deltaPositionQty : ℚ := 0
  accountCurrentPositionQty : Option ℚ := none
  accountTargetPositionQty : Option ℚ := none
  targetNotional : Option ℚ := none
  priorityScore : ℚ := 0
  reasonCodes : List String := []
  budgetMultiplier : ℚ := 1
  allocatorWeight : ℚ := 1
  metrics : List (String × ℚ) := []
  legs : List StrategyLegIntent := []
  deriving DecidableEq, Repr

structure SleeveBudgetAssignment where
  strategySleeveId : String
  activeBudgetMultiplier : ℚ := 1
  allocatorBaseWeight : ℚ := 1
  effectiveQuoteBudgetLimit : Option ℚ := none
  effectiveMarginBudgetLimit : Option ℚ := none
  effectiveNotionalCap : Option ℚ := none
  effectiveMaxSymbolNotional : Option ℚ := none
  hedgePriorityClass : HedgePriorityClass := .standard
  deriving DecidableEq, Repr

structure PositionTarget where
  symbol : String
  productType : ProductType := .spot
  marginMode : MarginMode := .cash
  currentPositionQty : ℚ
  targetPositionQty : ℚ
  currentNotional : ℚ
  targetNotional : ℚ
  targetLeverage : ℚ := 1
  deriving DecidableEq, Repr

/-! ### Prices -/

/-- `_reference_price`: the first of the prices among the metrics that is above nothing. -/
def referencePrice (intent : StrategySleeveIntent) : Option ℚ :=
  ["current_price", "spot_price", "derivatives_price", "anchor_price"].findSome? fun key =>
    (intent.metrics.lookup key).filter (epsilon12 < ·)

def baseTargetReferencePrice (baseTarget : PositionTarget) : ℚ :=
  if epsilon12 < |baseTarget.targetPositionQty| ∧ epsilon12 < |baseTarget.targetNotional| then
    |baseTarget.targetNotional / baseTarget.targetPositionQty|
  else if epsilon12 < |baseTarget.currentPositionQty| ∧ epsilon12 < |baseTarget.currentNotional| then
    |baseTarget.currentNotional / baseTarget.currentPositionQty|
  else 0

/-- `self._reference_price(intent) or self._base_target_reference_price(base_target)`. -/
def fallbackReferencePrice (intent : StrategySleeveIntent) (baseTarget : PositionTarget) : ℚ :=
  (referencePrice intent).getD (baseTargetReferencePrice baseTarget)

def legReferencePrice (leg : StrategyLegIntent) (fallback : ℚ) : ℚ :=
  if |leg.referencePrice.getD 0| ≤ epsilon12 then fallback else |leg.referencePrice.getD 0|

/-! ### Legs -/

def explicitLegs (intent : StrategySleeveIntent) : List StrategyLegIntent :=
  intent.legs.filter fun leg =>
    (leg.posSide = some .long ∨ leg.posSide = some .short) ∧ leg.action ≠ none

def isIndependentFullCloseLeg (leg : StrategyLegIntent) : Bool :=
  decide (epsilon12 < |leg.currentPositionQty.getD 0|) &&
    decide (|leg.targetPositionQty.getD 0| ≤ epsilon12)

def intentHasDelta (intent : StrategySleeveIntent) : Bool :=
  decide (epsilon12 < |intent.deltaPositionQty|) ||
    intent.legs.any fun leg => epsilon12 < |leg.deltaPositionQty.getD 0|

def intentHasExplicitLegInventory (intent : StrategySleeveIntent)
    (includeActiveInventory : Bool) : Bool :=
  (explicitLegs intent).any (fun leg => epsilon12 < |leg.deltaPositionQty.getD 0|) ||
    (explicitLegs intent).any (fun leg => epsilon12 < |leg.targetPositionQty.getD 0|) ||
    (includeActiveInventory &&
      (explicitLegs intent).any fun leg => epsilon12 < |leg.currentPositionQty.getD 0|)

def intentIsActionable (intent : StrategySleeveIntent) (includeActiveInventory : Bool) : Bool :=
  if !intent.executionCompatible then false
  else if intent.routeAction = .advisoryOnly then false
  else if intent.routeAction = .overrideTarget ∧ intent.selectable then true
  else if intentHasExplicitLegInventory intent includeActiveInventory then true
  else if intent.family = .smartArbitrage ∧
      (intent.legs.any (fun leg => epsilon12 < |leg.targetPositionQty.getD 0|) ∨
        intent.legs.any (fun leg => epsilon12 < |leg.currentPositionQty.getD 0|)) then true
  else if includeActiveInventory ∧ epsilon12 < |intent.currentPositionQty| then true
  else decide (intent.routeAction = .holdCurrent ∧ epsilon12 < |intent.targetPositionQty|)

/-! ### Exempt notionals -/

def independentFullCloseRequestedNotional (intent : StrategySleeveIntent)
    (baseTarget : PositionTarget) : ℚ :=
  let reference := fallbackReferencePrice intent baseTarget
  let total := (((explicitLegs intent).filter fun leg => isIndependentFullCloseLeg leg).map fun leg =>
    |leg.currentPositionQty.getD 0| * legReferencePrice leg reference).sum
  if intent.family ≠ .independent then 0
  else if explicitLegs intent ≠ [] ∧ epsilon12 < total then total
  else if epsilon12 < |intent.targetPositionQty| then 0
  else if |intent.currentPositionQty| ≤ epsilon12 then 0
  else if reference ≤ epsilon12 then 0
  else |intent.currentPositionQty| * reference

/-- `_derivatives_de_risk_requested_notional`: all of a request that only reduces is exempt. -/
def derivativesDeRiskRequestedNotional (intent : StrategySleeveIntent) (requested : ℚ) : ℚ :=
  let moving := intent.legs.filter fun leg => epsilon12 < |leg.deltaPositionQty.getD 0|
  let sameSideOrFlat := |intent.targetPositionQty| ≤ epsilon12 ∨
    0 < intent.currentPositionQty * intent.targetPositionQty
  if intent.productType ≠ .derivatives then 0
  else if intent.legs ≠ [] then
    if moving ≠ [] ∧ ∀ leg ∈ moving, leg.action = some .close ∨ leg.action = some .reduce then
      max requested 0
    else 0
  else if |intent.currentPositionQty| ≤ epsilon12 then 0
  else if sameSideOrFlat ∧ |intent.targetPositionQty| ≤ |intent.currentPositionQty| + epsilon12 then
    max requested 0
  else 0

theorem derivativesDeRiskRequestedNotional_nonneg (intent : StrategySleeveIntent) (requested : ℚ) :
    0 ≤ derivativesDeRiskRequestedNotional intent requested := by
  unfold derivativesDeRiskRequestedNotional
  extract_lets moving sameSideOrFlat
  split_ifs <;> first | exact le_refl 0 | exact le_max_right _ _

/-! ### Requested notionals -/

/-- `pair_notionals[pair_id] = max(pair_notionals.get(pair_id, 0), leg_notional)`. -/
def raiseTo (notionals : List (String × ℚ)) (pairId : String) (notional : ℚ) : List (String × ℚ) :=
  KeyedList.upsert Prod.fst notionals (pairId, max ((notionals.lookup pairId).getD 0) notional)

/-- `_smart_arbitrage_requested_notional`: the larger leg of each pair, and the legs without one. -/
def smartArbitrageRequestedNotional (intent : StrategySleeveIntent) (baseTarget : PositionTarget) :
    ℚ :=
  let reference := fallbackReferencePrice intent baseTarget
  let moving := intent.legs.filter fun leg => epsilon12 < |leg.deltaPositionQty.getD 0|
  let notional := fun leg : StrategyLegIntent =>
    |leg.deltaPositionQty.getD 0| * legReferencePrice leg reference
  let pairOf := fun leg : StrategyLegIntent => strip (leg.pairId.getD "")
  let pairs := moving.foldl (fun pairs leg =>
    if pairOf leg = "" then pairs else raiseTo pairs (pairOf leg) (notional leg)) []
  (pairs.map Prod.snd).sum + ((moving.filter fun leg => pairOf leg = "").map notional).sum

def requestedNotional (intent : StrategySleeveIntent) (baseTarget : PositionTarget)
    (assignment : Option SleeveBudgetAssignment) : ℚ :=
  let reference := fallbackReferencePrice intent baseTarget
  let target := |intent.targetNotional.getD 0|
  let grouped := smartArbitrageRequestedNotional intent baseTarget
  let total := (intent.legs.map fun leg =>
    |leg.deltaPositionQty.getD 0| * legReferencePrice leg reference).sum
  let fullClose := independentFullCloseRequestedNotional intent baseTarget
  -- an independent request with legs is counted by its legs, as its target notional is net of them
  if ¬(intent.legs ≠ [] ∧ intent.family = .independent) ∧ epsilon12 < target then target
  else if intent.legs ≠ [] ∧ intent.family = .smartArbitrage ∧ epsilon12 < grouped then grouped
  else if intent.legs ≠ [] ∧ epsilon12 < total then total
  else if epsilon12 < target then target
  else if epsilon12 < fullClose then fullClose
  else
    match assignment.bind (·.effectiveMaxSymbolNotional) with
    | some limit =>
      if reference ≤ epsilon12 then |limit| else |intent.deltaPositionQty| * reference
    | none => |intent.deltaPositionQty| * reference

/-! ### Weights and scaling -/

def budgetMultiplierFor (intent : StrategySleeveIntent)
    (assignment : Option SleeveBudgetAssignment) : ℚ :=
  (assignment.map (·.activeBudgetMultiplier)).getD intent.budgetMultiplier

def allocatorWeightFor (intent : StrategySleeveIntent)
    (assignment : Option SleeveBudgetAssignment) : ℚ :=
  match assignment with
  | none => intent.allocatorWeight
  | some assignment => quantizeDecimal (intent.allocatorWeight * assignment.allocatorBaseWeight)

def hedgePriorityRank : HedgePriorityClass → ℕ
  | .criticalHedge => 0
  | .hedge => 1
  | .inventory => 2
  | .standard => 3

def scaleLeg (leg : StrategyLegIntent) (ratio : ℚ) : StrategyLegIntent :=
  let delta := quantizeDecimal (leg.deltaPositionQty.getD 0 * ratio)
  { leg with
    deltaPositionQty := some delta
    targetPositionQty := some (leg.currentPositionQty.getD 0 + delta)
    note := match leg.note with
      | none | some "" => some "allocator_v2_budget_scaled"
      | some note => some (note ++ " | allocator_v2_budget_scaled") }

/-- `_scale_intent` with a `budget_ratio`. -/
def scaleIntent (intent : StrategySleeveIntent) (scaledDeltaQty budgetRatio : ℚ)
    (preserveIndependentFullCloseLegs : Bool) : StrategySleeveIntent :=
  let scaledLegs := intent.legs.map fun leg =>
    if preserveIndependentFullCloseLegs && isIndependentFullCloseLeg leg then leg
    else scaleLeg leg budgetRatio
  let resolvedDeltaQty :=
    if scaledLegs ≠ [] then
      quantizeDecimal ((scaledLegs.map fun leg => leg.deltaPositionQty.getD 0).sum)
    else quantizeDecimal (scaledDeltaQty * budgetRatio)
  { intent with
    deltaPositionQty := resolvedDeltaQty
    targetPositionQty := intent.currentPositionQty + resolvedDeltaQty
    accountTargetPositionQty := intent.accountCurrentPositionQty.map (· + resolvedDeltaQty)
    legs := scaledLegs
    reasonCodes := intent.reasonCodes ++ ["allocator_v2_budget_scaled"] }

end Aats.Allocation
