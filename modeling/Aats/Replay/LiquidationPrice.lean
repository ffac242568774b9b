import Aats.Domain.InstrumentContract
import Aats.Replay.EventMerge

/-!
# The liquidation price

`aats/data_platform/replay/derivatives_backtest/accounting.py`, the part on isolated liquidation,
over the contract of `contracts.py`, in exact arithmetic. A position is liquidatable at a mark when
its equity there is at most the maintenance margin and the cost of the forced close; the raw
liquidation price solves the equality, and the conservative one is aligned to the tick.

## Main results
* `liquidationPrice_spec` — **the price is where the test changes**, and what a missing price says
  of a long and of a short.
-/

namespace Aats.Replay.Accounting

open Fallible Domain

/-! ### The records -/

/-- What `DerivativesBacktestContractError(code)` and `DerivativesAccountingError(code)` carry. -/
def accountingError (code : String) : ContractError := { code := code }

/-- `require_positive_decimal`, on numbers that are finite and within the digit bounds. -/
def requirePositiveDecimal (value : ℚ) (fieldName : String) : Except ContractError ℚ := do
  raiseIf (value ≤ 0) (accountingError (fieldName ++ "_invalid"))
  return value

def requireNonNegativeDecimal (value : ℚ) (fieldName : String) : Except ContractError ℚ := do
  raiseIf (value < 0) (accountingError (fieldName ++ "_invalid"))
  return value

@[simp] theorem requirePositiveDecimal_eq_ok {value result : ℚ} {fieldName : String} :
    requirePositiveDecimal value fieldName = .ok result ↔ 0 < value ∧ result = value := by
  simp only [requirePositiveDecimal, bind_eq_ok, raiseIf_eq_ok, pure_eq_ok, not_le, exists_const]
  exact and_congr_right fun _ => eq_comm

@[simp] theorem requireNonNegativeDecimal_eq_ok {value result : ℚ} {fieldName : String} :
    requireNonNegativeDecimal value fieldName = .ok result ↔ 0 ≤ value ∧ result = value := by
  simp only [requireNonNegativeDecimal, bind_eq_ok, raiseIf_eq_ok, pure_eq_ok, not_lt,
    exists_const]
  exact and_congr_right fun _ => eq_comm

def validateRawV1InstrumentContract (contract : InstrumentContract) : Except ContractError Unit := do
  raiseIf (contract.symbol ≠ ["BTC", "USDT", "SWAP"] ∨ contract.instrumentType ≠ .swap ∨
      contract.contractType ≠ .linear ∨ contract.baseCurrency ≠ "BTC" ∨
      contract.quoteCurrency ≠ "USDT" ∨ contract.settleCurrency ≠ "USDT" ∨
      contract.contractValueCurrency ≠ "BTC")
    (accountingError "derivatives_backtest_instrument_scope_unsupported")
  let _ ← (contract.validateExchangeQuantity contract.minSize).mapError fun _ =>
    accountingError "instrument_contract_discrete_rules_invalid"
  let _ ← (contract.validateExchangePrice contract.tickSize).mapError fun _ =>
    accountingError "instrument_contract_discrete_rules_invalid"
  let _ ← requirePositiveDecimal contract.faceValue "instrument_face_value"

/-- `LinearPerpetualContractV1`. -/
structure LinearPerpetualContract where
  instrument : InstrumentContract
  valid : validateRawV1InstrumentContract instrument = .ok ()

/-- `_instrument_contract_error`: the text of the shared boundary is the code here. -/
def instrumentContractError (exc : ValueError) : ContractError := accountingError exc.text

namespace LinearPerpetualContract

variable (contract : LinearPerpetualContract)

theorem contractType_eq : contract.instrument.contractType = .linear := by
  have h := contract.valid
  simp only [validateRawV1InstrumentContract, bind_eq_ok, raiseIf_eq_ok, not_or, not_not] at h
  obtain ⟨_, ⟨-, -, hkind, -⟩, -⟩ := h
  exact hkind

/-- `face_value` of the facade. -/
def faceValue : ℚ := contract.instrument.faceValue

theorem faceValue_pos : 0 < contract.faceValue := InstrumentContract.faceValue_pos

/-- `validate_exchange_quantity` of the facade. -/
def validateExchangeQuantity (quantity : ℚ) : Except ContractError ℚ := do
  let resolved ← requirePositiveDecimal quantity "exchange_quantity"
  (contract.instrument.validateExchangeQuantity resolved).mapError instrumentContractError

/-- `base_quantity` of the facade. -/
def baseQuantity (exchangeQuantity : ℚ) : Except ContractError ℚ :=
  (contract.instrument.baseQuantity exchangeQuantity none).mapError instrumentContractError

/-- `quote_notional` of the facade. -/
def quoteNotional (exchangeQuantity price : ℚ) : Except ContractError ℚ := do
  let resolvedPrice ← requirePositiveDecimal price "price"
  let result ← (contract.instrument.quoteNotional exchangeQuantity resolvedPrice).mapError
    instrumentContractError
  requireNonNegativeDecimal result "quote_notional"

/-- `settlement_pnl` of the facade. -/
def settlementPnl (exchangeQuantity entryPrice exitPrice : ℚ) : Except ContractError ℚ := do
  let entry ← requirePositiveDecimal entryPrice "entry_price"
  let exit ← requirePositiveDecimal exitPrice "exit_price"
  (contract.instrument.settlementPnl exchangeQuantity entry exit).mapError instrumentContractError

/-- `execution_price` of the facade. -/
def executionPrice (referencePrice : ℚ) (side : Side) (slippageBps : ℚ) :
    Except ContractError ℚ := do
  let price ← requirePositiveDecimal referencePrice "reference_price"
  let slippage ← requireNonNegativeDecimal slippageBps "slippage_bps"
  let result ← (contract.instrument.executionPrice price side slippage).mapError
    instrumentContractError
  requirePositiveDecimal result "execution_price"

variable {contract} {quantity price entry exit result : ℚ}

theorem baseQuantity_eq : contract.baseQuantity quantity = .ok (quantity * contract.faceValue) := by
  rw [baseQuantity, InstrumentContract.baseQuantity, contract.contractType_eq]
  rfl

theorem quoteNotional_eq (hprice : 0 < price) :
    contract.quoteNotional quantity price = .ok (|quantity| * contract.faceValue * price) := by
  have hface := contract.faceValue_pos
  refine bind_eq_ok.mpr ⟨price, requirePositiveDecimal_eq_ok.mpr ⟨hprice, rfl⟩,
    bind_eq_ok.mpr ⟨_, mapError_eq_ok.mpr ?_, requireNonNegativeDecimal_eq_ok.mpr ⟨?_, rfl⟩⟩⟩
  · rw [InstrumentContract.quoteNotional, contract.contractType_eq]
    exact bind_eq_ok.mpr ⟨price, InstrumentContract.requiredPrice_eq_ok.mpr ⟨hprice, rfl⟩, rfl⟩
  · positivity

theorem settlementPnl_eq (hentry : 0 < entry) (hexit : 0 < exit) :
    contract.settlementPnl quantity entry exit =
      .ok (quantity * contract.faceValue * (exit - entry)) := by
  refine bind_eq_ok.mpr ⟨entry, requirePositiveDecimal_eq_ok.mpr ⟨hentry, rfl⟩,
    bind_eq_ok.mpr ⟨exit, requirePositiveDecimal_eq_ok.mpr ⟨hexit, rfl⟩, mapError_eq_ok.mpr ?_⟩⟩
  refine InstrumentContract.settlementPnl_eq_ok.mpr ⟨hentry, hexit, ?_⟩
  rw [InstrumentContract.unitValue, InstrumentContract.unitValue, contract.contractType_eq,
    faceValue]
  ring

theorem le_executionPrice_of_buy (h : contract.executionPrice price .buy 0 = .ok result) :
    price ≤ result := by
  simp only [executionPrice, bind_eq_ok, requirePositiveDecimal_eq_ok,
    requireNonNegativeDecimal_eq_ok, mapError_eq_ok] at h
  obtain ⟨_, ⟨-, rfl⟩, _, ⟨-, rfl⟩, _, haligned, -, rfl⟩ := h
  exact InstrumentContract.le_executionPrice_of_buy haligned

theorem executionPrice_le_of_sell (h : contract.executionPrice price .sell 0 = .ok result) :
    result ≤ price := by
  simp only [executionPrice, bind_eq_ok, requirePositiveDecimal_eq_ok,
    requireNonNegativeDecimal_eq_ok, mapError_eq_ok] at h
  obtain ⟨_, ⟨-, rfl⟩, _, ⟨-, rfl⟩, _, haligned, -, rfl⟩ := h
  exact InstrumentContract.executionPrice_le_of_sell haligned

end LinearPerpetualContract

/-- The arguments of `PositionTierV1`. -/
structure PositionTierTerms where
  tierId : ℤ
  minimumNotionalInclusive : ℚ
  maximumNotionalInclusive : ℚ
  maximumLeverage : ℚ
  maintenanceMarginRate : ℚ
  maintenanceMarginDeduction : ℚ
  liquidationFeeRate : ℚ
  deriving DecidableEq, Repr

def PositionTierTerms.postInit (terms : PositionTierTerms) : Except ContractError Unit := do
  raiseIf (terms.tierId ≠ 1) (accountingError "position_tier_out_of_v1_scope")
  let lower ← requireNonNegativeDecimal terms.minimumNotionalInclusive "minimum_notional_inclusive"
  let upper ← requirePositiveDecimal terms.maximumNotionalInclusive "maximum_notional_inclusive"
  let leverage ← requirePositiveDecimal terms.maximumLeverage "maximum_leverage"
  let mmr ← requirePositiveDecimal terms.maintenanceMarginRate "maintenance_margin_rate"
  let liquidationFee ← requireNonNegativeDecimal terms.liquidationFeeRate "liquidation_fee_rate"
  raiseIf (lower ≠ 0 ∨ upper ≤ lower) (accountingError "position_tier_bounds_invalid")
  raiseIf (leverage < 1) (accountingError "maximum_leverage_invalid")
  raiseIf (1 ≤ mmr) (accountingError "maintenance_margin_rate_invalid")
  raiseIf (terms.maintenanceMarginDeduction ≠ 0)
    (accountingError "position_tier_deduction_out_of_v1_scope")
  raiseIf (1 ≤ liquidationFee) (accountingError "liquidation_fee_rate_invalid")

/-- `PositionTierV1`. -/
structure PositionTier extends PositionTierTerms where
  valid : toPositionTierTerms.postInit = .ok ()

theorem PositionTier.rates (tier : PositionTier) :
    0 < tier.maintenanceMarginRate ∧ tier.maintenanceMarginDeduction = 0 := by
  have h := tier.valid
  simp only [PositionTierTerms.postInit, bind_eq_ok, raiseIf_eq_ok, requirePositiveDecimal_eq_ok,
    requireNonNegativeDecimal_eq_ok, not_not] at h
  obtain ⟨_, -, _, -, _, -, _, -, _, ⟨hmmr, rfl⟩, _, -, _, -, _, -, _, -, _, hdeduction, -⟩ := h
  exact ⟨hmmr, hdeduction⟩

def PositionTier.Covers (tier : PositionTier) (notional : ℚ) : Prop :=
  tier.minimumNotionalInclusive ≤ notional ∧ notional ≤ tier.maximumNotionalInclusive

instance decidableCovers (tier : PositionTier) (notional : ℚ) : Decidable (tier.Covers notional) :=
  inferInstanceAs (Decidable (_ ∧ _))

/-- The arguments of `ExecutionFeeScheduleV1`. -/
structure ExecutionFeeScheduleTerms where
  makerFeeRate : ℚ
  takerFeeRate : ℚ
  feeAsset : String
  deriving DecidableEq, Repr

def ExecutionFeeScheduleTerms.postInit (terms : ExecutionFeeScheduleTerms) :
    Except ContractError Unit := do
  raiseIf (terms.feeAsset ≠ "USDT") (accountingError "fee_asset_out_of_v1_scope")
  raiseIf (¬(-1 < terms.makerFeeRate ∧ terms.makerFeeRate < 1))
    (accountingError "maker_fee_rate_invalid")
  raiseIf (¬(-1 < terms.takerFeeRate ∧ terms.takerFeeRate < 1))
    (accountingError "taker_fee_rate_invalid")

/-- `ExecutionFeeScheduleV1`. -/
structure ExecutionFeeSchedule extends ExecutionFeeScheduleTerms where
  valid : toExecutionFeeScheduleTerms.postInit = .ok ()

/-- The fields of `PositionStateV1` beside its contract. -/
structure PositionState where
  contracts : ℚ
  averageEntryPrice : Option ℚ
  deriving DecidableEq, Repr

def PositionState.postInit (contract : LinearPerpetualContract) (position : PositionState) :
    Except ContractError Unit := do
  if position.contracts = 0 then
    raiseIf (position.averageEntryPrice ≠ none)
      (accountingError "flat_position_average_entry_must_be_none")
  else
    let _ ← (contract.validateExchangeQuantity |position.contracts|).mapError fun _ =>
      accountingError "position_contracts_invalid"
    match position.averageEntryPrice with
    | none => .error (accountingError "open_position_average_entry_required")
    | some price =>
      let _ ← requirePositiveDecimal price "average_entry_price"

def PositionState.side (position : PositionState) : ExposureSide :=
  if 0 < position.contracts then .long else if position.contracts < 0 then .short else .flat

/-- `assert position.average_entry_price is not None`. -/
def PositionState.entry (position : PositionState) : Except ContractError ℚ :=
  match position.averageEntryPrice with
  | none => .error (accountingError "AssertionError")
  | some price => .ok price

/-! ### The test at a mark -/

def signedContracts (contract : LinearPerpetualContract) (value : ℚ) (fieldName : String) :
    Except ContractError ℚ := do
  if value = 0 then
    return 0
  let _ ← (contract.validateExchangeQuantity |value|).mapError fun _ =>
    accountingError (fieldName ++ "_invalid")
  return value

/-- `_position`. -/
def resolvePosition (contract : LinearPerpetualContract) (positionContracts : ℚ)
    (averageEntryPrice : Option ℚ) : Except ContractError PositionState := do
  let contracts ← signedContracts contract positionContracts "position_contracts"
  let position : PositionState := { contracts, averageEntryPrice }
  position.postInit contract
  return position

def signedBaseExposure (contract : LinearPerpetualContract) (positionContracts : ℚ) :
    Except ContractError ℚ := do
  let contracts ← signedContracts contract positionContracts "position_contracts"
  (contract.baseQuantity contracts).mapError fun _ => accountingError "base_exposure_invalid"

def quoteNotional (contract : LinearPerpetualContract) (positionContracts price : ℚ) :
    Except ContractError ℚ := do
  let contracts ← signedContracts contract positionContracts "position_contracts"
  let resolvedPrice ← requirePositiveDecimal price "price"
  (contract.quoteNotional contracts resolvedPrice).mapError fun _ =>
    accountingError "quote_notional_invalid"

def assertTierNotional (tier : PositionTier) (notional : ℚ) : Except ContractError Unit := do
  let resolved ← requirePositiveDecimal notional "position_notional"
  raiseIf (¬tier.Covers resolved) (accountingError "position_tier_out_of_v1_scope")

def unrealizedPnl (contract : LinearPerpetualContract) (positionContracts : ℚ)
    (averageEntryPrice : Option ℚ) (markPrice : ℚ) : Except ContractError ℚ := do
  let position ← resolvePosition contract positionContracts averageEntryPrice
  let mark ← requirePositiveDecimal markPrice "mark_price"
  if position.side = .flat then
    return 0
  let entry ← position.entry
  (contract.settlementPnl position.contracts entry mark).mapError fun _ =>
    accountingError "unrealized_pnl_invalid"

def isolatedEquity (isolatedBalance unrealized : ℚ) : ℚ :=
  InstrumentContract.addSettlementAmounts [isolatedBalance, unrealized]

def maintenanceMarginRequired (contract : LinearPerpetualContract)
    (positionContracts markPrice : ℚ) (tier : PositionTier) : Except ContractError ℚ := do
  let contracts ← signedContracts contract positionContracts "position_contracts"
  let mark ← requirePositiveDecimal markPrice "mark_price"
  if contracts = 0 then
    return 0
  let notional ← quoteNotional contract contracts mark
  assertTierNotional tier notional
  return max 0 (notional * tier.maintenanceMarginRate - tier.maintenanceMarginDeduction)

def forcedCloseRate (tier : PositionTier) (feeSchedule : ExecutionFeeSchedule) :
    Except ContractError ℚ := do
  let rate := max 0 feeSchedule.takerFeeRate + tier.liquidationFeeRate
  let rho := tier.maintenanceMarginRate + rate
  raiseIf (rho ≤ 0 ∨ 1 ≤ rho) (accountingError "liquidation_rate_invalid")
  return rate

def forcedCloseCost (contract : LinearPerpetualContract) (positionContracts markPrice : ℚ)
    (tier : PositionTier) (feeSchedule : ExecutionFeeSchedule) : Except ContractError ℚ := do
  let contracts ← signedContracts contract positionContracts "position_contracts"
  let mark ← requirePositiveDecimal markPrice "mark_price"
  let rate ← forcedCloseRate tier feeSchedule
  if contracts = 0 then
    return 0
  let notional ← quoteNotional contract contracts mark
  assertTierNotional tier notional
  return notional * rate

def liquidationRequirement (contract : LinearPerpetualContract) (positionContracts markPrice : ℚ)
    (tier : PositionTier) (feeSchedule : ExecutionFeeSchedule) : Except ContractError ℚ := do
  let maintenance ← maintenanceMarginRequired contract positionContracts markPrice tier
  let closeCost ← forcedCloseCost contract positionContracts markPrice tier feeSchedule
  return InstrumentContract.addSettlementAmounts [maintenance, closeCost]

def isLiquidatable (contract : LinearPerpetualContract) (positionContracts : ℚ)
    (averageEntryPrice : Option ℚ) (markPrice isolatedBalance : ℚ) (tier : PositionTier)
    (feeSchedule : ExecutionFeeSchedule) : Except ContractError Bool := do
  let position ← resolvePosition contract positionContracts averageEntryPrice
  let _ ← forcedCloseRate tier feeSchedule
  let mark ← requirePositiveDecimal markPrice "mark_price"
  if position.side = .flat then
    return false
  let unrealized ← unrealizedPnl contract position.contracts position.averageEntryPrice mark
  let equity := isolatedEquity isolatedBalance unrealized
  let requirement ← liquidationRequirement contract position.contracts mark tier feeSchedule
  return equity ≤ requirement

/-! ### The price -/

def rawLiquidationPrice (contract : LinearPerpetualContract) (positionContracts : ℚ)
    (averageEntryPrice : Option ℚ) (isolatedBalance : ℚ) (tier : PositionTier)
    (feeSchedule : ExecutionFeeSchedule) : Except ContractError (Option ℚ) := do
  let position ← resolvePosition contract positionContracts averageEntryPrice
  let closeRate ← forcedCloseRate tier feeSchedule
  if position.side = .flat then
    return none
  let entry ← position.entry
  let exposure ← signedBaseExposure contract position.contracts
  let absoluteExposure := |exposure|
  raiseIf (absoluteExposure ≤ 0) (accountingError "liquidation_exposure_invalid")
  let rho := tier.maintenanceMarginRate + closeRate
  let collateralPerBase := (isolatedBalance + tier.maintenanceMarginDeduction) / absoluteExposure
  let numerator := if position.side = .long then entry - collateralPerBase
    else entry + collateralPerBase
  -- Only the long branch leaves before it divides.
  if position.side = .long ∧ numerator ≤ 0 then
    return none
  let price := if position.side = .long then numerator / (1 - rho) else numerator / (1 + rho)
  if price ≤ 0 then
    return none
  let liquidationNotional ← quoteNotional contract position.contracts price
  assertTierNotional tier liquidationNotional
  return some price

def conservativeLiquidationPrice (contract : LinearPerpetualContract) (positionContracts : ℚ)
    (averageEntryPrice : Option ℚ) (isolatedBalance : ℚ) (tier : PositionTier)
    (feeSchedule : ExecutionFeeSchedule) : Except ContractError (Option ℚ) := do
  let position ← resolvePosition contract positionContracts averageEntryPrice
  let raw ← rawLiquidationPrice contract position.contracts position.averageEntryPrice
    isolatedBalance tier feeSchedule
  match raw with
  | none => return none
  | some price =>
    let aligned ← (contract.executionPrice price (if position.side = .long then .buy else .sell)
      0).mapError fun _ => accountingError "liquidation_tick_alignment_invalid"
    return some aligned

/-! ### The records of an open position -/

variable {contract : LinearPerpetualContract} {contracts entry mark balance rate : ℚ}
  {tier : PositionTier} {fees : ExecutionFeeSchedule}

structure OpenPosition (contract : LinearPerpetualContract) (contracts entry : ℚ) : Prop where
  ne_zero : contracts ≠ 0
  valid : ∃ resolved, contract.validateExchangeQuantity |contracts| = .ok resolved
  entry_pos : 0 < entry

namespace OpenPosition

variable (h : OpenPosition contract contracts entry)

include h

theorem signedContracts (fieldName : String) :
    signedContracts contract contracts fieldName = .ok contracts := by
  obtain ⟨resolved, hresolved⟩ := h.valid
  rw [Accounting.signedContracts, if_neg h.ne_zero, hresolved]
  rfl

theorem resolvePosition :
    resolvePosition contract contracts (some entry) = .ok ⟨contracts, some entry⟩ := by
  obtain ⟨resolved, hresolved⟩ := h.valid
  refine bind_eq_ok.mpr ⟨contracts, h.signedContracts _, bind_eq_ok.mpr ⟨(), ?_, rfl⟩⟩
  rw [PositionState.postInit, if_neg h.ne_zero]
  exact bind_eq_ok.mpr ⟨resolved, mapError_eq_ok.mpr hresolved, bind_eq_ok.mpr ⟨entry,
    requirePositiveDecimal_eq_ok.mpr ⟨h.entry_pos, rfl⟩, rfl⟩⟩

theorem quoteNotional (hmark : 0 < mark) :
    quoteNotional contract contracts mark = .ok (|contracts| * contract.faceValue * mark) :=
  bind_eq_ok.mpr ⟨contracts, h.signedContracts _, bind_eq_ok.mpr ⟨mark,
    requirePositiveDecimal_eq_ok.mpr ⟨hmark, rfl⟩,
    mapError_eq_ok.mpr (LinearPerpetualContract.quoteNotional_eq hmark)⟩⟩

theorem signedBaseExposure :
    signedBaseExposure contract contracts = .ok (contracts * contract.faceValue) :=
  bind_eq_ok.mpr ⟨contracts, h.signedContracts _,
    mapError_eq_ok.mpr LinearPerpetualContract.baseQuantity_eq⟩

theorem side_ne_flat : PositionState.side ⟨contracts, some entry⟩ ≠ .flat := by
  unfold PositionState.side
  rcases lt_or_gt_of_ne h.ne_zero with hneg | hpos
  · rw [if_neg (not_lt.mpr hneg.le), if_pos hneg]
    exact nofun
  · rw [if_pos hpos]
    exact nofun

theorem unrealizedPnl (hmark : 0 < mark) : unrealizedPnl contract contracts (some entry) mark =
    .ok (contracts * contract.faceValue * (mark - entry)) := by
  refine bind_eq_ok.mpr ⟨_, h.resolvePosition, bind_eq_ok.mpr ⟨mark,
    requirePositiveDecimal_eq_ok.mpr ⟨hmark, rfl⟩, ?_⟩⟩
  rw [if_neg h.side_ne_flat]
  exact mapError_eq_ok.mpr (LinearPerpetualContract.settlementPnl_eq h.entry_pos hmark)

theorem exposure_pos : 0 < |contracts| * contract.faceValue :=
  mul_pos (abs_pos.mpr h.ne_zero) contract.faceValue_pos

end OpenPosition

theorem openPosition_of_resolvePosition {averageEntryPrice : Option ℚ} {position : PositionState}
    (h : resolvePosition contract contracts averageEntryPrice = .ok position)
    (hopen : contracts ≠ 0) :
    ∃ entry, averageEntryPrice = some entry ∧ OpenPosition contract contracts entry ∧
      position = ⟨contracts, some entry⟩ := by
  simp only [resolvePosition, signedContracts, if_neg hopen, bind_eq_ok, mapError_eq_ok,
    pure_eq_ok] at h
  obtain ⟨_, ⟨resolved, hresolved, rfl⟩, ⟨⟩, hinit, rfl⟩ := h
  cases averageEntryPrice with
  | none =>
    simp only [PositionState.postInit, if_neg hopen, bind_eq_ok] at hinit
    obtain ⟨_, -, hinit⟩ := hinit
    cases hinit
  | some entry =>
    simp only [PositionState.postInit, if_neg hopen, bind_eq_ok,
      requirePositiveDecimal_eq_ok] at hinit
    obtain ⟨_, -, _, ⟨hentry, -⟩, -⟩ := hinit
    exact ⟨entry, rfl, ⟨hopen, ⟨resolved, hresolved⟩, hentry⟩, rfl⟩

theorem forcedCloseRate_eq_ok (h : forcedCloseRate tier fees = .ok rate) :
    0 < tier.maintenanceMarginRate + rate ∧ tier.maintenanceMarginRate + rate < 1 := by
  simp only [forcedCloseRate, bind_eq_ok, raiseIf_eq_ok, pure_eq_ok, not_or, not_le] at h
  obtain ⟨_, hrho, rfl⟩ := h
  exact hrho

theorem assertTierNotional_eq_ok {notional : ℚ} (hpos : 0 < notional) (h : tier.Covers notional) :
    assertTierNotional tier notional = .ok () :=
  bind_eq_ok.mpr ⟨notional, requirePositiveDecimal_eq_ok.mpr ⟨hpos, rfl⟩,
    raiseIf_of_not _ (not_not_intro h)⟩

/-! ### The test and the price in closed form -/

section ClosedForm

variable (h : OpenPosition contract contracts entry) (hrate : forcedCloseRate tier fees = .ok rate)

include h hrate

theorem liquidationRequirement_eq (hmark : 0 < mark)
    (htier : tier.Covers (|contracts| * contract.faceValue * mark)) :
    liquidationRequirement contract contracts mark tier fees =
      .ok (|contracts| * contract.faceValue * mark * (tier.maintenanceMarginRate + rate)) := by
  have hnotional : 0 < |contracts| * contract.faceValue * mark := mul_pos h.exposure_pos hmark
  have hmaintenance : maintenanceMarginRequired contract contracts mark tier =
      .ok (|contracts| * contract.faceValue * mark * tier.maintenanceMarginRate) := by
    rw [maintenanceMarginRequired]
    refine bind_eq_ok.mpr ⟨_, h.signedContracts _, bind_eq_ok.mpr ⟨_,
      requirePositiveDecimal_eq_ok.mpr ⟨hmark, rfl⟩, ?_⟩⟩
    rw [if_neg h.ne_zero]
    refine bind_eq_ok.mpr ⟨_, h.quoteNotional hmark, bind_eq_ok.mpr ⟨(),
      assertTierNotional_eq_ok hnotional htier, pure_eq_ok.mpr ?_⟩⟩
    rw [tier.rates.2, sub_zero, max_eq_right (mul_pos hnotional tier.rates.1).le]
  have hcost : forcedCloseCost contract contracts mark tier fees =
      .ok (|contracts| * contract.faceValue * mark * rate) := by
    rw [forcedCloseCost]
    refine bind_eq_ok.mpr ⟨_, h.signedContracts _, bind_eq_ok.mpr ⟨_,
      requirePositiveDecimal_eq_ok.mpr ⟨hmark, rfl⟩, bind_eq_ok.mpr ⟨_, hrate, ?_⟩⟩⟩
    rw [if_neg h.ne_zero]
    exact bind_eq_ok.mpr ⟨_, h.quoteNotional hmark, bind_eq_ok.mpr ⟨(),
      assertTierNotional_eq_ok hnotional htier, rfl⟩⟩
  refine bind_eq_ok.mpr ⟨_, hmaintenance, bind_eq_ok.mpr ⟨_, hcost, pure_eq_ok.mpr ?_⟩⟩
  simp only [InstrumentContract.addSettlementAmounts, List.sum_cons, List.sum_nil]
  ring

theorem isLiquidatable_eq (hmark : 0 < mark)
    (htier : tier.Covers (|contracts| * contract.faceValue * mark)) :
    isLiquidatable contract contracts (some entry) mark balance tier fees =
      .ok (decide (balance + contracts * contract.faceValue * (mark - entry) ≤
        |contracts| * contract.faceValue * mark * (tier.maintenanceMarginRate + rate))) := by
  refine bind_eq_ok.mpr ⟨_, h.resolvePosition, bind_eq_ok.mpr ⟨_, hrate, bind_eq_ok.mpr ⟨_,
    requirePositiveDecimal_eq_ok.mpr ⟨hmark, rfl⟩, ?_⟩⟩⟩
  rw [if_neg h.side_ne_flat]
  refine bind_eq_ok.mpr ⟨_, h.unrealizedPnl hmark, bind_eq_ok.mpr ⟨_,
    liquidationRequirement_eq h hrate hmark htier, pure_eq_ok.mpr ?_⟩⟩
  simp only [isolatedEquity, InstrumentContract.addSettlementAmounts, List.sum_cons, List.sum_nil,
    add_zero]

theorem rawLiquidationPrice_long (hlong : 0 < contracts) {raw : Option ℚ}
    (hraw : rawLiquidationPrice contract contracts (some entry) balance tier fees = .ok raw) :
    (raw = none ∧ entry - balance / (|contracts| * contract.faceValue) ≤ 0) ∨
      raw = some ((entry - balance / (|contracts| * contract.faceValue)) /
        (1 - (tier.maintenanceMarginRate + rate))) := by
  have hside : PositionState.side ⟨contracts, some entry⟩ = .long := if_pos hlong
  have hrho := forcedCloseRate_eq_ok hrate
  simp only [rawLiquidationPrice, bind_eq_ok, h.resolvePosition, hrate, hside,
    h.signedBaseExposure, tier.rates.2, add_zero, abs_mul, abs_of_pos contract.faceValue_pos,
    raiseIf_eq_ok, Except.ok.injEq, exists_eq_left', reduceCtorEq, if_false, if_true, true_and,
    PositionState.entry] at hraw
  obtain ⟨-, -, hraw⟩ := hraw
  split at hraw
  next hnumerator => exact Or.inl ⟨(pure_eq_ok.mp hraw).symm, hnumerator⟩
  next hnumerator =>
    split at hraw
    next hprice =>
      have hpos : 0 < 1 - (tier.maintenanceMarginRate + rate) := sub_pos.mpr hrho.2
      exact absurd hprice (not_le.mpr (div_pos (not_le.mp hnumerator) hpos))
    next =>
      obtain ⟨_, -, ⟨⟩, -, hraw⟩ := by simpa only [bind_eq_ok] using hraw
      exact Or.inr (pure_eq_ok.mp hraw).symm

theorem rawLiquidationPrice_short (hshort : contracts < 0) {raw : Option ℚ}
    (hraw : rawLiquidationPrice contract contracts (some entry) balance tier fees = .ok raw) :
    (raw = none ∧ entry + balance / (|contracts| * contract.faceValue) ≤ 0) ∨
      raw = some ((entry + balance / (|contracts| * contract.faceValue)) /
        (1 + (tier.maintenanceMarginRate + rate))) := by
  have hside : PositionState.side ⟨contracts, some entry⟩ = .short := by
    rw [PositionState.side, if_neg (not_lt.mpr hshort.le), if_pos hshort]
  have hrho := forcedCloseRate_eq_ok hrate
  simp only [rawLiquidationPrice, bind_eq_ok, h.resolvePosition, hrate, hside,
    h.signedBaseExposure, tier.rates.2, add_zero, abs_mul, abs_of_pos contract.faceValue_pos,
    raiseIf_eq_ok, Except.ok.injEq, exists_eq_left', reduceCtorEq, if_false, false_and,
    PositionState.entry] at hraw
  obtain ⟨-, -, hraw⟩ := hraw
  split at hraw
  next hprice =>
    have hpos : 0 < 1 + (tier.maintenanceMarginRate + rate) := by linarith [hrho.1]
    refine Or.inl ⟨(pure_eq_ok.mp hraw).symm, ?_⟩
    rwa [div_le_iff₀ hpos, zero_mul] at hprice
  next =>
    obtain ⟨_, -, ⟨⟩, -, hraw⟩ := by simpa only [bind_eq_ok] using hraw
    exact Or.inr (pure_eq_ok.mp hraw).symm

omit hrate in
theorem OpenPosition.conservativeLiquidationPrice_eq_ok {raw : Option ℚ} {aligned : ℚ}
    (hraw : rawLiquidationPrice contract contracts (some entry) balance tier fees = .ok raw)
    (halign : conservativeLiquidationPrice contract contracts (some entry) balance tier fees =
      .ok (some aligned)) :
    ∃ price, raw = some price ∧ contract.executionPrice price
      (if PositionState.side ⟨contracts, some entry⟩ = .long then .buy else .sell) 0 =
        .ok aligned := by
  simp only [conservativeLiquidationPrice, bind_eq_ok, h.resolvePosition, hraw, Except.ok.injEq,
    exists_eq_left'] at halign
  cases raw with
  | none => cases pure_eq_ok.mp halign
  | some price =>
    simp only [bind_eq_ok, mapError_eq_ok, pure_eq_ok, Option.some.injEq] at halign
    obtain ⟨_, halign, rfl⟩ := halign
    exact ⟨price, rfl, halign⟩

end ClosedForm

/-! ### The price solves the test -/

theorem long_liquidatable_iff {exposure rho : ℚ} (hexposure : 0 < exposure) (hrho : rho < 1) :
    balance + exposure * (mark - entry) ≤ exposure * mark * rho ↔
      mark ≤ (entry - balance / exposure) / (1 - rho) := by
  rw [le_div_iff₀ (sub_pos.mpr hrho)]
  have hbalance : balance = exposure * (balance / exposure) := by field_simp
  constructor
  · intro h
    rw [hbalance] at h
    have hcancel : exposure * (mark * (1 - rho)) ≤ exposure * (entry - balance / exposure) := by
      linarith
    exact le_of_mul_le_mul_left hcancel hexposure
  · intro h
    have hscaled := mul_le_mul_of_nonneg_left h hexposure.le
    rw [mul_sub exposure entry, ← hbalance] at hscaled
    linarith

theorem short_liquidatable_iff {exposure rho : ℚ} (hexposure : 0 < exposure) (hrho : 0 < rho) :
    balance + -exposure * (mark - entry) ≤ exposure * mark * rho ↔
      (entry + balance / exposure) / (1 + rho) ≤ mark := by
  rw [div_le_iff₀ (by linarith)]
  have hbalance : balance = exposure * (balance / exposure) := by field_simp
  constructor
  · intro h
    rw [hbalance] at h
    have hcancel : exposure * (entry + balance / exposure) ≤ exposure * (mark * (1 + rho)) := by
      linarith
    exact le_of_mul_le_mul_left hcancel hexposure
  · intro h
    have hscaled := mul_le_mul_of_nonneg_left h hexposure.le
    rw [mul_add exposure entry, ← hbalance] at hscaled
    linarith

/-- **The price is where the test changes.**  A long is liquidatable at the marks up to its price and
a short at the marks from its price on. A missing price says opposite things of the two: a long is
then liquidatable at no mark, and a short, which has lost more than its entry value, at every
mark. -/
theorem liquidationPrice_spec {averageEntryPrice raw : Option ℚ} (hopen : contracts ≠ 0)
    (hmark : 0 < mark) (htier : tier.Covers (|contracts| * contract.faceValue * mark))
    (hraw : rawLiquidationPrice contract contracts averageEntryPrice balance tier fees = .ok raw) :
    ∃ liquidatable,
      isLiquidatable contract contracts averageEntryPrice mark balance tier fees =
        .ok liquidatable ∧
      (∀ price, raw = some price →
        (liquidatable = true ↔ if 0 < contracts then mark ≤ price else price ≤ mark)) ∧
      (raw = none → (liquidatable = true ↔ contracts < 0)) ∧
      ∀ aligned, conservativeLiquidationPrice contract contracts averageEntryPrice balance tier
        fees = .ok (some aligned) → liquidatable = true →
          if 0 < contracts then mark ≤ aligned else aligned ≤ mark := by
  obtain ⟨position, hposition, hrest⟩ := bind_eq_ok.mp hraw
  obtain ⟨rate, hrate, -⟩ := bind_eq_ok.mp hrest
  obtain ⟨entry, rfl, h, rfl⟩ := openPosition_of_resolvePosition hposition hopen
  have hrho := forcedCloseRate_eq_ok hrate
  have hexposure := h.exposure_pos
  refine ⟨_, isLiquidatable_eq h hrate hmark htier, ?_⟩
  rw [decide_eq_true_eq]
  rcases lt_or_gt_of_ne hopen with hshort | hlong
  · -- A short loses as the mark rises.
    have hside : PositionState.side ⟨contracts, some entry⟩ = .short := by
      rw [PositionState.side, if_neg (not_lt.mpr hshort.le), if_pos hshort]
    have hsigned : contracts * contract.faceValue = -(|contracts| * contract.faceValue) := by
      rw [abs_of_neg hshort, neg_mul, neg_neg]
    rw [hsigned, short_liquidatable_iff hexposure hrho.1]
    simp only [not_lt.mpr hshort.le, if_false]
    rcases rawLiquidationPrice_short h hrate hshort hraw with ⟨rfl, hnumerator⟩ | rfl
    · refine ⟨nofun, fun _ => iff_of_true ?_ hshort, fun aligned halign _ => ?_⟩
      · have hpos : 0 < 1 + (tier.maintenanceMarginRate + rate) := by linarith [hrho.1]
        exact (div_nonpos_of_nonpos_of_nonneg hnumerator hpos.le).trans hmark.le
      · obtain ⟨price, hprice, -⟩ := h.conservativeLiquidationPrice_eq_ok hraw halign
        cases hprice
    · refine ⟨fun price hprice => ?_, nofun, fun aligned halign hliquidatable => ?_⟩
      · rw [← Option.some.inj hprice]
      · obtain ⟨price, hprice, halign⟩ := h.conservativeLiquidationPrice_eq_ok hraw halign
        rw [hside, if_neg (by decide)] at halign
        rw [← Option.some.inj hprice] at halign
        exact (LinearPerpetualContract.executionPrice_le_of_sell halign).trans hliquidatable
  · -- A long loses as the mark falls.
    have hside : PositionState.side ⟨contracts, some entry⟩ = .long := if_pos hlong
    have hsigned : contracts * contract.faceValue = |contracts| * contract.faceValue := by
      rw [abs_of_pos hlong]
    rw [hsigned, long_liquidatable_iff hexposure hrho.2]
    simp only [hlong, if_true]
    rcases rawLiquidationPrice_long h hrate hlong hraw with ⟨rfl, hnumerator⟩ | rfl
    · refine ⟨nofun, fun _ => iff_of_false ?_ (not_lt.mpr hlong.le), fun aligned halign _ => ?_⟩
      · have hpos : 0 < 1 - (tier.maintenanceMarginRate + rate) := sub_pos.mpr hrho.2
        exact not_le.mpr ((div_nonpos_of_nonpos_of_nonneg hnumerator hpos.le).trans_lt hmark)
      · obtain ⟨price, hprice, -⟩ := h.conservativeLiquidationPrice_eq_ok hraw halign
        cases hprice
    · refine ⟨fun price hprice => ?_, nofun, fun aligned halign hliquidatable => ?_⟩
      · rw [← Option.some.inj hprice]
      · obtain ⟨price, hprice, halign⟩ := h.conservativeLiquidationPrice_eq_ok hraw halign
        rw [hside, if_pos rfl] at halign
        rw [← Option.some.inj hprice] at halign
        exact hliquidatable.trans (LinearPerpetualContract.le_executionPrice_of_buy halign)

/-! ### One contract -/

def btcUsdtSwap : LinearPerpetualContract where
  instrument :=
    { symbol := ["BTC", "USDT", "SWAP"]
      instrumentType := .swap
      contractType := .linear
      baseCurrency := "BTC"
      quoteCurrency := "USDT"
      settleCurrency := "USDT"
      contractValue := 1 / 100
      contractMultiplier := 1
      contractValueCurrency := "BTC"
      lotSize := 1 / 100
      minSize := 1 / 100
      tickSize := 1 / 10
      valid := by decide +kernel }
  valid := by decide +kernel

def firstTier : PositionTier where
  tierId := 1
  minimumNotionalInclusive := 0
  maximumNotionalInclusive := 1000000
  maximumLeverage := 100
  maintenanceMarginRate := 4 / 1000
  maintenanceMarginDeduction := 0
  liquidationFeeRate := 5 / 1000
  valid := by decide +kernel

def feeSchedule : ExecutionFeeSchedule where
  makerFeeRate := -1 / 10000
  takerFeeRate := 5 / 10000
  feeAsset := "USDT"
  valid := by decide +kernel

theorem liquidationPrice_spec_long : ∃ liquidatable,
    isLiquidatable btcUsdtSwap 3 (some 60000) 54500 180 firstTier feeSchedule = .ok liquidatable ∧
      liquidatable = true ∧
      ∀ aligned, conservativeLiquidationPrice btcUsdtSwap 3 (some 60000) 180 firstTier
        feeSchedule = .ok (some aligned) → 54500 ≤ aligned := by
  have hraw : rawLiquidationPrice btcUsdtSwap 3 (some 60000) 180 firstTier feeSchedule =
      .ok (some (54000 / (1 - 95 / 10000))) := by decide +kernel
  obtain ⟨liquidatable, htest, hprice, -, haligned⟩ :=
    liquidationPrice_spec (by decide +kernel) (by decide +kernel : (0 : ℚ) < 54500)
      (by decide +kernel) hraw
  have hliquidatable := (hprice _ rfl).mpr (by decide +kernel)
  exact ⟨liquidatable, htest, hliquidatable, fun aligned h => haligned aligned h hliquidatable⟩

theorem rawLiquidationPrice_none_of_insolvent_short :
    rawLiquidationPrice btcUsdtSwap (-1) (some 60000) (-700) firstTier feeSchedule = .ok none ∧
      firstTier.Covers (|-1| * btcUsdtSwap.faceValue * 60000) ∧
      isLiquidatable btcUsdtSwap (-1) (some 60000) 60000 (-700) firstTier feeSchedule =
        .ok true := by
  decide +kernel

end Aats.Replay.Accounting
