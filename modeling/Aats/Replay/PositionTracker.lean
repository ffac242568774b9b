import Aats.Domain.InstrumentContract
import Aats.Lib.Restoring

/-!
# The position tracker of a backtest

`aats/data_platform/replay/backtest/position_tracker.py`, in exact arithmetic: the position of one
symbol under a sequence of fills and marks. A fill opens, adds to, reduces, closes or reverses the
position. The methods assign to the tracker as the source does, under a handler that puts a
checkpoint back.

## Main definitions
* `Moved` — what a transition does to the held quantity and to the money made so far.
* `Sound` — a position is flat exactly when its average price is zero, and spot is never short.

## Main results
* `moved_transition` — **every transition is a move**: it exchanges its quantity at the fill price.
* `restores_applyFill`, `restores_markToMarket` — **a call that raises changes nothing**.
-/

namespace Aats.Replay.Backtest

open Domain Restoring

/-! ### Records -/

/-- `str(text or "").strip().upper()`. -/
def stripUpper (text : String) : String :=
  let stripped := ((text.toList.dropWhile Char.isWhitespace).reverse.dropWhile
    Char.isWhitespace).reverse
  String.ofList (stripped.map Char.toUpper)

structure Fill where
  side : Side
  filledQty : ℚ
  avgFillPrice : ℚ
  feeNotional : ℚ
  feeCurrency : String
  instrumentSymbol : String
  instrumentContractFingerprint : String
  tsMs : ℤ
  feeAsset : Option String := none
  feeAssetQuantity : Option ℚ := none
  deriving DecidableEq, Repr

structure PositionSnapshot where
  netQty : ℚ
  avgEntryPrice : ℚ
  realizedPnl : ℚ
  unrealizedPnl : ℚ
  lastMarkPrice : ℚ
  accumulatedFees : ℚ
  fillCount : ℕ
  tsMs : ℤ
  settlementCurrency : String
  instrumentSymbol : String
  instrumentContractFingerprint : String
  deriving DecidableEq, Repr

/-- The variables of a `PositionTracker`; its contract is a parameter of its methods. -/
structure PositionTracker where
  netQty : ℚ := 0
  avgEntryPrice : ℚ := 0
  realizedPnl : ℚ := 0
  accumulatedFees : ℚ := 0
  lastMarkPrice : ℚ := 0
  fillCount : ℕ := 0
  lastTsMs : ℤ := 0
  deriving DecidableEq, Repr

abbrev Method (α : Type) := EStateM ValueError PositionTracker α

variable (contract : InstrumentContract) (fingerprint : InstrumentContract → String)

/-- `PositionTracker.__init__`. -/
def newTracker : Except ValueError PositionTracker := do
  Fallible.raiseIf (contract.instrumentType = .margin)
    { text := "margin_position_accounting_unavailable" }
  return {}

variable {contract} in
theorem instrumentType_of_newTracker {start : PositionTracker}
    (h : newTracker contract = .ok start) (hspot : contract.contractType = .spot) :
    contract.instrumentType = .spot := by
  simp only [newTracker, Fallible.bind_eq_ok, Fallible.raiseIf_eq_ok] at h
  obtain ⟨_, hmargin, -⟩ := h
  exact (contract.instrumentType_of_spot hspot).resolve_right hmargin

def symbolText : String := "-".intercalate contract.symbol

/-! ### Checks -/

/-- `_resolve_fee_lineage`: the asset that is charged, and how much of it. -/
def resolveFeeLineage (fill : Fill) : Except ValueError (String × ℚ) := do
  Fallible.raiseIf (fill.feeAsset.isNone ≠ fill.feeAssetQuantity.isNone)
    { text := "fill_fee_asset_lineage_incomplete" }
  let feeAsset := stripUpper (match fill.feeAsset with
    | none | some "" => fill.feeCurrency
    | some asset => asset)
  let feeAssetQuantity := fill.feeAssetQuantity.getD fill.feeNotional
  let settlementValue ← (contract.feeSettlementValue feeAssetQuantity feeAsset
    fill.avgFillPrice).mapError fun _ => { text := "fill_fee_asset_unsupported" }
  Fallible.raiseIf (settlementValue ≠ fill.feeNotional)
    { text := "fill_fee_asset_settlement_value_mismatch" }
  return (feeAsset, feeAssetQuantity)

def validateFill (fill : Fill) : Except ValueError Unit := do
  Fallible.raiseIf (fill.filledQty ≤ 0)
    { text := "fill.filled_qty must be positive, got ", got := some fill.filledQty }
  let _ ← contract.validateExchangeQuantity fill.filledQty
  Fallible.raiseIf (fill.avgFillPrice ≤ 0)
    { text := "fill.avg_fill_price must be positive, got ", got := some fill.avgFillPrice }
  Fallible.raiseIf (stripUpper fill.feeCurrency ≠ contract.settleCurrency)
    { text := "fill_fee_currency_mismatch" }
  let _ ← resolveFeeLineage contract fill
  Fallible.raiseIf (stripUpper fill.instrumentSymbol ≠ symbolText contract)
    { text := "fill_instrument_symbol_mismatch" }
  Fallible.raiseIf (fill.instrumentContractFingerprint ≠ fingerprint contract)
    { text := "fill_instrument_contract_fingerprint_mismatch" }

def SameDirection (a b : ℚ) : Prop := (0 < a ∧ 0 < b) ∨ (a < 0 ∧ b < 0)

instance decidableSameDirection (a b : ℚ) : Decidable (SameDirection a b) :=
  inferInstanceAs (Decidable (_ ∨ _))

def grossSignedFillQty (fill : Fill) : ℚ :=
  if fill.side = .buy then fill.filledQty else -fill.filledQty

/-- The signed quantity that reaches the inventory: a fee of a spot fill in the base currency comes
out of it. -/
def signedFillQty (fill : Fill) : Except ValueError ℚ := do
  let (feeAsset, feeAssetQuantity) ← resolveFeeLineage contract fill
  if contract.contractType = .spot ∧ feeAsset = contract.baseCurrency then
    let signed := InstrumentContract.addExchangeQuantities
      [grossSignedFillQty fill, -feeAssetQuantity]
    Fallible.raiseIf (signed = 0 ∨ ¬SameDirection (grossSignedFillQty fill) signed)
      { text := "fill_base_fee_invalid_inventory_delta" }
    return signed
  return grossSignedFillQty fill

/-! ### Transitions -/

def openFromFlat (signedQty fillPrice : ℚ) : Method Unit := do
  modify fun t => { t with netQty := signedQty }
  modify fun t => { t with avgEntryPrice := fillPrice }

def addToPosition (signedQty fillPrice : ℚ) : Method Unit := do
  let t ← get
  let avgEntryPrice ← lift (contract.combinedEntryPrice |t.netQty| t.avgEntryPrice |signedQty|
    fillPrice)
  modify fun t => { t with avgEntryPrice }
  modify fun t =>
    { t with netQty := InstrumentContract.addExchangeQuantities [t.netQty, signedQty] }

/-- The profit of `signedQty` at the fill price, added to what is realised. -/
def realize (signedQty fillPrice : ℚ) : Method Unit := do
  let t ← get
  let pnl ← lift (contract.settlementPnl signedQty t.avgEntryPrice fillPrice)
  modify fun t =>
    { t with realizedPnl := InstrumentContract.addSettlementAmounts [t.realizedPnl, pnl] }

def reducePosition (signedQty fillPrice : ℚ) : Method Unit := do
  let t ← get
  realize contract (if 0 < t.netQty then |signedQty| else -|signedQty|) fillPrice
  modify fun t =>
    { t with netQty := InstrumentContract.addExchangeQuantities [t.netQty, signedQty] }

def closePosition (fillPrice : ℚ) : Method Unit := do
  let t ← get
  realize contract (if 0 < t.netQty then |t.netQty| else -|t.netQty|) fillPrice
  modify fun t => { t with netQty := 0 }
  modify fun t => { t with avgEntryPrice := 0 }

/-- `_reverse_position`: close the old position, then open the rest. -/
def reversePosition (signedQty fillPrice oldNetQty : ℚ) : Method Unit := do
  realize contract (if 0 < oldNetQty then |oldNetQty| else -|oldNetQty|) fillPrice
  modify fun t =>
    { t with netQty := InstrumentContract.addExchangeQuantities [signedQty, oldNetQty] }
  modify fun t => { t with avgEntryPrice := fillPrice }

def transition (oldNetQty signedQty fillPrice : ℚ) : Method Unit :=
  if oldNetQty = 0 then
    openFromFlat signedQty fillPrice
  else if SameDirection oldNetQty signedQty then
    addToPosition contract signedQty fillPrice
  else if |signedQty| < |oldNetQty| then
    reducePosition contract signedQty fillPrice
  else if |signedQty| = |oldNetQty| then
    closePosition contract fillPrice
  else
    reversePosition contract signedQty fillPrice oldNetQty

/-! ### The two methods -/

def computeUnrealized (t : PositionTracker) : Except ValueError ℚ :=
  if t.netQty = 0 then .ok 0
  else contract.settlementPnl t.netQty t.avgEntryPrice t.lastMarkPrice

def buildSnapshot : Method PositionSnapshot := do
  let t ← get
  let unrealizedPnl ← lift (computeUnrealized contract t)
  return {
    netQty := t.netQty
    avgEntryPrice := t.avgEntryPrice
    realizedPnl := t.realizedPnl
    unrealizedPnl
    lastMarkPrice := t.lastMarkPrice
    accumulatedFees := t.accumulatedFees
    fillCount := t.fillCount
    tsMs := t.lastTsMs
    settlementCurrency := contract.settleCurrency
    instrumentSymbol := symbolText contract
    instrumentContractFingerprint := fingerprint contract }

def applyFill (fill : Fill) : Method PositionSnapshot := do
  lift (validateFill contract fingerprint fill)
  let signedQty ← lift (signedFillQty contract fill)
  let t ← get
  let oldNetQty := t.netQty
  let prospectiveNetQty := InstrumentContract.addExchangeQuantities [oldNetQty, signedQty]
  lift (Fallible.raiseIf (contract.instrumentType = .spot ∧ prospectiveNetQty < 0)
    { text := "spot_short_position_unavailable" })
  restoring do
    transition contract oldNetQty signedQty fill.avgFillPrice
    modify fun t => { t with accumulatedFees :=
      InstrumentContract.addSettlementAmounts [t.accumulatedFees, fill.feeNotional] }
    modify fun t => { t with lastMarkPrice := fill.avgFillPrice }
    modify fun t => { t with fillCount := t.fillCount + 1 }
    modify fun t => { t with lastTsMs := fill.tsMs }
    buildSnapshot contract fingerprint

def markToMarket (markPrice : ℚ) (tsMs : ℤ) : Method PositionSnapshot := do
  lift (Fallible.raiseIf (markPrice ≤ 0)
    { text := "mark_price must be positive, got ", got := some markPrice })
  restoring do
    modify fun t => { t with lastMarkPrice := markPrice }
    modify fun t => { t with lastTsMs := tsMs }
    buildSnapshot contract fingerprint

/-! ### Calls that raise -/

theorem restores_applyFill (fill : Fill) : Restores (applyFill contract fingerprint fill) :=
  Restores.lift_bind fun _ _ => Restores.lift_bind fun _ _ => Restores.get_bind fun _ =>
    Restores.lift_bind fun _ _ => restores_restoring _

theorem restores_markToMarket (markPrice : ℚ) (tsMs : ℤ) :
    Restores (markToMarket contract fingerprint markPrice tsMs) :=
  Restores.lift_bind fun _ _ => restores_restoring _

/-! ### What a transition does -/

variable {contract fingerprint} {signedQty fillPrice : ℚ} {t t' : PositionTracker} {fill : Fill}
  {snapshot : PositionSnapshot} {u : Unit}

/-- A position and its average price: both zero or neither. -/
def Entered (t : PositionTracker) : Prop :=
  (t.netQty = 0 ∧ t.avgEntryPrice = 0) ∨ (t.netQty ≠ 0 ∧ 0 < t.avgEntryPrice)

/-- A transition exchanges `signedQty` at the fill price: what is realised, less the cost of what is
held, falls by the value of the quantity, and the rest stays. -/
structure Moved (contract : InstrumentContract) (signedQty fillPrice : ℚ)
    (t t' : PositionTracker) : Prop where
  netQty : t'.netQty = t.netQty + signedQty
  book : t'.realizedPnl - t'.netQty * contract.unitValue t'.avgEntryPrice =
    t.realizedPnl - t.netQty * contract.unitValue t.avgEntryPrice -
      signedQty * contract.unitValue fillPrice
  entered : Entered t'
  fees : t'.accumulatedFees = t.accumulatedFees
  fillCount : t'.fillCount = t.fillCount

theorem realize_eq_ok : realize contract signedQty fillPrice t = .ok u t' ↔
    0 < t.avgEntryPrice ∧ 0 < fillPrice ∧ t' = { t with realizedPnl := t.realizedPnl +
      signedQty * (contract.unitValue fillPrice - contract.unitValue t.avgEntryPrice) } := by
  simp only [realize, bind_eq_ok, get_eq_ok, lift_eq_ok, modify_eq_ok,
    InstrumentContract.settlementPnl_eq_ok, InstrumentContract.addSettlementAmounts,
    List.sum_cons, List.sum_nil, add_zero]
  constructor
  · rintro ⟨_, _, ⟨rfl, rfl⟩, _, _, ⟨⟨hentry, hexit, rfl⟩, rfl⟩, rfl⟩
    exact ⟨hentry, hexit, rfl⟩
  · rintro ⟨hentry, hexit, rfl⟩
    exact ⟨_, _, ⟨rfl, rfl⟩, _, _, ⟨⟨hentry, hexit, rfl⟩, rfl⟩, rfl⟩

theorem directed_abs (quantity : ℚ) :
    (if 0 < quantity then |quantity| else -|quantity|) = quantity := by
  split
  next h => exact abs_of_pos h
  next h => rw [abs_of_nonpos (not_lt.mp h), neg_neg]

theorem moved_openFromFlat (hflat : t.netQty = 0) (hqty : signedQty ≠ 0) (hprice : 0 < fillPrice)
    (h : openFromFlat signedQty fillPrice t = .ok u t') :
    Moved contract signedQty fillPrice t t' := by
  simp only [openFromFlat, bind_eq_ok, modify_eq_ok] at h
  obtain ⟨_, _, rfl, rfl⟩ := h
  refine ⟨?_, ?_, Or.inr ⟨hqty, hprice⟩, rfl, rfl⟩
  · rw [hflat, zero_add]
  · rw [hflat, zero_mul, sub_zero]

theorem moved_addToPosition (hsame : SameDirection t.netQty signedQty)
    (h : addToPosition contract signedQty fillPrice t = .ok u t') :
    Moved contract signedQty fillPrice t t' := by
  simp only [addToPosition, bind_eq_ok, get_eq_ok, lift_eq_ok, modify_eq_ok,
    InstrumentContract.addExchangeQuantities, List.sum_cons, List.sum_nil, add_zero] at h
  obtain ⟨_, _, ⟨rfl, rfl⟩, avg, _, ⟨hcombined, rfl⟩, _, _, rfl, rfl⟩ := h
  obtain ⟨havg, hvalue⟩ := InstrumentContract.combinedEntryPrice_eq_ok hcombined
  rcases hsame with ⟨hnet, hqty⟩ | ⟨hnet, hqty⟩
  · rw [abs_of_pos hnet, abs_of_pos hqty] at hvalue
    exact ⟨rfl, by simp only; linarith, Or.inr ⟨(add_pos hnet hqty).ne', havg⟩, rfl, rfl⟩
  · rw [abs_of_neg hnet, abs_of_neg hqty] at hvalue
    exact ⟨rfl, by simp only; linarith, Or.inr ⟨(add_neg hnet hqty).ne, havg⟩, rfl, rfl⟩

theorem opposite_of_not_sameDirection {a b : ℚ} (ha : a ≠ 0) (hb : b ≠ 0)
    (h : ¬SameDirection a b) : (0 < a ∧ b < 0) ∨ (a < 0 ∧ 0 < b) := by
  unfold SameDirection at h
  rcases lt_or_gt_of_ne ha with ha | ha <;> rcases lt_or_gt_of_ne hb with hb | hb
  · exact absurd (Or.inr ⟨ha, hb⟩) h
  · exact Or.inr ⟨ha, hb⟩
  · exact Or.inl ⟨ha, hb⟩
  · exact absurd (Or.inl ⟨ha, hb⟩) h

theorem moved_reducePosition (hopposite : (0 < t.netQty ∧ signedQty < 0) ∨
      (t.netQty < 0 ∧ 0 < signedQty)) (hless : |signedQty| < |t.netQty|)
    (h : reducePosition contract signedQty fillPrice t = .ok u t') :
    Moved contract signedQty fillPrice t t' := by
  simp only [reducePosition, bind_eq_ok, get_eq_ok, modify_eq_ok, realize_eq_ok,
    InstrumentContract.addExchangeQuantities, List.sum_cons, List.sum_nil, add_zero] at h
  obtain ⟨_, _, ⟨rfl, rfl⟩, _, _, ⟨hentry, -, rfl⟩, rfl⟩ := h
  rcases hopposite with ⟨hnet, hqty⟩ | ⟨hnet, hqty⟩
  · rw [abs_of_neg hqty, abs_of_pos hnet] at hless
    refine ⟨rfl, ?_, Or.inr ⟨by simp only; linarith, hentry⟩, rfl, rfl⟩
    simp only [if_pos hnet, abs_of_neg hqty]
    ring
  · rw [abs_of_pos hqty, abs_of_neg hnet] at hless
    refine ⟨rfl, ?_, Or.inr ⟨by simp only; linarith, hentry⟩, rfl, rfl⟩
    simp only [if_neg (not_lt.mpr hnet.le), abs_of_pos hqty]
    ring

theorem moved_closePosition (hopposite : (0 < t.netQty ∧ signedQty < 0) ∨
      (t.netQty < 0 ∧ 0 < signedQty)) (heq : |signedQty| = |t.netQty|)
    (h : closePosition contract fillPrice t = .ok u t') :
    Moved contract signedQty fillPrice t t' := by
  have hsum : t.netQty = -signedQty := by
    rcases hopposite with ⟨hnet, hqty⟩ | ⟨hnet, hqty⟩
    · rw [abs_of_neg hqty, abs_of_pos hnet] at heq
      exact heq.symm
    · rw [abs_of_pos hqty, abs_of_neg hnet] at heq
      linarith
  simp only [closePosition, bind_eq_ok, get_eq_ok, modify_eq_ok, realize_eq_ok, directed_abs] at h
  obtain ⟨_, _, ⟨rfl, rfl⟩, _, _, ⟨-, -, rfl⟩, _, _, rfl, rfl⟩ := h
  refine ⟨by rw [hsum, neg_add_cancel], ?_, Or.inl ⟨rfl, rfl⟩, rfl, rfl⟩
  simp only [hsum]
  ring

theorem moved_reversePosition (hprice : 0 < fillPrice) (hsum : t.netQty + signedQty ≠ 0)
    (h : reversePosition contract signedQty fillPrice t.netQty t = .ok u t') :
    Moved contract signedQty fillPrice t t' := by
  simp only [reversePosition, bind_eq_ok, modify_eq_ok, realize_eq_ok, directed_abs,
    InstrumentContract.addExchangeQuantities, List.sum_cons, List.sum_nil, add_zero] at h
  obtain ⟨_, _, ⟨-, -, rfl⟩, _, _, rfl, rfl⟩ := h
  refine ⟨add_comm _ _, ?_, Or.inr ⟨by rwa [add_comm], hprice⟩, rfl, rfl⟩
  simp only
  ring

theorem moved_transition (hqty : signedQty ≠ 0) (hprice : 0 < fillPrice)
    (h : transition contract t.netQty signedQty fillPrice t = .ok u t') :
    Moved contract signedQty fillPrice t t' := by
  unfold transition at h
  split at h
  next hflat => exact moved_openFromFlat hflat hqty hprice h
  next hopen =>
    split at h
    next hsame => exact moved_addToPosition hsame h
    next hdirection =>
      have hopposite := opposite_of_not_sameDirection hopen hqty hdirection
      split at h
      next hless => exact moved_reducePosition hopposite hless h
      next =>
        split at h
        next heq => exact moved_closePosition hopposite heq h
        next hne =>
          refine moved_reversePosition hprice (fun hsum => hne ?_) h
          rw [eq_neg_of_add_eq_zero_right hsum, abs_neg]

/-! ### What a call does -/

theorem buildSnapshot_eq_ok (h : buildSnapshot contract fingerprint t = .ok snapshot t') :
    t' = t ∧ computeUnrealized contract t = .ok snapshot.unrealizedPnl ∧
      snapshot = {
        netQty := t.netQty
        avgEntryPrice := t.avgEntryPrice
        realizedPnl := t.realizedPnl
        unrealizedPnl := snapshot.unrealizedPnl
        lastMarkPrice := t.lastMarkPrice
        accumulatedFees := t.accumulatedFees
        fillCount := t.fillCount
        tsMs := t.lastTsMs
        settlementCurrency := contract.settleCurrency
        instrumentSymbol := symbolText contract
        instrumentContractFingerprint := fingerprint contract } := by
  simp only [buildSnapshot, bind_eq_ok, get_eq_ok, lift_eq_ok, pure_eq_ok] at h
  obtain ⟨_, _, ⟨rfl, rfl⟩, _, _, ⟨hunrealized, rfl⟩, rfl, rfl⟩ := h
  exact ⟨rfl, hunrealized, rfl⟩

theorem computeUnrealized_eq_ok {unrealized : ℚ}
    (h : computeUnrealized contract t = .ok unrealized) :
    unrealized =
      t.netQty * (contract.unitValue t.lastMarkPrice - contract.unitValue t.avgEntryPrice) := by
  unfold computeUnrealized at h
  split at h
  next hflat =>
    cases h
    rw [hflat, zero_mul]
  next => exact (InstrumentContract.settlementPnl_eq_ok.mp h).2.2

theorem validateFill_eq_ok (h : validateFill contract fingerprint fill = .ok u) :
    0 < fill.filledQty ∧ 0 < fill.avgFillPrice := by
  simp only [validateFill, Fallible.bind_eq_ok, Fallible.raiseIf_eq_ok, not_le] at h
  obtain ⟨_, hqty, _, -, _, hprice, -⟩ := h
  exact ⟨hqty, hprice⟩

theorem signedFillQty_ne_zero (hqty : 0 < fill.filledQty)
    (h : signedFillQty contract fill = .ok signedQty) : signedQty ≠ 0 := by
  have hgross : grossSignedFillQty fill ≠ 0 := by
    unfold grossSignedFillQty
    split
    · exact hqty.ne'
    · exact (neg_neg_of_pos hqty).ne
  simp only [signedFillQty, Fallible.bind_eq_ok] at h
  obtain ⟨_, -, h⟩ := h
  split at h
  next =>
    simp only [Fallible.bind_eq_ok, Fallible.raiseIf_eq_ok, Fallible.pure_eq_ok, not_or] at h
    obtain ⟨_, ⟨hne, -⟩, rfl⟩ := h
    exact hne
  next => exact Fallible.pure_eq_ok.mp h ▸ hgross

/-- What an accepted fill does: a move of its signed quantity, its fee, and its price as the mark. -/
structure Filled (contract : InstrumentContract) (fill : Fill) (t t' : PositionTracker) : Prop where
  moved : ∃ signedQty, signedFillQty contract fill = .ok signedQty ∧
    t'.netQty = t.netQty + signedQty ∧
    t'.realizedPnl - t'.netQty * contract.unitValue t'.avgEntryPrice =
      t.realizedPnl - t.netQty * contract.unitValue t.avgEntryPrice -
        signedQty * contract.unitValue fill.avgFillPrice
  entered : Entered t'
  spot : contract.instrumentType = .spot → 0 ≤ t'.netQty
  fees : t'.accumulatedFees = t.accumulatedFees + fill.feeNotional
  mark : t'.lastMarkPrice = fill.avgFillPrice

structure Shows (contract : InstrumentContract) (fingerprint : InstrumentContract → String)
    (snapshot : PositionSnapshot) (t : PositionTracker) : Prop where
  realized : snapshot.realizedPnl = t.realizedPnl
  unrealized : snapshot.unrealizedPnl =
    t.netQty * (contract.unitValue t.lastMarkPrice - contract.unitValue t.avgEntryPrice)
  fees : snapshot.accumulatedFees = t.accumulatedFees
  currency : snapshot.settlementCurrency = contract.settleCurrency
  symbol : snapshot.instrumentSymbol = symbolText contract
  identity : snapshot.instrumentContractFingerprint = fingerprint contract

theorem shows_of_buildSnapshot (h : buildSnapshot contract fingerprint t = .ok snapshot t') :
    t' = t ∧ Shows contract fingerprint snapshot t := by
  obtain ⟨rfl, hunrealized, hsnapshot⟩ := buildSnapshot_eq_ok h
  refine ⟨rfl, ?_⟩
  have hvalue := computeUnrealized_eq_ok hunrealized
  rw [hsnapshot]
  exact ⟨rfl, hvalue, rfl, rfl, rfl, rfl⟩

theorem applyFill_eq_ok (h : applyFill contract fingerprint fill t = .ok snapshot t') :
    Filled contract fill t t' ∧ Shows contract fingerprint snapshot t' := by
  simp only [applyFill, bind_eq_ok, lift_eq_ok, get_eq_ok, restoring_eq_ok, modify_eq_ok,
    Fallible.raiseIf_eq_ok] at h
  obtain ⟨⟨⟩, _, ⟨hvalid, rfl⟩, signedQty, _, ⟨hsigned, rfl⟩, _, _, ⟨rfl, rfl⟩, ⟨⟩, _, ⟨hspot, rfl⟩,
    ⟨⟩, mid, htransition, ⟨⟩, _, rfl, ⟨⟩, _, rfl, ⟨⟩, _, rfl, ⟨⟩, _, rfl, hsnapshot⟩ := h
  obtain ⟨hqty, hprice⟩ := validateFill_eq_ok hvalid
  have hmoved := moved_transition (signedFillQty_ne_zero hqty hsigned) hprice htransition
  obtain ⟨rfl, hshows⟩ := shows_of_buildSnapshot hsnapshot
  refine ⟨⟨⟨signedQty, hsigned, hmoved.netQty, hmoved.book⟩, hmoved.entered, fun hkind => ?_, ?_,
    rfl⟩, hshows⟩
  · rw [hmoved.netQty]
    simpa [InstrumentContract.addExchangeQuantities, hkind] using hspot
  · simp only [InstrumentContract.addSettlementAmounts, List.sum_cons, List.sum_nil, add_zero,
      hmoved.fees]

theorem markToMarket_eq_ok {markPrice : ℚ} {tsMs : ℤ}
    (h : markToMarket contract fingerprint markPrice tsMs t = .ok snapshot t') :
    t' = { t with lastMarkPrice := markPrice, lastTsMs := tsMs } ∧
      Shows contract fingerprint snapshot t' := by
  simp only [markToMarket, bind_eq_ok, lift_eq_ok, restoring_eq_ok, modify_eq_ok] at h
  obtain ⟨⟨⟩, _, ⟨-, rfl⟩, ⟨⟩, _, rfl, ⟨⟩, _, rfl, hsnapshot⟩ := h
  obtain ⟨rfl, hshows⟩ := shows_of_buildSnapshot hsnapshot
  exact ⟨rfl, hshows⟩

end Aats.Replay.Backtest
