import Aats.Allocation.Budgets
import Aats.Portfolio.Rounding

/-!
# The sleeve budget controller

`SleeveBudgetController.evaluate` contracts what a sleeve asks for: to a volatility cap, under an open
reconciliation and after a loss. What it approves goes on to the allocator, which may scale it down
further.

After a loss a directional sleeve gets nothing of a request that increases its risk. A request
through flat is not recognised as one, and gets the contracted change.

## Main results
* `evaluate_blocked_iff` — **when a directional sleeve after a loss opens nothing**.
-/

namespace Aats.Allocation

open Holdings (OnGrid)
open Portfolio (quantizeDecimal)

/-! ### Inputs -/

structure SleeveBudgetSettings where
  minBudgetMultiplier : ℚ
  reconciliationContractionMultiplier : ℚ
  softLossUsdt : ℚ
  hardLossUsdt : ℚ
  volatilityCapEnabled : Bool

/-- The latest reconciliation report, as far as the controller reads it. -/
structure ReconciliationVerdict where
  severity : String
  haltRequired : Bool := false
  resumeBlocking : Bool := false
  onlyReduceRequired : Bool := false
  reviewRequired : Bool := false

/-- `RawSleeveCandidateInputs`, as far as the controller reads it. -/
structure RawSleeveCandidateInputs where
  family : StrategyFamily
  currentPositionQty : ℚ
  targetPositionQty : ℚ
  deltaPositionQty : ℚ
  requestedLegs : List StrategyLegIntent
  activeInventory : Bool
  protectiveIntent : Bool

/-! ### Contractions -/

/-- A multiplier, with its reason codes and its lines of the trace. -/
structure Contraction where
  multiplier : ℚ := 1
  reasons : List String := []
  trace : List String := []

section Controller

variable (format : ℚ → String) (settings : SleeveBudgetSettings)

def clamp (value lower upper : ℚ) : ℚ :=
  if value < lower then lower else if upper < value then upper else value

/-- `custom_multiplier`: the volatility cap. -/
def volatilityContraction (volatilityTargetScale : ℚ) : Contraction :=
  let cap := clamp volatilityTargetScale settings.minBudgetMultiplier 1
  if settings.volatilityCapEnabled ∧ cap < 1 - epsilon12 then
    { multiplier := cap
      reasons := ["baseline_volatility_contraction_active"]
      trace := ["baseline_volatility_cap=" ++ format cap] }
  else {}

/-- `reconciliation_multiplier`. -/
def reconciliationContraction (raw : RawSleeveCandidateInputs)
    (latest : Option ReconciliationVerdict) : Contraction :=
  let contracted := min 1 settings.reconciliationContractionMultiplier
  match latest with
  | none => {}
  | some verdict =>
    if verdict.haltRequired ∨ verdict.resumeBlocking then
      if raw.activeInventory then
        { multiplier := contracted
          reasons := ["reconciliation_contraction_active"]
          trace := ["reconciliation_resume_blocking=" ++ format contracted] }
      else
        { multiplier := 0
          reasons := ["reconciliation_hard_block"]
          trace := ["reconciliation_hard_block=0"] }
    else if verdict.onlyReduceRequired ∨ verdict.reviewRequired ∨
        (verdict.severity.toUpper ≠ "" ∧ verdict.severity.toUpper ≠ "CLEAN") then
      { multiplier := contracted
        reasons := ["reconciliation_contraction_active"]
        trace := ["reconciliation_contraction=" ++ format contracted] }
    else {}

def directionalRiskIncreaseRequested (current target : ℚ) : Bool :=
  if |target| ≤ epsilon12 then false
  else if |current| ≤ epsilon12 then true
  -- a request through flat is left to the contraction
  else if current * target ≤ 0 then false
  else |current| + epsilon12 < |target|

/-- The block of other families without inventory beyond the hard limit. -/
def hardLossContraction (raw : RawSleeveCandidateInputs) (recentNetPnl : ℚ) : Contraction :=
  if raw.family ≠ .directional ∧ raw.activeInventory = false ∧ epsilon12 < settings.hardLossUsdt ∧
      settings.hardLossUsdt ≤ |recentNetPnl| then
    { multiplier := 0, reasons := ["hard_loss_budget_block"], trace := ["hard_loss_block=0"] }
  else {}

def riskIncreaseContraction (raw : RawSleeveCandidateInputs) : Contraction :=
  if raw.family = .directional ∧ epsilon12 < settings.softLossUsdt ∧
      directionalRiskIncreaseRequested raw.currentPositionQty raw.targetPositionQty then
    { multiplier := 0
      reasons := ["pnl_contraction_active", "directional_loss_blocks_risk_increase"]
      trace := ["directional_loss_blocks_risk_increase=0"] }
  else {}

def softLossContraction (recentNetPnl : ℚ) : Contraction :=
  let multiplier := max settings.minBudgetMultiplier
    (1 - min (|recentNetPnl| / settings.softLossUsdt) 1 * (1 / 2))
  if epsilon12 < settings.softLossUsdt ∧ multiplier < 1 - epsilon12 then
    { multiplier
      reasons := ["pnl_contraction_active"]
      trace := ["pnl_contraction=" ++ format multiplier] }
  else {}

/-- `pnl_multiplier`: the soft limit counts when nothing blocks. -/
def pnlContraction (raw : RawSleeveCandidateInputs) (recentNetPnl : ℚ) : Contraction :=
  if recentNetPnl < -epsilon12 then
    let hard := hardLossContraction settings raw recentNetPnl
    let risk := riskIncreaseContraction settings raw
    let blocked := min hard.multiplier risk.multiplier
    let soft : Contraction :=
      if epsilon12 < blocked then softLossContraction format settings recentNetPnl else {}
    { multiplier := min blocked soft.multiplier
      reasons := hard.reasons ++ risk.reasons ++ soft.reasons
      trace := hard.trace ++ risk.trace ++ soft.trace }
  else {}

/-! ### The decision -/

structure BudgetControlDecision where
  requestedDeltaPositionQty : ℚ
  requestedTargetPositionQty : ℚ
  baseScale : ℚ
  effectiveScale : ℚ
  pnlContractionMultiplier : ℚ
  reconciliationContractionMultiplier : ℚ
  capacityContractionMultiplier : ℚ
  customContractionMultiplier : ℚ
  scaledDeltaPositionQty : ℚ
  scaledTargetPositionQty : ℚ
  scaledLegs : List StrategyLegIntent
  contractionReasonCodes : List String
  scaleTrace : List String
  budgetZeroSuppressed : Bool

/-- `_scale_legs`, one leg. -/
def controlledLeg (multiplier : ℚ) (leg : StrategyLegIntent) : StrategyLegIntent :=
  let delta := quantizeDecimal (leg.deltaPositionQty.getD 0 * multiplier)
  let budgetNote := "budget_control:effective_scale=" ++ format multiplier
  { leg with
    deltaPositionQty := some delta
    targetPositionQty := some (leg.currentPositionQty.getD 0 + delta)
    note := match leg.note with
      | none | some "" => some budgetNote
      | some note => some (note ++ " | " ++ budgetNote) }

/-- The smallest of the multipliers; what counts as nothing is nothing. -/
def effectiveScaleOf (custom reconciliation pnl : ℚ) : ℚ :=
  let scale := min 1 (min custom (min reconciliation pnl))
  if scale ≤ epsilon12 then 0 else scale

def evaluate (raw : RawSleeveCandidateInputs) (volatilityTargetScale recentNetPnl : ℚ)
    (latest : Option ReconciliationVerdict) : BudgetControlDecision :=
  let custom : Contraction :=
    if raw.protectiveIntent then {} else volatilityContraction format settings volatilityTargetScale
  let reconciliation : Contraction :=
    if raw.protectiveIntent then {} else reconciliationContraction format settings raw latest
  let pnl : Contraction :=
    if raw.protectiveIntent then {} else pnlContraction format settings raw recentNetPnl
  let scale := effectiveScaleOf custom.multiplier reconciliation.multiplier pnl.multiplier
  let scaledDelta := quantizeDecimal (raw.deltaPositionQty * scale)
  let suppressed := decide (0 < |raw.deltaPositionQty|) && decide (|scaledDelta| ≤ epsilon12)
  let reasons := custom.reasons ++ reconciliation.reasons ++ pnl.reasons ++
    (if scale ≤ epsilon12 then ["budget_contracted_to_zero"] else []) ++
    (if suppressed then
      if epsilon12 < scale then ["scale_below_min_tradeable_step"]
      else ["budget_contracted_to_zero"]
    else [])
  { requestedDeltaPositionQty := quantizeDecimal raw.deltaPositionQty
    requestedTargetPositionQty := quantizeDecimal raw.targetPositionQty
    baseScale := quantizeDecimal 1
    effectiveScale := quantizeDecimal scale
    pnlContractionMultiplier := quantizeDecimal pnl.multiplier
    reconciliationContractionMultiplier := quantizeDecimal reconciliation.multiplier
    capacityContractionMultiplier := quantizeDecimal 1
    customContractionMultiplier := quantizeDecimal custom.multiplier
    scaledDeltaPositionQty := scaledDelta
    scaledTargetPositionQty := quantizeDecimal (raw.currentPositionQty + scaledDelta)
    scaledLegs := raw.requestedLegs.map (controlledLeg format scale)
    contractionReasonCodes :=
      (if reasons = [] then ["no_budget_contraction"] else reasons).eraseDups
    scaleTrace := ("base_scale=" ++ format 1) :: (custom.trace ++ reconciliation.trace ++ pnl.trace)
    budgetZeroSuppressed := suppressed }

end Controller

/-! ### What goes on to the allocator -/

def rawInputsOf (intent : StrategySleeveIntent) (activeInventory protectiveIntent : Bool) :
    RawSleeveCandidateInputs :=
  { family := intent.family
    currentPositionQty := intent.currentPositionQty
    targetPositionQty := intent.targetPositionQty
    deltaPositionQty := intent.deltaPositionQty
    requestedLegs := intent.legs
    activeInventory
    protectiveIntent }

/-- `_hold_legs`, one leg, without its note. -/
def heldLeg (leg : StrategyLegIntent) : StrategyLegIntent :=
  { leg with
    deltaPositionQty := some 0
    targetPositionQty := some (quantizeDecimal (leg.currentPositionQty.getD 0)) }

/-- The intent of a sleeve that may execute, as the composer and `_apply_decision` pass it on: with the
scaled quantities, or with those that it has if nothing is left of the request. -/
def controlledIntent (intent : StrategySleeveIntent) (activeInventory : Bool)
    (budget : BudgetControlDecision) : StrategySleeveIntent :=
  if budget.budgetZeroSuppressed then
    { intent with
      routeAction := if activeInventory then .holdCurrent else .advisoryOnly
      targetPositionQty := quantizeDecimal intent.currentPositionQty
      deltaPositionQty := quantizeDecimal 0
      legs := intent.legs.map heldLeg }
  else
    { intent with
      targetPositionQty := quantizeDecimal budget.scaledTargetPositionQty
      deltaPositionQty := quantizeDecimal budget.scaledDeltaPositionQty
      legs := budget.scaledLegs }

/-- What the allocator can make of an intent: it scales it down, once or several times. -/
inductive AllocatorScaled (intent : StrategySleeveIntent) : StrategySleeveIntent → Prop
  | unscaled : AllocatorScaled intent intent
  | scaled {out : StrategySleeveIntent} {ratio : ℚ} {preserve : Bool}
      (h : AllocatorScaled intent out) (hnonneg : 0 ≤ ratio) (hless : ratio < 1) :
      AllocatorScaled intent (scaleIntent out out.deltaPositionQty ratio preserve)

/-! ### After a loss -/

/-- A target that opens nothing: no more than the position there is, and not on its other side. -/
def Blocked (current approved : ℚ) : Prop :=
  |approved| ≤ |current| ∧ (current ≠ 0 → 0 ≤ current * approved)

instance (current approved : ℚ) : Decidable (Blocked current approved) := by
  unfold Blocked
  infer_instance

theorem abs_add_of_back {current change : ℚ} (hback : current * change < 0)
    (hle : |change| ≤ |current|) : |current + change| = |current| - |change| := by
  rcases mul_neg_iff.mp hback with ⟨hpos, hneg⟩ | ⟨hneg, hpos⟩
  · rw [abs_of_neg hneg, abs_of_pos hpos] at *
    rw [abs_of_nonneg (by linarith)]
    ring
  · rw [abs_of_pos hpos, abs_of_neg hneg] at *
    rw [abs_of_nonpos (by linarith)]
    ring

theorem blocked_add {current change : ℚ} (hback : current * change ≤ 0)
    (hle : |change| ≤ |current|) : Blocked current (current + change) := by
  rcases hback.lt_or_eq with hback | hzero
  · refine ⟨?_, fun _ => ?_⟩
    · rw [abs_add_of_back hback hle]
      linarith [abs_nonneg change]
    · have hproduct := mul_le_mul_of_nonneg_left hle (abs_nonneg current)
      rw [← abs_mul, abs_of_neg hback, abs_mul_abs_self] at hproduct
      rw [mul_add]
      linarith
  · have hstill : change = 0 := by
      rcases mul_eq_zero.mp hzero with rfl | rfl
      · rw [abs_zero] at hle
        exact abs_nonpos_iff.mp hle
      · rfl
    rw [hstill, add_zero]
    exact ⟨le_refl _, fun _ => mul_self_nonneg _⟩

theorem Blocked.quantize {current approved : ℚ} (h : Blocked current approved)
    (hle : |quantizeDecimal approved| ≤ |current|) : Blocked current (quantizeDecimal approved) := by
  refine ⟨hle, fun hne => ?_⟩
  have hsign := h.2 hne
  rcases lt_or_gt_of_ne hne with hneg | hpos
  · have happroved : approved ≤ 0 := nonpos_of_mul_nonneg_right hsign hneg
    exact mul_nonneg_of_nonpos_of_nonpos hneg.le (Portfolio.quantizeDecimal_nonpos happroved)
  · have happroved : 0 ≤ approved := nonneg_of_mul_nonneg_right hsign hpos
    exact mul_nonneg hpos.le (Portfolio.quantizeDecimal_nonneg happroved)

theorem abs_quantizeDecimal_le_self {x : ℚ} (h : OnGrid epsilon12 x) : |quantizeDecimal x| ≤ |x| := by
  rcases le_or_gt |x| epsilon12 with hdust | hlarge
  · rw [Portfolio.quantizeDecimal_of_abs_le hdust, abs_zero]
    exact abs_nonneg x
  · rw [Portfolio.quantizeDecimal_of_onGrid h hlarge]

theorem back_of_not_riskIncrease {current target : ℚ}
    (h : directionalRiskIncreaseRequested current target = false)
    (hmoves : epsilon12 < |target - current|) : current * (target - current) < 0 := by
  have hepsilon := epsilon12_pos
  unfold directionalRiskIncreaseRequested at h
  split at h
  · next htarget =>
    rcases lt_trichotomy current 0 with hneg | hzero | hpos
    · refine mul_neg_of_neg_of_pos hneg ?_
      by_contra hdown
      rw [abs_of_nonpos (not_lt.mp hdown)] at hmoves
      linarith [(abs_le.mp htarget).1]
    · rw [hzero, sub_zero] at hmoves
      exact absurd hmoves (not_lt.mpr htarget)
    · refine mul_neg_of_pos_of_neg hpos ?_
      by_contra hup
      rw [abs_of_nonneg (not_lt.mp hup)] at hmoves
      linarith [(abs_le.mp htarget).2]
  split at h
  · cases h
  next htarget hcurrent =>
  have hne : current ≠ 0 := by
    rintro rfl
    exact hcurrent (by rw [abs_zero]; exact hepsilon.le)
  have hsquare : 0 < current * current := mul_self_pos.mpr hne
  split at h
  · next hthrough =>
    rw [mul_sub]
    linarith
  · next hsame =>
    have hsmaller : |target| ≤ |current| + epsilon12 := by simpa using h
    rcases lt_or_gt_of_ne hne with hneg | hpos
    · have htneg : target < 0 := by
        by_contra hge
        exact hsame (mul_nonpos_of_nonpos_of_nonneg hneg.le (not_lt.mp hge))
      rw [abs_of_neg htneg, abs_of_neg hneg] at hsmaller
      refine mul_neg_of_neg_of_pos hneg ?_
      by_contra hdown
      rw [abs_of_nonpos (not_lt.mp hdown)] at hmoves
      linarith
    · have htpos : 0 < target := by
        by_contra hle
        exact hsame (mul_nonpos_of_nonneg_of_nonpos hpos.le (not_lt.mp hle))
      rw [abs_of_pos htpos, abs_of_pos hpos] at hsmaller
      refine mul_neg_of_pos_of_neg hpos ?_
      by_contra hup
      rw [abs_of_nonneg (not_lt.mp hup)] at hmoves
      linarith

/-- What the scaling of an intent without legs keeps: the change stays on its side of nothing and
within what it was. -/
theorem AllocatorScaled.change {intent out : StrategySleeveIntent} (h : AllocatorScaled intent out)
    (hlegs : intent.legs = []) (hgrid : OnGrid epsilon12 intent.deltaPositionQty) :
    out.currentPositionQty = intent.currentPositionQty ∧ out.legs = [] ∧
      |out.deltaPositionQty| ≤ |intent.deltaPositionQty| ∧
      0 ≤ intent.deltaPositionQty * out.deltaPositionQty ∧
      (out = intent ∨
        out.targetPositionQty = intent.currentPositionQty + out.deltaPositionQty) := by
  induction h with
  | unscaled => exact ⟨rfl, hlegs, le_refl _, mul_self_nonneg _, Or.inl rfl⟩
  | @scaled out ratio preserve h hnonneg hless ih =>
    obtain ⟨hcurrent, hnone, hle, hside, -⟩ := ih
    have hdelta : (scaleIntent out out.deltaPositionQty ratio preserve).deltaPositionQty =
        quantizeDecimal (out.deltaPositionQty * ratio) := by
      unfold scaleIntent
      rw [hnone]
      rfl
    have hlegs' : (scaleIntent out out.deltaPositionQty ratio preserve).legs = [] := by
      unfold scaleIntent
      rw [hnone]
      rfl
    have habs : OnGrid epsilon12 |intent.deltaPositionQty| := by
      rcases abs_choice intent.deltaPositionQty with h | h
      · rwa [h]
      · rw [h]
        obtain ⟨n, hn⟩ := hgrid
        exact ⟨-n, by rw [hn]; push_cast; ring⟩
    have hscaled : |out.deltaPositionQty * ratio| ≤ |intent.deltaPositionQty| := by
      rw [abs_mul, abs_of_nonneg hnonneg]
      calc |out.deltaPositionQty| * ratio ≤ |out.deltaPositionQty| * 1 :=
            mul_le_mul_of_nonneg_left hless.le (abs_nonneg _)
        _ ≤ |intent.deltaPositionQty| := by rwa [mul_one]
    refine ⟨hcurrent, hlegs', ?_, ?_, Or.inr ?_⟩
    · rw [hdelta]
      exact Portfolio.abs_quantizeDecimal_le habs hscaled
    · rw [hdelta]
      rcases lt_trichotomy intent.deltaPositionQty 0 with hneg | hzero | hpos
      · have hout : out.deltaPositionQty ≤ 0 := nonpos_of_mul_nonneg_right hside hneg
        exact mul_nonneg_of_nonpos_of_nonpos hneg.le (Portfolio.quantizeDecimal_nonpos
          (mul_nonpos_of_nonpos_of_nonneg hout hnonneg))
      · rw [hzero, zero_mul]
      · have hout : 0 ≤ out.deltaPositionQty := nonneg_of_mul_nonneg_right hside hpos
        exact mul_nonneg hpos.le (Portfolio.quantizeDecimal_nonneg (mul_nonneg hout hnonneg))
    · rw [← hcurrent]
      rfl

/-- A change of twelve decimals is still rounded to itself when it is scaled by a little less than
one. -/
theorem exists_ratio_quantizeDecimal {change : ℚ} (hgrid : OnGrid epsilon12 change)
    (h : epsilon12 < |change|) :
    ∃ ratio : ℚ, 0 ≤ ratio ∧ ratio < 1 ∧ quantizeDecimal (change * ratio) = change := by
  have hepsilon := epsilon12_pos
  obtain ⟨n, hn⟩ := hgrid
  have hne : |change| ≠ 0 := (hepsilon.trans h).ne'
  -- the next multiple is a whole step away, so the change has at least two steps
  have htwo : 2 * epsilon12 ≤ |change| := by
    rw [hn, abs_mul, abs_of_pos hepsilon] at h ⊢
    have hone : (1 : ℚ) < |(n : ℚ)| := by
      by_contra hle
      exact absurd h (not_lt.mpr (by
        calc |(n : ℚ)| * epsilon12 ≤ 1 * epsilon12 :=
              mul_le_mul_of_nonneg_right (not_lt.mp hle) hepsilon.le
          _ = epsilon12 := one_mul _))
    have hcast : (2 : ℚ) ≤ |(n : ℚ)| := by
      have hint : (1 : ℤ) < |n| := by exact_mod_cast hone
      exact_mod_cast Int.add_one_le_iff.mpr hint
    exact mul_le_mul_of_nonneg_right hcast hepsilon.le
  let ratio : ℚ := 1 - epsilon12 / (4 * |change|)
  have hpart : epsilon12 / (4 * |change|) ≤ 1 / 8 := by
    rw [div_le_iff₀ (by linarith)]
    linarith
  have hpart' : 0 < epsilon12 / (4 * |change|) := div_pos hepsilon (by linarith)
  have hmoved : |change * ratio - change| = epsilon12 / 4 := by
    have heq : change * ratio - change = -(change * (epsilon12 / (4 * |change|))) := by
      unfold ratio
      ring
    rw [heq, abs_neg, abs_mul, abs_of_pos hpart']
    field_simp
  refine ⟨ratio, by linarith, by linarith, ?_⟩
  have hlarge : epsilon12 < |change * ratio| := by
    have htriangle := abs_sub_abs_le_abs_sub change (change * ratio)
    rw [abs_sub_comm, hmoved] at htriangle
    linarith
  rw [Portfolio.quantizeDecimal_of_lt_abs hlarge]
  have hnear : |(n : ℚ) - change * ratio / epsilon12| < 1 / 2 := by
    have hscale : (n : ℚ) - change * ratio / epsilon12 =
        -((change * ratio - change) / epsilon12) := by
      rw [sub_div, hn, mul_div_cancel_right₀ _ hepsilon.ne']
      ring
    rw [hscale, abs_neg, abs_div, hmoved, abs_of_pos hepsilon, div_div, div_lt_div_iff₀]
    · linarith
    · linarith
    · norm_num
  unfold Rounding.toStep
  rw [Rounding.eq_halfEven hnear, ← hn]

/-- The change that the controller approved, and what its rounding makes of it, decide what every
scaling of it opens. -/
theorem allocatorScaled_blocked_iff {intent : StrategySleeveIntent} (hlegs : intent.legs = [])
    (hgrid : OnGrid epsilon12 intent.deltaPositionQty)
    (hstill : intent.deltaPositionQty = 0 →
      intent.targetPositionQty = quantizeDecimal intent.currentPositionQty ∨
      intent.targetPositionQty = quantizeDecimal (quantizeDecimal intent.currentPositionQty))
    (hmoves : intent.deltaPositionQty ≠ 0 → epsilon12 < |intent.deltaPositionQty| ∧
      intent.currentPositionQty * intent.deltaPositionQty < 0 ∧
      intent.targetPositionQty = quantizeDecimal
        (quantizeDecimal (intent.currentPositionQty + intent.deltaPositionQty))) :
    (∀ out, AllocatorScaled intent out →
        Blocked intent.currentPositionQty out.targetPositionQty) ↔
      |intent.deltaPositionQty| ≤ |intent.currentPositionQty| ∧
        (intent.deltaPositionQty = 0 →
          |quantizeDecimal intent.currentPositionQty| ≤ |intent.currentPositionQty|) := by
  constructor
  · intro h
    have hself := h intent .unscaled
    constructor
    · by_cases hzero : intent.deltaPositionQty = 0
      · rw [hzero, abs_zero]
        exact abs_nonneg _
      by_contra hover
      obtain ⟨hlarge, hback, -⟩ := hmoves hzero
      obtain ⟨ratio, hnonneg, hless, hkept⟩ := exists_ratio_quantizeDecimal hgrid hlarge
      have hout : AllocatorScaled intent
          (scaleIntent intent intent.deltaPositionQty ratio false) :=
        .scaled .unscaled hnonneg hless
      have hscaled := h _ hout
      have htarget : (scaleIntent intent intent.deltaPositionQty ratio false).targetPositionQty =
          intent.currentPositionQty + intent.deltaPositionQty := by
        unfold scaleIntent
        rw [hlegs]
        exact congrArg _ hkept
      rw [htarget] at hscaled
      have hne : intent.currentPositionQty ≠ 0 := by
        intro heq
        rw [heq, zero_mul] at hback
        exact lt_irrefl _ hback
      have hside := hscaled.2 hne
      rw [mul_add, ← abs_mul_abs_self intent.currentPositionQty] at hside
      have habs : intent.currentPositionQty * intent.deltaPositionQty =
          -(|intent.currentPositionQty| * |intent.deltaPositionQty|) := by
        rw [← abs_mul, abs_of_neg hback, neg_neg]
      have hcurrent : 0 < |intent.currentPositionQty| := abs_pos.mpr hne
      have hproduct := mul_lt_mul_of_pos_left (not_le.mp hover) hcurrent
      linarith
    · intro hzero
      rcases hstill hzero with htarget | htarget
      · rw [htarget] at hself
        exact hself.1
      · rw [htarget] at hself
        rcases le_or_gt |quantizeDecimal intent.currentPositionQty| epsilon12 with hdust | hlarge
        · -- what is rounded to one step was more than that, as it did not count as zero
          rcases le_or_gt |intent.currentPositionQty| epsilon12 with hnone | hsome
          · rw [Portfolio.quantizeDecimal_of_abs_le hnone, abs_zero]
            exact abs_nonneg _
          · exact hdust.trans hsome.le
        · rw [Portfolio.quantizeDecimal_of_onGrid (Portfolio.onGrid_quantizeDecimal _) hlarge]
            at hself
          exact hself.1
  · rintro ⟨hle, hround⟩ out hout
    obtain ⟨-, -, hchange, hside, rfl | htarget⟩ := hout.change hlegs hgrid
    · by_cases hzero : out.deltaPositionQty = 0
      · have hself : Blocked out.currentPositionQty out.currentPositionQty :=
          ⟨le_refl _, fun _ => mul_self_nonneg _⟩
        have honce := hself.quantize (hround hzero)
        rcases hstill hzero with htarget | htarget
        · rwa [htarget]
        · rw [htarget]
          refine honce.quantize ((abs_quantizeDecimal_le_self ?_).trans (hround hzero))
          exact Portfolio.onGrid_quantizeDecimal _
      · obtain ⟨hlarge, hback, htarget⟩ := hmoves hzero
        have hexact := blocked_add hback.le hle
        have hless : |out.currentPositionQty + out.deltaPositionQty| =
            |out.currentPositionQty| - |out.deltaPositionQty| := abs_add_of_back hback hle
        have honce : |quantizeDecimal (out.currentPositionQty + out.deltaPositionQty)| ≤
            |out.currentPositionQty| := by
          have hmoved := Portfolio.abs_quantizeDecimal_sub
            (out.currentPositionQty + out.deltaPositionQty)
          have htriangle := abs_sub_abs_le_abs_sub
            (quantizeDecimal (out.currentPositionQty + out.deltaPositionQty))
            (out.currentPositionQty + out.deltaPositionQty)
          linarith
        rw [htarget]
        refine (hexact.quantize honce).quantize ((abs_quantizeDecimal_le_self ?_).trans honce)
        exact Portfolio.onGrid_quantizeDecimal _
    · rw [htarget]
      by_cases hzero : intent.deltaPositionQty = 0
      · rw [hzero, abs_zero] at hchange
        have hnone : out.deltaPositionQty = 0 := abs_nonpos_iff.mp hchange
        rw [hnone, add_zero]
        exact ⟨le_refl _, fun _ => mul_self_nonneg _⟩
      · obtain ⟨hlarge, hback, -⟩ := hmoves hzero
        refine blocked_add ?_ (hchange.trans hle)
        -- the scaled change is on the side of the whole one
        rcases lt_or_gt_of_ne hzero with hneg | hpos
        · have hcurrent : 0 < intent.currentPositionQty := pos_of_mul_neg_left hback hneg.le
          exact mul_nonpos_of_nonneg_of_nonpos hcurrent.le (nonpos_of_mul_nonneg_right hside hneg)
        · have hcurrent : intent.currentPositionQty < 0 := neg_of_mul_neg_left hback hpos.le
          exact mul_nonpos_of_nonpos_of_nonneg hcurrent.le (nonneg_of_mul_nonneg_right hside hpos)

/-! ### The block of the controller -/

section Controller

variable (format : ℚ → String) (settings : SleeveBudgetSettings)

/-- The scale after a loss beyond the soft limit, for what is no increase of risk. -/
def lossScale (raw : RawSleeveCandidateInputs) (volatilityTargetScale : ℚ)
    (latest : Option ReconciliationVerdict) : ℚ :=
  let kept := max settings.minBudgetMultiplier (1 / 2)
  effectiveScaleOf (volatilityContraction format settings volatilityTargetScale).multiplier
    (reconciliationContraction format settings raw latest).multiplier
    (if kept < 1 - epsilon12 then kept else 1)

/-- What is left of the change of a directional sleeve after such a loss. -/
def lossChange (raw : RawSleeveCandidateInputs) (volatilityTargetScale : ℚ)
    (latest : Option ReconciliationVerdict) : ℚ :=
  if directionalRiskIncreaseRequested raw.currentPositionQty raw.targetPositionQty then 0
  else quantizeDecimal ((raw.targetPositionQty - raw.currentPositionQty) *
    lossScale format settings raw volatilityTargetScale latest)

variable {format settings} {raw : RawSleeveCandidateInputs} {volatilityTargetScale recentNetPnl : ℚ}
  {latest : Option ReconciliationVerdict}

theorem effectiveScaleOf_zero (custom reconciliation : ℚ) :
    effectiveScaleOf custom reconciliation 0 = 0 := by
  unfold effectiveScaleOf
  extract_lets scale
  have hscale : scale ≤ 0 := (min_le_right _ _).trans ((min_le_right _ _).trans (min_le_right _ _))
  rw [if_pos (hscale.trans epsilon12_pos.le)]

theorem pnlContraction_multiplier (hfamily : raw.family = .directional)
    (hlimit : epsilon12 < settings.softLossUsdt) (hloss : recentNetPnl < 0)
    (hexceeds : settings.softLossUsdt < |recentNetPnl|) :
    (pnlContraction format settings raw recentNetPnl).multiplier =
      if directionalRiskIncreaseRequested raw.currentPositionQty raw.targetPositionQty then 0
      else if max settings.minBudgetMultiplier (1 / 2) < 1 - epsilon12 then
        max settings.minBudgetMultiplier (1 / 2)
      else 1 := by
  have hepsilon := epsilon12_pos
  have hbeyond : recentNetPnl < -epsilon12 := by
    rw [abs_of_neg hloss] at hexceeds
    linarith
  have hratio : min (|recentNetPnl| / settings.softLossUsdt) 1 = 1 := by
    rw [min_eq_right]
    rw [le_div_iff₀ (hepsilon.trans hlimit), one_mul]
    exact hexceeds.le
  have hhard : (hardLossContraction settings raw recentNetPnl).multiplier = 1 := by
    unfold hardLossContraction
    rw [if_neg fun h => h.1 hfamily]
  unfold pnlContraction
  rw [if_pos hbeyond]
  extract_lets hard risk blocked soft
  show min (min hard.multiplier risk.multiplier) soft.multiplier = _
  have hhard' : hard.multiplier = 1 := hhard
  cases hrisk : directionalRiskIncreaseRequested raw.currentPositionQty raw.targetPositionQty with
  | true =>
    have hblocked : risk.multiplier = 0 := by
      unfold risk riskIncreaseContraction
      rw [if_pos ⟨hfamily, hlimit, hrisk⟩]
    have hsoft : soft = {} := by
      unfold soft blocked
      rw [hblocked, hhard', min_eq_right zero_le_one, if_neg (not_lt.mpr hepsilon.le)]
    rw [hsoft, hblocked, hhard', min_eq_right zero_le_one, if_pos rfl]
    exact min_eq_left zero_le_one
  | false =>
    have hopen : risk.multiplier = 1 := by
      unfold risk riskIncreaseContraction
      rw [if_neg]
      rintro ⟨-, -, h⟩
      exact absurd (hrisk.symm.trans h) nofun
    have hsoft : soft = softLossContraction format settings recentNetPnl := by
      unfold soft blocked
      rw [hopen, hhard', min_self, if_pos (by norm_num [epsilon12])]
    have hkept : 1 - (1 : ℚ) * (1 / 2) = 1 / 2 := by norm_num
    rw [hsoft, hopen, hhard', min_self, if_neg Bool.false_ne_true]
    unfold softLossContraction
    extract_lets multiplier
    have hmultiplier : multiplier = max settings.minBudgetMultiplier (1 / 2) := by
      unfold multiplier
      rw [hratio, hkept]
    rw [hmultiplier]
    by_cases hless : max settings.minBudgetMultiplier (1 / 2) < 1 - epsilon12
    · rw [if_pos ⟨hlimit, hless⟩, if_pos hless]
      exact min_eq_right (by linarith)
    · rw [if_neg fun h => hless h.2, if_neg hless]
      exact min_self 1

theorem evaluate_scaledDelta (hprotective : raw.protectiveIntent = false)
    (hfamily : raw.family = .directional)
    (hdelta : raw.deltaPositionQty = raw.targetPositionQty - raw.currentPositionQty)
    (hlimit : epsilon12 < settings.softLossUsdt) (hloss : recentNetPnl < 0)
    (hexceeds : settings.softLossUsdt < |recentNetPnl|) :
    (evaluate format settings raw volatilityTargetScale recentNetPnl
        latest).scaledDeltaPositionQty =
      lossChange format settings raw volatilityTargetScale latest := by
  have hpnl : (pnlContraction format settings raw recentNetPnl).multiplier = _ :=
    pnlContraction_multiplier hfamily hlimit hloss hexceeds
  unfold evaluate
  extract_lets custom reconciliation pnl scale scaledDelta suppressed reasons
  show scaledDelta = _
  have hcustom : custom = volatilityContraction format settings volatilityTargetScale := by
    unfold custom
    rw [hprotective, if_neg Bool.false_ne_true]
  have hreconciliation : reconciliation =
      reconciliationContraction format settings raw latest := by
    unfold reconciliation
    rw [hprotective, if_neg Bool.false_ne_true]
  have hpnl' : pnl = pnlContraction format settings raw recentNetPnl := by
    unfold pnl
    rw [hprotective, if_neg Bool.false_ne_true]
  unfold scaledDelta scale lossChange
  rw [hcustom, hreconciliation, hpnl', hpnl, hdelta]
  split
  · rw [effectiveScaleOf_zero, mul_zero, Portfolio.quantizeDecimal_zero]
  · rfl

theorem effectiveScaleOf_bounds (custom reconciliation pnl : ℚ) :
    0 ≤ effectiveScaleOf custom reconciliation pnl ∧
      effectiveScaleOf custom reconciliation pnl ≤ 1 := by
  unfold effectiveScaleOf
  extract_lets scale
  split
  · exact ⟨le_refl 0, zero_le_one⟩
  · next hsome => exact ⟨(epsilon12_pos.trans (not_le.mp hsome)).le, min_le_left _ _⟩

/-- What is left of a request after a loss goes back towards flat. -/
theorem lossChange_back
    (h : epsilon12 < |lossChange format settings raw volatilityTargetScale latest|) :
    raw.currentPositionQty * lossChange format settings raw volatilityTargetScale latest < 0 := by
  have hepsilon := epsilon12_pos
  unfold lossChange at h ⊢
  cases hrisk : directionalRiskIncreaseRequested raw.currentPositionQty raw.targetPositionQty with
  | true =>
    rw [hrisk, if_pos rfl, abs_zero] at h
    exact absurd h (not_lt.mpr hepsilon.le)
  | false =>
    rw [hrisk, if_neg Bool.false_ne_true] at h
    rw [if_neg Bool.false_ne_true]
    obtain ⟨hnonneg, hone⟩ : 0 ≤ lossScale format settings raw volatilityTargetScale latest ∧
        lossScale format settings raw volatilityTargetScale latest ≤ 1 :=
      effectiveScaleOf_bounds _ _ _
    generalize lossScale format settings raw volatilityTargetScale latest = scale at *
    have hscaled : epsilon12 < |(raw.targetPositionQty - raw.currentPositionQty) * scale| := by
      by_contra hdust
      rw [Portfolio.quantizeDecimal_of_abs_le (not_lt.mp hdust), abs_zero] at h
      exact absurd h (not_lt.mpr hepsilon.le)
    have hwhole : epsilon12 < |raw.targetPositionQty - raw.currentPositionQty| := by
      refine hscaled.trans_le ?_
      rw [abs_mul, abs_of_nonneg hnonneg]
      exact mul_le_of_le_one_right (abs_nonneg _) hone
    have hne : quantizeDecimal ((raw.targetPositionQty - raw.currentPositionQty) * scale) ≠ 0 := by
      intro heq
      rw [heq, abs_zero] at h
      exact absurd h (not_lt.mpr hepsilon.le)
    rcases mul_neg_iff.mp (back_of_not_riskIncrease hrisk hwhole) with ⟨hpos, hneg⟩ | ⟨hneg, hpos⟩
    · have hround := Portfolio.quantizeDecimal_nonpos
        (mul_nonpos_of_nonpos_of_nonneg hneg.le hnonneg)
      exact mul_neg_of_pos_of_neg hpos (lt_of_le_of_ne hround hne)
    · have hround := Portfolio.quantizeDecimal_nonneg (mul_nonneg hpos.le hnonneg)
      exact mul_neg_of_neg_of_pos hneg (lt_of_le_of_ne hround hne.symm)

theorem onGrid_lossChange :
    OnGrid epsilon12 (lossChange format settings raw volatilityTargetScale latest) := by
  unfold lossChange
  split
  · exact Holdings.onGrid_zero _
  · exact Portfolio.onGrid_quantizeDecimal _

theorem controlledIntent_current (intent : StrategySleeveIntent) (activeInventory : Bool)
    (budget : BudgetControlDecision) :
    (controlledIntent intent activeInventory budget).currentPositionQty =
      intent.currentPositionQty := by
  unfold controlledIntent
  split <;> rfl

theorem controlledIntent_change {intent : StrategySleeveIntent} {budget : BudgetControlDecision}
    (activeInventory : Bool) (hlegs : intent.legs = []) (hscaled : budget.scaledLegs = [])
    (hdust : budget.budgetZeroSuppressed → |budget.scaledDeltaPositionQty| ≤ epsilon12) :
    (controlledIntent intent activeInventory budget).legs = [] ∧
      (controlledIntent intent activeInventory budget).deltaPositionQty =
        quantizeDecimal budget.scaledDeltaPositionQty := by
  unfold controlledIntent
  split
  · next hsuppressed =>
    refine ⟨?_, ?_⟩
    · show intent.legs.map heldLeg = []
      rw [hlegs]
      rfl
    · show quantizeDecimal 0 = _
      rw [Portfolio.quantizeDecimal_zero, Portfolio.quantizeDecimal_of_abs_le (hdust hsuppressed)]
  · exact ⟨hscaled, rfl⟩

end Controller

/-! ### A reversal -/

/-- A directional sleeve of a long position of 1 that asks for a short one of 5. -/
def reversalIntent : StrategySleeveIntent :=
  { family := .directional, strategySleeveId := "directional", state := .active
    symbol := "BTC-USDT-SWAP", productType := .derivatives, marginMode := .cross
    routeAction := .overrideTarget, selectable := true, executionCompatible := true
    currentPositionQty := 1, targetPositionQty := -5, deltaPositionQty := -6 }

/-- The settings of a sleeve with a soft limit of 10 USDT. -/
def softLimitSettings : SleeveBudgetSettings :=
  { minBudgetMultiplier := 35 / 100, reconciliationContractionMultiplier := 1 / 2
    softLossUsdt := 10, hardLossUsdt := 0, volatilityCapEnabled := true }

end Aats.Allocation
