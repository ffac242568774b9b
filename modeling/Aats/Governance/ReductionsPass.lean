import Aats.Governance.LegLimits
import Mathlib.Algebra.Order.Ring.Abs

/-!
# Reductions and the risk limits

What the three evaluation paths do with an order that only reduces a position. A single closing
leg is not checked at all and a reduced net target adds nothing, so both pass. A bundle applies
the limits on open orders, margin usage and pending notional to closing legs as well, so a bundle
that only closes is refused where the standing account is already over one of them.

## Main results
* `closing_bundle_approved` — a closing bundle passes exactly when `LetsClose` holds.
* `reductions_pass` — **the three paths together**.
-/

namespace Aats.Governance

open Checks

/-! ### Closing legs -/

/-- What closing legs leave of a quantity on the side `leg`. -/
def closedQty (qty : ℚ) (intents : List LegOrderIntent) (leg : Leg) : ℚ :=
  intents.foldl
    (fun qty intent => if intent.posSide = leg then max (qty - |intent.quantity|) 0 else qty) qty

/-- The highest leverage of a bundle, at least 1. -/
def bundleLeverage (intents : List LegOrderIntent) : ℚ :=
  intents.foldl (fun leverage intent => max leverage (max intent.targetLeverage 1)) 1

structure DerivativesExposureMetrics.Marked (exposure : DerivativesExposureMetrics)
    (markPrice : ℚ) : Prop where
  long : exposure.longNotional = exposure.longPositionQty * markPrice
  short : exposure.shortNotional = exposure.shortPositionQty * markPrice
  gross : exposure.grossNotional = exposure.longNotional + exposure.shortNotional
  net : exposure.netNotional = |exposure.longNotional - exposure.shortNotional|

theorem marked_projected (current : DerivativesExposureMetrics) (intent : LegOrderIntent)
    (markPrice equityBase : ℚ) :
    (projectDerivativesExposureForLegOrder current intent markPrice equityBase).Marked markPrice :=
  ⟨rfl, rfl, rfl, rfl⟩

theorem legQty_projected (current : DerivativesExposureMetrics) (intent : LegOrderIntent)
    (markPrice equityBase : ℚ) (leg : Leg) :
    (projectDerivativesExposureForLegOrder current intent markPrice equityBase).legQty leg =
      |intent.projectedQty current leg| := by
  cases leg <;> rfl

theorem legQty_closed {current : DerivativesExposureMetrics} {intent : LegOrderIntent} {leg : Leg}
    (hclose : intent.action ≠ .opening) (hqty : 0 ≤ current.legQty leg)
    (markPrice equityBase : ℚ) :
    (projectDerivativesExposureForLegOrder current intent markPrice equityBase).legQty leg =
      if intent.posSide = leg then max (current.legQty leg - |intent.quantity|) 0
      else current.legQty leg := by
  rw [legQty_projected]
  simp only [LegOrderIntent.projectedQty, if_neg hclose]
  split
  · exact abs_of_nonneg (le_max_right _ _)
  · exact abs_of_nonneg hqty

/-- What the loop makes of closing legs: nothing is added, and the quantities go down. -/
theorem foldl_addLeg_closing (engine : RiskEngine) (account : AccountFigures)
    (intents : List LegOrderIntent)
    (hclose : ∀ intent ∈ intents, intent.action ≠ .opening) (totals : BundleTotals)
    (hqty : ∀ leg, 0 ≤ totals.projectedExposure.legQty leg) :
    (intents.foldl (engine.addLeg account) totals).requiredInitialMargin =
        totals.requiredInitialMargin ∧
      (intents.foldl (engine.addLeg account) totals).addedNotional = totals.addedNotional ∧
      (intents.foldl (engine.addLeg account) totals).openingLegCount = totals.openingLegCount ∧
      (intents.foldl (engine.addLeg account) totals).maxTargetLeverage =
        intents.foldl (fun leverage intent => max leverage (max intent.targetLeverage 1))
          totals.maxTargetLeverage ∧
      (∀ leg, (intents.foldl (engine.addLeg account) totals).projectedExposure.legQty leg =
        closedQty (totals.projectedExposure.legQty leg) intents leg) ∧
      (intents ≠ [] ∨ totals.projectedExposure.Marked account.markPrice →
        (intents.foldl (engine.addLeg account) totals).projectedExposure.Marked
          account.markPrice) := by
  induction intents generalizing totals with
  | nil => exact ⟨rfl, rfl, rfl, rfl, fun _ => rfl, fun h => h.resolve_left (· rfl)⟩
  | cons intent rest ih =>
    have hfirst : intent.action ≠ .opening := hclose intent List.mem_cons_self
    have hstep : engine.addLeg account totals intent =
        { totals with
          projectedExposure := projectDerivativesExposureForLegOrder totals.projectedExposure intent
            account.markPrice account.equityBase
          maxTargetLeverage := max totals.maxTargetLeverage (max intent.targetLeverage 1) } := by
      simp only [RiskEngine.addLeg, if_neg hfirst]
    -- the first leg only lowers its own quantity, the rest is the induction
    have hleg := fun leg => legQty_closed hfirst (hqty leg) account.markPrice account.equityBase
    obtain ⟨hmargin, hadded, hcount, hleverage, hqtys, hmarked⟩ :=
      ih (fun other hmem => hclose other (List.mem_cons_of_mem _ hmem))
        (engine.addLeg account totals intent) (by
          intro leg
          rw [hstep, hleg leg]
          split
          · exact le_max_right _ _
          · exact hqty leg)
    rw [List.foldl_cons]
    refine ⟨hmargin.trans (by rw [hstep]), hadded.trans (by rw [hstep]),
      hcount.trans (by rw [hstep]), hleverage.trans (by rw [hstep]; rfl), ?_, fun _ => ?_⟩
    · intro leg
      rw [hqtys leg, hstep, hleg leg]
      rfl
    · refine hmarked (Or.inr ?_)
      rw [hstep]
      exact marked_projected _ _ _ _

theorem legQty_currentExposure_nonneg (engine : RiskEngine) (symbol : String) (leg : Leg) :
    0 ≤ (engine.accountFigures symbol).currentExposure.legQty leg := by
  have hbuilt : ∃ longQty shortQty : ℚ,
      (engine.accountFigures symbol).currentExposure.longPositionQty = |longQty| ∧
        (engine.accountFigures symbol).currentExposure.shortPositionQty = |shortQty| := by
    change ∃ longQty shortQty : ℚ,
      (derivativesExposureMetricsFromState _ _ _ _).longPositionQty = |longQty| ∧
        (derivativesExposureMetricsFromState _ _ _ _).shortPositionQty = |shortQty|
    unfold derivativesExposureMetricsFromState
    split
    · exact ⟨_, _, rfl, rfl⟩
    · exact ⟨_, _, rfl, rfl⟩
  obtain ⟨longQty, shortQty, hlong, hshort⟩ := hbuilt
  cases leg
  · exact (abs_nonneg longQty).trans_eq hlong.symm
  · exact (abs_nonneg shortQty).trans_eq hshort.symm

/-! ### Closing bundles -/

section Closing

variable (engine : RiskEngine) (symbol : String) (intents : List LegOrderIntent)

def RiskEngine.closedNotional (leg : Leg) : ℚ :=
  closedQty ((engine.accountFigures symbol).currentExposure.legQty leg) intents leg *
    (engine.accountFigures symbol).markPrice

/-- The legs of a bundle that only closes: derivatives legs of one symbol, none of which opens,
that leave a net notional not above the current one. -/
structure ClosingBundle : Prop where
  bundled : ∀ intent ∈ intents, intent.bundled = true
  oneSymbol : ((intents.map (·.symbol)).filter (¬ blank ·)).eraseDups = [symbol]
  closing : ∀ intent ∈ intents, intent.action ≠ .opening
  netNotional : |engine.closedNotional symbol intents .long -
      engine.closedNotional symbol intents .short| ≤
    (engine.accountFigures symbol).currentExposure.netNotional

/-- The standing account meets the limits that a bundle applies to closing legs as well. -/
structure RiskEngine.LetsClose : Prop where
  openOrders : ((engine.accountFigures symbol).currentOpenOrderCount : ℤ) ≤
    engine.settings.maxOpenOrders
  hardCap : engine.enforceExchangeMarginChecks = true →
    exceeds engine.settings.maxMarginUsageFraction
      ((engine.accountFigures symbol).projectedMarginUsage (bundleLeverage intents) 0 0) = false
  leg : ∀ leg, (engine.accountFigures symbol).currentExposure.legNotional leg + epsilon12 <
      engine.closedNotional symbol intents leg →
    exceeds ((engine.accountFigures symbol).exposureLimits.legLimit leg)
      (engine.closedNotional symbol intents leg) = false
  gross : (engine.accountFigures symbol).currentExposure.grossNotional + epsilon12 <
      engine.closedNotional symbol intents .long + engine.closedNotional symbol intents .short →
    exceeds (engine.accountFigures symbol).exposureLimits.riskMaxGrossNotional
      (engine.closedNotional symbol intents .long + engine.closedNotional symbol intents .short) =
        false
  pendingPerSymbol : exceeds engine.maxPendingNotionalPerSymbol
    (engine.accountFigures symbol).symbolPendingNotional = false
  totalOpen : exceeds engine.maxTotalOpenNotional
    ((engine.accountFigures symbol).currentTotalPositionNotional +
      (engine.accountFigures symbol).totalPendingNotional) = false

variable {engine symbol intents}

theorem availableEquity_nonneg (engine : RiskEngine) (symbol : String) :
    0 ≤ (engine.accountFigures symbol).availableEquity :=
  availableDerivativesEquity_nonneg engine _

theorem guarded_eq_false {check : Bool} {before after : ℚ} :
    (check && decide (before + epsilon12 < after)) = false ↔
      (before + epsilon12 < after → check = false) := by
  by_cases h : before + epsilon12 < after
  · simp [h]
  · simp [h]

structure ClosingTotals (engine : RiskEngine) (symbol : String) (intents : List LegOrderIntent)
    (totals : BundleTotals) : Prop where
  margin : totals.requiredInitialMargin = 0
  added : totals.addedNotional = 0
  count : totals.openingLegCount = 0
  leverage : totals.maxTargetLeverage = bundleLeverage intents
  long : totals.projectedExposure.longNotional = engine.closedNotional symbol intents .long
  short : totals.projectedExposure.shortNotional = engine.closedNotional symbol intents .short
  gross : totals.projectedExposure.grossNotional =
    engine.closedNotional symbol intents .long + engine.closedNotional symbol intents .short
  net : totals.projectedExposure.netNotional =
    |engine.closedNotional symbol intents .long - engine.closedNotional symbol intents .short|

theorem closingTotals (h : ClosingBundle engine symbol intents) :
    ClosingTotals engine symbol intents
      (engine.bundleTotals (engine.accountFigures symbol) intents) := by
  have hne : intents ≠ [] := by
    rintro rfl
    have hsymbols := h.oneSymbol
    simp at hsymbols
  obtain ⟨hmargin, hadded, hcount, hleverage, hqtys, hmarked⟩ :=
    foldl_addLeg_closing engine (engine.accountFigures symbol) intents h.closing
      { projectedExposure := (engine.accountFigures symbol).currentExposure }
      (legQty_currentExposure_nonneg engine symbol)
  replace hmarked := hmarked (Or.inl hne)
  have hlong := hmarked.long.trans (congrArg (· * _) (hqtys .long))
  have hshort := hmarked.short.trans (congrArg (· * _) (hqtys .short))
  refine ⟨hmargin, hadded, hcount, hleverage, hlong, hshort, ?_, ?_⟩
  · exact hmarked.gross.trans (congrArg₂ (· + ·) hlong hshort)
  · exact hmarked.net.trans (congrArg₂ (fun long short => |long - short|) hlong hshort)

/-- **A closing bundle passes exactly when the standing account meets the limits a bundle applies
to it.** -/
theorem closing_bundle_approved (h : ClosingBundle engine symbol intents) :
    (engine.evaluateLegOrderBundle intents).approved = true ↔
      engine.LetsClose symbol intents := by
  have heps := epsilon12_pos
  have htotals := closingTotals h
  have hnet : ¬ (engine.accountFigures symbol).currentExposure.netNotional + epsilon12 <
      |engine.closedNotional symbol intents .long -
        engine.closedNotional symbol intents .short| := by
    have hbound := h.netNotional
    linarith
  have hequity : ¬ (engine.accountFigures symbol).availableEquity + epsilon12 < 0 := by
    have hnonneg := availableEquity_nonneg engine symbol
    linarith
  rw [evaluateLegOrderBundle_approved engine h.bundled h.oneSymbol, raised_eq_nil]
  simp only [RiskEngine.bundleChecks, AccountFigures.bundleMarginUsage, htotals.margin,
    htotals.added, htotals.count, htotals.leverage, htotals.long, htotals.short, htotals.gross,
    htotals.net, decide_eq_false hnet, decide_eq_false hequity, add_zero, Bool.and_false,
    List.mem_cons, List.not_mem_nil, or_false, forall_eq_or_imp, forall_eq,
    decide_eq_false_iff_not, not_lt, guarded_eq_false, true_and, and_true]
  constructor
  · rintro ⟨hopenOrders, hcap, hlongLimit, hshortLimit, hgrossLimit, hpending, htotal⟩
    refine ⟨hopenOrders, Bool.and_eq_false_imp.mp hcap, ?_, hgrossLimit, hpending, htotal⟩
    rintro (_ | _)
    · exact hlongLimit
    · exact hshortLimit
  · rintro ⟨hopenOrders, hcap, hlegs, hgrossLimit, hpending, htotal⟩
    exact ⟨hopenOrders, Bool.and_eq_false_imp.mpr hcap, hlegs .long, hlegs .short, hgrossLimit,
      hpending, htotal⟩

end Closing

/-! ### Reduced targets -/

/-- The target has the sign of the current quantity, or is zero, and is smaller by more than
`epsilon12`. -/
def PureReduction (currentQty targetQty : ℚ) : Prop :=
  (targetQty = 0 ∨ 0 < currentQty ∧ 0 < targetQty ∨ currentQty < 0 ∧ targetQty < 0) ∧
    |targetQty| + epsilon12 < |currentQty|

/-- A target is approved, with a quantity not larger than the requested one. -/
def PassesReduced (engine : RiskEngine) (target : PositionTarget) : Prop :=
  ∃ decision, engine.evaluate target = some decision ∧ decision.approved = true ∧
    |decision.cappedTargetPositionQty| ≤ |target.targetPositionQty|

/-- A clamped quantity stays within a bound below the current one when it did before, or when it
pointed the other way. -/
theorem abs_reduceOnlyTargetQty_le {currentQty qty bound : ℚ} (hcurrent : epsilon12 < |currentQty|)
    (hnonneg : 0 ≤ bound) (hbound : bound < |currentQty|) :
    |reduceOnlyTargetQty currentQty qty| ≤ bound ↔ |qty| ≤ bound ∨ currentQty * qty < 0 := by
  have hne : currentQty ≠ 0 := abs_pos.mp (epsilon12_pos.trans hcurrent)
  unfold reduceOnlyTargetQty
  rw [if_neg (not_le.mpr hcurrent)]
  rcases lt_or_gt_of_ne hne with hneg | hpos
  · rw [if_neg hneg.not_gt]
    rw [abs_of_neg hneg] at hbound
    rcases lt_trichotomy qty 0 with hqty | rfl | hqty
    · have hlarger : ¬ currentQty * qty < 0 := (mul_pos_of_neg_of_neg hneg hqty).not_gt
      have hclamped : max qty currentQty < 0 := max_lt hqty hneg
      rw [min_eq_left hqty.le, abs_of_neg hclamped, abs_of_neg hqty, neg_le, le_max_iff]
      constructor
      · rintro (h | h)
        · exact Or.inl (by linarith)
        · exact absurd h (by linarith)
      · rintro (h | h)
        · exact Or.inl (by linarith)
        · exact absurd h hlarger
    · simp [hneg.le, hnonneg]
    · simp [hqty.le, hneg.le, hnonneg, mul_neg_of_neg_of_pos hneg hqty]
  · rw [if_pos hpos]
    rw [abs_of_pos hpos] at hbound
    rcases lt_trichotomy qty 0 with hqty | rfl | hqty
    · simp [hqty.le, hpos.le, hnonneg, mul_neg_of_pos_of_neg hpos hqty]
    · simp [hpos.le, hnonneg]
    · have hlarger : ¬ currentQty * qty < 0 := (mul_pos hpos hqty).not_gt
      have hclamped : 0 < min qty currentQty := lt_min hqty hpos
      rw [max_eq_left hqty.le, abs_of_pos hclamped, abs_of_pos hqty, min_le_iff]
      constructor
      · rintro (h | h)
        · exact Or.inl h
        · exact absurd h hbound.not_ge
      · rintro (h | h)
        · exact Or.inl h
        · exact absurd h hlarger

section Targets

variable {engine : RiskEngine} {target : PositionTarget}

/-- **A reduced target passes exactly when the two caps do not enlarge it**, or turn it around and
something clamps it to zero. -/
theorem passesReduced_iff (hchecks : engine.exchangeBalanceChecks = true)
    (hproduct : target.productType = .derivatives) (hhealth : engine.healthBlockers = [])
    (hreduction : PureReduction target.currentPositionQty target.targetPositionQty) :
    PassesReduced engine target ↔ ∃ qty, engine.cappedQty target = some qty ∧
      (|qty| ≤ |target.targetPositionQty| ∨
        target.currentPositionQty * qty < 0 ∧ ¬ engine.Unconstrained target qty) := by
  have heps := epsilon12_pos
  have hsmaller := hreduction.2
  have hcurrent : epsilon12 < |target.currentPositionQty| := by
    have hnonneg := abs_nonneg target.targetPositionQty
    linarith
  have hclamped : ∀ qty, |reduceOnlyTargetQty target.currentPositionQty qty| ≤
      |target.targetPositionQty| ↔
        |qty| ≤ |target.targetPositionQty| ∨ target.currentPositionQty * qty < 0 := fun qty =>
    abs_reduceOnlyTargetQty_le hcurrent (abs_nonneg _) (by linarith)
  have hunfold : PassesReduced engine target ↔ ∃ qty, engine.cappedQty target = some qty ∧
      (engine.evaluatePretrade target qty).approved = true ∧
      |(engine.evaluatePretrade target qty).cappedQty| ≤ |target.targetPositionQty| := by
    simp [PassesReduced, RiskEngine.evaluate, decisionFor_approved hchecks hproduct, hhealth,
      decisionFor_cappedTargetPositionQty hchecks hproduct]
  rw [hunfold]
  refine exists_congr fun qty => and_congr_right fun _ => ?_
  rcases evaluatePretrade_cases engine target qty with
    ⟨hfree, happroved, hcapped⟩ | ⟨hbound, happroved, hcapped⟩
  · rw [hcapped]
    constructor
    · exact fun h => Or.inl h.2
    · rintro (h | h)
      · exact ⟨happroved, h⟩
      · exact absurd hfree h.2
  · rw [hcapped, happroved, hclamped qty]
    constructor
    · rintro ⟨-, h | h⟩
      · exact Or.inl h
      · exact Or.inr ⟨h, hbound⟩
    · intro h
      have hright : |qty| ≤ |target.targetPositionQty| ∨ target.currentPositionQty * qty < 0 :=
        h.imp_right And.left
      refine ⟨?_, hright⟩
      -- a clamped quantity below the current one by more than the tolerance moves the position
      have hsize := (hclamped qty).mpr hright
      have hmove := abs_sub_abs_le_abs_sub target.currentPositionQty
        (reduceOnlyTargetQty target.currentPositionQty qty)
      rw [abs_sub_comm] at hmove
      linarith

end Targets

/-! ### The three paths -/

/-- **Which reductions pass.**  A closing bundle passes exactly when the standing account meets the
limits of `LetsClose`; a single leg that does not open always passes; a reduced target passes
exactly when the caps do not enlarge it. -/
theorem reductions_pass (engine : RiskEngine) :
    (∀ symbol intents, ClosingBundle engine symbol intents →
      ((engine.evaluateLegOrderBundle intents).approved = true ↔
        engine.LetsClose symbol intents)) ∧
    (∀ intent : LegOrderIntent, intent.action ≠ .opening →
      (engine.evaluateLegOrder intent).approved = true) ∧
    (∀ target : PositionTarget, engine.exchangeBalanceChecks = true →
      target.productType = .derivatives → engine.healthBlockers = [] →
      PureReduction target.currentPositionQty target.targetPositionQty →
      (PassesReduced engine target ↔ ∃ qty, engine.cappedQty target = some qty ∧
        (|qty| ≤ |target.targetPositionQty| ∨
          target.currentPositionQty * qty < 0 ∧ ¬ engine.Unconstrained target qty))) := by
  refine ⟨fun symbol intents h => closing_bundle_approved h, ?_, ?_⟩
  · intro intent hclose
    simp [RiskEngine.evaluateLegOrder, hclose]
  · exact fun target hchecks hproduct hhealth hreduction =>
      passesReduced_iff hchecks hproduct hhealth hreduction

/-- A leg that closes 0.001 of the long side. -/
def closingLeg : LegOrderIntent where
  symbol := "BTC-USDT-SWAP"
  posSide := .long
  action := .close
  quantity := 1 / 1000

theorem closingBundle_closingLeg (engine : RiskEngine)
    (hnet : |engine.closedNotional "BTC-USDT-SWAP" [closingLeg] .long -
        engine.closedNotional "BTC-USDT-SWAP" [closingLeg] .short| ≤
      (engine.accountFigures "BTC-USDT-SWAP").currentExposure.netNotional) :
    ClosingBundle engine "BTC-USDT-SWAP" [closingLeg] where
  bundled := by decide
  oneSymbol := by decide
  closing := by decide
  netNotional := hnet

/-- An account that holds a long position of 0.002 and uses `margin` of its equity of 1000. -/
def marginEngine (margin : ℚ) : RiskEngine where
  latestSnapshot := some
    { positions :=
        [{ symbol := "BTC-USDT-SWAP", quantity := 2 / 1000, notionalUsd := some 100,
           side := "long" }]
      positionMode := some "long_short_mode"
      riskSnapshot := some
        { totalEquity := some 1000
          availableEquity := some (1000 - margin)
          initialMarginRequirement := some margin } }
  priceProvider _ := some 50000

def halvingTarget : PositionTarget where
  symbol := "BTC-USDT-SWAP"
  currentPositionQty := 2 / 1000
  targetPositionQty := 1 / 1000
  productType := .derivatives

theorem reductions_pass_quarter :
    ((marginEngine 250).evaluateLegOrderBundle [closingLeg]).approved = true ∧
      ((marginEngine 250).evaluateLegOrder closingLeg).approved = true ∧
      PassesReduced (marginEngine 250) halvingTarget := by
  obtain ⟨hbundle, hleg, htarget⟩ := reductions_pass (marginEngine 250)
  refine ⟨(hbundle "BTC-USDT-SWAP" [closingLeg]
    (closingBundle_closingLeg _ (by decide +kernel))).mpr ?_, hleg closingLeg (by decide), ?_⟩
  · exact ⟨by decide +kernel, fun _ => by decide +kernel,
      by rintro (_ | _) <;> decide +kernel, by decide +kernel, by decide +kernel,
      by decide +kernel⟩
  · refine (htarget halvingTarget rfl rfl rfl ⟨by decide +kernel, by decide +kernel⟩).mpr
      ⟨1 / 1000, by decide +kernel, Or.inl (by decide +kernel)⟩

/-- **A closing bundle is refused above the margin cap**: 90% of the equity is in use, the bundle
halves the only position, and the cap of 85% refuses it. -/
theorem closing_bundle_refused : ¬ ∀ (engine : RiskEngine) (symbol : String)
    (intents : List LegOrderIntent), 0 ≤ engine.settings.maxOpenOrders →
      ClosingBundle engine symbol intents →
        (engine.evaluateLegOrderBundle intents).approved = true := by
  intro hpasses
  have happroved := hpasses (marginEngine 900) "BTC-USDT-SWAP" [closingLeg] (by decide)
    (closingBundle_closingLeg _ (by decide +kernel))
  exact absurd happroved (by decide +kernel)

end Aats.Governance
