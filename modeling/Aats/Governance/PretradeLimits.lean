import Aats.Governance.RiskEngine

/-!
# What an approved derivatives target satisfies

`evaluate` caps a derivatives target twice, checks it, and where a check or a provider asks for
it clamps the target between zero and the current quantity. So an approved target either only
reduces the position or went through the checks. The checks run only when the added notional
counts as positive, and that notional is a quantity times the reference price.

## Main definitions
* `OnlyReduces`, `RiskEngine.MeetsLimits` — the two ways an approved target may be right.
* `PretradeSound` — every approval is one of them, and without a price it is a reduction.

## Main results
* `evaluatePretrade_cases` — what `_evaluate_derivatives_pretrade` can answer.
* `pretrade_sound` — **an approval is sound exactly when it is not given to an addition that the
  price makes worthless**.
-/

namespace Aats.Governance

open Checks

/-! ### Reductions -/

/-- A quantity that is zero, or has the sign of the current one and is not larger, up to
`epsilon12`. -/
def OnlyReduces (currentQty qty : ℚ) : Prop :=
  |qty| ≤ epsilon12 ∨
    (0 < currentQty ∧ 0 < qty ∨ currentQty < 0 ∧ qty < 0) ∧ |qty| ≤ |currentQty| + epsilon12

instance (currentQty qty : ℚ) : Decidable (OnlyReduces currentQty qty) :=
  inferInstanceAs (Decidable (_ ∨ _))

theorem onlyReduces_of_mem {currentQty qty : ℚ} (h : qty ∈ Set.uIcc 0 currentQty) :
    OnlyReduces currentQty qty := by
  have heps := epsilon12_pos
  rcases Set.mem_uIcc.mp h with ⟨hlo, hhi⟩ | ⟨hlo, hhi⟩
  · rcases hlo.eq_or_lt with hzero | hpos
    · left
      rw [← hzero, abs_zero]
      exact heps.le
    · right
      refine ⟨Or.inl ⟨hpos.trans_le hhi, hpos⟩, ?_⟩
      rw [abs_of_pos hpos, abs_of_pos (hpos.trans_le hhi)]
      linarith
  · rcases hhi.eq_or_lt with hzero | hneg
    · left
      rw [hzero, abs_zero]
      exact heps.le
    · right
      refine ⟨Or.inr ⟨hlo.trans_lt hneg, hneg⟩, ?_⟩
      rw [abs_of_neg hneg, abs_of_neg (hlo.trans_lt hneg)]
      linarith

theorem reduceOnlyTargetQty_mem (currentQty targetQty : ℚ) :
    reduceOnlyTargetQty currentQty targetQty ∈ Set.uIcc 0 currentQty := by
  unfold reduceOnlyTargetQty
  split
  · exact Set.left_mem_uIcc
  · split
    · rename_i hpos
      rw [Set.mem_uIcc]
      exact Or.inl ⟨le_min (le_max_right _ _) hpos.le, min_le_right _ _⟩
    · rename_i hpos
      rw [Set.mem_uIcc]
      exact Or.inr ⟨le_max_right _ _, max_le (min_le_right _ _) (not_lt.mp hpos)⟩

theorem reduceOnlyTargetQty_of_mem {currentQty qty : ℚ} (hcurrent : epsilon12 < |currentQty|)
    (h : qty ∈ Set.uIcc 0 currentQty) : reduceOnlyTargetQty currentQty qty = qty := by
  unfold reduceOnlyTargetQty
  rw [if_neg (not_le.mpr hcurrent)]
  rcases Set.mem_uIcc.mp h with ⟨hlo, hhi⟩ | ⟨hlo, hhi⟩
  · split
    · rw [max_eq_left hlo, min_eq_left hhi]
    · rename_i hpos
      have hzero : currentQty = 0 := le_antisymm (not_lt.mp hpos) (hlo.trans hhi)
      rw [hzero, abs_zero] at hcurrent
      exact absurd hcurrent epsilon12_pos.not_gt
  · rw [if_neg (not_lt.mpr (hlo.trans hhi)), min_eq_left hhi, max_eq_left hlo]

theorem reduceOnlyTargetQty_idem (currentQty targetQty : ℚ) :
    reduceOnlyTargetQty currentQty (reduceOnlyTargetQty currentQty targetQty) =
      reduceOnlyTargetQty currentQty targetQty := by
  by_cases hcurrent : epsilon12 < |currentQty|
  · exact reduceOnlyTargetQty_of_mem hcurrent (reduceOnlyTargetQty_mem _ _)
  · unfold reduceOnlyTargetQty
    rw [if_pos (not_lt.mp hcurrent), if_pos (not_lt.mp hcurrent)]

/-! ### Limits -/

theorem exceeds_eq_false {limit value : ℚ} :
    exceeds limit value = false ↔ (0 < limit → value ≤ limit + epsilon12) := by
  simp [exceeds]

/-- The figures of a target capped to `qty` keep every positive limit up to `epsilon12`. -/
structure RiskEngine.MeetsLimits (engine : RiskEngine) (target : PositionTarget) (qty : ℚ) :
    Prop where
  long : 0 < (engine.accountFigures target.symbol).exposureLimits.riskMaxLongNotional →
    (engine.pretradeFigures target qty).projectedExposure.longNotional ≤
      (engine.accountFigures target.symbol).exposureLimits.riskMaxLongNotional + epsilon12
  short : 0 < (engine.accountFigures target.symbol).exposureLimits.riskMaxShortNotional →
    (engine.pretradeFigures target qty).projectedExposure.shortNotional ≤
      (engine.accountFigures target.symbol).exposureLimits.riskMaxShortNotional + epsilon12
  gross : 0 < (engine.accountFigures target.symbol).exposureLimits.riskMaxGrossNotional →
    (engine.pretradeFigures target qty).projectedExposure.grossNotional ≤
      (engine.accountFigures target.symbol).exposureLimits.riskMaxGrossNotional + epsilon12
  net : 0 < (engine.accountFigures target.symbol).exposureLimits.riskMaxNetNotional →
    (engine.pretradeFigures target qty).projectedExposure.netNotional ≤
      (engine.accountFigures target.symbol).exposureLimits.riskMaxNetNotional + epsilon12
  grossPerSymbol : 0 < engine.maxGrossNotionalPerSymbol →
    |qty| * engine.safeReferencePrice target.symbol ≤
      engine.maxGrossNotionalPerSymbol + epsilon12
  pendingPerSymbol : 0 < engine.maxPendingNotionalPerSymbol →
    engine.pendingNotionalForSymbol target.symbol +
        (engine.pretradeFigures target qty).addedExposureNotional ≤
      engine.maxPendingNotionalPerSymbol + epsilon12
  totalOpen : 0 < engine.maxTotalOpenNotional →
    engine.currentTotalPositionNotional + engine.totalPendingNotional +
        (engine.pretradeFigures target qty).addedExposureNotional ≤
      engine.maxTotalOpenNotional + epsilon12
  requiredMargin : (engine.pretradeFigures target qty).requiredInitialMargin ≤
    (engine.accountFigures target.symbol).availableEquity + epsilon12
  onlyReduceTrigger : 0 < engine.settings.onlyReduceTrigger →
    (engine.pretradeFigures target qty).projectedMarginUsage < engine.settings.onlyReduceTrigger
  hardCap : 0 < engine.settings.maxMarginUsageFraction →
    (engine.pretradeFigures target qty).projectedMarginUsage ≤
      engine.settings.maxMarginUsageFraction + epsilon12
  dailyLoss : 0 < engine.settings.maxDailyRealizedLossUsdt →
    engine.dailyRealizedLossUsdt ≤ engine.settings.maxDailyRealizedLossUsdt + epsilon12
  openOrders : (engine.currentOpenOrderCount target.symbol : ℤ) < engine.settings.maxOpenOrders

/-- **The checks are the limits**: an addition without a cause keeps them all. -/
theorem meetsLimits_of_onlyReduceCauses {engine : RiskEngine} {target : PositionTarget} {qty : ℚ}
    (hadded : epsilon12 < (engine.pretradeFigures target qty).addedExposureNotional)
    (h : engine.onlyReduceCauses target (engine.pretradeFigures target qty) = []) :
    engine.MeetsLimits target qty := by
  simp only [RiskEngine.onlyReduceCauses, if_pos hadded, List.append_eq_nil_iff] at h
  obtain ⟨hbreaches, htrigger⟩ := h
  rw [hbreaches] at htrigger
  have hchecks := raised_eq_nil.mp hbreaches
  simp only [RiskEngine.pretradeLimitChecks, List.mem_cons, List.not_mem_nil, or_false,
    forall_eq_or_imp, forall_eq, exceeds_eq_false, decide_eq_false_iff_not, not_le, not_lt]
    at hchecks
  obtain ⟨hopen, -, hmargin, hcap, hlong, hshort, hgross, hnet, hsymbol, hpending, htotal, hloss⟩ :=
    hchecks
  refine ⟨hlong, hshort, hgross, hnet, hsymbol, hpending, htotal, hmargin, ?_, hcap, hloss, hopen⟩
  intro hpos
  simp only [List.isEmpty_nil, Bool.true_and, raised_cons, raised_nil, ite_eq_right_iff,
    reduceCtorEq, imp_false, RiskSettings.onlyReduceTriggered, decide_eq_true_eq, not_and,
    not_le] at htrigger
  have husage := htrigger hpos
  have heps := epsilon12_pos
  linarith

/-! ### What the check can answer -/

section Answers

variable (engine : RiskEngine) (target : PositionTarget) (qty : ℚ)

/-- Nothing asks for a reduction of the capped target. -/
def RiskEngine.Unconstrained : Prop :=
  engine.onlyReduceCauses target (engine.pretradeFigures target qty) = [] ∧
    engine.providerOnlyReduceReasons target.strategyBundleId = []

instance : Decidable (engine.Unconstrained target qty) :=
  inferInstanceAs (Decidable (_ ∧ _))

theorem evaluatePretrade_cases :
    (engine.Unconstrained target qty ∧
      (engine.evaluatePretrade target qty).approved = true ∧
      (engine.evaluatePretrade target qty).cappedQty = qty) ∨
    (¬ engine.Unconstrained target qty ∧
      ((engine.evaluatePretrade target qty).approved = true ↔
        epsilon12 < |reduceOnlyTargetQty target.currentPositionQty qty -
          target.currentPositionQty|) ∧
      (engine.evaluatePretrade target qty).cappedQty =
        reduceOnlyTargetQty target.currentPositionQty qty) := by
  by_cases hcauses : engine.onlyReduceCauses target (engine.pretradeFigures target qty) = []
  · by_cases hproviders : engine.providerOnlyReduceReasons target.strategyBundleId = []
    · left
      refine ⟨⟨hcauses, hproviders⟩, ?_, ?_⟩
      · simp [RiskEngine.evaluatePretrade, hcauses, hproviders]
      · simp [RiskEngine.evaluatePretrade, hcauses, hproviders]
    · right
      refine ⟨fun h => hproviders h.2, ?_, ?_⟩
      · simp [RiskEngine.evaluatePretrade, hcauses, hproviders]
      · simp [RiskEngine.evaluatePretrade, hcauses, hproviders]
  · right
    refine ⟨fun h => hcauses h.1, ?_, ?_⟩
    · by_cases hproviders : engine.providerOnlyReduceReasons target.strategyBundleId = []
      · simp [RiskEngine.evaluatePretrade, hcauses, hproviders]
      · simp [RiskEngine.evaluatePretrade, hcauses, hproviders, reduceOnlyTargetQty_idem]
    · by_cases hproviders : engine.providerOnlyReduceReasons target.strategyBundleId = []
      · simp [RiskEngine.evaluatePretrade, hcauses, hproviders]
      · simp [RiskEngine.evaluatePretrade, hcauses, hproviders, reduceOnlyTargetQty_idem]

end Answers

section Decision

variable {engine : RiskEngine} {target : PositionTarget} {qty : ℚ}

theorem decisionFor_approved (hchecks : engine.exchangeBalanceChecks = true)
    (hproduct : target.productType = .derivatives) :
    (engine.decisionFor target qty).approved = true ↔
      (engine.evaluatePretrade target qty).approved = true ∧ engine.healthBlockers = [] := by
  simp [RiskEngine.decisionFor, hchecks, hproduct]

theorem decisionFor_cappedTargetPositionQty (hchecks : engine.exchangeBalanceChecks = true)
    (hproduct : target.productType = .derivatives) :
    (engine.decisionFor target qty).cappedTargetPositionQty =
      (engine.evaluatePretrade target qty).cappedQty := by
  simp [RiskEngine.decisionFor, hchecks, hproduct]

end Decision

/-! ### Sound approvals -/

/-- Every approval of a target only reduces the position or keeps the limits, and without a
reference price it only reduces. -/
def PretradeSound (engine : RiskEngine) (target : PositionTarget) : Prop :=
  ∀ decision, engine.evaluate target = some decision → decision.approved = true →
    (OnlyReduces target.currentPositionQty decision.cappedTargetPositionQty ∨
      engine.MeetsLimits target decision.cappedTargetPositionQty) ∧
    (engine.safeReferencePrice target.symbol = 0 →
      OnlyReduces target.currentPositionQty decision.cappedTargetPositionQty)

theorem safeReferencePrice_ne_zero {engine : RiskEngine} {target : PositionTarget} {qty : ℚ}
    (h : epsilon12 < (engine.pretradeFigures target qty).addedExposureNotional) :
    engine.safeReferencePrice target.symbol ≠ 0 := by
  intro hzero
  have hworth : (engine.pretradeFigures target qty).addedExposureNotional = 0 := by
    change |_| * engine.safeReferencePrice target.symbol = 0
    rw [hzero, mul_zero]
  rw [hworth] at h
  exact h.not_gt epsilon12_pos

/-- **Approvals of derivatives targets are sound exactly when a worthless addition is not let
through.**  The checks are skipped when the added quantity at the reference price is worth at most
`epsilon12`; then the target must be refused or clamped for another reason, only reduce, or be
within the limits at a positive price as it stands. -/
theorem pretrade_sound (engine : RiskEngine) (target : PositionTarget)
    (hchecks : engine.exchangeBalanceChecks = true)
    (hproduct : target.productType = .derivatives) :
    PretradeSound engine target ↔ ∀ qty, engine.cappedQty target = some qty →
      engine.healthBlockers ≠ [] ∨
      engine.providerOnlyReduceReasons target.strategyBundleId ≠ [] ∨
      epsilon12 < |derivativesAddedExposureQty target.currentPositionQty qty| *
        engine.safeReferencePrice target.symbol ∨
      OnlyReduces target.currentPositionQty qty ∨
      (engine.safeReferencePrice target.symbol ≠ 0 ∧ engine.MeetsLimits target qty) := by
  constructor
  · intro hsound qty hqty
    by_cases hhealth : engine.healthBlockers = []
    swap
    · exact Or.inl hhealth
    by_cases hproviders : engine.providerOnlyReduceReasons target.strategyBundleId = []
    swap
    · exact Or.inr (Or.inl hproviders)
    by_cases hadded : epsilon12 < (engine.pretradeFigures target qty).addedExposureNotional
    · exact Or.inr (Or.inr (Or.inl hadded))
    -- no check runs, so the target is approved as it is
    have hcauses : engine.onlyReduceCauses target (engine.pretradeFigures target qty) = [] := by
      rw [RiskEngine.onlyReduceCauses, if_neg hadded]
    rcases evaluatePretrade_cases engine target qty with ⟨-, happroved, hcapped⟩ | ⟨hnot, -, -⟩
    swap
    · exact absurd ⟨hcauses, hproviders⟩ hnot
    have hdecision : engine.evaluate target = some (engine.decisionFor target qty) := by
      rw [RiskEngine.evaluate, hqty, Option.map_some]
    obtain ⟨hright, hunpriced⟩ := hsound _ hdecision
      ((decisionFor_approved hchecks hproduct).mpr ⟨happroved, hhealth⟩)
    rw [decisionFor_cappedTargetPositionQty hchecks hproduct, hcapped] at hright hunpriced
    by_cases hprice : engine.safeReferencePrice target.symbol = 0
    · exact Or.inr (Or.inr (Or.inr (Or.inl (hunpriced hprice))))
    · rcases hright with hreduces | hlimits
      · exact Or.inr (Or.inr (Or.inr (Or.inl hreduces)))
      · exact Or.inr (Or.inr (Or.inr (Or.inr ⟨hprice, hlimits⟩)))
  · intro hcondition decision hdecision happroved
    obtain ⟨qty, hqty, rfl⟩ := Option.map_eq_some_iff.mp hdecision
    obtain ⟨-, hhealth⟩ := (decisionFor_approved hchecks hproduct).mp happroved
    rw [decisionFor_cappedTargetPositionQty hchecks hproduct]
    rcases evaluatePretrade_cases engine target qty with
      ⟨⟨hcauses, hproviders⟩, -, hcapped⟩ | ⟨-, -, hcapped⟩
    · rw [hcapped]
      rcases hcondition qty hqty with h | h | hadded | hreduces | ⟨hprice, hlimits⟩
      · exact absurd hhealth h
      · exact absurd hproviders h
      · exact ⟨Or.inr (meetsLimits_of_onlyReduceCauses hadded hcauses),
          fun hzero => absurd hzero (safeReferencePrice_ne_zero hadded)⟩
      · exact ⟨Or.inl hreduces, fun _ => hreduces⟩
      · exact ⟨Or.inr hlimits, fun hzero => absurd hzero hprice⟩
    · have hreduces := onlyReduces_of_mem
        (reduceOnlyTargetQty_mem target.currentPositionQty qty)
      rw [hcapped]
      exact ⟨Or.inl hreduces, fun _ => hreduces⟩

/-- A flat account with nothing reserved, and a price provider that answers `price`. -/
def flatEngine (price : Option ℚ) : RiskEngine where
  latestSnapshot := some
    { balances := [{ currency := "USDT", available := 1000 }]
      riskSnapshot := some { availableEquity := some 1000 } }
  priceProvider _ := price

/-- A target that opens a long position of 0.01. -/
def openingTarget : PositionTarget where
  symbol := "BTC-USDT-SWAP"
  currentPositionQty := 0
  targetPositionQty := 1 / 100
  productType := .derivatives

theorem pretrade_sound_priced : PretradeSound (flatEngine (some 50000)) openingTarget := by
  refine (pretrade_sound (flatEngine (some 50000)) openingTarget rfl rfl).mpr ?_
  intro qty hqty
  have hcapped : (flatEngine (some 50000)).cappedQty openingTarget = some (1 / 100) := by
    decide +kernel
  obtain rfl : 1 / 100 = qty := Option.some.inj (hcapped.symm.trans hqty)
  exact Or.inr (Or.inr (Or.inl (by decide +kernel)))

/-- **An opening without a price is approved**: the price provider raises, the added notional is
zero, no check runs, and the flat account is let into the position. -/
theorem unpriced_opening_approved : ¬ ∀ (engine : RiskEngine) (target : PositionTarget),
    engine.exchangeBalanceChecks = true → target.productType = .derivatives →
      PretradeSound engine target := by
  intro hsound
  have hrun : ((flatEngine none).evaluate openingTarget).map
      (fun decision => (decision.approved, decision.cappedTargetPositionQty)) =
        some (true, 1 / 100) := by decide +kernel
  obtain ⟨decision, hdecision, heq⟩ := Option.map_eq_some_iff.mp hrun
  obtain ⟨happroved, hcapped⟩ := Prod.mk.inj heq
  have hreduces := (hsound (flatEngine none) openingTarget rfl rfl decision hdecision happroved).2
    (by decide +kernel)
  rw [hcapped] at hreduces
  exact absurd hreduces (by decide +kernel)

end Aats.Governance
