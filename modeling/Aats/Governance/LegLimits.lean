import Aats.Governance.LegOrderRisk
import Aats.Governance.PretradeLimits

/-!
# The rules of leg orders

Why `evaluate_leg_order` refuses an opening leg, and what a bundle of that leg alone repeats of
it. The reasons are sorted by where they come from: the providers and the daily loss bind the
legs that are held, a limit that the standing position exceeds binds the legs it is about, and the
order itself may break a limit. The per-leg check runs before a bundle is formed and again at
submission; the bundle check is about the legs taken together.

## Main definitions
* `RiskEngine.KeepsSharedLimits`, `RiskEngine.PerLegRule` — the rules of an opening leg, those a
  bundle repeats and those it leaves to the per-leg check.
-/

namespace Aats.Governance

open Checks

/-! ### Reasons by leg -/

theorem get_append (map : LegReasons) (legs : List Leg) (reasons : List String) (leg : Leg) :
    (map.append legs reasons).get leg =
      if leg ∈ legs then map.get leg ++ reasons.filter (¬ blank ·) else map.get leg := by
  cases leg <;> rfl

theorem get_append_eq_nil {map : LegReasons} {legs : List Leg} {reasons : List String} {leg : Leg}
    (hreasons : ∀ reason ∈ reasons, blank reason = false) :
    (map.append legs reasons).get leg = [] ↔
      map.get leg = [] ∧ (leg ∈ legs → reasons = []) := by
  have hfilter : reasons.filter (¬ blank ·) = reasons := by
    rw [List.filter_eq_self]
    intro reason hmem
    simp [hreasons reason hmem]
  rw [get_append, hfilter]
  split
  · rename_i hmem
    rw [List.append_eq_nil_iff]
    simp [hmem]
  · rename_i hmem
    simp [hmem]

theorem get_appendIf_eq_nil {map : LegReasons} {condition : Bool} {legs : List Leg}
    {reason : String} {leg : Leg} (hreason : blank reason = false) :
    (map.appendIf condition legs reason).get leg = [] ↔
      map.get leg = [] ∧ ¬ (condition = true ∧ leg ∈ legs) := by
  unfold LegReasons.appendIf
  cases condition with
  | false => simp
  | true =>
    rw [if_pos rfl, get_append_eq_nil (by simpa using hreason)]
    simp

theorem eraseDups_eq_nil {reasons : List String} : reasons.eraseDups = [] ↔ reasons = [] := by
  cases reasons with
  | nil => simp
  | cons reason rest => simp [List.eraseDups_cons]

theorem get_unique_eq_nil {map : LegReasons} {leg : Leg} :
    map.unique.get leg = [] ↔ map.get leg = [] := by
  cases leg
  · exact eraseDups_eq_nil
  · exact eraseDups_eq_nil

theorem uniqueTexts_eq_nil {texts : List String} (htexts : ∀ text ∈ texts, text ≠ "") :
    uniqueTexts texts = [] ↔ texts = [] := by
  have hfilter : texts.filter (· ≠ "") = texts := by
    rw [List.filter_eq_self]
    intro text hmem
    simpa using htexts text hmem
  rw [uniqueTexts, hfilter, eraseDups_eq_nil]

/-! ### Providers -/

section Providers

variable (engine : RiskEngine) (strategyBundleId : Option String)

theorem reconciliationOnlyReduceReasons_not_blank :
    ∀ reason ∈ engine.reconciliationOnlyReduceReasons, blank reason = false := by
  unfold RiskEngine.reconciliationOnlyReduceReasons
  intro reason hmem
  split at hmem
  · cases hmem
  · split at hmem
    · split at hmem
      · simpa using (List.mem_filter.mp hmem).2
      · rw [List.mem_singleton] at hmem
        rw [hmem]
        decide
    · cases hmem

theorem runtimeGuardOnlyReduceReasons_not_blank :
    ∀ reason ∈ engine.runtimeGuardOnlyReduceReasons, blank reason = false := by
  unfold RiskEngine.runtimeGuardOnlyReduceReasons
  intro reason hmem
  split at hmem
  · cases hmem
  · split at hmem
    · simpa using (List.mem_filter.mp hmem).2
    · cases hmem

theorem recoveryStatusOnlyReduceReasons_not_blank :
    ∀ reason ∈ engine.recoveryStatusOnlyReduceReasons strategyBundleId, blank reason = false := by
  simp only [RiskEngine.recoveryStatusOnlyReduceReasons]
  intro reason hmem
  split at hmem
  · cases hmem
  · split at hmem
    · split at hmem
      · simpa using (List.mem_filter.mp (List.mem_filter.mp hmem).1).2
      · simpa using (List.mem_filter.mp hmem).2
    · cases hmem

end Providers

/-! ### What an account asks of a leg -/

section Account

variable (engine : RiskEngine) (account : AccountFigures) (strategyBundleId : Option String)

/-- A provider reports a reason, or the daily realized loss is above its limit. -/
def RiskEngine.OnlyReduceMode : Prop :=
  engine.providerOnlyReduceReasons strategyBundleId ≠ [] ∨
    exceeds engine.settings.maxDailyRealizedLossUsdt account.dailyRealizedLoss = true

def AccountFigures.StandingLimit (leg : Leg) : Prop :=
  exceeds (account.exposureLimits.legLimit leg) (account.currentExposure.legNotional leg) = true ∨
    exceeds account.exposureLimits.riskMaxGrossNotional account.currentExposure.grossNotional =
      true ∨
    exceeds account.exposureLimits.riskMaxNetNotional account.currentExposure.netNotional = true ∧
      leg ∈ netSideOrAllLegs account.currentExposure

theorem baseLegOnlyReduceConstraints_eq_nil (leg : Leg) :
    (engine.baseLegOnlyReduceConstraints account strategyBundleId).get leg = [] ↔
      ¬ (leg ∈ heldOrAllLegs account.currentExposure ∧
        engine.OnlyReduceMode account strategyBundleId) ∧ ¬ account.StandingLimit leg := by
  have hempty : ({} : LegReasons).get leg = [] := by cases leg <;> rfl
  simp only [RiskEngine.baseLegOnlyReduceConstraints, get_unique_eq_nil]
  rw [get_appendIf_eq_nil (by decide), get_appendIf_eq_nil (by decide),
    get_appendIf_eq_nil (by decide), get_appendIf_eq_nil (by decide),
    get_appendIf_eq_nil (by decide),
    get_append_eq_nil (recoveryStatusOnlyReduceReasons_not_blank engine strategyBundleId),
    get_append_eq_nil (runtimeGuardOnlyReduceReasons_not_blank engine),
    get_append_eq_nil (reconciliationOnlyReduceReasons_not_blank engine), hempty]
  simp only [RiskEngine.OnlyReduceMode, RiskEngine.providerOnlyReduceReasons,
    AccountFigures.StandingLimit, ne_eq, List.append_eq_nil_iff]
  cases leg
  · simp only [DerivativesExposureLimits.legLimit, DerivativesExposureMetrics.legNotional,
      List.mem_cons, List.not_mem_nil, or_false, reduceCtorEq, and_true, and_false]
    tauto
  · simp only [DerivativesExposureLimits.legLimit, DerivativesExposureMetrics.legNotional,
      List.mem_cons, List.not_mem_nil, or_false, or_true, reduceCtorEq, and_true, and_false]
    tauto

end Account

/-! ### What an order breaks -/

def LegFigures.raisesLeg (figures : LegFigures) (leg : Leg) : Bool :=
  decide (figures.account.currentExposure.legNotional leg + epsilon12 <
    figures.projectedExposure.legNotional leg)

def LegFigures.raisesGross (figures : LegFigures) : Bool :=
  decide (figures.account.currentExposure.grossNotional + epsilon12 <
    figures.projectedExposure.grossNotional)

section Orders

variable (engine : RiskEngine) (intent : LegOrderIntent)

structure RiskEngine.KeepsSharedLimits : Prop where
  openOrders : ((engine.legFigures intent).account.currentOpenOrderCount : ℤ) <
    engine.settings.maxOpenOrders
  margin : engine.enforceExchangeMarginChecks = true →
    (engine.legFigures intent).requiredInitialMargin ≤
      (engine.legFigures intent).account.availableEquity + epsilon12
  hardCap : engine.enforceExchangeMarginChecks = true →
    exceeds engine.settings.maxMarginUsageFraction
      (engine.legFigures intent).projectedMarginUsage = false
  leg : (engine.legFigures intent).raisesLeg intent.posSide = true →
    exceeds ((engine.legFigures intent).account.exposureLimits.legLimit intent.posSide)
      ((engine.legFigures intent).projectedExposure.legNotional intent.posSide) = false
  gross : (engine.legFigures intent).raisesGross = true →
    exceeds (engine.legFigures intent).account.exposureLimits.riskMaxGrossNotional
      (engine.legFigures intent).projectedExposure.grossNotional = false
  net : (engine.legFigures intent).raisesNet = true →
    legOfSide (engine.legFigures intent).projectedExposure.netExposureSide =
      some intent.posSide →
    exceeds (engine.legFigures intent).account.exposureLimits.riskMaxNetNotional
      (engine.legFigures intent).projectedExposure.netNotional = false
  pendingPerSymbol : exceeds engine.maxPendingNotionalPerSymbol
    ((engine.legFigures intent).account.symbolPendingNotional +
      (engine.legFigures intent).addedNotional) = false
  totalOpen : exceeds engine.maxTotalOpenNotional
    ((engine.legFigures intent).account.currentTotalPositionNotional +
      (engine.legFigures intent).account.totalPendingNotional +
      (engine.legFigures intent).addedNotional) = false
  dailyLoss : (engine.legFigures intent).raisesNet = true →
    exceeds engine.settings.maxDailyRealizedLossUsdt
      (engine.legFigures intent).account.dailyRealizedLoss = false
  onlyReduceTrigger : (engine.legFigures intent).raisesNet = true →
    engine.enforceExchangeMarginChecks = true →
    engine.settings.onlyReduceTriggered (engine.legFigures intent).projectedMarginUsage = false

/-- The rules of an opening leg that only the per-leg check knows: the leverage cap, only-reduce
mode on a held leg, a limit that the standing position exceeds, and a projected notional above its
limit that the order did not raise. -/
def RiskEngine.PerLegRule : Prop :=
  engine.policyProfile.maxTargetLeverage + epsilon12 < intent.targetLeverage ∨
  (intent.posSide ∈ heldOrAllLegs (engine.legFigures intent).account.currentExposure ∧
    engine.OnlyReduceMode (engine.legFigures intent).account intent.strategyBundleId) ∨
  (engine.legFigures intent).account.StandingLimit intent.posSide ∨
  ((engine.legFigures intent).raisesLeg intent.posSide = false ∧
    exceeds ((engine.legFigures intent).account.exposureLimits.legLimit intent.posSide)
      ((engine.legFigures intent).projectedExposure.legNotional intent.posSide) = true) ∨
  ((engine.legFigures intent).raisesGross = false ∧
    exceeds (engine.legFigures intent).account.exposureLimits.riskMaxGrossNotional
      (engine.legFigures intent).projectedExposure.grossNotional = true)

variable {engine intent}

theorem legLimitChecks_not_blank {figures : LegFigures} :
    ∀ reason ∈ raised (engine.legLimitChecks intent figures), blank reason = false := by
  intro reason hmem
  have hcheck := mem_raised.mp hmem
  simp only [RiskEngine.legLimitChecks, List.mem_cons, List.not_mem_nil, or_false,
    Prod.mk.injEq] at hcheck
  rcases hcheck with ⟨-, rfl⟩ | ⟨-, rfl⟩ | ⟨-, rfl⟩ | ⟨-, rfl⟩ | ⟨-, rfl⟩ | ⟨-, rfl⟩ | ⟨-, rfl⟩ |
    ⟨-, rfl⟩ | ⟨-, rfl⟩ | ⟨-, rfl⟩ | ⟨-, rfl⟩ <;> decide

theorem limitBreachesForLegOrder_not_blank {figures : LegFigures} :
    ∀ reason ∈ engine.limitBreachesForLegOrder intent figures, blank reason = false := by
  intro reason hmem
  simp only [RiskEngine.limitBreachesForLegOrder] at hmem
  split at hmem
  · rcases List.mem_append.mp hmem with hbreach | htrigger
    · exact legLimitChecks_not_blank reason hbreach
    · have hcheck := mem_raised.mp htrigger
      rw [List.mem_singleton, Prod.mk.injEq] at hcheck
      rw [hcheck.2]
      decide
  · cases hmem

theorem evaluateLegOrder_approved (hopen : intent.action = .opening) :
    (engine.evaluateLegOrder intent).approved = true ↔
      (¬ (intent.posSide ∈ heldOrAllLegs (engine.legFigures intent).account.currentExposure ∧
          engine.OnlyReduceMode (engine.legFigures intent).account intent.strategyBundleId) ∧
        ¬ (engine.legFigures intent).account.StandingLimit intent.posSide) ∧
      engine.limitBreachesForLegOrder intent (engine.legFigures intent) = [] := by
  have hreasons : (engine.evaluateLegOrder intent).approved = true ↔
      (engine.legOnlyReduceConstraints intent).get intent.posSide = [] := by
    simp [RiskEngine.evaluateLegOrder, hopen]
  rw [hreasons, RiskEngine.legOnlyReduceConstraints, get_unique_eq_nil,
    get_append_eq_nil limitBreachesForLegOrder_not_blank, baseLegOnlyReduceConstraints_eq_nil]
  simp

theorem limitBreachesForLegOrder_eq_nil (hopen : intent.action = .opening) :
    engine.limitBreachesForLegOrder intent (engine.legFigures intent) = [] ↔
      raised (engine.legLimitChecks intent (engine.legFigures intent)) = [] ∧
      ((engine.legFigures intent).raisesNet = true → engine.enforceExchangeMarginChecks = true →
        engine.settings.onlyReduceTriggered (engine.legFigures intent).projectedMarginUsage =
          false) := by
  simp only [RiskEngine.limitBreachesForLegOrder, if_pos hopen, List.append_eq_nil_iff]
  constructor
  · rintro ⟨hbreaches, htrigger⟩
    refine ⟨hbreaches, fun hraises hexchange => ?_⟩
    rw [hbreaches, raised_eq_nil] at htrigger
    simpa [hraises, hexchange] using htrigger
  · rintro ⟨hbreaches, htrigger⟩
    refine ⟨hbreaches, ?_⟩
    rw [hbreaches, raised_eq_nil]
    cases hraises : (engine.legFigures intent).raisesNet
    · simp
    · cases hexchange : engine.enforceExchangeMarginChecks
      · simp
      · simp [htrigger hraises hexchange]

theorem side_checks (figures : LegFigures) :
    ((decide (intent.posSide = .long) && exceeds figures.account.exposureLimits.riskMaxLongNotional
        figures.projectedExposure.longNotional) = false ∧
      (decide (intent.posSide = .short) &&
        exceeds figures.account.exposureLimits.riskMaxShortNotional
          figures.projectedExposure.shortNotional) = false) ↔
      exceeds (figures.account.exposureLimits.legLimit intent.posSide)
        (figures.projectedExposure.legNotional intent.posSide) = false := by
  cases intent.posSide
  · simp [DerivativesExposureLimits.legLimit, DerivativesExposureMetrics.legNotional]
  · simp [DerivativesExposureLimits.legLimit, DerivativesExposureMetrics.legNotional]

theorem keepsSharedLimits_of_raised
    (hchecks : raised (engine.legLimitChecks intent (engine.legFigures intent)) = [])
    (htrigger : (engine.legFigures intent).raisesNet = true →
      engine.enforceExchangeMarginChecks = true →
        engine.settings.onlyReduceTriggered (engine.legFigures intent).projectedMarginUsage =
          false) :
    engine.KeepsSharedLimits intent ∧
      intent.targetLeverage ≤ engine.policyProfile.maxTargetLeverage + epsilon12 ∧
      exceeds ((engine.legFigures intent).account.exposureLimits.legLimit intent.posSide)
        ((engine.legFigures intent).projectedExposure.legNotional intent.posSide) = false ∧
      exceeds (engine.legFigures intent).account.exposureLimits.riskMaxGrossNotional
        (engine.legFigures intent).projectedExposure.grossNotional = false := by
  rw [raised_eq_nil] at hchecks
  simp only [RiskEngine.legLimitChecks, List.mem_cons, List.not_mem_nil, or_false,
    forall_eq_or_imp, forall_eq, decide_eq_false_iff_not, not_le, not_lt] at hchecks
  obtain ⟨hopenOrders, hleverage, hmargin, hcap, hlong, hshort, hgross, hnet, hpending, htotal,
    hloss⟩ := hchecks
  have hleg := (side_checks (engine.legFigures intent)).mp ⟨hlong, hshort⟩
  refine ⟨⟨hopenOrders, ?_, ?_, fun _ => hleg, fun _ => hgross, ?_, hpending, htotal, ?_,
    htrigger⟩, hleverage, hleg, hgross⟩
  · intro hexchange
    simpa [hexchange] using hmargin
  · intro hexchange
    simpa [hexchange] using hcap
  · intro hraises hside
    simpa [hraises, hside] using hnet
  · intro hraises
    simpa [hraises] using hloss

theorem raised_of_keepsSharedLimits (hkeeps : engine.KeepsSharedLimits intent)
    (hleverage : intent.targetLeverage ≤ engine.policyProfile.maxTargetLeverage + epsilon12)
    (hleg : exceeds ((engine.legFigures intent).account.exposureLimits.legLimit intent.posSide)
      ((engine.legFigures intent).projectedExposure.legNotional intent.posSide) = false)
    (hgross : exceeds (engine.legFigures intent).account.exposureLimits.riskMaxGrossNotional
      (engine.legFigures intent).projectedExposure.grossNotional = false) :
    raised (engine.legLimitChecks intent (engine.legFigures intent)) = [] := by
  rw [raised_eq_nil]
  simp only [RiskEngine.legLimitChecks, List.mem_cons, List.not_mem_nil, or_false,
    forall_eq_or_imp, forall_eq, decide_eq_false_iff_not, not_le, not_lt]
  obtain ⟨hlong, hshort⟩ := (side_checks (engine.legFigures intent)).mpr hleg
  refine ⟨hkeeps.openOrders, hleverage, ?_, ?_, hlong, hshort, hgross, ?_,
    hkeeps.pendingPerSymbol, hkeeps.totalOpen, ?_⟩
  · cases hexchange : engine.enforceExchangeMarginChecks
    · rfl
    · simpa using hkeeps.margin hexchange
  · cases hexchange : engine.enforceExchangeMarginChecks
    · rfl
    · simpa using hkeeps.hardCap hexchange
  · cases hraises : (engine.legFigures intent).raisesNet
    · simp
    · by_cases hside : legOfSide (engine.legFigures intent).projectedExposure.netExposureSide =
          some intent.posSide
      · simp [hkeeps.net hraises hside]
      · simp [hside]
  · cases hraises : (engine.legFigures intent).raisesNet
    · simp
    · simpa using hkeeps.dailyLoss hraises

theorem evaluateLegOrder_refused (hopen : intent.action = .opening) :
    (engine.evaluateLegOrder intent).approved = false ↔
      ¬ engine.KeepsSharedLimits intent ∨ engine.PerLegRule intent := by
  have happroved : (engine.evaluateLegOrder intent).approved = true ↔
      engine.KeepsSharedLimits intent ∧ ¬ engine.PerLegRule intent := by
    rw [evaluateLegOrder_approved hopen, limitBreachesForLegOrder_eq_nil hopen]
    constructor
    · rintro ⟨⟨hheld, hstanding⟩, hchecks, htrigger⟩
      obtain ⟨hkeeps, hleverage, hleg, hgross⟩ := keepsSharedLimits_of_raised hchecks htrigger
      refine ⟨hkeeps, ?_⟩
      rintro (h | h | h | ⟨-, h⟩ | ⟨-, h⟩)
      · exact h.not_ge hleverage
      · exact hheld h
      · exact hstanding h
      · rw [hleg] at h
        cases h
      · rw [hgross] at h
        cases h
    · rintro ⟨hkeeps, hrules⟩
      simp only [RiskEngine.PerLegRule, not_or, not_and, Bool.not_eq_true, not_lt] at hrules
      obtain ⟨hleverage, hheld, hstanding, hlegRule, hgrossRule⟩ := hrules
      have hleg : exceeds ((engine.legFigures intent).account.exposureLimits.legLimit
          intent.posSide) ((engine.legFigures intent).projectedExposure.legNotional
            intent.posSide) = false := by
        cases hraises : (engine.legFigures intent).raisesLeg intent.posSide
        · exact hlegRule hraises
        · exact hkeeps.leg hraises
      have hgross : exceeds (engine.legFigures intent).account.exposureLimits.riskMaxGrossNotional
          (engine.legFigures intent).projectedExposure.grossNotional = false := by
        cases hraises : (engine.legFigures intent).raisesGross
        · exact hgrossRule hraises
        · exact hkeeps.gross hraises
      exact ⟨⟨fun h => hheld h.1 h.2, hstanding⟩,
        raised_of_keepsSharedLimits hkeeps hleverage hleg hgross, hkeeps.onlyReduceTrigger⟩
  rw [← Bool.not_eq_true, happroved, not_and_or, not_not]

end Orders

/-! ### A bundle of one leg -/

theorem bundleChecks_ne_empty (engine : RiskEngine) (account : AccountFigures)
    (totals : BundleTotals) :
    ∀ reason ∈ raised (engine.bundleChecks account totals), reason ≠ "" := by
  intro reason hmem
  have hcheck := mem_raised.mp hmem
  simp only [RiskEngine.bundleChecks, List.mem_cons, List.not_mem_nil, or_false,
    Prod.mk.injEq] at hcheck
  rcases hcheck with ⟨-, rfl⟩ | ⟨-, rfl⟩ | ⟨-, rfl⟩ | ⟨-, rfl⟩ | ⟨-, rfl⟩ | ⟨-, rfl⟩ | ⟨-, rfl⟩ |
    ⟨-, rfl⟩ | ⟨-, rfl⟩ | ⟨-, rfl⟩ | ⟨-, rfl⟩ <;> decide

theorem evaluateLegOrderBundle_approved (engine : RiskEngine) {intents : List LegOrderIntent}
    {symbol : String} (hbundled : ∀ intent ∈ intents, intent.bundled = true)
    (hsymbol : ((intents.map (·.symbol)).filter (¬ blank ·)).eraseDups = [symbol]) :
    (engine.evaluateLegOrderBundle intents).approved = true ↔
      raised (engine.bundleChecks (engine.accountFigures symbol)
        (engine.bundleTotals (engine.accountFigures symbol) intents)) = [] := by
  have hfilter : intents.filter (·.bundled) = intents := List.filter_eq_self.mpr hbundled
  have hne : intents ≠ [] := by
    rintro rfl
    simp at hsymbol
  simp only [RiskEngine.evaluateLegOrderBundle, hfilter, if_neg hne, hsymbol,
    RiskEngine.decideBundle, List.isEmpty_iff]
  exact uniqueTexts_eq_nil (bundleChecks_ne_empty _ _ _)

theorem eq_false_of_and {check guard : Bool} (h : (check && guard) = false)
    (hguard : guard = true) : check = false := by
  rwa [hguard, Bool.and_true] at h

section OneLeg

variable {engine : RiskEngine} {intent : LegOrderIntent}

theorem bundleTotals_singleton (hopen : intent.action = .opening) :
    engine.bundleTotals (engine.accountFigures intent.symbol) [intent] =
      { projectedExposure := (engine.legFigures intent).projectedExposure
        requiredInitialMargin := (engine.legFigures intent).requiredInitialMargin
        addedNotional := (engine.legFigures intent).addedNotional
        maxTargetLeverage := (engine.legFigures intent).leverage
        openingLegCount := 1 } := by
  have hleverage : max 1 (max intent.targetLeverage 1) = max intent.targetLeverage 1 :=
    max_eq_right (le_max_right _ _)
  simp only [RiskEngine.bundleTotals, List.foldl_cons, List.foldl_nil, RiskEngine.addLeg,
    if_pos hopen, zero_add, hleverage]
  rfl

theorem keepsSharedLimits_of_bundle (hopen : intent.action = .opening)
    (hchecks : raised (engine.bundleChecks (engine.accountFigures intent.symbol)
      (engine.bundleTotals (engine.accountFigures intent.symbol) [intent])) = []) :
    engine.KeepsSharedLimits intent := by
  rw [bundleTotals_singleton hopen, raised_eq_nil] at hchecks
  simp only [RiskEngine.bundleChecks, List.mem_cons, List.not_mem_nil, or_false,
    forall_eq_or_imp, forall_eq, decide_eq_false_iff_not, not_lt] at hchecks
  obtain ⟨hopenOrders, hmargin, hcap, hlong, hshort, hgross, hnet, hpending, htotal, hloss,
    htrigger⟩ := hchecks
  refine ⟨?_, ?_, ?_, ?_, ?_, ?_, hpending, htotal, ?_, ?_⟩
  · have hcount : ((engine.accountFigures intent.symbol).currentOpenOrderCount : ℤ) + 1 ≤
        engine.settings.maxOpenOrders := by
      simpa using hopenOrders
    exact Int.lt_of_add_one_le hcount
  · intro hexchange
    have hshort := Bool.and_eq_false_imp.mp hmargin hexchange
    exact not_lt.mp (of_decide_eq_false hshort)
  · exact Bool.and_eq_false_imp.mp hcap
  · intro hraises
    cases hside : intent.posSide
    · rw [hside] at hraises
      exact eq_false_of_and hlong hraises
    · rw [hside] at hraises
      exact eq_false_of_and hshort hraises
  · exact eq_false_of_and hgross
  · exact fun hraises _ => eq_false_of_and hnet hraises
  · exact eq_false_of_and hloss
  · exact fun hraises hexchange =>
      Bool.and_eq_false_imp.mp (eq_false_of_and htrigger hraises) hexchange

end OneLeg

/-- **A bundle repeats the shared limits**: `evaluate_leg_order` refuses an opening leg for a
shared limit or for a rule of the per-leg check alone, and in the first case the bundle of that leg
is refused too. -/
theorem bundle_refuses_shared_limits (engine : RiskEngine) (intent : LegOrderIntent)
    (hbundled : intent.bundled = true) (hopen : intent.action = .opening) :
    ((engine.evaluateLegOrder intent).approved = false ↔
      ¬ engine.KeepsSharedLimits intent ∨ engine.PerLegRule intent) ∧
    (¬ engine.KeepsSharedLimits intent →
      (engine.evaluateLegOrderBundle [intent]).approved = false) := by
  refine ⟨evaluateLegOrder_refused hopen, fun hbreaks => ?_⟩
  by_contra happroved
  rw [Bool.not_eq_false] at happroved
  by_cases hblank : blank intent.symbol = true
  · -- a leg without a symbol is refused before anything is checked
    have hrefused : (engine.evaluateLegOrderBundle [intent]).approved = false := by
      simp [RiskEngine.evaluateLegOrderBundle, hbundled, hblank, refusedBundle]
    rw [hrefused] at happroved
    cases happroved
  · have hsymbol : (([intent].map (·.symbol)).filter (¬ blank ·)).eraseDups = [intent.symbol] := by
      simp [hblank, List.eraseDups_cons]
    have hchecks := (evaluateLegOrderBundle_approved engine (by simpa using hbundled)
      hsymbol).mp happroved
    exact hbreaks (keepsSharedLimits_of_bundle hopen hchecks)

/-- An opening long leg at five times leverage. -/
def leveragedLeg : LegOrderIntent where
  symbol := "BTC-USDT-SWAP"
  posSide := .long
  action := .opening
  quantity := 1 / 1000
  targetLeverage := 5

/-- The engine of the flat account with no open order allowed. -/
def closedEngine : RiskEngine :=
  { flatEngine (some 50000) with settings := { maxOpenOrders := 0 } }

theorem bundle_refuses_shared_limits_openOrders :
    (closedEngine.evaluateLegOrder leveragedLeg).approved = false ∧
      (closedEngine.evaluateLegOrderBundle [leveragedLeg]).approved = false := by
  have hbreaks : ¬ closedEngine.KeepsSharedLimits leveragedLeg := fun hkeeps =>
    absurd hkeeps.openOrders (by decide +kernel)
  obtain ⟨hleg, hbundle⟩ := bundle_refuses_shared_limits closedEngine leveragedLeg rfl rfl
  exact ⟨hleg.mpr (Or.inl hbreaks), hbundle hbreaks⟩

/-- **A bundle does not repeat the leverage cap**: the leg is refused on its own and approved as a
bundle. -/
theorem leverage_cap_left_to_leg : ¬ ∀ (engine : RiskEngine) (intent : LegOrderIntent),
    intent.bundled = true → intent.action = .opening →
      (engine.evaluateLegOrder intent).approved = false →
        (engine.evaluateLegOrderBundle [intent]).approved = false := by
  intro hstrict
  have hrefused := hstrict (flatEngine (some 50000)) leveragedLeg rfl rfl (by decide +kernel)
  exact absurd hrefused (by decide +kernel)

/-! ### Only-reduce mode -/

/-- **Only-reduce mode keeps the held legs from growing**: when a provider reports a reason or the
daily loss is above its limit, an opening leg is approved only on a side that is not held while the
other one is, and only within the limits; after a reason of a provider the capped target of
`evaluate` lies between zero and the current quantity. -/
theorem only_reduce_mode_keeps_held_legs (engine : RiskEngine) :
    (∀ intent : LegOrderIntent, intent.action = .opening →
      engine.OnlyReduceMode (engine.accountFigures intent.symbol) intent.strategyBundleId →
      ((engine.evaluateLegOrder intent).approved = true ↔
        intent.posSide ∉ heldOrAllLegs (engine.accountFigures intent.symbol).currentExposure ∧
        ¬ (engine.accountFigures intent.symbol).StandingLimit intent.posSide ∧
        engine.limitBreachesForLegOrder intent (engine.legFigures intent) = [])) ∧
    (∀ target : PositionTarget, engine.exchangeBalanceChecks = true →
      target.productType = .derivatives →
      engine.providerOnlyReduceReasons target.strategyBundleId ≠ [] →
      ∀ decision, engine.evaluate target = some decision →
        decision.cappedTargetPositionQty ∈ Set.uIcc 0 target.currentPositionQty) := by
  constructor
  · intro intent hopen hmode
    have haccount : (engine.legFigures intent).account = engine.accountFigures intent.symbol := rfl
    rw [evaluateLegOrder_approved hopen, haccount]
    tauto
  · intro target hchecks hproduct hproviders decision hdecision
    obtain ⟨qty, -, rfl⟩ := Option.map_eq_some_iff.mp hdecision
    rw [decisionFor_cappedTargetPositionQty hchecks hproduct]
    rcases evaluatePretrade_cases engine target qty with ⟨⟨-, hnone⟩, -, -⟩ | ⟨-, -, hcapped⟩
    · exact absurd hnone hproviders
    · rw [hcapped]
      exact reduceOnlyTargetQty_mem _ _

/-- An account that holds a long position of 0.002. -/
def longEngine : RiskEngine where
  latestSnapshot := some
    { positions :=
        [{ symbol := "BTC-USDT-SWAP", quantity := 2 / 1000, notionalUsd := some 100,
           side := "long" }]
      positionMode := some "long_short_mode"
      riskSnapshot := some { availableEquity := some 1000 } }
  priceProvider _ := some 50000
  latestReconciliation := some
    { onlyReduceRequired := true
      onlyReduceReasons := some ["exchange_position_without_local_chain"] }

def openingLeg (posSide : Leg) : LegOrderIntent where
  symbol := "BTC-USDT-SWAP"
  posSide := posSide
  action := .opening
  quantity := 1 / 1000

theorem only_reduce_mode_keeps_held_legs_long :
    (longEngine.evaluateLegOrder (openingLeg .long)).approved = false ∧
      ∀ decision, longEngine.evaluate openingTarget = some decision →
        decision.cappedTargetPositionQty ∈ Set.uIcc 0 openingTarget.currentPositionQty := by
  refine ⟨?_, (only_reduce_mode_keeps_held_legs longEngine).2 openingTarget rfl rfl
    (by decide +kernel)⟩
  have hopens := ((only_reduce_mode_keeps_held_legs longEngine).1 (openingLeg .long) rfl
    (Or.inl (by decide +kernel))).not.mpr
  rw [Bool.not_eq_true] at hopens
  exact hopens fun h => h.1 (by decide +kernel)

/-- **The other leg may be opened in only-reduce mode**: the account holds a long position, a
reconciliation report asks to only reduce, and a short leg that raises the gross notional is
approved. -/
theorem other_leg_opened_in_only_reduce_mode :
    ¬ ∀ (engine : RiskEngine) (intent : LegOrderIntent), intent.action = .opening →
      engine.OnlyReduceMode (engine.accountFigures intent.symbol) intent.strategyBundleId →
      (engine.legFigures intent).raisesGross = true →
        (engine.evaluateLegOrder intent).approved = false := by
  intro hopensNothing
  have hrefused := hopensNothing longEngine (openingLeg .short) rfl (Or.inl (by decide +kernel))
    (by decide +kernel)
  exact absurd hrefused (by decide +kernel)

end Aats.Governance
