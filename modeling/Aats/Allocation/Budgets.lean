import Aats.Allocation.Intents
import Aats.Lib.Grouping
import Mathlib.Data.Prod.Lex
import Mathlib.Data.String.Basic

/-!
# Sleeve budgets and the portfolio cap

`PortfolioAllocatorV2Phase2` of `strategy_engines/allocator.py` caps the requests twice. Each sleeve
is first held to its own budget, and what is left of all of them is then held to one cap over the
portfolio, which is handed out by the priority of the sleeves and, within a priority, by weight.
-/

namespace Aats.Allocation

open Portfolio (quantizeDecimal roundHalfEven)

/-! ### Rounding -/

theorem quantizeDecimal_bounds {x : ℚ} (h : 0 ≤ x) :
    0 ≤ quantizeDecimal x ∧ quantizeDecimal x ≤ 4 / 3 * x := by
  unfold quantizeDecimal
  split
  next => exact ⟨le_refl 0, by linarith⟩
  next hzero =>
    rw [isEffectivelyZero, decide_eq_true_iff, not_le, abs_of_nonneg h, epsilon12] at hzero
    have hone : 1 < x * 10 ^ 12 := by linarith
    have hlow := Int.floor_le (x * 10 ^ 12)
    have hfloor : (1 : ℚ) ≤ ⌊x * 10 ^ 12⌋ := by
      exact_mod_cast Int.le_floor.mpr (by rw [Int.cast_one]; exact hone.le)
    have hround : (0 : ℚ) ≤ roundHalfEven (x * 10 ^ 12) ∧
        (roundHalfEven (x * 10 ^ 12) : ℚ) ≤ 4 / 3 * (x * 10 ^ 12) := by
      unfold roundHalfEven
      extract_lets low rest
      have hrest : x * 10 ^ 12 = low + rest := by simp [rest]
      -- what is rounded up has at least one half more than a whole part that is at least one
      split_ifs <;> push_cast <;> constructor <;> linarith
    constructor
    · exact div_nonneg hround.1 (by norm_num)
    · rw [div_le_iff₀ (by norm_num)]
      linarith [hround.2]

/-! ### The budget of a sleeve -/

structure AllocatorBudgetSnapshot where
  strategySleeveId : String
  family : StrategyFamily
  symbol : String
  productType : ProductType
  marginMode : MarginMode
  requestedNotional : ℚ
  approvedNotional : ℚ
  requestedDeltaQty : ℚ
  approvedDeltaQty : ℚ
  budgetMultiplier : ℚ
  allocatorWeight : ℚ
  quoteBudgetLimit : Option ℚ
  marginBudgetLimit : Option ℚ
  notionalCap : Option ℚ
  maxSymbolNotional : Option ℚ
  hedgePriorityClass : HedgePriorityClass
  priorityRank : ℕ
  portfolioRequestedNotional : ℚ
  portfolioApprovedNotional : ℚ
  portfolioBudgetCutNotional : ℚ
  clamped : Bool
  reasonCodes : List String
  deriving DecidableEq, Repr

/-- `margin_notional_limit`: a margin budget allows for the leverage of derivatives. -/
def marginNotionalLimit (intent : StrategySleeveIntent) (baseTarget : PositionTarget)
    (marginLimit : Option ℚ) : Option ℚ :=
  marginLimit.map fun limit =>
    if intent.productType = .derivatives then
      quantizeDecimal (limit * max baseTarget.targetLeverage 1)
    else limit

/-- `effective_cap`: the tightest limit of an assignment. -/
def effectiveCap (intent : StrategySleeveIntent) (baseTarget : PositionTarget)
    (assignment : Option SleeveBudgetAssignment) : Option ℚ :=
  ([assignment.bind (·.effectiveNotionalCap), assignment.bind (·.effectiveMaxSymbolNotional),
    assignment.bind (·.effectiveQuoteBudgetLimit),
    marginNotionalLimit intent baseTarget
      (assignment.bind (·.effectiveMarginBudgetLimit))].filterMap id).min?

def applyBudgetAssignment (intent : StrategySleeveIntent) (baseTarget : PositionTarget)
    (assignment : Option SleeveBudgetAssignment) :
    StrategySleeveIntent × AllocatorBudgetSnapshot :=
  let requested := requestedNotional intent baseTarget assignment
  let fullCloseExempt := independentFullCloseRequestedNotional intent baseTarget
  let deRiskExempt := derivativesDeRiskRequestedNotional intent requested
  let exempt := max fullCloseExempt deRiskExempt
  let cappedRequested := max (requested - exempt) 0
  let budgetRatio : Option ℚ := (effectiveCap intent baseTarget assignment).bind fun cap =>
    if cap + epsilon12 < cappedRequested ∧ epsilon12 < cappedRequested then
      some (max 0 (min 1 (cap / cappedRequested)))
    else none
  let scaledIntent :=
    match budgetRatio with
    | some ratio =>
      scaleIntent intent intent.deltaPositionQty ratio (decide (epsilon12 < fullCloseExempt))
    | none => intent
  let profileCode :=
    if assignment.isSome then "allocator_v2_budget_profile_applied"
    else "allocator_v2_budget_profile_missing"
  let hedgePriorityClass := (assignment.map (·.hedgePriorityClass)).getD .standard
  let approved :=
    match budgetRatio with
    | some ratio => quantizeDecimal (exempt + cappedRequested * ratio)
    | none => requested
  (scaledIntent,
    { strategySleeveId := intent.strategySleeveId
      family := intent.family
      symbol := intent.symbol
      productType := intent.productType
      marginMode := intent.marginMode
      requestedNotional := requested
      approvedNotional := approved
      requestedDeltaQty := intent.deltaPositionQty
      approvedDeltaQty := scaledIntent.deltaPositionQty
      budgetMultiplier := budgetMultiplierFor intent assignment
      allocatorWeight := allocatorWeightFor intent assignment
      quoteBudgetLimit := assignment.bind (·.effectiveQuoteBudgetLimit)
      marginBudgetLimit := assignment.bind (·.effectiveMarginBudgetLimit)
      notionalCap := assignment.bind (·.effectiveNotionalCap)
      maxSymbolNotional := assignment.bind (·.effectiveMaxSymbolNotional)
      hedgePriorityClass := hedgePriorityClass
      priorityRank := hedgePriorityRank hedgePriorityClass
      portfolioRequestedNotional := requested
      portfolioApprovedNotional := approved
      portfolioBudgetCutNotional := 0
      clamped := budgetRatio.isSome
      reasonCodes := profileCode ::
        if budgetRatio.isSome then ["allocator_budget_notional_capped"]
        else if epsilon12 < fullCloseExempt then
          ["allocator_budget_cap_bypassed_for_independent_full_close"]
        else if epsilon12 < deRiskExempt then ["allocator_budget_cap_bypassed_for_derisk"]
        else [] })

theorem applyBudgetAssignment_strategySleeveId (intent : StrategySleeveIntent)
    (baseTarget : PositionTarget) (assignment : Option SleeveBudgetAssignment) :
    (applyBudgetAssignment intent baseTarget assignment).1.strategySleeveId =
        intent.strategySleeveId ∧
      (applyBudgetAssignment intent baseTarget assignment).2.strategySleeveId =
        intent.strategySleeveId := by
  unfold applyBudgetAssignment
  extract_lets requested fullCloseExempt deRiskExempt exempt cappedRequested budgetRatio scaledIntent
  refine ⟨?_, rfl⟩
  show scaledIntent.strategySleeveId = intent.strategySleeveId
  unfold scaledIntent
  cases budgetRatio with
  | none => rfl
  | some ratio => rfl

/-! ### Amounts by sleeve -/

/-- `amounts.get(sleeve_id, Decimal("0"))`. -/
def amountOf (amounts : List (String × ℚ)) (sleeveId : String) : ℚ :=
  ((KeyedList.lookup Prod.fst amounts sleeveId).map Prod.snd).getD 0

/-- `amounts[sleeve_id] = amount`. -/
def setAmount (amounts : List (String × ℚ)) (sleeveId : String) (amount : ℚ) :
    List (String × ℚ) :=
  KeyedList.upsert Prod.fst amounts (sleeveId, amount)

def Nonneg (amounts : List (String × ℚ)) : Prop := ∀ entry ∈ amounts, 0 ≤ entry.2

theorem Nonneg.amountOf {amounts : List (String × ℚ)} (h : Nonneg amounts) (sleeveId : String) :
    0 ≤ amountOf amounts sleeveId := by
  unfold Allocation.amountOf
  cases hlookup : KeyedList.lookup Prod.fst amounts sleeveId with
  | none => exact le_refl 0
  | some entry => exact h entry (KeyedList.mem_of_lookup hlookup)

theorem Nonneg.setAmount {amounts : List (String × ℚ)} (h : Nonneg amounts) (sleeveId : String)
    {amount : ℚ} (hamount : 0 ≤ amount) : Nonneg (setAmount amounts sleeveId amount) := by
  intro entry hmem
  unfold Allocation.setAmount KeyedList.upsert at hmem
  split at hmem
  next =>
    rcases KeyedList.mem_replace hmem with rfl | hmem
    · exact hamount
    · exact h entry hmem.1
  next =>
    rcases List.mem_append.mp hmem with hmem | hmem
    · exact h entry hmem
    · rw [List.mem_singleton.mp hmem]
      exact hamount

theorem Nonneg.ofItems {amounts : List (String × ℚ)} (h : Nonneg amounts) :
    Nonneg (KeyedList.ofItems Prod.fst amounts) := by
  unfold KeyedList.ofItems
  induction amounts using List.reverseRecOn with
  | nil => exact fun entry hmem => absurd hmem List.not_mem_nil
  | append_singleton amounts entry ih =>
    rw [List.foldl_append]
    exact Nonneg.setAmount (ih fun other hmem => h other (List.mem_append_left _ hmem)) entry.1
      (h entry (List.mem_append_right _ (List.mem_singleton_self _)))

/-! ### Handing out a cap -/

/-- The weight of a sleeve in `_weighted_cap_distribution`. -/
def roundWeight (limits : List (String × ℚ)) (intent : StrategySleeveIntent) : ℚ :=
  max (quantizeDecimal (max (amountOf limits intent.strategySleeveId) epsilon12 *
    max (allocatorWeightFor intent none) (5 / 100))) epsilon12

/-- The `approved`, `remaining` and `saturated` of a round. -/
structure CapRound where
  approved : List (String × ℚ)
  remaining : ℚ
  saturated : List String := []

/-- A sleeve in a round: its share of what remains is enough for what it still asks, or not. -/
def CapRound.saturate (limits : List (String × ℚ)) (totalWeight : ℚ) (round : CapRound)
    (intent : StrategySleeveIntent) : CapRound :=
  let sleeveId := intent.strategySleeveId
  let limit := amountOf limits sleeveId - amountOf round.approved sleeveId
  let proposed := quantizeDecimal (round.remaining * roundWeight limits intent / totalWeight)
  if limit - epsilon12 ≤ proposed then
    { approved := setAmount round.approved sleeveId (amountOf round.approved sleeveId + max limit 0)
      remaining := round.remaining - max limit 0
      saturated := round.saturated ++ [sleeveId] }
  else round

/-- A sleeve takes its share of what remains, when no request fits into its share. -/
def takeShare (limits : List (String × ℚ)) (totalWeight remaining : ℚ)
    (approved : List (String × ℚ)) (intent : StrategySleeveIntent) : List (String × ℚ) :=
  setAmount approved intent.strategySleeveId (amountOf approved intent.strategySleeveId +
    quantizeDecimal (remaining * roundWeight limits intent / totalWeight))

def takeEqualShare (limits : List (String × ℚ)) (equalShare : ℚ) (approved : List (String × ℚ))
    (intent : StrategySleeveIntent) : List (String × ℚ) :=
  setAmount approved intent.strategySleeveId (amountOf approved intent.strategySleeveId +
    min (amountOf limits intent.strategySleeveId) equalShare)

/-- The loop of `_weighted_cap_distribution`. Every round but the last takes the sleeves out whose
requests fit into their shares, so there are no more rounds than sleeves. -/
def weightedCapDistributionLoop (limits : List (String × ℚ)) :
    ℕ → List StrategySleeveIntent → List (String × ℚ) → ℚ → List (String × ℚ)
  | 0, _, approved, _ => approved
  | rounds + 1, pending, approved, remaining =>
    if pending = [] ∨ remaining ≤ epsilon12 then approved
    else
      let totalWeight := (pending.map (roundWeight limits)).sum
      if totalWeight ≤ epsilon12 then
        pending.foldl (takeEqualShare limits (quantizeDecimal (remaining / pending.length))) approved
      else
        let round := pending.foldl (CapRound.saturate limits totalWeight) { approved, remaining }
        if round.saturated = [] then
          pending.foldl (takeShare limits totalWeight round.remaining) round.approved
        else
          weightedCapDistributionLoop limits rounds
            (pending.filter fun intent => intent.strategySleeveId ∉ round.saturated) round.approved
            round.remaining

def weightedCapDistribution (intents : List StrategySleeveIntent) (limits : List (String × ℚ))
    (cap : ℚ) : List (String × ℚ) :=
  let pending := KeyedList.ofItems StrategySleeveIntent.strategySleeveId intents
  let approved := KeyedList.ofItems Prod.fst (intents.map fun intent => (intent.strategySleeveId, 0))
  (weightedCapDistributionLoop limits pending.length pending approved cap).map fun entry =>
    (entry.1, quantizeDecimal (max entry.2 0))

theorem mem_saturated {limits : List (String × ℚ)} {totalWeight : ℚ} {round : CapRound}
    {pending : List StrategySleeveIntent} {sleeveId : String}
    (h : sleeveId ∈ (pending.foldl (CapRound.saturate limits totalWeight) round).saturated) :
    sleeveId ∈ round.saturated ∨ sleeveId ∈ pending.map (·.strategySleeveId) := by
  induction pending generalizing round with
  | nil => exact .inl h
  | cons intent pending ih =>
    rw [List.map_cons, List.mem_cons]
    rcases ih h with h | h
    · unfold CapRound.saturate at h
      extract_lets sleeveId limit proposed at h
      split at h
      next =>
        rcases List.mem_append.mp h with h | h
        · exact .inl h
        · exact .inr (.inl (List.mem_singleton.mp h))
      next => exact .inl h
    · exact .inr (.inr h)

theorem length_filter_saturated_lt {limits approved : List (String × ℚ)} {totalWeight remaining : ℚ}
    {pending : List StrategySleeveIntent}
    (h : (pending.foldl (CapRound.saturate limits totalWeight) { approved, remaining }).saturated ≠
      []) :
    (pending.filter fun intent => intent.strategySleeveId ∉ (pending.foldl
      (CapRound.saturate limits totalWeight) { approved, remaining }).saturated).length <
      pending.length := by
  obtain ⟨sleeveId, hmem⟩ := List.exists_mem_of_ne_nil _ h
  obtain ⟨other, hother, hid⟩ := List.mem_map.mp
    ((mem_saturated hmem).resolve_left List.not_mem_nil)
  refine List.length_filter_lt_length_iff_exists.mpr ⟨other, hother, ?_⟩
  simp [hid, hmem]

theorem weightedCapDistributionLoop_nil (limits : List (String × ℚ)) (rounds : ℕ)
    (approved : List (String × ℚ)) (remaining : ℚ) :
    weightedCapDistributionLoop limits rounds [] approved remaining = approved := by
  cases rounds with
  | zero => rfl
  | succ rounds => rw [weightedCapDistributionLoop, if_pos (.inl rfl)]

theorem weightedCapDistributionLoop_eq {limits : List (String × ℚ)} {rounds more : ℕ}
    {pending : List StrategySleeveIntent} (hrounds : pending.length ≤ rounds)
    (hmore : pending.length ≤ more) (approved : List (String × ℚ)) (remaining : ℚ) :
    weightedCapDistributionLoop limits rounds pending approved remaining =
      weightedCapDistributionLoop limits more pending approved remaining := by
  induction rounds generalizing more pending approved remaining with
  | zero =>
    rw [List.length_eq_zero_iff.mp (Nat.le_zero.mp hrounds), weightedCapDistributionLoop_nil,
      weightedCapDistributionLoop_nil]
  | succ rounds ih =>
    cases more with
    | zero =>
      rw [List.length_eq_zero_iff.mp (Nat.le_zero.mp hmore), weightedCapDistributionLoop_nil,
        weightedCapDistributionLoop_nil]
    | succ more =>
      rw [weightedCapDistributionLoop, weightedCapDistributionLoop]
      extract_lets totalWeight round
      by_cases hdone : pending = [] ∨ remaining ≤ epsilon12
      · rw [if_pos hdone, if_pos hdone]
      by_cases hweight : totalWeight ≤ epsilon12
      · rw [if_neg hdone, if_neg hdone, if_pos hweight, if_pos hweight]
      by_cases hsaturated : round.saturated = []
      · rw [if_neg hdone, if_neg hdone, if_neg hweight, if_neg hweight, if_pos hsaturated,
          if_pos hsaturated]
      rw [if_neg hdone, if_neg hdone, if_neg hweight, if_neg hweight, if_neg hsaturated,
        if_neg hsaturated]
      have hless : (pending.filter fun intent => intent.strategySleeveId ∉ round.saturated).length <
          pending.length := length_filter_saturated_lt hsaturated
      exact ih (by omega) (by omega) _ _

/-! ### By priority -/

/-- `snapshots_by_sleeve[sleeve_id]` for each of the intents; a missing one is an error. -/
def withSnapshots (approved : List StrategySleeveIntent)
    (budgetSnapshots : List AllocatorBudgetSnapshot) :
    Option (List (StrategySleeveIntent × AllocatorBudgetSnapshot)) :=
  approved.mapM fun intent =>
    (KeyedList.lookup AllocatorBudgetSnapshot.strategySleeveId
      (KeyedList.ofItems AllocatorBudgetSnapshot.strategySleeveId budgetSnapshots)
      intent.strategySleeveId).map fun snapshot => (intent, snapshot)

/-- A priority is served: in full while the cap lasts, by weight where it ends, and not after. -/
def servePriority (limits : List (String × ℚ)) (state : List (String × ℚ) × ℚ)
    (intents : List StrategySleeveIntent) : List (String × ℚ) × ℚ :=
  let groupTotal := (intents.map fun intent => amountOf limits intent.strategySleeveId).sum
  if state.2 ≤ epsilon12 then
    (intents.foldl (fun amounts intent => setAmount amounts intent.strategySleeveId 0) state.1,
      state.2)
  else if groupTotal ≤ state.2 + epsilon12 then
    (intents.foldl (fun amounts intent =>
      setAmount amounts intent.strategySleeveId (amountOf limits intent.strategySleeveId)) state.1,
      quantizeDecimal (state.2 - groupTotal))
  else
    ((weightedCapDistribution intents limits state.2).foldl
      (fun amounts entry => setAmount amounts entry.1 entry.2) state.1, 0)

def redistributeNotionalByPriority
    (approved : List (StrategySleeveIntent × AllocatorBudgetSnapshot))
    (limits : List (String × ℚ)) (portfolioCap : ℚ) : List (String × ℚ) :=
  let nothing := KeyedList.ofItems Prod.fst
    (approved.map fun sleeve => (sleeve.1.strategySleeveId, (0 : ℚ)))
  let grouped := Grouping.groupBy
    (fun sleeve : StrategySleeveIntent × AllocatorBudgetSnapshot =>
      hedgePriorityRank sleeve.2.hedgePriorityClass) approved
  ((grouped.insertionSort fun a b => a.1 ≤ b.1).foldl
    (fun state group => servePriority limits state (group.2.map Prod.fst)) (nothing, portfolioCap)).1

variable {limits amounts : List (String × ℚ)}

theorem Nonneg.foldl_setAmount {α : Type} {items : List α} {sleeveId : α → String} {amount : α → ℚ}
    (hamounts : Nonneg amounts) (hitems : ∀ item ∈ items, 0 ≤ amount item) :
    Nonneg (items.foldl (fun amounts item => Allocation.setAmount amounts (sleeveId item)
      (amount item)) amounts) := by
  induction items generalizing amounts with
  | nil => exact hamounts
  | cons item items ih =>
    exact ih (hamounts.setAmount _ (hitems item List.mem_cons_self))
      fun other hmem => hitems other (List.mem_cons_of_mem _ hmem)

theorem nonneg_weightedCapDistribution (intents : List StrategySleeveIntent)
    (limits : List (String × ℚ)) (cap : ℚ) :
    Nonneg (weightedCapDistribution intents limits cap) := by
  intro entry hmem
  obtain ⟨given, -, rfl⟩ := List.mem_map.mp hmem
  exact (quantizeDecimal_bounds (le_max_right _ _)).1

theorem Nonneg.servePriority {state : List (String × ℚ) × ℚ} (hstate : Nonneg state.1)
    (hlimits : Nonneg limits) (intents : List StrategySleeveIntent) :
    Nonneg (servePriority limits state intents).1 := by
  unfold Allocation.servePriority
  extract_lets groupTotal
  split_ifs
  · exact hstate.foldl_setAmount fun _ _ => le_refl 0
  · exact hstate.foldl_setAmount fun intent _ => hlimits.amountOf _
  · exact hstate.foldl_setAmount fun entry hmem => nonneg_weightedCapDistribution _ _ _ entry hmem

theorem nonneg_redistributeNotionalByPriority (hlimits : Nonneg limits)
    (approved : List (StrategySleeveIntent × AllocatorBudgetSnapshot)) (portfolioCap : ℚ) :
    Nonneg (redistributeNotionalByPriority approved limits portfolioCap) := by
  unfold redistributeNotionalByPriority
  extract_lets nothing grouped
  have hnothing : Nonneg nothing := by
    refine Nonneg.ofItems fun entry hmem => ?_
    obtain ⟨sleeve, -, rfl⟩ := List.mem_map.mp hmem
    exact le_refl 0
  have hfold : ∀ (groups : List (ℕ × List (StrategySleeveIntent × AllocatorBudgetSnapshot)))
      (state : List (String × ℚ) × ℚ), Nonneg state.1 →
      Nonneg (groups.foldl (fun state group =>
        Allocation.servePriority limits state (group.2.map Prod.fst)) state).1 := by
    intro groups
    induction groups with
    | nil => exact fun _ h => h
    | cons group groups ih => exact fun state h => ih _ (h.servePriority hlimits _)
  exact hfold _ (nothing, portfolioCap) hnothing

/-! ### The cap of the portfolio -/

/-- The amounts by sleeve of `_apply_portfolio_budget_redistribution`. -/
structure PortfolioBudget where
  closeExempt : List (String × ℚ)
  exempt : List (String × ℚ)
  cappedRequested : List (String × ℚ)
  granted : List (String × ℚ)
  cutReasonCodes : List String

/-- What is exempt from the cap, what is not, and what the cap leaves of it. -/
def portfolioBudget (portfolioCap : ℚ)
    (sleeves : List (StrategySleeveIntent × AllocatorBudgetSnapshot))
    (budgetSnapshots : List AllocatorBudgetSnapshot) (baseTarget : PositionTarget) :
    PortfolioBudget :=
  let closeExempt := KeyedList.ofItems Prod.fst (sleeves.map fun sleeve =>
    (sleeve.1.strategySleeveId, independentFullCloseRequestedNotional sleeve.1 baseTarget))
  let exempt := KeyedList.ofItems Prod.fst (sleeves.map fun sleeve =>
    (sleeve.1.strategySleeveId, max (amountOf closeExempt sleeve.1.strategySleeveId)
      (derivativesDeRiskRequestedNotional sleeve.1 (requestedNotional sleeve.1 baseTarget none))))
  let cappedRequested := KeyedList.ofItems Prod.fst (budgetSnapshots.map fun snapshot =>
    (snapshot.strategySleeveId,
      max (snapshot.approvedNotional - amountOf exempt snapshot.strategySleeveId) 0))
  if epsilon12 < portfolioCap ∧ portfolioCap + epsilon12 < (cappedRequested.map Prod.snd).sum ∧
      sleeves ≠ [] then
    { closeExempt, exempt, cappedRequested
      granted := redistributeNotionalByPriority sleeves cappedRequested portfolioCap
      cutReasonCodes := ["allocator_portfolio_max_total_open_notional_capped"] }
  else { closeExempt, exempt, cappedRequested, granted := cappedRequested, cutReasonCodes := [] }

/-- What a sleeve may have of the portfolio: its exempt notional, and what the cap leaves it. -/
def PortfolioBudget.share (budget : PortfolioBudget) (sleeveId : String) : ℚ :=
  amountOf budget.exempt sleeveId + amountOf budget.granted sleeveId

/-- What all sleeves ask for, as their own budgets leave it. -/
def askedNotional (budgetSnapshots : List AllocatorBudgetSnapshot) : ℚ :=
  (budgetSnapshots.map (·.approvedNotional)).sum

def PortfolioBudget.sharedNotional (budget : PortfolioBudget)
    (sleeves : List (StrategySleeveIntent × AllocatorBudgetSnapshot)) : ℚ :=
  (sleeves.map fun sleeve => budget.share sleeve.1.strategySleeveId).sum

/-- One sleeve of `_apply_portfolio_budget_redistribution`; the snapshot gets the given figures of the
portfolio. -/
def PortfolioBudget.redistribute (budget : PortfolioBudget) (asked shared cut : ℚ)
    (sleeve : StrategySleeveIntent × AllocatorBudgetSnapshot) :
    StrategySleeveIntent × AllocatorBudgetSnapshot :=
  let intent := sleeve.1
  let snapshot := sleeve.2
  let exempt := amountOf budget.exempt intent.strategySleeveId
  let originalCapped := amountOf budget.cappedRequested intent.strategySleeveId
  let approvedCapped := quantizeDecimal (amountOf budget.granted intent.strategySleeveId)
  let approved := quantizeDecimal (exempt + approvedCapped)
  let redistributed :=
    if epsilon12 < originalCapped ∧ approvedCapped + epsilon12 < originalCapped then
      scaleIntent intent snapshot.approvedDeltaQty (max 0 (min 1 (approvedCapped / originalCapped)))
        (decide (epsilon12 < exempt))
    else intent
  let cutCodes :=
    if approved + epsilon12 < snapshot.approvedNotional then
      "allocator_portfolio_budget_redistributed" ::
        if approved ≤ epsilon12 then ["allocator_portfolio_budget_zeroed"] else []
    else []
  let exemptCodes :=
    if epsilon12 < exempt then
      [if epsilon12 < amountOf budget.closeExempt intent.strategySleeveId then
        "allocator_portfolio_cap_exempt_for_independent_full_close"
      else "allocator_portfolio_cap_exempt_for_derisk"]
    else []
  (redistributed,
    { snapshot with
      approvedNotional := approved
      approvedDeltaQty :=
        if epsilon12 < originalCapped ∧ approvedCapped + epsilon12 < originalCapped then
          redistributed.deltaPositionQty
        else snapshot.approvedDeltaQty
      priorityRank := hedgePriorityRank snapshot.hedgePriorityClass
      portfolioRequestedNotional := asked
      portfolioApprovedNotional := shared
      portfolioBudgetCutNotional := cut
      reasonCodes := (snapshot.reasonCodes ++ cutCodes ++ exemptCodes).eraseDups })

def intentSortKey (sleeve : StrategySleeveIntent × AllocatorBudgetSnapshot) :
    ℕ ×ₗ ℚ ×ₗ ℚ ×ₗ String :=
  toLex (sleeve.2.priorityRank, toLex (-sleeve.2.approvedNotional,
    toLex (-sleeve.1.priorityScore, sleeve.1.strategySleeveId)))

def snapshotSortKey (snapshot : AllocatorBudgetSnapshot) : ℕ ×ₗ String ×ₗ String :=
  toLex (snapshot.priorityRank, toLex (snapshot.family.text, snapshot.strategySleeveId))

/-- The intents, snapshots and reason codes that come out of the redistribution. -/
structure RedistributedBudgets where
  intents : List StrategySleeveIntent
  snapshots : List AllocatorBudgetSnapshot
  cutReasonCodes : List String

def applyPortfolioBudgetRedistribution (portfolioCap : ℚ) (approved : List StrategySleeveIntent)
    (budgetSnapshots : List AllocatorBudgetSnapshot) (baseTarget : PositionTarget) :
    Option RedistributedBudgets := do
  let sleeves ← withSnapshots approved budgetSnapshots
  let budget := portfolioBudget portfolioCap sleeves budgetSnapshots baseTarget
  let asked := askedNotional budgetSnapshots
  let shared := budget.sharedNotional sleeves
  let cut := quantizeDecimal (max (asked - shared) 0)
  let redistributed := sleeves.map (budget.redistribute asked shared cut)
  let snapshots := redistributed.map Prod.snd
  let actionable ← withSnapshots
    ((redistributed.map Prod.fst).filter fun intent => intentIsActionable intent true) snapshots
  return {
    intents := (actionable.insertionSort fun a b => intentSortKey a ≤ intentSortKey b).map Prod.fst
    snapshots := snapshots.insertionSort fun a b => snapshotSortKey a ≤ snapshotSortKey b
    cutReasonCodes := budget.cutReasonCodes }

theorem withSnapshots_eq_some {approved : List StrategySleeveIntent}
    {budgetSnapshots : List AllocatorBudgetSnapshot}
    (h : ∀ intent ∈ approved, ∃ snapshot ∈ budgetSnapshots,
      snapshot.strategySleeveId = intent.strategySleeveId) :
    ∃ sleeves, withSnapshots approved budgetSnapshots = some sleeves ∧
      sleeves.map Prod.fst = approved ∧
      ∀ sleeve ∈ sleeves, sleeve.2.strategySleeveId = sleeve.1.strategySleeveId := by
  unfold withSnapshots
  induction approved with
  | nil => exact ⟨[], rfl, rfl, fun _ hmem => absurd hmem List.not_mem_nil⟩
  | cons intent approved ih =>
    obtain ⟨snapshot, hmem, hid⟩ := h intent List.mem_cons_self
    obtain ⟨sleeves, hsleeves, hintents, hids⟩ :=
      ih fun other hother => h other (List.mem_cons_of_mem _ hother)
    have hkey : intent.strategySleeveId ∈ (KeyedList.ofItems
        AllocatorBudgetSnapshot.strategySleeveId budgetSnapshots).map (·.strategySleeveId) := by
      rw [KeyedList.mem_keys_ofItems, ← hid]
      exact List.mem_map_of_mem hmem
    obtain ⟨found, hfound⟩ : ∃ found, KeyedList.lookup AllocatorBudgetSnapshot.strategySleeveId
        (KeyedList.ofItems AllocatorBudgetSnapshot.strategySleeveId budgetSnapshots)
        intent.strategySleeveId = some found := by
      rw [← Option.ne_none_iff_exists', ne_eq, KeyedList.lookup_eq_none]
      push Not
      obtain ⟨found, hfound, heq⟩ := List.mem_map.mp hkey
      exact ⟨found, hfound, heq⟩
    refine ⟨(intent, found) :: sleeves, ?_, by rw [List.map_cons, hintents], ?_⟩
    · rw [List.mapM_cons, hfound, hsleeves]
      rfl
    · intro sleeve hsleeve
      rcases List.mem_cons.mp hsleeve with rfl | hsleeve
      · exact KeyedList.key_of_lookup hfound
      · exact hids sleeve hsleeve

theorem nonneg_portfolioBudget (portfolioCap : ℚ)
    (sleeves : List (StrategySleeveIntent × AllocatorBudgetSnapshot))
    (budgetSnapshots : List AllocatorBudgetSnapshot) (baseTarget : PositionTarget) :
    Nonneg (portfolioBudget portfolioCap sleeves budgetSnapshots baseTarget).exempt ∧
      Nonneg (portfolioBudget portfolioCap sleeves budgetSnapshots baseTarget).granted := by
  unfold portfolioBudget
  extract_lets closeExempt exempt cappedRequested
  have hexempt : Nonneg exempt := by
    refine Nonneg.ofItems fun entry hmem => ?_
    obtain ⟨sleeve, -, rfl⟩ := List.mem_map.mp hmem
    exact (derivativesDeRiskRequestedNotional_nonneg _ _).trans (le_max_right _ _)
  have hcapped : Nonneg cappedRequested := by
    refine Nonneg.ofItems fun entry hmem => ?_
    obtain ⟨snapshot, -, rfl⟩ := List.mem_map.mp hmem
    exact le_max_right _ _
  split
  · exact ⟨hexempt, nonneg_redistributeNotionalByPriority hcapped _ _⟩
  · exact ⟨hexempt, hcapped⟩

theorem PortfolioBudget.redistribute_strategySleeveId (budget : PortfolioBudget)
    (asked shared cut : ℚ) (sleeve : StrategySleeveIntent × AllocatorBudgetSnapshot) :
    (budget.redistribute asked shared cut sleeve).1.strategySleeveId = sleeve.1.strategySleeveId := by
  unfold PortfolioBudget.redistribute
  extract_lets intent snapshot exempt originalCapped approvedCapped approved redistributed
  show redistributed.strategySleeveId = _
  unfold redistributed
  split
  · rfl
  · rfl

end Aats.Allocation
