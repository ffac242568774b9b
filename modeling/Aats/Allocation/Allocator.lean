import Aats.Allocation.Budgets
import Mathlib.Algebra.BigOperators.Ring.List
import Mathlib.Algebra.Order.BigOperators.Group.List

/-!
# The portfolio allocator

`PortfolioAllocatorV2Phase2.allocate`: of the intents of the sleeves some are approved, by families
that take precedence over each other; the approved ones are held to their own budgets and to the cap of
the portfolio, and the decision reports what was requested, approved and cut.

Each snapshot gets the figures of the whole portfolio, and the decision adds them up over the
snapshots, so it counts them once for each sleeve.

## Main definitions
* `AddsUp` — the figures of the decision are the sums over its sleeves.

## Main results
* `allocate_addsUp_iff` — **when the figures of a decision are the sums over its sleeves**.
-/

namespace Aats.Allocation

open Portfolio (quantizeDecimal)

/-! ### Approval -/

/-- The settings that the allocator reads; the overlay mode has one value only. -/
structure AllocatorSettings where
  maxTotalOpenNotional : ℚ
  strategyFamilyAutoSelectionEnabled : Bool := true
  deriving DecidableEq, Repr

/-- `_portfolio_notional_cap`; no settings are no cap. -/
def portfolioNotionalCap (settings : Option AllocatorSettings) : ℚ :=
  (settings.map fun settings => max settings.maxTotalOpenNotional 0).getD 0

def preserveSelectedFamilyWithoutDirectionalFallback (settings : Option AllocatorSettings)
    (baseTarget : PositionTarget) (selectedFamily : StrategyFamily)
    (selectedIntent : Option StrategySleeveIntent) : Bool :=
  match settings, selectedIntent with
  | some settings, some intent =>
    decide (baseTarget.productType = .derivatives) && !settings.strategyFamilyAutoSelectionEnabled &&
      decide (selectedFamily = .independent) &&
      decide (intent.state ≠ .disabled ∧ intent.state ≠ .incompatible)
  | _, _ => false

structure AllocatorConflictResolution where
  conflictType : String
  resolutionAction : String
  inputSleeveIds : List String
  approvedSleeveIds : List String
  grossRequestedQty : ℚ
  netApprovedQty : ℚ
  blockedQty : ℚ
  protectedNotional : ℚ
  reducedNotional : ℚ
  reasonCodes : List String
  deriving DecidableEq, Repr

def conflictResolution (conflictType resolutionAction : String)
    (inputIntents approvedIntents : List StrategySleeveIntent)
    (protectedNotional reducedNotional : ℚ) (reasonCodes : List String) :
    AllocatorConflictResolution :=
  let grossRequestedQty := (inputIntents.map fun intent => |intent.deltaPositionQty|).sum
  let netApprovedQty := (approvedIntents.map (·.deltaPositionQty)).sum
  { conflictType
    resolutionAction
    inputSleeveIds := inputIntents.map (·.strategySleeveId)
    approvedSleeveIds := approvedIntents.map (·.strategySleeveId)
    grossRequestedQty
    netApprovedQty := quantizeDecimal netApprovedQty
    blockedQty := quantizeDecimal (grossRequestedQty - |netApprovedQty|)
    protectedNotional := quantizeDecimal protectedNotional
    reducedNotional := quantizeDecimal reducedNotional
    reasonCodes }

/-- The `approved` intents of `allocate`, with what was blocked for them. -/
structure Approval where
  approved : List StrategySleeveIntent := []
  blockedReasonCodes : List String := []
  conflictResolutions : List AllocatorConflictResolution := []

section Approve

variable (settings : Option AllocatorSettings) (baseTarget : PositionTarget)
  (preserveSelectedFamily : Bool) (intentOf : StrategyFamily → Option StrategySleeveIntent)
  (assignmentOf : String → Option SleeveBudgetAssignment)

def totalRequestedNotional (intents : List StrategySleeveIntent) : ℚ :=
  (intents.map fun intent =>
    requestedNotional intent baseTarget (assignmentOf intent.strategySleeveId)).sum

/-- The branch of `allocate` for derivatives: an active arbitrage blocks the directional and the
independent family, and an active independent family stands in for the directional one. -/
def approveDerivatives : Approval :=
  let smartArbitrage := (intentOf .smartArbitrage).filter fun intent => intentIsActionable intent true
  let independent := (intentOf .independent).filter fun intent => intentIsActionable intent true
  let directional := (intentOf .directional).filter intentHasDelta
  let overlayCutover := if settings.isSome then independent else none
  match smartArbitrage, overlayCutover with
  | some arbitrage, _ =>
    let codes :=
      (if directional.isSome then ["allocator_directional_blocked_by_active_smart_arbitrage"]
        else []) ++
      (if independent.isSome then ["allocator_independent_blocked_by_active_smart_arbitrage"]
        else [])
    let blocked := directional.toList ++ independent.toList
    { approved := [arbitrage]
      blockedReasonCodes := codes
      conflictResolutions :=
        if blocked = [] then []
        else [conflictResolution "hedge_priority"
          "non_hedge_families_reduced_to_protect_smart_arbitrage" (arbitrage :: blocked) [arbitrage]
          (totalRequestedNotional baseTarget assignmentOf [arbitrage])
          (totalRequestedNotional baseTarget assignmentOf blocked)
          ("allocator_v2_hedge_priority" :: codes)] }
  | none, some overlay =>
    match directional with
    | none => { approved := [overlay] }
    | some directional =>
      let shadowReason :=
        "allocator_directional_shadowed_by_" ++ overlay.family.text ++ "_family_cutover"
      { approved := [overlay]
        blockedReasonCodes := [shadowReason]
        conflictResolutions :=
          [conflictResolution "family_cutover"
            ("directional_shadowed_by_" ++ overlay.family.text ++ "_family") [overlay, directional]
            [overlay] (totalRequestedNotional baseTarget assignmentOf [overlay])
            (totalRequestedNotional baseTarget assignmentOf [directional])
            ["allocator_" ++ overlay.family.text ++ "_family_cutover", shadowReason]] }
  | none, none =>
    if preserveSelectedFamily then {} else { approved := (intentOf .directional).toList }

/-- The branch of `allocate` for spot: active grid and accumulation sleeves block the directional
family. -/
def approveSpot : Approval :=
  let inventory := [StrategyFamily.spotGrid, StrategyFamily.dca].filterMap fun family =>
    (intentOf family).filter fun intent => intentIsActionable intent true
  if inventory = [] then { approved := (intentOf .directional).toList }
  else
    match (intentOf .directional).filter intentHasDelta with
    | none => { approved := inventory }
    | some directional =>
      { approved := inventory
        blockedReasonCodes := ["allocator_directional_blocked_by_active_inventory_sleeves"]
        conflictResolutions :=
          [conflictResolution "inventory_priority"
            "directional_reduced_to_preserve_inventory_sleeves" (inventory ++ [directional])
            inventory (totalRequestedNotional baseTarget assignmentOf inventory)
            (totalRequestedNotional baseTarget assignmentOf [directional])
            ["allocator_v2_inventory_priority",
              "allocator_directional_blocked_by_active_inventory_sleeves"]] }

def approve : Approval :=
  if baseTarget.productType = .derivatives then
    approveDerivatives settings baseTarget preserveSelectedFamily intentOf assignmentOf
  else approveSpot baseTarget intentOf assignmentOf

end Approve

/-! ### The decision -/

/-- `PortfolioAllocationDecision`, as far as it is about notionals. -/
structure PortfolioAllocationDecision where
  activeFamilies : List StrategyFamily
  approvedFamilies : List StrategyFamily
  blockedReasonCodes : List String
  approvedNotionalBySleeve : List (String × ℚ)
  portfolioRequestedNotional : ℚ
  portfolioApprovedNotional : ℚ
  portfolioBudgetCutNotional : ℚ
  budgetCutReasonCodes : List String
  budgetSnapshots : List AllocatorBudgetSnapshot
  conflictResolutions : List AllocatorConflictResolution
  hedgeProtectedNotional : ℚ
  directionalReducedNotional : ℚ
  portfolioRiskBudgetState : String

def budgetedSleeves (settings : Option AllocatorSettings) (baseTarget : PositionTarget)
    (selectedFamily : StrategyFamily) (sleeveIntents : List StrategySleeveIntent)
    (budgetAssignments : List SleeveBudgetAssignment) :
    Approval × List (StrategySleeveIntent × AllocatorBudgetSnapshot) :=
  let assignmentOf := KeyedList.lookup SleeveBudgetAssignment.strategySleeveId
    (KeyedList.ofItems SleeveBudgetAssignment.strategySleeveId budgetAssignments)
  let intentOf := KeyedList.lookup StrategySleeveIntent.family
    (KeyedList.ofItems StrategySleeveIntent.family sleeveIntents)
  let approval := approve settings baseTarget
    (preserveSelectedFamilyWithoutDirectionalFallback settings baseTarget selectedFamily
      (intentOf selectedFamily)) intentOf assignmentOf
  (approval, approval.approved.map fun intent =>
    applyBudgetAssignment intent baseTarget (assignmentOf intent.strategySleeveId))

/-- The budgeted intents that there still is something to do about. -/
def actionableIntents (budgeted : List (StrategySleeveIntent × AllocatorBudgetSnapshot)) :
    List StrategySleeveIntent :=
  (budgeted.map Prod.fst).filter fun intent => intentIsActionable intent true

/-- The decision about the budgets that come out of the redistribution. -/
def decisionOf (sleeveIntents : List StrategySleeveIntent) (approval : Approval)
    (result : RedistributedBudgets) : PortfolioAllocationDecision :=
  let suppressed := sleeveIntents.any fun intent =>
    intent.executionBehavior = some .suppressedAfterApproval
  let budgetState :=
    if result.cutReasonCodes ≠ [] then "redistributed"
    else if result.snapshots.any (·.clamped) then "contracted"
    else "normal"
  { activeFamilies := (sleeveIntents.filter fun intent =>
      intent.state ≠ .disabled ∧ intent.state ≠ .incompatible).map (·.family)
    approvedFamilies := result.intents.map (·.family)
    blockedReasonCodes := approval.blockedReasonCodes ++
      if suppressed then ["allocator_sleeve_suppressed_after_approval"] else []
    approvedNotionalBySleeve := KeyedList.ofItems Prod.fst
      ((result.snapshots.filter fun snapshot => epsilon12 < snapshot.approvedNotional).map
        fun snapshot => (snapshot.strategySleeveId, snapshot.approvedNotional))
    portfolioRequestedNotional := (result.snapshots.map (·.portfolioRequestedNotional)).sum
    portfolioApprovedNotional := (result.snapshots.map (·.portfolioApprovedNotional)).sum
    portfolioBudgetCutNotional := (result.snapshots.map (·.portfolioBudgetCutNotional)).sum
    budgetCutReasonCodes := result.cutReasonCodes
    budgetSnapshots := result.snapshots
    conflictResolutions := approval.conflictResolutions
    hedgeProtectedNotional := (approval.conflictResolutions.map (·.protectedNotional)).sum
    directionalReducedNotional := (approval.conflictResolutions.map (·.reducedNotional)).sum
    portfolioRiskBudgetState :=
      if approval.conflictResolutions ≠ [] ∧ budgetState = "normal" then "hedge_protected"
      else budgetState }

def allocate (settings : Option AllocatorSettings) (baseTarget : PositionTarget)
    (selectedFamily : StrategyFamily) (sleeveIntents : List StrategySleeveIntent)
    (budgetAssignments : List SleeveBudgetAssignment) : Option PortfolioAllocationDecision :=
  let (approval, budgeted) :=
    budgetedSleeves settings baseTarget selectedFamily sleeveIntents budgetAssignments
  (applyPortfolioBudgetRedistribution (portfolioNotionalCap settings) (actionableIntents budgeted)
    (budgeted.map Prod.snd) baseTarget).map (decisionOf sleeveIntents approval)

/-- The figures of the portfolio are the sums over the sleeves, and what is cut is the rest. -/
def PortfolioAllocationDecision.AddsUp (decision : PortfolioAllocationDecision) : Prop :=
  decision.portfolioRequestedNotional =
      (decision.budgetSnapshots.map (·.requestedNotional)).sum ∧
    decision.portfolioApprovedNotional =
      (decision.budgetSnapshots.map (·.approvedNotional)).sum ∧
    decision.portfolioRequestedNotional =
      decision.portfolioApprovedNotional + decision.portfolioBudgetCutNotional

/-- What the sleeves ask for, counted once for each of them, is what they requested; not more than
that is shared out, rounding changes no figure, and there is one sleeve at most that gets anything. -/
def SharedOnce (budget : PortfolioBudget)
    (sleeves : List (StrategySleeveIntent × AllocatorBudgetSnapshot))
    (budgetSnapshots : List AllocatorBudgetSnapshot) : Prop :=
  sleeves.length * askedNotional budgetSnapshots =
      (sleeves.map fun sleeve => sleeve.2.requestedNotional).sum ∧
    (budget.sharedNotional sleeves ≤ askedNotional budgetSnapshots ∧
      quantizeDecimal (askedNotional budgetSnapshots - budget.sharedNotional sleeves) =
        askedNotional budgetSnapshots - budget.sharedNotional sleeves) ∧
    ((∃ sleeve, sleeves = [sleeve] ∧
        quantizeDecimal (amountOf budget.exempt sleeve.1.strategySleeveId +
          quantizeDecimal (amountOf budget.granted sleeve.1.strategySleeveId)) =
            budget.share sleeve.1.strategySleeveId) ∨
      ∀ sleeve ∈ sleeves, budget.share sleeve.1.strategySleeveId = 0)

/-! ### Sums over sleeves -/

section Sums

variable {α : Type} {items : List α}

theorem sum_map_const (items : List α) (x : ℚ) :
    (items.map fun _ => x).sum = items.length * x := by
  rw [List.map_const', List.sum_replicate, nsmul_eq_mul]

/-- Shares that are counted once for each item come to figures that are less than double the shares
if there is one item, or nothing to share. -/
theorem length_mul_sum_eq_iff {share figure : α → ℚ}
    (hbounds : ∀ item ∈ items, 0 ≤ figure item ∧ figure item ≤ 16 / 9 * share item) :
    items.length * (items.map share).sum = (items.map figure).sum ↔
      (∃ item, items = [item] ∧ figure item = share item) ∨ ∀ item ∈ items, share item = 0 := by
  have hshare : ∀ item ∈ items, 0 ≤ share item := fun item hmem => by
    have := hbounds item hmem
    linarith
  have hnonneg : ∀ x ∈ items.map share, 0 ≤ x := by
    intro x hx
    obtain ⟨item, hmem, rfl⟩ := List.mem_map.mp hx
    exact hshare item hmem
  constructor
  · intro h
    match items with
    | [] => exact .inr fun item hmem => absurd hmem List.not_mem_nil
    | [item] =>
      refine .inl ⟨item, rfl, ?_⟩
      simpa using h.symm
    | first :: second :: rest =>
      have hfigures : ((first :: second :: rest).map figure).sum ≤
          ((first :: second :: rest).map fun item => 16 / 9 * share item).sum :=
        List.sum_le_sum fun item hmem => (hbounds item hmem).2
      rw [List.sum_map_mul_left, ← h] at hfigures
      have hsum := List.sum_nonneg hnonneg
      have hlength : (2 : ℚ) ≤ (first :: second :: rest).length := by
        rw [List.length_cons, List.length_cons]
        push_cast
        linarith [Nat.cast_nonneg (α := ℚ) rest.length]
      have hzero : ((first :: second :: rest).map share).sum = 0 := by nlinarith
      refine .inr fun item hmem => le_antisymm ?_ (hshare item hmem)
      rw [← hzero]
      exact List.single_le_sum hnonneg _ (List.mem_map_of_mem hmem)
  · rintro (⟨item, rfl, hitem⟩ | hzero)
    · simp [hitem]
    · have hshares : items.map share = items.map fun _ => 0 := List.map_congr_left hzero
      have hfigures : items.map figure = items.map fun _ => 0 :=
        List.map_congr_left fun item hmem => by
          have := hbounds item hmem
          rw [hzero item hmem] at this
          linarith
      rw [hshares, hfigures, sum_map_const]
      ring

end Sums

/-! ### The redistribution step -/

section Redistribution

variable {approved : List StrategySleeveIntent} {budgetSnapshots : List AllocatorBudgetSnapshot}

theorem withSnapshots_redistribute (budget : PortfolioBudget) (asked shared cut : ℚ)
    {sleeves : List (StrategySleeveIntent × AllocatorBudgetSnapshot)}
    (hids : ∀ sleeve ∈ sleeves, sleeve.2.strategySleeveId = sleeve.1.strategySleeveId) :
    ∃ actionable, withSnapshots
      (((sleeves.map (budget.redistribute asked shared cut)).map Prod.fst).filter fun intent =>
        intentIsActionable intent true)
      ((sleeves.map (budget.redistribute asked shared cut)).map Prod.snd) = some actionable ∧
      actionable.map Prod.fst =
        (((sleeves.map (budget.redistribute asked shared cut)).map Prod.fst).filter fun intent =>
          intentIsActionable intent true) := by
  have hfound : ∀ intent ∈ ((sleeves.map (budget.redistribute asked shared cut)).map
      Prod.fst).filter fun intent => intentIsActionable intent true,
      ∃ snapshot ∈ (sleeves.map (budget.redistribute asked shared cut)).map Prod.snd,
        snapshot.strategySleeveId = intent.strategySleeveId := by
    intro intent hmem
    obtain ⟨pair, hpair, rfl⟩ := List.mem_map.mp (List.mem_filter.mp hmem).1
    refine ⟨pair.2, List.mem_map_of_mem hpair, ?_⟩
    obtain ⟨sleeve, hsleeve, rfl⟩ := List.mem_map.mp hpair
    rw [PortfolioBudget.redistribute_strategySleeveId]
    exact hids sleeve hsleeve
  obtain ⟨actionable, hactionable, hintents, -⟩ := withSnapshots_eq_some hfound
  exact ⟨actionable, hactionable, hintents⟩

theorem applyPortfolioBudgetRedistribution_eq (portfolioCap : ℚ) (baseTarget : PositionTarget)
    (h : ∀ intent ∈ approved, ∃ snapshot ∈ budgetSnapshots,
      snapshot.strategySleeveId = intent.strategySleeveId) :
    ∃ sleeves result, withSnapshots approved budgetSnapshots = some sleeves ∧
      applyPortfolioBudgetRedistribution portfolioCap approved budgetSnapshots baseTarget =
        some result ∧
      let budget := portfolioBudget portfolioCap sleeves budgetSnapshots baseTarget
      let asked := askedNotional budgetSnapshots
      let shared := budget.sharedNotional sleeves
      let cut := quantizeDecimal (max (asked - shared) 0)
      result.snapshots.Perm (sleeves.map fun sleeve =>
        (budget.redistribute asked shared cut sleeve).2) ∧
      result.intents.Perm
        (((sleeves.map (budget.redistribute asked shared cut)).map Prod.fst).filter fun intent =>
          intentIsActionable intent true) := by
  obtain ⟨sleeves, hsleeves, -, hids⟩ := withSnapshots_eq_some h
  let budget := portfolioBudget portfolioCap sleeves budgetSnapshots baseTarget
  let asked := askedNotional budgetSnapshots
  let shared := budget.sharedNotional sleeves
  obtain ⟨actionable, hactionable, hintents⟩ := withSnapshots_redistribute budget asked shared
    (quantizeDecimal (max (asked - shared) 0)) hids
  unfold applyPortfolioBudgetRedistribution
  rw [hsleeves]
  simp only [Option.bind_eq_bind, Option.bind_some]
  rw [hactionable]
  refine ⟨sleeves, _, rfl, rfl, (List.perm_insertionSort _ _).trans ?_, ?_⟩
  · rw [List.map_map]
    rfl
  · refine ((List.perm_insertionSort _ _).map Prod.fst).trans ?_
    rw [hintents]

theorem cut_eq_iff {asked shared : ℚ} :
    asked = shared + quantizeDecimal (max (asked - shared) 0) ↔
      shared ≤ asked ∧ quantizeDecimal (asked - shared) = asked - shared := by
  rcases le_total shared asked with hle | hle
  · rw [max_eq_left (sub_nonneg.mpr hle), and_iff_right hle]
    constructor
    · intro h
      linarith
    · intro h
      linarith
  · rw [max_eq_right (sub_nonpos.mpr hle), Portfolio.quantizeDecimal_zero, add_zero]
    constructor
    · rintro rfl
      exact ⟨le_refl _, by rw [sub_self, Portfolio.quantizeDecimal_zero]⟩
    · exact fun h => le_antisymm hle h.1

theorem reported_bounds {exempt granted : ℚ} (hexempt : 0 ≤ exempt) (hgranted : 0 ≤ granted) :
    0 ≤ quantizeDecimal (exempt + quantizeDecimal granted) ∧
      quantizeDecimal (exempt + quantizeDecimal granted) ≤ 16 / 9 * (exempt + granted) := by
  obtain ⟨hnonneg, hle⟩ := quantizeDecimal_bounds hgranted
  obtain ⟨hnonneg', hle'⟩ := quantizeDecimal_bounds (add_nonneg hexempt hnonneg)
  exact ⟨hnonneg', by linarith⟩

end Redistribution

/-! ### Main result -/

theorem exists_snapshot_of_actionable {budgeted : List (StrategySleeveIntent × AllocatorBudgetSnapshot)}
    (h : ∀ sleeve ∈ budgeted, sleeve.1.strategySleeveId = sleeve.2.strategySleeveId) :
    ∀ intent ∈ actionableIntents budgeted, ∃ snapshot ∈ budgeted.map Prod.snd,
      snapshot.strategySleeveId = intent.strategySleeveId := by
  intro intent hmem
  obtain ⟨sleeve, hsleeve, rfl⟩ := List.mem_map.mp (List.mem_filter.mp hmem).1
  exact ⟨sleeve.2, List.mem_map_of_mem hsleeve, (h sleeve hsleeve).symm⟩

theorem decisionOf_addsUp_iff {sleeveIntents : List StrategySleeveIntent} {approval : Approval}
    {result : RedistributedBudgets} {budget : PortfolioBudget}
    {sleeves : List (StrategySleeveIntent × AllocatorBudgetSnapshot)}
    {budgetSnapshots : List AllocatorBudgetSnapshot} (hexempt : Nonneg budget.exempt)
    (hgranted : Nonneg budget.granted)
    (hperm : let asked := askedNotional budgetSnapshots
      let shared := budget.sharedNotional sleeves
      result.snapshots.Perm (sleeves.map fun sleeve =>
        (budget.redistribute asked shared (quantizeDecimal (max (asked - shared) 0)) sleeve).2)) :
    (decisionOf sleeveIntents approval result).AddsUp ↔
      sleeves = [] ∨ SharedOnce budget sleeves budgetSnapshots := by
  have hsum : ∀ figure : AllocatorBudgetSnapshot → ℚ, (result.snapshots.map figure).sum =
      (sleeves.map fun sleeve => figure (budget.redistribute (askedNotional budgetSnapshots)
        (budget.sharedNotional sleeves) (quantizeDecimal (max (askedNotional budgetSnapshots -
          budget.sharedNotional sleeves) 0)) sleeve).2).sum := by
    intro figure
    rw [(hperm.map figure).sum_eq, List.map_map]
    rfl
  have hrequested : (decisionOf sleeveIntents approval result).portfolioRequestedNotional =
      sleeves.length * askedNotional budgetSnapshots := (hsum _).trans (sum_map_const _ _)
  have happroved : (decisionOf sleeveIntents approval result).portfolioApprovedNotional =
      sleeves.length * budget.sharedNotional sleeves := (hsum _).trans (sum_map_const _ _)
  have hcut : (decisionOf sleeveIntents approval result).portfolioBudgetCutNotional =
      sleeves.length * quantizeDecimal (max (askedNotional budgetSnapshots -
        budget.sharedNotional sleeves) 0) := (hsum _).trans (sum_map_const _ _)
  have hbounds : ∀ sleeve ∈ sleeves, 0 ≤ quantizeDecimal
      (amountOf budget.exempt sleeve.1.strategySleeveId +
        quantizeDecimal (amountOf budget.granted sleeve.1.strategySleeveId)) ∧
      quantizeDecimal (amountOf budget.exempt sleeve.1.strategySleeveId +
        quantizeDecimal (amountOf budget.granted sleeve.1.strategySleeveId)) ≤
          16 / 9 * budget.share sleeve.1.strategySleeveId :=
    fun sleeve _ => reported_bounds (hexempt.amountOf _) (hgranted.amountOf _)
  unfold PortfolioAllocationDecision.AddsUp
  rw [hrequested, happroved, hcut]
  have hsnapshots : (decisionOf sleeveIntents approval result).budgetSnapshots =
      result.snapshots := rfl
  rw [hsnapshots, hsum, hsum]
  by_cases hnil : sleeves = []
  · rw [hnil]
    simp
  · rw [or_iff_right hnil]
    have hlength : (sleeves.length : ℚ) ≠ 0 := by
      rw [ne_eq, Nat.cast_eq_zero, List.length_eq_zero_iff]
      exact hnil
    unfold SharedOnce
    rw [← mul_add, mul_right_inj' hlength, cut_eq_iff]
    refine and_congr Iff.rfl ?_
    rw [and_comm]
    exact and_congr Iff.rfl (length_mul_sum_eq_iff hbounds)

/-- **The figures of a decision are the sums over its sleeves exactly if the figures of the portfolio
are counted once**: there is always a decision, and it adds up if no sleeve is left, or if what the
sleeves that are left share is reported once. -/
theorem allocate_addsUp_iff (settings : Option AllocatorSettings) (baseTarget : PositionTarget)
    (selectedFamily : StrategyFamily) (sleeveIntents : List StrategySleeveIntent)
    (budgetAssignments : List SleeveBudgetAssignment) :
    let budgeted :=
      (budgetedSleeves settings baseTarget selectedFamily sleeveIntents budgetAssignments).2
    let budgetSnapshots := budgeted.map Prod.snd
    ∃ decision sleeves,
      allocate settings baseTarget selectedFamily sleeveIntents budgetAssignments = some decision ∧
      withSnapshots (actionableIntents budgeted) budgetSnapshots = some sleeves ∧
      (decision.AddsUp ↔ sleeves = [] ∨
        SharedOnce (portfolioBudget (portfolioNotionalCap settings) sleeves budgetSnapshots baseTarget)
          sleeves budgetSnapshots) := by
  intro budgeted budgetSnapshots
  have hids : ∀ sleeve ∈ budgeted, sleeve.1.strategySleeveId = sleeve.2.strategySleeveId := by
    intro sleeve hmem
    obtain ⟨intent, -, rfl⟩ := List.mem_map.mp hmem
    have hboth := applyBudgetAssignment_strategySleeveId intent baseTarget
      (KeyedList.lookup SleeveBudgetAssignment.strategySleeveId
        (KeyedList.ofItems SleeveBudgetAssignment.strategySleeveId budgetAssignments)
        intent.strategySleeveId)
    exact hboth.1.trans hboth.2.symm
  obtain ⟨sleeves, result, hsleeves, hresult, hperm, -⟩ :=
    applyPortfolioBudgetRedistribution_eq (portfolioNotionalCap settings) baseTarget
      (exists_snapshot_of_actionable hids)
  obtain ⟨hexempt, hgranted⟩ := nonneg_portfolioBudget (portfolioNotionalCap settings) sleeves
    budgetSnapshots baseTarget
  refine ⟨decisionOf sleeveIntents (budgetedSleeves settings baseTarget selectedFamily sleeveIntents
    budgetAssignments).1 result, sleeves, ?_, hsleeves,
    decisionOf_addsUp_iff hexempt hgranted hperm⟩
  exact congrArg (Option.map _) hresult

/-- A grid and an accumulation sleeve of a spot account ask for 100 and for 50 USDT. -/
def gridAndDca : List StrategySleeveIntent :=
  let grid : StrategySleeveIntent :=
    { family := .spotGrid, strategySleeveId := "grid", state := .active, symbol := "BTC-USDT"
      productType := .spot, marginMode := .cash, routeAction := .overrideTarget, selectable := true
      executionCompatible := true, targetPositionQty := 1 / 1000, deltaPositionQty := 1 / 1000
      targetNotional := some 100 }
  [grid, { grid with family := .dca, strategySleeveId := "dca", targetNotional := some 50 }]

def flatSpotTarget : PositionTarget :=
  { symbol := "BTC-USDT", currentPositionQty := 0, targetPositionQty := 0, currentNotional := 0
    targetNotional := 0 }

/-- **Two approved sleeves are counted twice**: the decision says that 300 USDT are requested and
approved, where the sleeves ask for 150 and get them. -/
theorem allocate_not_addsUp_gridAndDca :
    ¬ ∀ (settings : Option AllocatorSettings) (baseTarget : PositionTarget)
      (selectedFamily : StrategyFamily) (sleeveIntents : List StrategySleeveIntent)
      (budgetAssignments : List SleeveBudgetAssignment) (decision : PortfolioAllocationDecision),
      allocate settings baseTarget selectedFamily sleeveIntents budgetAssignments = some decision →
        decision.AddsUp := by
  intro h
  have hfigures : (allocate none flatSpotTarget .spotGrid gridAndDca []).map (fun decision =>
      (decision.portfolioRequestedNotional, decision.portfolioApprovedNotional,
        decision.portfolioBudgetCutNotional,
        (decision.budgetSnapshots.map (·.requestedNotional)).sum)) = some (300, 300, 0, 150) := by
    decide +kernel
  obtain ⟨decision, hdecision, hvalues⟩ := Option.map_eq_some_iff.mp hfigures
  have hadds := (h none flatSpotTarget .spotGrid gridAndDca [] decision hdecision).1
  rw [Prod.mk.injEq, Prod.mk.injEq, Prod.mk.injEq] at hvalues
  rw [hvalues.1, hvalues.2.2.2] at hadds
  exact absurd hadds (by norm_num)

end Aats.Allocation
