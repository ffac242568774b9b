import Aats.Allocation.Allocator

/-!
# Reductions under the caps

A budget is there against new risk, so a request that only takes risk away is exempt from the caps:
`_derivatives_de_risk_requested_notional` counts all of it as exempt, when the sleeve is held to its
budget and again when the portfolio is held to its cap.

A bundle that closes one leg and opens another is no such request, even if its position is smaller in
the end. Both caps count a request by its notional, so they agree about what is exempt if they see the
same notional.

## Main definitions
* `ReducesOnly` — a request that is recognised to only take risk away.
* `Priced` — a request whose notional does not rest on a limit of its sleeve.

## Main results
* `scaledApproved_of_reducesOnly` — **a reduction leaves the caps as it came**.
-/

namespace Aats.Allocation

/-! ### What is a reduction -/

def StrategyLegIntent.Moves (leg : StrategyLegIntent) : Prop :=
  epsilon12 < |leg.deltaPositionQty.getD 0|

instance (leg : StrategyLegIntent) : Decidable leg.Moves := by
  unfold StrategyLegIntent.Moves
  infer_instance

/-- A request for derivatives that only takes risk away: each leg that moves is closed or reduced, or,
if there are no legs, the position gets smaller on its own side. -/
def ReducesOnly (intent : StrategySleeveIntent) : Prop :=
  intent.productType = .derivatives ∧
    if intent.legs = [] then
      epsilon12 < |intent.currentPositionQty| ∧
        (|intent.targetPositionQty| ≤ epsilon12 ∨
          0 < intent.currentPositionQty * intent.targetPositionQty) ∧
        |intent.targetPositionQty| ≤ |intent.currentPositionQty|
    else
      (∃ leg ∈ intent.legs, leg.Moves) ∧
        ∀ leg ∈ intent.legs, leg.Moves → leg.action = some .close ∨ leg.action = some .reduce

/-- A request that comes with a notional, with legs that are worth something, or with a price. -/
def Priced (intent : StrategySleeveIntent) (baseTarget : PositionTarget) : Prop :=
  epsilon12 < |intent.targetNotional.getD 0| ∨
    epsilon12 < (intent.legs.map fun leg => |leg.deltaPositionQty.getD 0| *
      legReferencePrice leg (fallbackReferencePrice intent baseTarget)).sum ∨
    epsilon12 < fallbackReferencePrice intent baseTarget

variable {intent : StrategySleeveIntent} {baseTarget : PositionTarget}
  {assignment : Option SleeveBudgetAssignment}

theorem ReducesOnly.exempt (h : ReducesOnly intent) (requested : ℚ) :
    derivativesDeRiskRequestedNotional intent requested = max requested 0 := by
  obtain ⟨hproduct, hreduces⟩ := h
  unfold derivativesDeRiskRequestedNotional
  extract_lets moving sameSideOrFlat
  rw [if_neg (not_not.mpr hproduct)]
  by_cases hlegs : intent.legs = []
  · rw [if_pos hlegs] at hreduces
    obtain ⟨hopen, hside, hsmaller⟩ := hreduces
    rw [if_neg (not_not.mpr hlegs), if_neg (not_le.mpr hopen)]
    exact if_pos ⟨hside, by linarith [epsilon12_pos]⟩
  · rw [if_neg hlegs] at hreduces
    obtain ⟨⟨leg, hmem, hmoves⟩, hactions⟩ := hreduces
    rw [if_pos hlegs, if_pos]
    refine ⟨List.ne_nil_of_mem (List.mem_filter.mpr ⟨hmem, decide_eq_true hmoves⟩), ?_⟩
    intro other hother
    obtain ⟨hother, hmoving⟩ := List.mem_filter.mp hother
    exact hactions other hother (of_decide_eq_true hmoving)

theorem requestedNotional_eq_none (h : Priced intent baseTarget ∨
    assignment.bind (·.effectiveMaxSymbolNotional) = none) :
    requestedNotional intent baseTarget assignment = requestedNotional intent baseTarget none := by
  unfold requestedNotional
  extract_lets reference target grouped total fullClose
  rcases h with (htarget | htotal | hprice) | hlimit
  · have htarget' : epsilon12 < target := htarget
    split_ifs <;> rfl
  · have hlegs : intent.legs ≠ [] := by
      intro hnil
      rw [hnil] at htotal
      exact absurd htotal (not_lt.mpr epsilon12_pos.le)
    have htotal' : intent.legs ≠ [] ∧ epsilon12 < total := ⟨hlegs, htotal⟩
    rw [if_pos htotal']
    split_ifs <;> rfl
  · have hreference : ¬ reference ≤ epsilon12 := not_le.mpr hprice
    cases assignment.bind (·.effectiveMaxSymbolNotional) with
    | none => rfl
    | some limit =>
      simp only [if_neg hreference]
      rfl
  · rw [hlimit]
    rfl

/-! ### Under the budget of the sleeve -/

theorem applyBudgetAssignment_of_reducesOnly (h : ReducesOnly intent) (baseTarget : PositionTarget)
    (assignment : Option SleeveBudgetAssignment) :
    (applyBudgetAssignment intent baseTarget assignment).1 = intent ∧
      (applyBudgetAssignment intent baseTarget assignment).2.approvedNotional =
        requestedNotional intent baseTarget assignment := by
  unfold applyBudgetAssignment
  extract_lets requested fullCloseExempt deRiskExempt exempt cappedRequested budgetRatio scaledIntent
    profileCode hedgePriorityClass approved
  have hexempt : requested ≤ exempt := by
    have hderisk : deRiskExempt = max requested 0 := h.exempt requested
    exact (le_max_left _ _).trans (hderisk.ge.trans (le_max_right _ _))
  have hcapped : cappedRequested = 0 := max_eq_right (by linarith)
  have hratio : budgetRatio = none := by
    refine Option.bind_eq_none_iff.mpr fun cap _ => if_neg ?_
    rw [hcapped]
    exact fun hover => absurd hover.2 (not_lt.mpr epsilon12_pos.le)
  refine ⟨?_, ?_⟩
  · show scaledIntent = intent
    unfold scaledIntent
    rw [hratio]
  · show approved = requested
    unfold approved
    rw [hratio]

/-! ### Amounts by sleeve -/

section Amounts

variable {α : Type} {items : List α} {sleeveId : α → String} {value : α → ℚ}

theorem amountOf_ofItems {id : String} {amount : ℚ} (hmem : ∃ item ∈ items, sleeveId item = id)
    (hsame : ∀ item ∈ items, sleeveId item = id → value item = amount) :
    amountOf (KeyedList.ofItems Prod.fst (items.map fun item => (sleeveId item, value item))) id =
      amount := by
  unfold amountOf
  cases hlookup : KeyedList.lookup Prod.fst
      (KeyedList.ofItems Prod.fst (items.map fun item => (sleeveId item, value item))) id with
  | none =>
    obtain ⟨item, hitem, hid⟩ := hmem
    have hkey : id ∈ (KeyedList.ofItems Prod.fst
        (items.map fun item => (sleeveId item, value item))).map Prod.fst := by
      rw [KeyedList.mem_keys_ofItems, List.map_map]
      exact List.mem_map.mpr ⟨item, hitem, hid⟩
    obtain ⟨entry, hentry, hid⟩ := List.mem_map.mp hkey
    exact absurd hid (KeyedList.lookup_eq_none.mp hlookup entry hentry)
  | some entry =>
    have hkey := KeyedList.key_of_lookup hlookup
    rw [KeyedList.lookup_ofItems] at hlookup
    obtain ⟨item, hitem, rfl⟩ := List.mem_map.mp
      (List.mem_reverse.mp (KeyedList.mem_of_lookup hlookup))
    exact hsame item hitem hkey

end Amounts

/-! ### Under the cap of the portfolio -/

theorem redistribute_of_reducesOnly (h : ReducesOnly intent) (portfolioCap asked shared cut : ℚ)
    {sleeves : List (StrategySleeveIntent × AllocatorBudgetSnapshot)}
    {budgetSnapshots : List AllocatorBudgetSnapshot}
    (halone : ∀ sleeve ∈ sleeves, sleeve.1.strategySleeveId = intent.strategySleeveId →
      sleeve.1 = intent)
    (hsnapshot : ∃ snapshot ∈ budgetSnapshots, snapshot.strategySleeveId = intent.strategySleeveId)
    (hnotional : ∀ snapshot ∈ budgetSnapshots, snapshot.strategySleeveId = intent.strategySleeveId →
      snapshot.approvedNotional ≤ requestedNotional intent baseTarget none)
    {sleeve : StrategySleeveIntent × AllocatorBudgetSnapshot} (hmem : sleeve ∈ sleeves)
    (hid : sleeve.1.strategySleeveId = intent.strategySleeveId) :
    ((portfolioBudget portfolioCap sleeves budgetSnapshots baseTarget).redistribute asked shared cut
      sleeve).1 = intent := by
  let closeExempt := KeyedList.ofItems Prod.fst (sleeves.map fun sleeve =>
    (sleeve.1.strategySleeveId, independentFullCloseRequestedNotional sleeve.1 baseTarget))
  let exempt := KeyedList.ofItems Prod.fst (sleeves.map fun sleeve =>
    (sleeve.1.strategySleeveId, max (amountOf closeExempt sleeve.1.strategySleeveId)
      (derivativesDeRiskRequestedNotional sleeve.1 (requestedNotional sleeve.1 baseTarget none))))
  have hexempt : requestedNotional intent baseTarget none ≤
      amountOf exempt intent.strategySleeveId := by
    have hvalue : amountOf exempt intent.strategySleeveId =
        max (amountOf closeExempt intent.strategySleeveId)
          (max (requestedNotional intent baseTarget none) 0) := by
      refine amountOf_ofItems ⟨sleeve, hmem, hid⟩ fun other hother heq => ?_
      rw [heq, halone other hother heq, h.exempt]
    rw [hvalue]
    exact (le_max_left _ _).trans (le_max_right _ _)
  have hcapped : amountOf (portfolioBudget portfolioCap sleeves budgetSnapshots
      baseTarget).cappedRequested intent.strategySleeveId = 0 := by
    have htable : (portfolioBudget portfolioCap sleeves budgetSnapshots baseTarget).cappedRequested =
        KeyedList.ofItems Prod.fst (budgetSnapshots.map fun snapshot => (snapshot.strategySleeveId,
          max (snapshot.approvedNotional - amountOf exempt snapshot.strategySleeveId) 0)) := by
      unfold portfolioBudget
      dsimp only
      split <;> rfl
    rw [htable]
    refine amountOf_ofItems hsnapshot fun snapshot hmem heq => max_eq_right ?_
    rw [heq]
    linarith [hnotional snapshot hmem heq]
  unfold PortfolioBudget.redistribute
  extract_lets intent' snapshot exempt' originalCapped approvedCapped approved redistributed
  show redistributed = intent
  have horiginal : originalCapped = 0 := by
    unfold originalCapped intent'
    rw [hid]
    exact hcapped
  unfold redistributed
  rw [if_neg]
  · exact halone sleeve hmem hid
  · rw [horiginal]
    exact fun hover => absurd hover.1 (not_lt.mpr epsilon12_pos.le)

/-! ### Through the allocator -/

/-- `scaled_approved` of `allocate`. -/
def scaledApproved (settings : Option AllocatorSettings) (baseTarget : PositionTarget)
    (selectedFamily : StrategyFamily) (sleeveIntents : List StrategySleeveIntent)
    (budgetAssignments : List SleeveBudgetAssignment) : Option (List StrategySleeveIntent) :=
  let budgeted :=
    (budgetedSleeves settings baseTarget selectedFamily sleeveIntents budgetAssignments).2
  (applyPortfolioBudgetRedistribution (portfolioNotionalCap settings) (actionableIntents budgeted)
    (budgeted.map Prod.snd) baseTarget).map (·.intents)

/-- **A reduction leaves the caps as it came.**  It is approved, no other intent of its sleeve is, and
its notional does not rest on a limit of the sleeve. Then it is the only intent of its sleeve that
leaves the caps, and it does leave them if there is something to do about it. -/
theorem scaledApproved_of_reducesOnly (settings : Option AllocatorSettings)
    (baseTarget : PositionTarget) (selectedFamily : StrategyFamily)
    (sleeveIntents : List StrategySleeveIntent) (budgetAssignments : List SleeveBudgetAssignment)
    {intent : StrategySleeveIntent} (h : ReducesOnly intent) :
    let approved :=
      (budgetedSleeves settings baseTarget selectedFamily sleeveIntents budgetAssignments).1.approved
    intent ∈ approved →
    (∀ other ∈ approved, other.strategySleeveId = intent.strategySleeveId → other = intent) →
    (Priced intent baseTarget ∨ ∀ assignment ∈ budgetAssignments,
      assignment.strategySleeveId = intent.strategySleeveId →
        assignment.effectiveMaxSymbolNotional = none) →
    ∃ intents, scaledApproved settings baseTarget selectedFamily sleeveIntents budgetAssignments =
        some intents ∧
      (∀ out ∈ intents, out.strategySleeveId = intent.strategySleeveId → out = intent) ∧
      (intentIsActionable intent true → intent ∈ intents) := by
  intro approved hmem halone hpriced
  let assignmentOf := KeyedList.lookup SleeveBudgetAssignment.strategySleeveId
    (KeyedList.ofItems SleeveBudgetAssignment.strategySleeveId budgetAssignments)
  have hbudgeted : (budgetedSleeves settings baseTarget selectedFamily sleeveIntents
      budgetAssignments).2 = approved.map fun intent =>
        applyBudgetAssignment intent baseTarget (assignmentOf intent.strategySleeveId) := rfl
  unfold scaledApproved
  extract_lets budgeted
  have hbudgeted' : budgeted = approved.map fun intent =>
      applyBudgetAssignment intent baseTarget (assignmentOf intent.strategySleeveId) := hbudgeted
  have hids : ∀ sleeve ∈ budgeted, sleeve.1.strategySleeveId = sleeve.2.strategySleeveId ∧
      (sleeve.1.strategySleeveId = intent.strategySleeveId → sleeve =
        applyBudgetAssignment intent baseTarget (assignmentOf intent.strategySleeveId)) := by
    intro sleeve hsleeve
    rw [hbudgeted'] at hsleeve
    obtain ⟨other, hother, rfl⟩ := List.mem_map.mp hsleeve
    obtain ⟨hfirst, hsecond⟩ := applyBudgetAssignment_strategySleeveId other baseTarget
      (assignmentOf other.strategySleeveId)
    refine ⟨hfirst.trans hsecond.symm, fun heq => ?_⟩
    show applyBudgetAssignment other baseTarget (assignmentOf other.strategySleeveId) = _
    rw [halone other hother (hfirst.symm.trans heq)]
  obtain ⟨hkept, happroved⟩ := applyBudgetAssignment_of_reducesOnly h baseTarget
    (assignmentOf intent.strategySleeveId)
  -- both caps see the same notional
  have hnotional : requestedNotional intent baseTarget (assignmentOf intent.strategySleeveId) =
      requestedNotional intent baseTarget none := by
    refine requestedNotional_eq_none (hpriced.imp id fun hlimit => ?_)
    cases hassignment : assignmentOf intent.strategySleeveId with
    | none => rfl
    | some assignment =>
      have hkey := KeyedList.key_of_lookup hassignment
      have hlookup : KeyedList.lookup SleeveBudgetAssignment.strategySleeveId
          budgetAssignments.reverse intent.strategySleeveId = some assignment := by
        rw [← KeyedList.lookup_ofItems]
        exact hassignment
      exact hlimit assignment (List.mem_reverse.mp (KeyedList.mem_of_lookup hlookup)) hkey
  obtain ⟨sleeves, result, hsleeves, hresult, -, hintents⟩ :=
    applyPortfolioBudgetRedistribution_eq (portfolioNotionalCap settings) baseTarget
      (exists_snapshot_of_actionable fun sleeve hsleeve => (hids sleeve hsleeve).1)
  obtain ⟨found, hfound, hfirsts, -⟩ := withSnapshots_eq_some
    (exists_snapshot_of_actionable fun sleeve hsleeve => (hids sleeve hsleeve).1)
  rw [hsleeves] at hfound
  obtain rfl : sleeves = found := Option.some.inj hfound
  have hactionable : ∀ sleeve ∈ sleeves, sleeve.1.strategySleeveId = intent.strategySleeveId →
      sleeve.1 = intent := by
    intro sleeve hsleeve heq
    have hactive : sleeve.1 ∈ actionableIntents budgeted := by
      rw [← hfirsts]
      exact List.mem_map_of_mem hsleeve
    obtain ⟨other, hother, hsame⟩ := List.mem_map.mp (List.mem_filter.mp hactive).1
    rw [← hsame, (hids other hother).2 (by rw [hsame]; exact heq)]
    exact hkept
  have hsource : applyBudgetAssignment intent baseTarget (assignmentOf intent.strategySleeveId) ∈
      budgeted := by
    rw [hbudgeted']
    exact List.mem_map.mpr ⟨intent, hmem, rfl⟩
  have hsnapshotId := (applyBudgetAssignment_strategySleeveId intent baseTarget
    (assignmentOf intent.strategySleeveId)).2
  have hsnapshots : ∀ snapshot ∈ budgeted.map Prod.snd,
      snapshot.strategySleeveId = intent.strategySleeveId →
        snapshot.approvedNotional ≤ requestedNotional intent baseTarget none := by
    intro snapshot hsnapshot heq
    obtain ⟨other, hother, rfl⟩ := List.mem_map.mp hsnapshot
    rw [(hids other hother).2 ((hids other hother).1.trans heq), happroved, hnotional]
  have hleaves := fun asked shared cut sleeve (hsleeve : sleeve ∈ sleeves) =>
    redistribute_of_reducesOnly h (portfolioNotionalCap settings) asked shared cut hactionable
      ⟨_, List.mem_map_of_mem hsource, hsnapshotId⟩ hsnapshots hsleeve
  refine ⟨result.intents, ?_, ?_, ?_⟩
  · rw [hresult]
    rfl
  · intro out hout heq
    obtain ⟨hout, -⟩ := List.mem_filter.mp (hintents.mem_iff.mp hout)
    obtain ⟨pair, hpair, rfl⟩ := List.mem_map.mp hout
    obtain ⟨sleeve, hsleeve, rfl⟩ := List.mem_map.mp hpair
    rw [PortfolioBudget.redistribute_strategySleeveId] at heq
    exact hleaves _ _ _ sleeve hsleeve heq
  · intro hactive
    have hin : intent ∈ actionableIntents budgeted := by
      refine List.mem_filter.mpr ⟨?_, hactive⟩
      rw [← hkept]
      exact List.mem_map_of_mem hsource
    rw [← hfirsts] at hin
    obtain ⟨sleeve, hsleeve, hsame⟩ := List.mem_map.mp hin
    refine hintents.mem_iff.mpr (List.mem_filter.mpr ⟨?_, hactive⟩)
    refine List.mem_map.mpr ⟨_, List.mem_map_of_mem hsleeve, ?_⟩
    exact hleaves _ _ _ sleeve hsleeve (by rw [hsame])

/-- The base target of a derivatives account with a long position of 5 at a price of 100. -/
def longSwapTarget : PositionTarget :=
  { symbol := "BTC-USDT-SWAP", productType := .derivatives, marginMode := .cross
    currentPositionQty := 5, targetPositionQty := 5, currentNotional := 500, targetNotional := 500 }

/-- A directional sleeve that reduces its long position from 5 to 2. -/
def reducingIntent : StrategySleeveIntent :=
  { family := .directional, strategySleeveId := "directional", state := .active
    symbol := "BTC-USDT-SWAP", productType := .derivatives, marginMode := .cross
    routeAction := .overrideTarget, selectable := true, executionCompatible := true
    currentPositionQty := 5, targetPositionQty := 2, deltaPositionQty := -3 }

theorem reducesOnly_reducingIntent : ReducesOnly reducingIntent := by
  have hlegs : reducingIntent.legs = [] := rfl
  refine ⟨rfl, ?_⟩
  rw [if_pos hlegs]
  decide +kernel

/-- An independent sleeve that takes its net position from 5 to 2, as it reduces its long leg from 8 to
6 and opens more of its short leg. -/
def mixedBundle : StrategySleeveIntent :=
  { reducingIntent with
    family := .independent
    strategySleeveId := "independent"
    legs :=
      [{ posSide := some .long, action := some .reduce, currentPositionQty := some 8
         targetPositionQty := some 6, deltaPositionQty := some (-2), referencePrice := some 100 },
       { posSide := some .short, action := some .opening, currentPositionQty := some (-3)
         targetPositionQty := some (-4), deltaPositionQty := some (-1), referencePrice := some 100 }] }

theorem scaledApproved_reducingIntent :
    let assignment : SleeveBudgetAssignment :=
      { strategySleeveId := "directional", effectiveNotionalCap := some 1 }
    ∃ intents, scaledApproved (some { maxTotalOpenNotional := 1 }) longSwapTarget .directional
        [reducingIntent] [assignment] = some intents ∧
      (∀ out ∈ intents, out.strategySleeveId = "directional" → out = reducingIntent) ∧
      (intentIsActionable reducingIntent true → reducingIntent ∈ intents) :=
  scaledApproved_of_reducesOnly (some { maxTotalOpenNotional := 1 }) longSwapTarget .directional
    [reducingIntent] [{ strategySleeveId := "directional", effectiveNotionalCap := some 1 }]
    reducesOnly_reducingIntent (by decide +kernel) (by decide +kernel)
    (.inl (.inr (.inr (by decide +kernel))))

/-- **A bundle that closes and opens is scaled down**, even if it takes the position down on its own
side: of the change from 5 to 2, a cap of 100 USDT leaves one from 5 to 4. -/
theorem scaledApproved_not_whole_mixedBundle :
    ¬ ∀ (settings : Option AllocatorSettings) (baseTarget : PositionTarget)
      (selectedFamily : StrategyFamily) (sleeveIntents : List StrategySleeveIntent)
      (budgetAssignments : List SleeveBudgetAssignment) (intents : List StrategySleeveIntent),
      scaledApproved settings baseTarget selectedFamily sleeveIntents budgetAssignments =
        some intents →
      ∀ intent ∈ sleeveIntents, intent.productType = .derivatives →
        0 ≤ intent.currentPositionQty * intent.targetPositionQty →
        |intent.targetPositionQty| < |intent.currentPositionQty| →
        ∀ out ∈ intents, out.strategySleeveId = intent.strategySleeveId →
          out.targetPositionQty = intent.targetPositionQty := by
  intro h
  have htargets : (scaledApproved (some { maxTotalOpenNotional := 100 }) longSwapTarget .independent
      [mixedBundle] []).map (fun intents => intents.map fun intent =>
        (intent.strategySleeveId, intent.targetPositionQty)) = some [("independent", 4)] := by
    decide +kernel
  obtain ⟨intents, hintents, hvalues⟩ := Option.map_eq_some_iff.mp htargets
  have hmem : ("independent", (4 : ℚ)) ∈ intents.map fun intent =>
      (intent.strategySleeveId, intent.targetPositionQty) := by
    rw [hvalues]
    exact List.mem_singleton_self _
  obtain ⟨out, hout, hpair⟩ := List.mem_map.mp hmem
  obtain ⟨hid, htarget⟩ := Prod.mk.inj hpair
  have hwhole := h _ _ _ _ _ intents hintents mixedBundle (List.mem_singleton_self _) rfl
    (by decide +kernel) (by decide +kernel) out hout hid
  rw [htarget] at hwhole
  exact absurd hwhole (by decide +kernel)

end Aats.Allocation
