import Aats.Allocation.CapDistribution

/-!
# The cap by priority

`_redistribute_notional_by_priority` serves the priorities one after the other: in full while the cap
lasts, by weight where it ends, and not at all after that. Every figure is rounded on the way, so the
cap is used, and what it is shared into does not depend on the order of the requests, up to a few units
of the last decimal for each sleeve.

## Main definitions
* `Served` — the groups in their order, and what each gets of what remains.

## Main results
* `served_foldl` — **the groups are served one after the other**.
* `Served.distance_le` — **the order of the requests matters only by rounding**.
-/

namespace Aats.Allocation

open Portfolio (quantizeDecimal quantizeDecimal_of_abs_le quantizeDecimal_nonneg
  quantizeDecimal_nonpos abs_quantizeDecimal_sub)
open WaterFilling

variable {limits amounts : List (String × ℚ)} {group sleeves : List StrategySleeveIntent}
variable {groups groups' : List (List StrategySleeveIntent)} {remaining : ℚ}
variable {amount amount' : StrategySleeveIntent → ℚ} {intent : StrategySleeveIntent}

/-! ### One group after the other -/

inductive Served (limits : List (String × ℚ)) (amount : StrategySleeveIntent → ℚ) :
    ℚ → List (List StrategySleeveIntent) → Prop
  | nil (remaining : ℚ) : Served limits amount remaining []
  | skipped {remaining : ℚ} {group : List StrategySleeveIntent}
      {groups : List (List StrategySleeveIntent)} (hspent : remaining ≤ epsilon12)
      (hnothing : ∀ intent ∈ group, amount intent = 0) (hrest : Served limits amount remaining groups) :
      Served limits amount remaining (group :: groups)
  | full {remaining : ℚ} {group : List StrategySleeveIntent}
      {groups : List (List StrategySleeveIntent)} (hleft : epsilon12 < remaining)
      (hfits : total (amountFor limits) group ≤ remaining + epsilon12)
      (hall : ∀ intent ∈ group, amount intent = amountFor limits intent)
      (hrest : Served limits amount
        (quantizeDecimal (remaining - total (amountFor limits) group)) groups) :
      Served limits amount remaining (group :: groups)
  | shared {remaining : ℚ} {group : List StrategySleeveIntent}
      {groups : List (List StrategySleeveIntent)} (hleft : epsilon12 < remaining)
      (hmore : remaining + epsilon12 < total (amountFor limits) group)
      (hshared : CapShared limits group remaining amount) (hrest : Served limits amount 0 groups) :
      Served limits amount remaining (group :: groups)

theorem CapShared.congr (h : CapShared limits sleeves remaining amount)
    (heq : ∀ intent ∈ sleeves, amount' intent = amount intent) :
    CapShared limits sleeves remaining amount' := by
  obtain ⟨level, hnear⟩ := h.near
  refine ⟨fun intent hintent => ?_, ?_, level, ?_⟩
  · rw [heq intent hintent]
    exact h.bounds intent hintent
  · rw [total_congr heq]
    exact h.used
  · refine le_trans (le_of_eq (total_congr fun intent hintent => ?_)) hnear
    rw [heq intent hintent]

theorem amountOf_servePriority_of_notMem (hlimits : Nonneg limits) {state : List (String × ℚ) × ℚ}
    (hids : (group.map (·.strategySleeveId)).Nodup) {sleeveId : String}
    (h : sleeveId ∉ group.map (·.strategySleeveId)) :
    amountOf (servePriority limits state group).1 sleeveId = amountOf state.1 sleeveId := by
  unfold servePriority
  extract_lets groupTotal
  split_ifs with hspent hfits
  · exact amountOf_foldl_setAmount_of_notMem h
  · exact amountOf_foldl_setAmount_of_notMem h
  · refine amountOf_foldl_setAmount_of_notMem ?_
    rwa [(capShared_weightedCapDistribution hlimits hids
      (epsilon12_pos.le.trans (not_le.mp hspent).le) (not_le.mp hfits)).1]

theorem amountOf_foldl_servePriority_of_notMem (hlimits : Nonneg limits)
    {state : List (String × ℚ) × ℚ} (hids : (groups.flatten.map (·.strategySleeveId)).Nodup)
    {sleeveId : String} (h : sleeveId ∉ groups.flatten.map (·.strategySleeveId)) :
    amountOf (groups.foldl (servePriority limits) state).1 sleeveId = amountOf state.1 sleeveId := by
  induction groups generalizing state with
  | nil => rfl
  | cons group groups ih =>
    rw [List.flatten_cons, List.map_append, List.nodup_append] at hids
    rw [List.flatten_cons, List.map_append, List.mem_append, not_or] at h
    rw [List.foldl_cons, ih hids.2.1 h.2, amountOf_servePriority_of_notMem hlimits hids.1 h.1]

theorem served_foldl (hlimits : Nonneg limits) (state : List (String × ℚ) × ℚ)
    (hids : (groups.flatten.map (·.strategySleeveId)).Nodup) :
    Served limits (amountFor (groups.foldl (servePriority limits) state).1) state.2 groups := by
  induction groups generalizing state with
  | nil => exact Served.nil _
  | cons group groups ih =>
    rw [List.flatten_cons, List.map_append, List.nodup_append] at hids
    rw [List.foldl_cons]
    -- the later groups leave what this one gets
    have hframe : ∀ intent ∈ group,
        amountFor (groups.foldl (servePriority limits) (servePriority limits state group)).1 intent =
          amountFor (servePriority limits state group).1 intent := by
      intro intent hintent
      refine amountOf_foldl_servePriority_of_notMem hlimits hids.2.1 fun hmem => ?_
      exact hids.2.2 _ (List.mem_map_of_mem hintent) _ hmem rfl
    have hrest := ih (servePriority limits state group) hids.2.1
    by_cases hspent : state.2 ≤ epsilon12
    · have hserve : servePriority limits state group = (group.foldl (fun amounts intent =>
          setAmount amounts intent.strategySleeveId 0) state.1, state.2) := if_pos hspent
      refine .skipped hspent (fun intent hintent => ?_) ?_
      · rw [hframe intent hintent, hserve]
        exact amountOf_foldl_setAmount (·.strategySleeveId) _ _ hids.1 hintent
      · rw [hserve] at hrest ⊢
        exact hrest
    · by_cases hfits : total (amountFor limits) group ≤ state.2 + epsilon12
      · have hserve : servePriority limits state group = (group.foldl (fun amounts intent =>
            setAmount amounts intent.strategySleeveId (amountFor limits intent)) state.1,
            quantizeDecimal (state.2 - total (amountFor limits) group)) :=
          (if_neg hspent).trans (if_pos hfits)
        refine .full (not_le.mp hspent) hfits (fun intent hintent => ?_) ?_
        · rw [hframe intent hintent, hserve]
          exact amountOf_foldl_setAmount (·.strategySleeveId) _ _ hids.1 hintent
        · rw [hserve] at hrest ⊢
          exact hrest
      · have hserve : servePriority limits state group =
            ((weightedCapDistribution group limits state.2).foldl
              (fun amounts entry => setAmount amounts entry.1 entry.2) state.1, 0) :=
          (if_neg hspent).trans (if_neg hfits)
        obtain ⟨hkeys, hshared⟩ := capShared_weightedCapDistribution hlimits hids.1
          (epsilon12_pos.le.trans (not_le.mp hspent).le) (not_le.mp hfits)
        refine .shared (not_le.mp hspent) (not_le.mp hfits) (hshared.congr fun intent hintent => ?_) ?_
        · rw [hframe intent hintent, hserve]
          -- the entry of the sleeve is what is set
          have hmem : intent.strategySleeveId ∈
              (weightedCapDistribution group limits state.2).map Prod.fst :=
            hkeys ▸ List.mem_map_of_mem hintent
          obtain ⟨entry, hentry, hid⟩ := List.mem_map.mp hmem
          have hset := amountOf_foldl_setAmount Prod.fst Prod.snd state.1 (hkeys ▸ hids.1) hentry
          rw [amountFor, ← hid, hset, amountFor, ← hid, amountOf,
            KeyedList.lookup_of_mem (hkeys ▸ hids.1) hentry]
          rfl
        · rw [hserve] at hrest ⊢
          exact hrest

/-! ### What the groups get -/

namespace Served

theorem nothing (h : Served limits amount remaining groups) (hspent : remaining ≤ epsilon12) :
    ∀ intent ∈ groups.flatten, amount intent = 0 := by
  induction h with
  | nil => exact fun intent hintent => absurd hintent List.not_mem_nil
  | skipped _ hnothing _ ih =>
    intro intent hintent
    rcases List.mem_append.mp hintent with hintent | hintent
    · exact hnothing intent hintent
    · exact ih hspent intent hintent
  | full hleft => exact absurd hspent (not_le.mpr hleft)
  | shared hleft => exact absurd hspent (not_le.mpr hleft)

theorem bounds (h : Served limits amount remaining groups) (hlimits : Nonneg limits) :
    ∀ intent ∈ groups.flatten,
      0 ≤ amount intent ∧ amount intent ≤ amountFor limits intent + epsilon12 / 2 := by
  have heps := epsilon12_pos
  have hlimit : ∀ intent, 0 ≤ amountFor limits intent := fun _ => hlimits.amountOf _
  induction h with
  | nil => exact fun intent hintent => absurd hintent List.not_mem_nil
  | skipped _ hnothing _ ih =>
    intro intent hintent
    rcases List.mem_append.mp hintent with hintent | hintent
    · rw [hnothing intent hintent]
      exact ⟨le_refl 0, by linarith [hlimit intent]⟩
    · exact ih intent hintent
  | full _ _ hall _ ih =>
    intro intent hintent
    rcases List.mem_append.mp hintent with hintent | hintent
    · rw [hall intent hintent]
      exact ⟨hlimit intent, by linarith⟩
    · exact ih intent hintent
  | shared _ _ hshared _ ih =>
    intro intent hintent
    rcases List.mem_append.mp hintent with hintent | hintent
    · exact hshared.bounds intent hintent
    · exact ih intent hintent

theorem pairwise (h : Served limits amount remaining groups) :
    groups.Pairwise fun group later => (∃ intent ∈ later, amount intent ≠ 0) →
      ∀ intent ∈ group, amount intent = amountFor limits intent := by
  -- a group that does not get all leaves nothing
  have hvacuous : ∀ {remaining : ℚ} {group : List StrategySleeveIntent}
      {groups : List (List StrategySleeveIntent)}, Served limits amount remaining groups →
      remaining ≤ epsilon12 → ∀ later ∈ groups, (∃ intent ∈ later, amount intent ≠ 0) →
        ∀ intent ∈ group, amount intent = amountFor limits intent := by
    rintro remaining group groups hrest hspent later hlater ⟨intent, hintent, hne⟩
    exact absurd (hrest.nothing hspent intent (List.mem_flatten.mpr ⟨later, hlater, hintent⟩)) hne
  induction h with
  | nil => exact List.Pairwise.nil
  | skipped hspent _ hrest ih => exact List.pairwise_cons.mpr ⟨hvacuous hrest hspent, ih⟩
  | full _ _ hall _ ih => exact List.pairwise_cons.mpr ⟨fun _ _ _ => hall, ih⟩
  | shared _ _ _ hrest ih => exact List.pairwise_cons.mpr ⟨hvacuous hrest epsilon12_pos.le, ih⟩

theorem one_le_length (h : group ≠ []) : (1 : ℚ) ≤ group.length := by
  exact_mod_cast List.length_pos_iff.mpr h

/-- All together get no more than the cap, up to rounding. -/
theorem total_le (h : Served limits amount remaining groups) (hne : ∀ group ∈ groups, group ≠ []) :
    total amount groups.flatten ≤ max remaining 0 + 2 * epsilon12 * groups.flatten.length := by
  have heps := epsilon12_pos
  induction h with
  | nil => simp
  | skipped hspent hnothing hrest ih =>
    rename_i remaining group groups
    have hzero : total amount group = 0 :=
      (total_congr hnothing).trans (by simpa using total_mul (f := fun _ => (0 : ℚ)) (c := 0))
    have hlater := ih fun group hgroup => hne group (List.mem_cons_of_mem _ hgroup)
    have hlength : 0 ≤ 2 * epsilon12 * (group.length : ℚ) :=
      mul_nonneg (by linarith) (Nat.cast_nonneg _)
    rw [List.flatten_cons, total_append, hzero, List.length_append]
    push_cast
    linarith
  | full hleft hfits hall hrest ih =>
    rename_i remaining group groups
    have hlater := ih fun group hgroup => hne group (List.mem_cons_of_mem _ hgroup)
    have hlength := mul_le_mul_of_nonneg_left
      (one_le_length (hne group List.mem_cons_self)) (by linarith : 0 ≤ 2 * epsilon12)
    have hround := quantizeDecimal_le_max_add (remaining - total (amountFor limits) group)
    have hleft' : max (remaining - total (amountFor limits) group) 0 ≤
        remaining - total (amountFor limits) group + epsilon12 := max_le (by linarith) (by linarith)
    have hmax : max (quantizeDecimal (remaining - total (amountFor limits) group)) 0 ≤
        remaining - total (amountFor limits) group + epsilon12 + epsilon12 / 2 :=
      max_le (by linarith) (by linarith)
    rw [List.flatten_cons, total_append, total_congr hall, List.length_append,
      max_eq_left (by linarith : 0 ≤ remaining)]
    push_cast
    linarith
  | shared hleft hmore hshared hrest ih =>
    rename_i remaining group groups
    have hlater := ih fun group hgroup => hne group (List.mem_cons_of_mem _ hgroup)
    rw [max_self, zero_add] at hlater
    have hused := (abs_le.mp hshared.used).2
    rw [List.flatten_cons, total_append, List.length_append,
      max_eq_left (by linarith : 0 ≤ remaining)]
    push_cast
    linarith

/-- All get what they ask for, or the cap is used up to rounding. -/
theorem exhausted (h : Served limits amount remaining groups) (hlimits : Nonneg limits)
    (hne : ∀ group ∈ groups, group ≠ []) :
    (∀ intent ∈ groups.flatten, amount intent = amountFor limits intent) ∨
      remaining - 2 * epsilon12 * groups.flatten.length ≤ total amount groups.flatten := by
  have heps := epsilon12_pos
  induction h with
  | nil => exact .inl fun intent hintent => absurd hintent List.not_mem_nil
  | skipped hspent hnothing hrest ih =>
    rename_i remaining group groups
    have hzero := total_nonneg fun intent hintent =>
      (bounds (Served.skipped hspent hnothing hrest) hlimits intent hintent).1
    have hlength := mul_le_mul_of_nonneg_left
      (one_le_length (hne group List.mem_cons_self)) (by linarith : 0 ≤ 2 * epsilon12)
    have hothers : 0 ≤ 2 * epsilon12 * (groups.flatten.length : ℚ) :=
      mul_nonneg (by linarith) (Nat.cast_nonneg _)
    refine .inr (le_trans ?_ hzero)
    rw [List.flatten_cons, List.length_append]
    push_cast
    linarith
  | full hleft hfits hall hrest ih =>
    rename_i remaining group groups
    rcases ih fun group hgroup => hne group (List.mem_cons_of_mem _ hgroup) with hothers | hothers
    · refine .inl fun intent hintent => ?_
      rcases List.mem_append.mp hintent with hintent | hintent
      · exact hall intent hintent
      · exact hothers intent hintent
    · have hlength := mul_le_mul_of_nonneg_left
        (one_le_length (hne group List.mem_cons_self)) (by linarith : 0 ≤ 2 * epsilon12)
      have hround := le_quantizeDecimal_add (remaining - total (amountFor limits) group)
      refine .inr ?_
      rw [List.flatten_cons, total_append, total_congr hall, List.length_append]
      push_cast
      linarith
  | shared hleft hmore hshared hrest ih =>
    rename_i remaining group groups
    have hused := (abs_le.mp hshared.used).1
    have hzero := total_nonneg fun intent hintent => (hrest.bounds hlimits intent hintent).1
    have hothers : 0 ≤ 2 * epsilon12 * (groups.flatten.length : ℚ) :=
      mul_nonneg (by linarith) (Nat.cast_nonneg _)
    refine .inr ?_
    rw [List.flatten_cons, total_append, List.length_append]
    push_cast
    linarith

theorem distance_le (h : Served limits amount remaining groups)
    (h' : Served limits amount' remaining groups') (hperm : List.Forall₂ List.Perm groups groups') :
    distance amount amount' groups.flatten ≤ 20 * epsilon12 * groups.flatten.length := by
  have heps := epsilon12_pos
  -- where nothing is left, nobody gets anything in either order
  have hempty : ∀ {groups groups' : List (List StrategySleeveIntent)},
      List.Forall₂ List.Perm groups groups' → (∀ intent ∈ groups.flatten, amount intent = 0) →
      (∀ intent ∈ groups'.flatten, amount' intent = 0) →
      distance amount amount' groups.flatten = 0 := by
    intro groups groups' hperm hzero hzero'
    refine distance_eq_zero fun intent hintent => ?_
    rw [hzero intent hintent, hzero' intent ((List.Perm.flatten_congr hperm).mem_iff.mp hintent)]
  have hbound : ∀ list : List StrategySleeveIntent, 0 ≤ 20 * epsilon12 * (list.length : ℚ) :=
    fun list => mul_nonneg (by linarith) (Nat.cast_nonneg _)
  induction h generalizing groups' with
  | nil => simp [distance]
  | skipped hspent hnothing hrest ih =>
    exact (hempty hperm ((Served.skipped hspent hnothing hrest).nothing hspent)
      (h'.nothing hspent)).le.trans (hbound _)
  | full hleft hfits hall hrest ih =>
    rename_i remaining group groups
    cases hperm with
    | cons hgroup hgroups =>
      have htotal := total_perm (f := amountFor limits) hgroup
      cases h' with
      | skipped hspent => exact absurd hspent (not_le.mpr hleft)
      | shared _ hmore => linarith
      | full _ _ hall' hrest' =>
        rw [← htotal] at hrest'
        have hfirst : distance amount amount' group = 0 := distance_eq_zero fun intent hintent =>
          (hall intent hintent).trans (hall' intent (hgroup.mem_iff.mp hintent)).symm
        have hlater := ih hrest' hgroups
        have hlength := hbound group
        rw [List.flatten_cons, distance_append, List.length_append]
        push_cast
        linarith
  | shared hleft hmore hshared hrest ih =>
    rename_i remaining group groups
    cases hperm with
    | cons hgroup hgroups =>
      have htotal := total_perm (f := amountFor limits) hgroup
      cases h' with
      | skipped hspent => exact absurd hspent (not_le.mpr hleft)
      | full _ hfits => linarith
      | shared _ _ hshared' hrest' =>
        have hfirst := hshared.distance_le hshared' hgroup
        have hlater := hempty hgroups (hrest.nothing heps.le) (hrest'.nothing heps.le)
        have hlength := hbound groups.flatten
        rw [List.flatten_cons, distance_append, List.length_append]
        push_cast
        linarith

end Served

/-! ### What the sleeves get -/

def priorityOf (sleeve : StrategySleeveIntent × AllocatorBudgetSnapshot) : ℕ :=
  hedgePriorityRank sleeve.2.hedgePriorityClass

def priorityGroups (approved : List (StrategySleeveIntent × AllocatorBudgetSnapshot)) :
    List (List StrategySleeveIntent) :=
  (Grouping.sortedGroups priorityOf approved).map fun group => group.2.map Prod.fst

variable {approved approved' : List (StrategySleeveIntent × AllocatorBudgetSnapshot)}
variable {portfolioCap : ℚ}

theorem redistributeNotionalByPriority_eq
    (approved : List (StrategySleeveIntent × AllocatorBudgetSnapshot)) (limits : List (String × ℚ))
    (portfolioCap : ℚ) : redistributeNotionalByPriority approved limits portfolioCap =
      ((priorityGroups approved).foldl (servePriority limits) (KeyedList.ofItems Prod.fst
        (approved.map fun sleeve => (sleeve.1.strategySleeveId, (0 : ℚ))), portfolioCap)).1 := by
  unfold priorityGroups
  rw [List.foldl_map]
  rfl

theorem perm_flatten_priorityGroups
    (approved : List (StrategySleeveIntent × AllocatorBudgetSnapshot)) :
    (priorityGroups approved).flatten.Perm (approved.map Prod.fst) := by
  have hflatten : (priorityGroups approved).flatten =
      ((Grouping.sortedGroups priorityOf approved).flatMap Prod.snd).map Prod.fst := by
    rw [List.map_flatMap]
    rfl
  rw [hflatten]
  exact (Grouping.perm_flatMap_sortedGroups priorityOf approved).map Prod.fst

theorem ne_nil_of_mem_priorityGroups (h : group ∈ priorityGroups approved) : group ≠ [] := by
  obtain ⟨entry, hentry, rfl⟩ := List.mem_map.mp h
  rw [ne_eq, List.map_eq_nil_iff]
  exact (Grouping.mem_sortedGroups.mp hentry).2

theorem rel_of_pairwise_priorityGroups {r : List StrategySleeveIntent → List StrategySleeveIntent → Prop}
    (h : (priorityGroups approved).Pairwise r)
    {sleeve other : StrategySleeveIntent × AllocatorBudgetSnapshot} (hsleeve : sleeve ∈ approved)
    (hother : other ∈ approved) (hless : priorityOf sleeve < priorityOf other) :
    ∃ group later, sleeve.1 ∈ group ∧ other.1 ∈ later ∧ r group later := by
  have hsorted := Grouping.pairwise_sortedGroups priorityOf approved
  have hrelated : (Grouping.sortedGroups priorityOf approved).Pairwise fun a b =>
      a.1 < b.1 → r (a.2.map Prod.fst) (b.2.map Prod.fst) := by
    refine (List.pairwise_map.mp h).imp ?_
    exact fun hr _ => hr
  have hall : ∀ ⦃a⦄, a ∈ Grouping.sortedGroups priorityOf approved →
      ∀ ⦃b⦄, b ∈ Grouping.sortedGroups priorityOf approved → a.1 < b.1 →
        r (a.2.map Prod.fst) (b.2.map Prod.fst) :=
    List.Pairwise.forall_of_forall_of_flip (fun a _ hself => absurd hself (lt_irrefl _))
      hrelated (hsorted.imp fun hab hba => absurd hab hba.not_gt)
  have hgroup : ∀ {item : StrategySleeveIntent × AllocatorBudgetSnapshot}, item ∈ approved →
      (priorityOf item, approved.filter (priorityOf · = priorityOf item)) ∈
          Grouping.sortedGroups priorityOf approved ∧
        item ∈ approved.filter (priorityOf · = priorityOf item) := by
    intro item hitem
    have hmem : item ∈ approved.filter (priorityOf · = priorityOf item) :=
      List.mem_filter.mpr ⟨hitem, decide_eq_true rfl⟩
    exact ⟨Grouping.mem_sortedGroups.mpr ⟨rfl, List.ne_nil_of_mem hmem⟩, hmem⟩
  exact ⟨_, _, List.mem_map_of_mem (hgroup hsleeve).2, List.mem_map_of_mem (hgroup hother).2,
    hall (hgroup hsleeve).1 (hgroup hother).1 hless⟩

theorem served_redistribute (hlimits : Nonneg limits)
    (hids : (approved.map fun sleeve => sleeve.1.strategySleeveId).Nodup) (portfolioCap : ℚ) :
    Served limits (amountFor (redistributeNotionalByPriority approved limits portfolioCap))
      portfolioCap (priorityGroups approved) := by
  rw [redistributeNotionalByPriority_eq]
  refine served_foldl hlimits (_, portfolioCap) ?_
  rw [((perm_flatten_priorityGroups approved).map _).nodup_iff, List.map_map]
  exact hids

/-- What a cap is handed out to: nobody gets less than nothing or more than asked for, the cap is not
exceeded, the higher priorities come first, and nothing is kept back; each up to rounding. -/
structure ServedByPriority (limits : List (String × ℚ))
    (approved : List (StrategySleeveIntent × AllocatorBudgetSnapshot)) (portfolioCap : ℚ)
    (granted : List (String × ℚ)) : Prop where
  bounds : ∀ sleeve ∈ approved, 0 ≤ amountFor granted sleeve.1 ∧
    amountFor granted sleeve.1 ≤ amountFor limits sleeve.1 + epsilon12 / 2
  total_le : total (amountFor granted) (approved.map Prod.fst) ≤
    max portfolioCap 0 + 2 * epsilon12 * approved.length
  higherFirst : ∀ sleeve ∈ approved, ∀ other ∈ approved, priorityOf sleeve < priorityOf other →
    amountFor granted other.1 ≠ 0 → amountFor granted sleeve.1 = amountFor limits sleeve.1
  exhausted : (∀ sleeve ∈ approved, amountFor granted sleeve.1 = amountFor limits sleeve.1) ∨
    portfolioCap - 2 * epsilon12 * approved.length ≤
      total (amountFor granted) (approved.map Prod.fst)

theorem servedByPriority_redistribute (hlimits : Nonneg limits)
    (hids : (approved.map fun sleeve => sleeve.1.strategySleeveId).Nodup) (portfolioCap : ℚ) :
    ServedByPriority limits approved portfolioCap
      (redistributeNotionalByPriority approved limits portfolioCap) := by
  have hserved := served_redistribute hlimits hids portfolioCap
  have hperm := perm_flatten_priorityGroups approved
  have hlength : (priorityGroups approved).flatten.length = approved.length := by
    rw [hperm.length_eq, List.length_map]
  have hmem : ∀ sleeve ∈ approved, sleeve.1 ∈ (priorityGroups approved).flatten :=
    fun sleeve hsleeve => hperm.mem_iff.mpr (List.mem_map_of_mem hsleeve)
  refine ⟨fun sleeve hsleeve => hserved.bounds hlimits sleeve.1 (hmem sleeve hsleeve), ?_, ?_, ?_⟩
  · rw [← total_perm hperm, ← hlength]
    exact hserved.total_le fun group hgroup => ne_nil_of_mem_priorityGroups hgroup
  · intro sleeve hsleeve other hother hless hne
    obtain ⟨group, later, hgroup, hlater, hfirst⟩ :=
      rel_of_pairwise_priorityGroups hserved.pairwise hsleeve hother hless
    exact hfirst ⟨other.1, hlater, hne⟩ sleeve.1 hgroup
  · rw [← total_perm hperm, ← hlength]
    refine (hserved.exhausted hlimits fun group hgroup => ne_nil_of_mem_priorityGroups hgroup).imp_left
      fun hall sleeve hsleeve => hall sleeve.1 (hmem sleeve hsleeve)

def standardSleeve (sleeveId : String) (allocatorWeight : ℚ) :
    StrategySleeveIntent × AllocatorBudgetSnapshot :=
  applyBudgetAssignment
    { family := .dca, strategySleeveId := sleeveId, symbol := "BTC-USDT", productType := .spot
      marginMode := .cash, allocatorWeight }
    { symbol := "BTC-USDT", currentPositionQty := 0, targetPositionQty := 0, currentNotional := 0
      targetNotional := 0 } none

end Aats.Allocation
