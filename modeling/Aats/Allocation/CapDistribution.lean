import Aats.Allocation.Budgets
import Aats.Lib.WaterFilling
import Aats.Portfolio.Rounding

/-!
# What the distribution of a cap comes to

`_weighted_cap_distribution` hands a cap out in rounds. Its shares are rounded, and a request that is
larger than its share by no more than the tolerance counts as fulfilled, so what it hands out is not
exactly what a level of the water-filling gives, but it is near one.

## Main results
* `Handing.loop` — **the rounds end near a level of the water-filling**.
-/

namespace Aats.Allocation

open Portfolio (quantizeDecimal quantizeDecimal_of_abs_le quantizeDecimal_nonneg
  abs_quantizeDecimal_sub abs_quantizeDecimal_sub_of_lt)
open WaterFilling

/-! ### Rounding up -/

theorem quantizeDecimal_le_max_add (x : ℚ) : quantizeDecimal x ≤ max x 0 + epsilon12 / 2 := by
  rcases le_or_gt |x| epsilon12 with h | h
  · rw [quantizeDecimal_of_abs_le h]
    linarith [le_max_right x 0, epsilon12_pos]
  · have hround := (abs_le.mp (abs_quantizeDecimal_sub_of_lt h)).2
    linarith [le_max_left x 0]

theorem le_quantizeDecimal_add (x : ℚ) : x ≤ quantizeDecimal x + epsilon12 := by
  linarith [(abs_le.mp (abs_quantizeDecimal_sub x)).1]

/-! ### The amount of a sleeve -/

def amountFor (amounts : List (String × ℚ)) (intent : StrategySleeveIntent) : ℚ :=
  amountOf amounts intent.strategySleeveId

variable {limits amounts approved : List (String × ℚ)} {sleeveId other : String} {amount : ℚ}
variable {intent : StrategySleeveIntent}

theorem amountOf_setAmount : amountOf (setAmount amounts sleeveId amount) other =
    if other = sleeveId then amount else amountOf amounts other := by
  unfold amountOf setAmount
  rw [KeyedList.lookup_upsert]
  split
  · rfl
  · rfl

theorem amountOf_eq_zero (h : ∀ entry ∈ amounts, entry.2 = 0) : amountOf amounts sleeveId = 0 := by
  unfold amountOf
  cases hlookup : KeyedList.lookup Prod.fst amounts sleeveId with
  | none => rfl
  | some entry => exact h entry (KeyedList.mem_of_lookup hlookup)

theorem amountOf_map {f : ℚ → ℚ} (hzero : f 0 = 0) :
    amountOf (amounts.map fun entry => (entry.1, f entry.2)) sleeveId =
      f (amountOf amounts sleeveId) := by
  unfold amountOf KeyedList.lookup
  rw [List.find?_map]
  show (Option.map Prod.snd (Option.map _ (amounts.find? fun entry => entry.1 = sleeveId))).getD 0 = _
  cases amounts.find? fun entry => entry.1 = sleeveId with
  | none => exact hzero.symm
  | some entry => rfl

theorem keys_setAmount (h : sleeveId ∈ amounts.map Prod.fst) :
    (setAmount amounts sleeveId amount).map Prod.fst = amounts.map Prod.fst := by
  unfold setAmount KeyedList.upsert
  rw [if_pos]
  · exact KeyedList.keys_replace
  · rw [Option.isSome_iff_ne_none, ne_eq, KeyedList.lookup_eq_none]
    push Not
    obtain ⟨entry, hentry, rfl⟩ := List.mem_map.mp h
    exact ⟨entry, hentry, rfl⟩

theorem amountOf_foldl_setAmount {α : Type} {items : List α} {item : α} (key : α → String)
    (value : α → ℚ) (amounts : List (String × ℚ)) (hkeys : (items.map key).Nodup) (hitem : item ∈ items) :
    amountOf (items.foldl (fun amounts item => setAmount amounts (key item) (value item)) amounts)
      (key item) = value item := by
  induction items using List.reverseRecOn with
  | nil => exact absurd hitem List.not_mem_nil
  | append_singleton items last ih =>
    rw [List.map_append, List.nodup_append] at hkeys
    rw [List.foldl_append, List.foldl_cons, List.foldl_nil, amountOf_setAmount]
    rcases List.mem_append.mp hitem with hitem | hitem
    · rw [if_neg]
      · exact ih hkeys.1 hitem
      · exact hkeys.2.2 _ (List.mem_map_of_mem hitem) _ List.mem_cons_self
    · rw [List.mem_singleton.mp hitem, if_pos rfl]

theorem amountOf_foldl_setAmount_of_notMem {α : Type} {items : List α} {key : α → String}
    {value : α → ℚ} (h : sleeveId ∉ items.map key) :
    amountOf (items.foldl (fun amounts item => setAmount amounts (key item) (value item)) amounts)
      sleeveId = amountOf amounts sleeveId := by
  induction items using List.reverseRecOn with
  | nil => rfl
  | append_singleton items last ih =>
    rw [List.map_append, List.map_singleton, List.mem_append, List.mem_singleton, not_or] at h
    rw [List.foldl_append, List.foldl_cons, List.foldl_nil, amountOf_setAmount, if_neg h.2, ih h.1]

/-! ### Shares on top -/

def addShares (share : StrategySleeveIntent → ℚ) (pending : List StrategySleeveIntent)
    (approved : List (String × ℚ)) : List (String × ℚ) :=
  pending.foldl (fun approved intent => setAmount approved intent.strategySleeveId
    (amountOf approved intent.strategySleeveId + share intent)) approved

variable {share : StrategySleeveIntent → ℚ} {pending fulfilled kept rest sleeves :
  List StrategySleeveIntent}

theorem amountOf_addShares_of_notMem (h : sleeveId ∉ pending.map (·.strategySleeveId)) :
    amountOf (addShares share pending approved) sleeveId = amountOf approved sleeveId := by
  unfold addShares
  induction pending using List.reverseRecOn with
  | nil => rfl
  | append_singleton pending last ih =>
    rw [List.map_append, List.map_singleton, List.mem_append, List.mem_singleton, not_or] at h
    rw [List.foldl_append, List.foldl_cons, List.foldl_nil, amountOf_setAmount, if_neg h.2, ih h.1]

theorem amountFor_addShares (hids : (pending.map (·.strategySleeveId)).Nodup)
    (hintent : intent ∈ pending) :
    amountFor (addShares share pending approved) intent = amountFor approved intent + share intent := by
  induction pending using List.reverseRecOn with
  | nil => exact absurd hintent List.not_mem_nil
  | append_singleton pending last ih =>
    rw [List.map_append, List.nodup_append] at hids
    have hlast : last.strategySleeveId ∉ pending.map (·.strategySleeveId) :=
      fun hmem => hids.2.2 _ hmem _ List.mem_cons_self rfl
    unfold addShares amountFor
    rw [List.foldl_append, List.foldl_cons, List.foldl_nil, amountOf_setAmount]
    rcases List.mem_append.mp hintent with hintent | hintent
    · rw [if_neg]
      · exact ih hids.1 hintent
      · exact hids.2.2 _ (List.mem_map_of_mem hintent) _ List.mem_cons_self
    · rw [List.mem_singleton.mp hintent, if_pos rfl]
      have hbefore : amountOf (addShares share pending approved) last.strategySleeveId =
          amountOf approved last.strategySleeveId := amountOf_addShares_of_notMem hlast
      unfold addShares at hbefore
      rw [hbefore]

theorem keys_addShares (h : ∀ intent ∈ pending, intent.strategySleeveId ∈ approved.map Prod.fst) :
    (addShares share pending approved).map Prod.fst = approved.map Prod.fst := by
  unfold addShares
  induction pending using List.reverseRecOn with
  | nil => rfl
  | append_singleton pending last ih =>
    have hbefore := ih fun intent hintent => h intent (List.mem_append_left _ hintent)
    rw [List.foldl_append, List.foldl_cons, List.foldl_nil, keys_setAmount, hbefore]
    rw [hbefore]
    exact h last (List.mem_append_right _ (List.mem_singleton_self _))

/-! ### The rounds -/

theorem roundWeight_pos (limits : List (String × ℚ)) (intent : StrategySleeveIntent) :
    0 < roundWeight limits intent := epsilon12_pos.trans_le (le_max_right _ _)

/-- What a request may be more than its share to count as fulfilled: the tolerance of the test, and the
rounding of the share. -/
def slack : ℚ := 3 / 2 * epsilon12

theorem slack_pos : 0 < slack := mul_pos (by norm_num) epsilon12_pos

/-- The cap is being handed out to the sleeves: some have all that they ask for, the others nothing
yet. -/
structure Handing (limits : List (String × ℚ)) (sleeves : List StrategySleeveIntent) (cap : ℚ)
    (fulfilled pending : List StrategySleeveIntent) (approved : List (String × ℚ))
    (remaining level : ℚ) : Prop where
  filling : Filling (amountFor limits) (roundWeight limits) slack cap fulfilled pending remaining level
  perm : (fulfilled ++ pending).Perm sleeves
  full : ∀ intent ∈ fulfilled, amountFor approved intent = amountFor limits intent
  waiting : ∀ intent ∈ pending, amountFor approved intent = 0
  keys : approved.map Prod.fst = sleeves.map (·.strategySleeveId)

variable {cap remaining level totalWeight : ℚ} {round : CapRound}

theorem Handing.nodup (h : Handing limits sleeves cap fulfilled pending approved remaining level)
    (hids : (sleeves.map (·.strategySleeveId)).Nodup) :
    ((fulfilled ++ pending).map (·.strategySleeveId)).Nodup :=
  (h.perm.map _).nodup_iff.mpr hids

theorem Handing.fulfil (hids : (sleeves.map (·.strategySleeveId)).Nodup)
    (h : Handing limits sleeves cap fulfilled (kept ++ intent :: rest) approved remaining level)
    (hfits : amountFor limits intent ≤ level * roundWeight limits intent + slack) :
    Handing limits sleeves cap (fulfilled ++ [intent]) (kept ++ rest)
      (setAmount approved intent.strategySleeveId (amountFor limits intent))
      (remaining - amountFor limits intent) level := by
  have hperm : (fulfilled ++ [intent] ++ (kept ++ rest)).Perm
      (fulfilled ++ (kept ++ intent :: rest)) := by
    rw [List.append_assoc, List.singleton_append]
    exact List.Perm.append_left _ List.perm_middle.symm
  have hnodup := (hperm.map (·.strategySleeveId)).nodup_iff.mpr (h.nodup hids)
  rw [List.append_assoc, List.map_append, List.nodup_append, List.map_append, List.map_singleton,
    List.singleton_append, List.nodup_cons] at hnodup
  have hset : ∀ other : StrategySleeveIntent, other.strategySleeveId ≠ intent.strategySleeveId →
      amountFor (setAmount approved intent.strategySleeveId (amountFor limits intent)) other =
        amountFor approved other := by
    intro other hne
    rw [amountFor, amountOf_setAmount, if_neg hne, amountFor]
  refine ⟨h.filling.fulfil hfits, hperm.trans h.perm, ?_, ?_, ?_⟩
  · intro other hother
    rcases List.mem_append.mp hother with hother | hother
    · rw [hset, h.full other hother]
      exact hnodup.2.2 _ (List.mem_map_of_mem hother) _ List.mem_cons_self
    · rw [List.mem_singleton.mp hother, amountFor, amountOf_setAmount, if_pos rfl]
  · intro other hother
    rw [hset]
    · refine h.waiting other ?_
      rcases List.mem_append.mp hother with hother | hother
      · exact List.mem_append_left _ hother
      · exact List.mem_append_right _ (List.mem_cons_of_mem _ hother)
    · intro heq
      exact hnodup.2.1.1 (heq ▸ List.mem_map_of_mem hother)
  · rw [keys_setAmount, h.keys]
    rw [h.keys]
    exact List.mem_map_of_mem (h.perm.mem_iff.mp (List.mem_append_right _
      (List.mem_append_right _ List.mem_cons_self)))

theorem mem_saturated_foldl (h : sleeveId ∈ round.saturated) :
    sleeveId ∈ (rest.foldl (CapRound.saturate limits totalWeight) round).saturated := by
  induction rest generalizing round with
  | nil => exact h
  | cons intent rest ih =>
    refine ih ?_
    unfold CapRound.saturate
    extract_lets sleeveId limit proposed
    split
    · exact List.mem_append_left _ h
    · exact h

theorem fits_of_saturates (hlevel : remaining ≤ level * totalWeight) (hweight : 0 < totalWeight)
    (hnonneg : 0 ≤ level)
    (h : amountFor limits intent - epsilon12 ≤
      quantizeDecimal (remaining * roundWeight limits intent / totalWeight)) :
    amountFor limits intent ≤ level * roundWeight limits intent + slack := by
  have hpos := roundWeight_pos limits intent
  have hshare : remaining * roundWeight limits intent / totalWeight ≤
      level * roundWeight limits intent := by
    rw [div_le_iff₀ hweight]
    calc remaining * roundWeight limits intent
        ≤ level * totalWeight * roundWeight limits intent :=
          mul_le_mul_of_nonneg_right hlevel hpos.le
      _ = level * roundWeight limits intent * totalWeight := by ring
  have hround := quantizeDecimal_le_max_add (remaining * roundWeight limits intent / totalWeight)
  have hmax := max_le hshare (mul_nonneg hnonneg hpos.le)
  unfold slack
  linarith

/-- A round keeps what holds: it fulfils requests that fit, and takes out exactly their sleeves. -/
theorem Handing.foldl_saturate (round : CapRound) (hlimits : Nonneg limits)
    (hids : (sleeves.map (·.strategySleeveId)).Nodup) (hweight : 0 < totalWeight)
    (h : Handing limits sleeves cap fulfilled (kept ++ rest) round.approved round.remaining level)
    (hlevel : round.remaining ≤ level * totalWeight)
    (hout : ∀ intent ∈ kept ++ rest, intent.strategySleeveId ∉ round.saturated) :
    ∃ fulfilled', Handing limits sleeves cap fulfilled'
      ((kept ++ rest).filter fun intent => intent.strategySleeveId ∉
        (rest.foldl (CapRound.saturate limits totalWeight) round).saturated)
      (rest.foldl (CapRound.saturate limits totalWeight) round).approved
      (rest.foldl (CapRound.saturate limits totalWeight) round).remaining level := by
  induction rest generalizing kept fulfilled round with
  | nil =>
    refine ⟨fulfilled, ?_⟩
    rw [List.foldl_nil, List.filter_eq_self.mpr]
    · exact h
    · exact fun intent hintent => decide_eq_true (hout intent hintent)
  | cons intent rest ih =>
    rw [List.foldl_cons]
    have hwaiting : amountOf round.approved intent.strategySleeveId = 0 :=
      h.waiting intent (List.mem_append_right _ List.mem_cons_self)
    have hnonneg : 0 ≤ amountOf limits intent.strategySleeveId := hlimits.amountOf _
    have hunfold : CapRound.saturate limits totalWeight round intent =
        if amountFor limits intent - epsilon12 ≤
            quantizeDecimal (round.remaining * roundWeight limits intent / totalWeight) then
          { approved := setAmount round.approved intent.strategySleeveId (amountFor limits intent)
            remaining := round.remaining - amountFor limits intent
            saturated := round.saturated ++ [intent.strategySleeveId] }
        else round := by
      unfold CapRound.saturate amountFor
      simp only [hwaiting, sub_zero, zero_add, max_eq_left hnonneg]
    by_cases hfits : amountFor limits intent - epsilon12 ≤
        quantizeDecimal (round.remaining * roundWeight limits intent / totalWeight)
    · rw [hunfold, if_pos hfits]
      have hnodup := h.nodup hids
      rw [List.map_append, List.nodup_append] at hnodup
      have hrest := hnodup.2.1
      rw [List.map_append, List.nodup_append, List.map_cons, List.nodup_cons] at hrest
      set after : CapRound :=
        { approved := setAmount round.approved intent.strategySleeveId (amountFor limits intent)
          remaining := round.remaining - amountFor limits intent
          saturated := round.saturated ++ [intent.strategySleeveId] } with hafter
      have hhanding : Handing limits sleeves cap (fulfilled ++ [intent]) (kept ++ rest) after.approved
          after.remaining level :=
        h.fulfil hids (fits_of_saturates hlevel hweight h.filling.level_nonneg hfits)
      have hremaining : after.remaining ≤ level * totalWeight :=
        (sub_le_self _ hnonneg).trans hlevel
      have hstill : ∀ other ∈ kept ++ rest, other.strategySleeveId ∉ after.saturated := by
        intro other hother hmem
        rcases List.mem_append.mp hmem with hmem | hmem
        · refine hout other ?_ hmem
          rcases List.mem_append.mp hother with hother | hother
          · exact List.mem_append_left _ hother
          · exact List.mem_append_right _ (List.mem_cons_of_mem _ hother)
        · rw [List.mem_singleton] at hmem
          rcases List.mem_append.mp hother with hother | hother
          · exact hrest.2.2 _ (List.mem_map_of_mem hother) _ List.mem_cons_self hmem
          · exact hrest.2.1.1 (hmem ▸ List.mem_map_of_mem hother)
      obtain ⟨fulfilled', hfinal⟩ := ih after hhanding hremaining hstill
      refine ⟨fulfilled', ?_⟩
      -- the sleeve is out for the rest of the round
      rw [List.filter_append, List.filter_cons_of_neg, ← List.filter_append]
      · exact hfinal
      · rw [decide_eq_true_eq, not_not]
        exact mem_saturated_foldl (List.mem_append_right _ (List.mem_singleton_self _))
    · rw [hunfold, if_neg hfits]
      have hsame : kept ++ intent :: rest = kept ++ [intent] ++ rest := by
        rw [List.append_assoc, List.singleton_append]
      rw [hsame] at h hout ⊢
      exact ih round h hlevel hout

/-- A round that takes nobody out changes nothing, and no request fits into its share. -/
theorem foldl_saturate_eq_of_nil
    (h : (rest.foldl (CapRound.saturate limits totalWeight) round).saturated = []) :
    rest.foldl (CapRound.saturate limits totalWeight) round = round ∧
      ∀ intent ∈ rest, quantizeDecimal (round.remaining * roundWeight limits intent / totalWeight) <
        amountFor limits intent - amountFor round.approved intent - epsilon12 := by
  induction rest with
  | nil => exact ⟨rfl, fun intent hintent => absurd hintent List.not_mem_nil⟩
  | cons intent rest ih =>
    rw [List.foldl_cons] at h ⊢
    have hstep : CapRound.saturate limits totalWeight round intent = round ∧
        quantizeDecimal (round.remaining * roundWeight limits intent / totalWeight) <
          amountFor limits intent - amountFor round.approved intent - epsilon12 := by
      by_cases hfits : amountOf limits intent.strategySleeveId -
          amountOf round.approved intent.strategySleeveId - epsilon12 ≤
          quantizeDecimal (round.remaining * roundWeight limits intent / totalWeight)
      · have hmem : intent.strategySleeveId ∈
            (CapRound.saturate limits totalWeight round intent).saturated := by
          unfold CapRound.saturate
          rw [if_pos hfits]
          exact List.mem_append_right _ (List.mem_singleton_self _)
        have hout : intent.strategySleeveId ∈ (rest.foldl (CapRound.saturate limits totalWeight)
            (CapRound.saturate limits totalWeight round intent)).saturated := mem_saturated_foldl hmem
        rw [h] at hout
        exact absurd hout List.not_mem_nil
      · unfold CapRound.saturate
        exact ⟨if_neg hfits, not_le.mp hfits⟩
    rw [hstep.1] at h ⊢
    refine ⟨(ih h).1, ?_⟩
    intro other hother
    rcases List.mem_cons.mp hother with rfl | hother
    · exact hstep.2
    · exact (ih h).2 other hother

/-! ### The end of the rounds -/

/-- What the rounds end with, before it is rounded: nobody has more than asked for, the cap is used, and
the amounts are near a level. -/
structure Approached (limits : List (String × ℚ)) (sleeves : List StrategySleeveIntent) (cap : ℚ)
    (amounts : List (String × ℚ)) : Prop where
  keys : amounts.map Prod.fst = sleeves.map (·.strategySleeveId)
  bounds : ∀ intent ∈ sleeves,
    0 ≤ amountFor amounts intent ∧ amountFor amounts intent ≤ amountFor limits intent
  le_total : cap - epsilon12 * sleeves.length ≤ total (amountFor amounts) sleeves
  total_le : total (amountFor amounts) sleeves ≤ cap + slack * sleeves.length
  near : ∃ level, distance (amountFor amounts) (fill (amountFor limits) (roundWeight limits) level)
    sleeves ≤ 2 * slack * sleeves.length

theorem Handing.length_eq (h : Handing limits sleeves cap fulfilled pending approved remaining level) :
    (fulfilled.length + pending.length : ℚ) = sleeves.length := by
  have hlength := h.perm.length_eq
  rw [List.length_append] at hlength
  exact_mod_cast hlength

theorem Handing.remaining_lt
    (h : Handing limits sleeves cap fulfilled pending approved remaining level)
    (hcap : cap + epsilon12 < total (amountFor limits) sleeves) :
    remaining + epsilon12 < total (amountFor limits) pending := by
  have hall := total_perm (f := amountFor limits) h.perm
  rw [total_append] at hall
  linarith [h.filling.spends]

/-- The rounds end because nobody waits, or nothing remains. -/
theorem Handing.approached_of_spent (hlimits : Nonneg limits)
    (h : Handing limits sleeves cap fulfilled pending approved remaining level)
    (hcap : cap + epsilon12 < total (amountFor limits) sleeves)
    (hsleeves : (1 : ℚ) ≤ sleeves.length) (hend : pending = [] ∨ remaining ≤ epsilon12) :
    Approached limits sleeves cap approved := by
  have hlength := h.length_eq
  have hmore := h.remaining_lt hcap
  have hslack := slack_pos
  have heps := epsilon12_pos
  have hspends := h.filling.spends
  have htotal : total (amountFor approved) sleeves = cap - remaining := by
    have hzero : total (amountFor approved) pending = 0 :=
      (total_congr h.waiting).trans (by simpa using total_mul (f := fun _ => (0 : ℚ)) (c := 0))
    rw [← total_perm h.perm, total_append, total_congr h.full, hzero]
    linarith
  have hused : remaining + slack * fulfilled.length ≥ 0 := by
    have hweights : 0 ≤ total (roundWeight limits) pending :=
      total_nonneg fun intent _ => (roundWeight_pos limits intent).le
    linarith [h.filling.reach, mul_nonneg h.filling.level_nonneg hweights]
  have hwaiting : (0 : ℚ) ≤ pending.length := Nat.cast_nonneg _
  have hnear := h.filling.distance_of_spent hslack.le (fun intent _ => hlimits.amountOf _)
    (fun intent _ => (roundWeight_pos limits intent).le) h.full h.waiting
  rw [distance_perm h.perm] at hnear
  refine ⟨h.keys, ?_, ?_, ?_, level, hnear.trans ?_⟩
  · intro intent hintent
    have hlimit : 0 ≤ amountFor limits intent := hlimits.amountOf _
    rcases List.mem_append.mp (h.perm.mem_iff.mpr hintent) with hmem | hmem
    · rw [h.full intent hmem]
      exact ⟨hlimit, le_refl _⟩
    · rw [h.waiting intent hmem]
      exact ⟨le_refl _, hlimit⟩
  · have hremaining : remaining ≤ epsilon12 := by
      rcases hend with rfl | hend
      · rw [total_nil] at hmore
        linarith
      · exact hend
    have : epsilon12 * 1 ≤ epsilon12 * sleeves.length := mul_le_mul_of_nonneg_left hsleeves heps.le
    linarith
  · have : slack * fulfilled.length ≤ slack * sleeves.length :=
      mul_le_mul_of_nonneg_left (by linarith) hslack.le
    linarith
  · rw [← hlength]
    cases pending with
    | nil =>
      rw [total_nil] at hmore
      rw [List.length_nil, Nat.cast_zero, add_zero]
      linarith
    | cons intent pending =>
      have hremaining := hend.resolve_left (List.cons_ne_nil _ _)
      have hone : (1 : ℚ) ≤ (intent :: pending).length := by
        rw [List.length_cons]
        push_cast
        linarith [Nat.cast_nonneg (α := ℚ) pending.length]
      have : 2 * slack * 1 ≤ 2 * slack * (intent :: pending).length :=
        mul_le_mul_of_nonneg_left hone (by linarith)
      unfold slack at *
      linarith

/-- The rounds end because the waiting sleeves take what remains by weight, up to the tolerance. -/
theorem Handing.approached_of_shares (hlimits : Nonneg limits)
    (hids : (sleeves.map (·.strategySleeveId)).Nodup)
    (h : Handing limits sleeves cap fulfilled pending approved remaining level)
    (hweight : 0 < total (roundWeight limits) pending)
    (hshare : ∀ intent ∈ pending, 0 ≤ share intent ∧ share intent ≤ amountFor limits intent ∧
      remaining * roundWeight limits intent / total (roundWeight limits) pending ≤
        amountFor limits intent ∧
      |share intent - remaining * roundWeight limits intent / total (roundWeight limits) pending| ≤
        epsilon12) :
    Approached limits sleeves cap (addShares share pending approved) := by
  have hlength := h.length_eq
  have hslack := slack_pos
  have heps := epsilon12_pos
  have hnodup := h.nodup hids
  rw [List.map_append, List.nodup_append] at hnodup
  have hfull : ∀ intent ∈ fulfilled,
      amountFor (addShares share pending approved) intent = amountFor limits intent := by
    intro intent hintent
    rw [← h.full intent hintent]
    refine amountOf_addShares_of_notMem fun hmem => ?_
    exact hnodup.2.2 _ (List.mem_map_of_mem hintent) _ hmem rfl
  have hwaiting : ∀ intent ∈ pending,
      amountFor (addShares share pending approved) intent = share intent := by
    intro intent hintent
    rw [amountFor_addShares hnodup.2.1 hintent, h.waiting intent hintent, zero_add]
  have hnear := h.filling.distance_of_shares hslack.le
    (fun intent _ => (roundWeight_pos limits intent).le) hweight hfull
    (fun intent hintent => by
      rw [hwaiting intent hintent]
      exact ⟨(hshare intent hintent).2.2.1, (hshare intent hintent).2.2.2⟩)
  rw [distance_perm h.perm] at hnear
  have hoff : |total share pending - remaining| ≤ epsilon12 * pending.length := by
    have hsum := abs_total_sub_le share (fun intent =>
      remaining * roundWeight limits intent / total (roundWeight limits) pending) pending
    rw [total_shares hweight.ne'] at hsum
    exact hsum.trans (distance_le_mul_length fun intent hintent => (hshare intent hintent).2.2.2)
  have htotal : total (amountFor (addShares share pending approved)) sleeves =
      cap - remaining + total share pending := by
    rw [← total_perm h.perm, total_append, total_congr hfull, total_congr hwaiting]
    linarith [h.filling.spends]
  have hfulfilled : (0 : ℚ) ≤ fulfilled.length := Nat.cast_nonneg _
  have hpending : (0 : ℚ) ≤ pending.length := Nat.cast_nonneg _
  have hscale : epsilon12 * pending.length ≤ epsilon12 * sleeves.length :=
    mul_le_mul_of_nonneg_left (by linarith) heps.le
  have hless : epsilon12 * (sleeves.length : ℚ) ≤ slack * sleeves.length :=
    mul_le_mul_of_nonneg_right (by unfold slack; linarith) (by linarith)
  rw [abs_le] at hoff
  refine ⟨?_, ?_, by linarith, by linarith, _, hnear.trans ?_⟩
  · rw [keys_addShares, h.keys]
    intro intent hintent
    rw [h.keys]
    exact List.mem_map_of_mem (h.perm.mem_iff.mp (List.mem_append_right _ hintent))
  · intro intent hintent
    rcases List.mem_append.mp (h.perm.mem_iff.mpr hintent) with hmem | hmem
    · rw [hfull intent hmem]
      exact ⟨hlimits.amountOf _, le_refl _⟩
    · rw [hwaiting intent hmem]
      exact ⟨(hshare intent hmem).1, (hshare intent hmem).2.1⟩
  · have hpart : epsilon12 * pending.length ≤ 2 * slack * pending.length :=
      mul_le_mul_of_nonneg_right (by unfold slack; linarith) hpending
    calc 2 * slack * fulfilled.length + epsilon12 * pending.length
        ≤ 2 * slack * fulfilled.length + 2 * slack * pending.length := by linarith
      _ = 2 * slack * sleeves.length := by rw [← hlength]; ring

/-- What is left of a cap is worth less than every request that does not fit. -/
theorem Handing.approached_of_equalShare (hlimits : Nonneg limits)
    (hids : (sleeves.map (·.strategySleeveId)).Nodup)
    (h : Handing limits sleeves cap fulfilled pending approved remaining level)
    (hcap : cap + epsilon12 < total (amountFor limits) sleeves)
    (hpending : pending ≠ []) (hremaining : 0 ≤ remaining)
    (hsmall : total (roundWeight limits) pending ≤ epsilon12) :
    Approached limits sleeves cap (pending.foldl
      (takeEqualShare limits (quantizeDecimal (remaining / pending.length))) approved) := by
  have heps := epsilon12_pos
  have hmore := h.remaining_lt hcap
  have hweight : ∀ intent, epsilon12 ≤ roundWeight limits intent := fun _ => le_max_right _ _
  -- every weight is at least the tolerance, so only one sleeve can be left
  obtain ⟨intent, rfl⟩ : ∃ intent, pending = [intent] := by
    cases pending with
    | nil => exact absurd rfl hpending
    | cons intent rest =>
      cases rest with
      | nil => exact ⟨intent, rfl⟩
      | cons other rest =>
        rw [total_cons, total_cons] at hsmall
        have hrest : 0 ≤ total (roundWeight limits) rest :=
          total_nonneg fun intent _ => (roundWeight_pos limits intent).le
        linarith [hweight intent, hweight other]
  have hpos := roundWeight_pos limits intent
  have hone : total (roundWeight limits) [intent] = roundWeight limits intent := by simp
  rw [total_cons, total_nil, add_zero] at hmore
  refine h.approached_of_shares hlimits hids (hone ▸ hpos) ?_
  intro other hother
  rw [List.mem_singleton.mp hother, hone, mul_div_cancel_right₀ _ hpos.ne', List.length_singleton,
    Nat.cast_one, div_one]
  have hround := quantizeDecimal_le_max_add remaining
  rw [max_eq_left hremaining] at hround
  have hmin : min (amountFor limits intent) (quantizeDecimal remaining) = quantizeDecimal remaining :=
    min_eq_right (by linarith)
  show 0 ≤ min (amountFor limits intent) _ ∧ min (amountFor limits intent) _ ≤ _ ∧ _ ∧
    |min (amountFor limits intent) _ - _| ≤ _
  rw [hmin]
  exact ⟨quantizeDecimal_nonneg hremaining, by linarith, by linarith, abs_quantizeDecimal_sub _⟩

theorem Handing.loop (hlimits : Nonneg limits) (hids : (sleeves.map (·.strategySleeveId)).Nodup)
    (hcap : cap + epsilon12 < total (amountFor limits) sleeves)
    (hsleeves : (1 : ℚ) ≤ sleeves.length) {rounds : ℕ}
    (h : Handing limits sleeves cap fulfilled pending approved remaining level)
    (hrounds : pending.length ≤ rounds) :
    Approached limits sleeves cap
      (weightedCapDistributionLoop limits rounds pending approved remaining) := by
  induction rounds generalizing fulfilled pending approved remaining level with
  | zero =>
    exact h.approached_of_spent hlimits hcap hsleeves
      (.inl (List.length_eq_zero_iff.mp (Nat.le_zero.mp hrounds)))
  | succ rounds ih =>
    rw [weightedCapDistributionLoop]
    extract_lets totalWeight round
    by_cases hend : pending = [] ∨ remaining ≤ epsilon12
    · rw [if_pos hend]
      exact h.approached_of_spent hlimits hcap hsleeves hend
    rw [if_neg hend]
    rw [not_or, not_le] at hend
    have hremaining : 0 ≤ remaining := epsilon12_pos.le.trans hend.2.le
    by_cases hsmall : totalWeight ≤ epsilon12
    · rw [if_pos hsmall]
      exact h.approached_of_equalShare hlimits hids hcap hend.1 hremaining hsmall
    rw [if_neg hsmall]
    have hweight : 0 < totalWeight := epsilon12_pos.trans (not_le.mp hsmall)
    by_cases hnobody : round.saturated = []
    · rw [if_pos hnobody]
      obtain ⟨hround, hunfit⟩ := foldl_saturate_eq_of_nil hnobody
      have hsame : round = { approved, remaining } := hround
      have hshares : pending.foldl (takeShare limits totalWeight remaining) approved =
          addShares (fun intent => quantizeDecimal (remaining * roundWeight limits intent /
            totalWeight)) pending approved := rfl
      rw [hsame, hshares]
      refine h.approached_of_shares hlimits hids hweight ?_
      intro intent hintent
      have hless := hunfit intent hintent
      have hshare : 0 ≤ remaining * roundWeight limits intent / totalWeight :=
        div_nonneg (mul_nonneg hremaining (roundWeight_pos limits intent).le) hweight.le
      have hzero : amountFor approved intent = 0 := h.waiting intent hintent
      simp only [hzero] at hless
      have hnear := le_quantizeDecimal_add (remaining * roundWeight limits intent / totalWeight)
      exact ⟨quantizeDecimal_nonneg hshare, by linarith [epsilon12_pos], hnear.trans (by linarith),
        abs_quantizeDecimal_sub _⟩
    · rw [if_neg hnobody]
      have hraised := h.filling.raise slack_pos.le
        (fun intent _ => (roundWeight_pos limits intent).le) hweight
      have hhanding : Handing limits sleeves cap fulfilled ([] ++ pending) approved remaining
          (max level (remaining / totalWeight)) := ⟨hraised, h.perm, h.full, h.waiting, h.keys⟩
      have hlevel : remaining ≤ max level (remaining / totalWeight) * totalWeight := by
        rw [← div_le_iff₀ hweight]
        exact le_max_right _ _
      obtain ⟨fulfilled', hafter⟩ := Handing.foldl_saturate { approved, remaining } hlimits hids
        hweight hhanding hlevel (fun _ _ => List.not_mem_nil)
      exact ih hafter (Nat.le_of_lt_succ ((length_filter_saturated_lt hnobody).trans_le hrounds))

/-! ### The amounts, rounded -/

/-- A cap is shared by weight, up to rounding: nobody has more than asked for, the cap is used, and the
amounts are near a level. -/
structure CapShared (limits : List (String × ℚ)) (sleeves : List StrategySleeveIntent) (cap : ℚ)
    (amount : StrategySleeveIntent → ℚ) : Prop where
  bounds : ∀ intent ∈ sleeves, 0 ≤ amount intent ∧
    amount intent ≤ amountFor limits intent + epsilon12 / 2
  used : |total amount sleeves - cap| ≤ 2 * epsilon12 * sleeves.length
  near : ∃ level, distance amount (fill (amountFor limits) (roundWeight limits) level) sleeves ≤
    4 * epsilon12 * sleeves.length

theorem capShared_weightedCapDistribution (hlimits : Nonneg limits)
    (hids : (sleeves.map (·.strategySleeveId)).Nodup) (hcap : 0 ≤ cap)
    (hmore : cap + epsilon12 < total (amountFor limits) sleeves) :
    (weightedCapDistribution sleeves limits cap).map Prod.fst =
        sleeves.map (·.strategySleeveId) ∧
      CapShared limits sleeves cap (amountFor (weightedCapDistribution sleeves limits cap)) := by
  have heps := epsilon12_pos
  have hsleeves : (1 : ℚ) ≤ sleeves.length := by
    cases sleeves with
    | nil =>
      rw [total_nil] at hmore
      linarith
    | cons intent sleeves =>
      rw [List.length_cons]
      push_cast
      linarith [Nat.cast_nonneg (α := ℚ) sleeves.length]
  have hkeys : (sleeves.map fun intent => (intent.strategySleeveId, (0 : ℚ))).map Prod.fst =
      sleeves.map (·.strategySleeveId) := by
    rw [List.map_map]
    rfl
  have hstart : Handing limits sleeves cap [] sleeves
      (sleeves.map fun intent => (intent.strategySleeveId, 0)) cap 0 := by
    refine ⟨Filling.start hcap, List.Perm.refl _, fun intent hintent => absurd hintent
      List.not_mem_nil, fun intent _ => amountOf_eq_zero fun entry hentry => ?_, hkeys⟩
    obtain ⟨other, -, rfl⟩ := List.mem_map.mp hentry
    rfl
  have hend := hstart.loop hlimits hids hmore hsleeves (le_refl sleeves.length)
  have hdistribution : weightedCapDistribution sleeves limits cap =
      (weightedCapDistributionLoop limits sleeves.length sleeves
        (sleeves.map fun intent => (intent.strategySleeveId, 0)) cap).map fun entry =>
          (entry.1, quantizeDecimal (max entry.2 0)) := by
    unfold weightedCapDistribution
    rw [KeyedList.ofItems_of_nodup hids, KeyedList.ofItems_of_nodup (hkeys ▸ hids)]
  set reached := weightedCapDistributionLoop limits sleeves.length sleeves
    (sleeves.map fun intent => (intent.strategySleeveId, 0)) cap with hreached
  have hamount : ∀ intent ∈ sleeves, amountFor (weightedCapDistribution sleeves limits cap) intent =
      quantizeDecimal (amountFor reached intent) := by
    intro intent hintent
    rw [amountFor, hdistribution, amountOf_map (f := fun x => quantizeDecimal (max x 0))
      (quantizeDecimal_of_abs_le (by simpa using heps.le))]
    show quantizeDecimal (max (amountFor reached intent) 0) = _
    rw [max_eq_left (hend.bounds intent hintent).1]
  have hround : distance (amountFor (weightedCapDistribution sleeves limits cap)) (amountFor reached)
      sleeves ≤ epsilon12 * sleeves.length := by
    refine distance_le_mul_length fun intent hintent => ?_
    rw [hamount intent hintent]
    exact abs_quantizeDecimal_sub _
  have hup : ∀ intent ∈ sleeves, amountFor (weightedCapDistribution sleeves limits cap) intent ≤
      amountFor reached intent + epsilon12 / 2 := by
    intro intent hintent
    have hbound := quantizeDecimal_le_max_add (amountFor reached intent)
    rwa [max_eq_left (hend.bounds intent hintent).1, ← hamount intent hintent] at hbound
  refine ⟨?_, ?_, ?_, ?_⟩
  · rw [hdistribution, List.map_map, ← hend.keys]
    rfl
  · intro intent hintent
    constructor
    · rw [hamount intent hintent]
      exact quantizeDecimal_nonneg (hend.bounds intent hintent).1
    · linarith [hup intent hintent, (hend.bounds intent hintent).2]
  · have hlow := (abs_le.mp (abs_total_sub_le (amountFor (weightedCapDistribution sleeves limits cap))
      (amountFor reached) sleeves)).1
    have hhigh : total (amountFor (weightedCapDistribution sleeves limits cap)) sleeves ≤
        total (amountFor reached) sleeves + epsilon12 / 2 * sleeves.length := by
      refine (total_le hup).trans ?_
      have hhalf : total (fun _ => epsilon12 / 2) sleeves ≤ epsilon12 / 2 * sleeves.length :=
        total_le_mul_length fun _ _ => le_refl _
      rw [total_add]
      linarith
    have htop := hend.total_le
    unfold slack at htop
    rw [abs_le]
    constructor
    · linarith [hend.le_total]
    · linarith
  · obtain ⟨level, hnear⟩ := hend.near
    refine ⟨level, (distance_triangle _ (amountFor reached) _ _).trans ?_⟩
    unfold slack at hnear
    linarith

/-- **Two orders of the same sleeves** give nearly the same amounts. -/
theorem CapShared.distance_le {amount amount' : StrategySleeveIntent → ℚ}
    {sleeves' : List StrategySleeveIntent} (h : CapShared limits sleeves cap amount)
    (h' : CapShared limits sleeves' cap amount') (hperm : sleeves.Perm sleeves') :
    distance amount amount' sleeves ≤ 20 * epsilon12 * sleeves.length := by
  obtain ⟨level, hnear⟩ := h.near
  obtain ⟨level', hnear'⟩ := h'.near
  have hused' := h'.used
  rw [← distance_perm hperm, ← hperm.length_eq] at hnear'
  rw [← total_perm hperm, ← hperm.length_eq] at hused'
  have hdistance := distance_le_of_near_fill
    (fun intent _ => (roundWeight_pos limits intent).le) hnear hnear' h.used hused'
  linarith

end Aats.Allocation
