import Aats.Lib.StableSort

/-!
# Joining as of a time

The latest of some items by a key, and the pointer into the sorted items that answers increasing
queries in one pass.

## Main definitions
* `latest key keep items` — the last one, in the order of the keys, of the items that `keep` admits.
* `pointer` — a pointer moves on past the items up to a query.

## Main results
* `latest_eq_some_iff` — the latest item is the one with the greatest key.
* `sweep_eq_latest` — **before the pointer stands the latest item up to the query**.
-/

namespace AsOf

open StableSort

variable {α β : Type*} [LinearOrder β] (key : α → β)

def latest (keep : α → Bool) (items : List α) : Option α :=
  (sortOn key (items.filter keep)).getLast?

variable {key} {keep : α → Bool} {items : List α} {a : α} {t : β}

theorem latest_eq_none : latest key keep items = none ↔ ∀ b ∈ items, ¬keep b = true := by
  rw [latest, List.getLast?_eq_none_iff, ← List.length_eq_zero_iff,
    (sortOn_perm key _).length_eq, List.length_eq_zero_iff, List.filter_eq_nil_iff]

theorem of_latest (h : latest key keep items = some a) :
    a ∈ items ∧ keep a = true ∧ ∀ b ∈ items, keep b = true → key b ≤ key a := by
  obtain ⟨before, hsorted⟩ := List.getLast?_eq_some_iff.mp h
  have hmem : ∀ b, b ∈ items ∧ keep b = true ↔ b ∈ before ++ [a] := by
    intro b
    rw [← hsorted, mem_sortOn, List.mem_filter]
  have ha := (hmem a).mpr (by simp)
  refine ⟨ha.1, ha.2, fun b hb hkeep => ?_⟩
  have horder := pairwise_sortOn key (items.filter keep)
  rw [hsorted, List.pairwise_append] at horder
  rcases List.mem_append.mp ((hmem b).mp ⟨hb, hkeep⟩) with hb | hb
  · exact horder.2.2 b hb a (by simp)
  · rw [List.mem_singleton.mp hb]

/-- **The latest item** is the one with the greatest key. -/
theorem latest_eq_some_iff (hkeys : (items.map key).Nodup) :
    latest key keep items = some a ↔
      a ∈ items ∧ keep a = true ∧ ∀ b ∈ items, keep b = true → key b ≤ key a := by
  refine ⟨of_latest, fun ⟨hmem, hkeep, hgreatest⟩ => ?_⟩
  cases h : latest key keep items with
  | none => exact absurd hkeep (latest_eq_none.mp h a hmem)
  | some b =>
    obtain ⟨hb, hbkeep, hbgreatest⟩ := of_latest h
    have heq : key b = key a := le_antisymm (hgreatest b hb hbkeep) (hbgreatest a hmem hkeep)
    rw [List.inj_on_of_nodup_map hkeys hb hmem heq]

/-- Leaving out items does not change the latest one if each that is admitted has one as late among
those that stay. -/
theorem latest_congr {others : List α} (hkeys : (items.map key).Nodup)
    (hsub : ∀ b ∈ others, b ∈ items)
    (hcover : ∀ b ∈ items, keep b = true → ∃ c ∈ others, keep c = true ∧ key b ≤ key c) :
    latest key keep others = latest key keep items := by
  cases h : latest key keep others with
  | none =>
    refine (latest_eq_none.mpr fun b hb hkeep => ?_).symm
    obtain ⟨c, hc, hckeep, -⟩ := hcover b hb hkeep
    exact latest_eq_none.mp h c hc hckeep
  | some a =>
    obtain ⟨ha, hkeep, hgreatest⟩ := of_latest h
    refine ((latest_eq_some_iff hkeys).mpr ⟨hsub a ha, hkeep, fun b hb hbkeep => ?_⟩).symm
    obtain ⟨c, hc, hckeep, hle⟩ := hcover b hb hbkeep
    exact hle.trans (hgreatest c hc hckeep)

/-! ### One pass over the sorted items -/

variable (key)

/-- The number of items passed when those up to `t` at the front of `rest` are passed too. -/
def pointer (t : β) : List α → ℕ → ℕ
  | [], passed => passed
  | a :: rest, passed => if key a ≤ t then pointer t rest (passed + 1) else passed

theorem pointer_eq (t : β) (rest : List α) (passed : ℕ) :
    pointer key t rest passed = passed + (rest.takeWhile fun a => key a ≤ t).length := by
  induction rest generalizing passed with
  | nil => rfl
  | cons a rest ih =>
    unfold pointer
    by_cases ha : key a ≤ t
    · rw [if_pos ha, ih, List.takeWhile_cons_of_pos (by simpa using ha), List.length_cons]
      omega
    · rw [if_neg ha, List.takeWhile_cons_of_neg (by simpa using ha), List.length_nil, Nat.add_zero]

theorem sortOn_upTo (items : List α) (t : β) :
    sortOn key items = sortOn key (items.filter fun a => key a ≤ t) ++
      sortOn key (items.filter fun a => !decide (key a ≤ t)) := by
  refine sortOn_eq_append key items fun a b hab hb => ?_
  rw [decide_eq_true_eq] at hb ⊢
  exact hab.trans hb

/-- **Before the pointer stands the latest item up to the query**, if it has passed only items up to
the query, and it has then passed exactly these. -/
theorem sweep_eq_latest {passed : ℕ} (hlength : passed ≤ (sortOn key items).length)
    (hpassed : ∀ a ∈ (sortOn key items).take passed, key a ≤ t) :
    let next := pointer key t ((sortOn key items).drop passed) passed
    next ≤ (sortOn key items).length ∧ (∀ a ∈ (sortOn key items).take next, key a ≤ t) ∧
      (if 0 < next then (sortOn key items)[next - 1]? else none) =
        latest key (fun a => key a ≤ t) items := by
  set early := sortOn key (items.filter fun a => key a ≤ t) with hearly
  have hsplit := sortOn_upTo key items t
  rw [← hearly] at hsplit
  have hlow : ∀ a ∈ early, key a ≤ t := by
    intro a ha
    rw [hearly, mem_sortOn, List.mem_filter, decide_eq_true_eq] at ha
    exact ha.2
  have hhigh : (sortOn key (items.filter fun a => !decide (key a ≤ t))).takeWhile
      (fun a => key a ≤ t) = [] := by
    cases hlate : sortOn key (items.filter fun a => !decide (key a ≤ t)) with
    | nil => rfl
    | cons a late =>
      have hmem := (mem_sortOn key).mp (hlate ▸ List.mem_cons_self : a ∈ _)
      exact List.takeWhile_cons_of_neg (by simpa using (List.mem_filter.mp hmem).2)
  have hwhile : (sortOn key items).takeWhile (fun a => key a ≤ t) = early := by
    rw [hsplit, List.takeWhile_append_of_pos (by simpa using hlow), hhigh, List.append_nil]
  have hnext : pointer key t ((sortOn key items).drop passed) passed = early.length := by
    have hparts : early = (sortOn key items).take passed ++
        ((sortOn key items).drop passed).takeWhile fun a => key a ≤ t := by
      rw [← hwhile, ← List.takeWhile_append_of_pos (by simpa using hpassed),
        List.take_append_drop]
    rw [pointer_eq, hparts, List.length_append, List.length_take_of_le hlength]
  intro next
  have htake : (sortOn key items).take early.length = early := by
    rw [hsplit, List.take_left']
    rfl
  refine ⟨?_, ?_, ?_⟩
  · show pointer key t _ passed ≤ _
    rw [hnext, hsplit, List.length_append]
    omega
  · show ∀ a ∈ (sortOn key items).take (pointer key t _ passed), key a ≤ t
    rw [hnext, htake]
    exact hlow
  · show (if 0 < pointer key t _ passed then
      (sortOn key items)[pointer key t _ passed - 1]? else none) = early.getLast?
    rw [hnext]
    split
    · next hpos =>
      rw [List.getLast?_eq_getElem?, hsplit, List.getElem?_append_left (by omega)]
    · next hzero =>
      rw [List.eq_nil_of_length_eq_zero (Nat.eq_zero_of_not_pos hzero), List.getLast?_nil]

end AsOf
