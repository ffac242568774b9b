import Mathlib.Data.List.Sort

/-!
# Sorting by a key

The stable sort of a list by a key, what it keeps of the order of its items, and what part of it a test
on the keys selects.

## Main definitions
* `sortOn key items` — `sorted(items, key=key)`.

## Main results
* `filter_sortOn` — **sorting goes with leaving out items**.
* `eq_filter_append_iff` — when a test divides a list into a beginning and the rest.
* `sortOn_eq_append` — the items whose key passes a downward closed test come first.
* `sortOn_eq_of_perm` — items with different keys are sorted in one way, however they are listed.
-/

namespace StableSort

variable {α β : Type*} [LinearOrder β] (key : α → β)

/-- The items in the order of their keys; items of one key stay in their order. -/
def sortOn (items : List α) : List α := items.insertionSort fun a b => key a ≤ key b

theorem sortOn_perm (items : List α) : (sortOn key items).Perm items :=
  List.perm_insertionSort _ _

theorem mem_sortOn {a : α} {items : List α} : a ∈ sortOn key items ↔ a ∈ items :=
  (sortOn_perm key items).mem_iff

theorem pairwise_sortOn (items : List α) :
    (sortOn key items).Pairwise fun a b => key a ≤ key b :=
  List.pairwise_insertionSort _ _

theorem filter_orderedInsert (keep : α → Bool) (a : α) {items : List α}
    (h : items.Pairwise (fun x y => key x ≤ key y)) :
    (items.orderedInsert (fun x y => key x ≤ key y) a).filter keep =
      if keep a then (items.filter keep).orderedInsert (fun x y => key x ≤ key y) a
      else items.filter keep := by
  induction items with
  | nil => by_cases ha : keep a = true <;> simp [ha]
  | cons b items ih =>
    rw [List.pairwise_cons] at h
    by_cases hab : key a ≤ key b
    · -- the item comes before all others, kept or not
      rw [List.orderedInsert_cons, if_pos hab, List.filter_cons]
      split
      · have hfirst : ∀ c ∈ (b :: items).filter keep, key a ≤ key c := by
          intro c hmem
          rcases List.mem_cons.mp (List.mem_filter.mp hmem).1 with rfl | hc
          · exact hab
          · exact hab.trans (h.1 c hc)
        cases hrest : (b :: items).filter keep with
        | nil => rfl
        | cons c rest =>
          rw [List.orderedInsert_cons, if_pos (hfirst c (by rw [hrest]; exact List.mem_cons_self))]
      · rfl
    · rw [List.orderedInsert_cons, if_neg hab, List.filter_cons, ih h.2, List.filter_cons]
      by_cases hb : keep b = true <;> by_cases ha : keep a = true <;> simp [ha, hb, hab]

theorem filter_sortOn (keep : α → Bool) (items : List α) :
    (sortOn key items).filter keep = sortOn key (items.filter keep) := by
  induction items with
  | nil => rfl
  | cons a items ih =>
    have hsorted := pairwise_sortOn key items
    unfold sortOn at hsorted ih ⊢
    rw [List.insertionSort_cons, filter_orderedInsert key keep a hsorted, ih, List.filter_cons]
    split
    · rw [List.insertionSort_cons]
    · rfl

/-- **A list in two parts by a test**: those that pass come before those that do not. -/
theorem eq_filter_append_iff {keep : α → Bool} {items : List α} :
    items = items.filter keep ++ items.filter (fun a => !keep a) ↔
      items.Pairwise fun a b => keep b = true → keep a = true := by
  constructor
  · intro h
    rw [h, List.pairwise_append]
    refine ⟨?_, ?_, fun a ha _ _ _ => (List.mem_filter.mp ha).2⟩
    · exact List.pairwise_of_forall_mem_list fun a ha _ _ _ => (List.mem_filter.mp ha).2
    · refine List.pairwise_of_forall_mem_list fun _ _ b hb hkeep => ?_
      have hnot := (List.mem_filter.mp hb).2
      rw [hkeep] at hnot
      cases hnot
  · intro h
    induction items with
    | nil => rfl
    | cons a items ih =>
      obtain ⟨hfirst, hrest⟩ := List.pairwise_cons.mp h
      by_cases ha : keep a = true
      · rw [List.filter_cons_of_pos ha, List.filter_cons_of_neg (by simp [ha]), List.cons_append,
          ← ih hrest]
      · have hnone : ∀ b ∈ items, ¬keep b = true := fun b hb hkeep => ha (hfirst b hb hkeep)
        rw [List.filter_cons_of_neg ha, List.filter_cons_of_pos (by simp [ha]),
          List.filter_eq_nil_iff.mpr hnone, List.nil_append,
          List.filter_eq_self.mpr fun b hb => by simp [hnone b hb]]

theorem sortOn_eq_append {keep : α → Bool} (items : List α)
    (hdown : ∀ a b, key a ≤ key b → keep b = true → keep a = true) :
    sortOn key items =
      sortOn key (items.filter keep) ++ sortOn key (items.filter fun a => !keep a) := by
  rw [← filter_sortOn, ← filter_sortOn]
  exact eq_filter_append_iff.mpr ((pairwise_sortOn key items).imp fun h => hdown _ _ h)

theorem pairwise_lt_sortOn {items : List α} (hkeys : (items.map key).Nodup) :
    (sortOn key items).Pairwise fun a b => key a < key b := by
  have hnodup : ((sortOn key items).map key).Nodup :=
    ((sortOn_perm key items).map _).nodup_iff.mpr hkeys
  refine ((pairwise_sortOn key items).and (List.pairwise_map.mp hnodup)).imp ?_
  rintro a b ⟨hle, hne⟩
  exact lt_of_le_of_ne hle hne

theorem sortOn_eq_of_perm {items others : List α} (h : others.Perm items)
    (hkeys : (items.map key).Nodup) : sortOn key others = sortOn key items := by
  have hothers := (h.map key).nodup_iff.mpr hkeys
  refine List.Perm.eq_of_pairwise (fun a b _ _ hab hba => absurd hba (lt_asymm hab))
    (pairwise_lt_sortOn key hothers) (pairwise_lt_sortOn key hkeys) ?_
  exact (sortOn_perm key others).trans (h.trans (sortOn_perm key items).symm)

end StableSort
