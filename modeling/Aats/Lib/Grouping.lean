import Mathlib.Data.List.Induction
import Mathlib.Data.List.Sort

/-!
# Items grouped by a key

`groups.setdefault(key(item), []).append(item)` over a list of items: the groups in the order in
which their keys come up first, and in each group the items in their own order.

## Main results
* `nodup_keys_groupBy`, `mem_groupBy` — **one group for each key that occurs, with all its items**.
-/

namespace Grouping

variable {α κ : Type*} [DecidableEq κ]

/-- `groups.setdefault(key, []).append(item)`. -/
def appendTo (k : κ) (item : α) : List (κ × List α) → List (κ × List α)
  | [] => [(k, [item])]
  | (other, items) :: groups =>
    if other = k then (other, items ++ [item]) :: groups
    else (other, items) :: appendTo k item groups

def groupBy (key : α → κ) (items : List α) : List (κ × List α) :=
  items.foldl (fun groups item => appendTo (key item) item groups) []

variable {k k' : κ} {item : α} {groups : List (κ × List α)} {group : List α}

theorem mem_keys_appendTo :
    k' ∈ (appendTo k item groups).map Prod.fst ↔ k' ∈ groups.map Prod.fst ∨ k' = k := by
  induction groups with
  | nil => simp [appendTo]
  | cons head groups ih =>
    rw [appendTo]
    split
    next h =>
      rw [List.map_cons, List.map_cons]
      refine (or_iff_left_of_imp ?_).symm
      rintro rfl
      exact h ▸ List.mem_cons_self
    next => rw [List.map_cons, List.mem_cons, ih, List.map_cons, List.mem_cons, or_assoc]

theorem nodup_keys_appendTo (h : (groups.map Prod.fst).Nodup) :
    ((appendTo k item groups).map Prod.fst).Nodup := by
  induction groups with
  | nil => simp [appendTo]
  | cons head groups ih =>
    rw [List.map_cons, List.nodup_cons] at h
    rw [appendTo]
    split
    next => rwa [List.map_cons, List.nodup_cons]
    next hne =>
      rw [List.map_cons, List.nodup_cons, mem_keys_appendTo, not_or]
      exact ⟨⟨h.1, hne⟩, ih h.2⟩

theorem mem_appendTo (hkeys : (groups.map Prod.fst).Nodup) :
    (k', group) ∈ appendTo k item groups ↔
      (k' ≠ k ∧ (k', group) ∈ groups) ∨
      (k' = k ∧ ((k ∉ groups.map Prod.fst ∧ group = [item]) ∨
        ∃ items, (k, items) ∈ groups ∧ group = items ++ [item])) := by
  induction groups with
  | nil =>
    rw [appendTo, List.mem_singleton, Prod.mk.injEq]
    simp
  | cons head groups ih =>
    obtain ⟨other, items⟩ := head
    rw [List.map_cons, List.nodup_cons] at hkeys
    rw [appendTo]
    by_cases hother : other = k
    · subst hother
      rw [if_pos rfl, List.mem_cons, Prod.mk.injEq]
      constructor
      · rintro (⟨rfl, rfl⟩ | hmem)
        · exact .inr ⟨rfl, .inr ⟨items, List.mem_cons_self, rfl⟩⟩
        · refine .inl ⟨?_, List.mem_cons_of_mem _ hmem⟩
          rintro rfl
          exact hkeys.1 (List.mem_map.mpr ⟨_, hmem, rfl⟩)
      · rintro (⟨hne, hmem⟩ | ⟨rfl, ⟨hno, -⟩ | ⟨old, hmem, rfl⟩⟩)
        · rcases List.mem_cons.mp hmem with hmem | hmem
          · exact absurd (Prod.ext_iff.mp hmem).1 hne
          · exact .inr hmem
        · exact absurd List.mem_cons_self hno
        · rcases List.mem_cons.mp hmem with hmem | hmem
          · obtain ⟨-, rfl⟩ := Prod.mk.inj hmem
            exact .inl ⟨rfl, rfl⟩
          · exact absurd (List.mem_map.mpr ⟨_, hmem, rfl⟩) hkeys.1
    · rw [if_neg hother, List.mem_cons, ih hkeys.2, List.map_cons]
      simp only [List.mem_cons, Prod.mk.injEq, not_or]
      constructor
      · rintro (⟨rfl, rfl⟩ | ⟨hne, hmem⟩ | ⟨rfl, hgroup⟩)
        · exact .inl ⟨hother, .inl ⟨rfl, rfl⟩⟩
        · exact .inl ⟨hne, .inr hmem⟩
        · refine .inr ⟨rfl, hgroup.imp ?_ ?_⟩
          · exact fun h => ⟨⟨Ne.symm hother, h.1⟩, h.2⟩
          · rintro ⟨old, hmem, rfl⟩
            exact ⟨old, .inr hmem, rfl⟩
      · rintro (⟨hne, ⟨rfl, rfl⟩ | hmem⟩ | ⟨rfl, ⟨⟨-, hno⟩, rfl⟩ | ⟨old, ⟨rfl, -⟩ | hmem, rfl⟩⟩)
        · exact .inl ⟨rfl, rfl⟩
        · exact .inr (.inl ⟨hne, hmem⟩)
        · exact .inr (.inr ⟨rfl, .inl ⟨hno, rfl⟩⟩)
        · exact absurd rfl hother
        · exact .inr (.inr ⟨rfl, .inr ⟨old, hmem, rfl⟩⟩)

variable {key : α → κ} {items : List α}

theorem groupBy_concat (items : List α) (item : α) :
    groupBy key (items ++ [item]) = appendTo (key item) item (groupBy key items) := by
  rw [groupBy, List.foldl_append]
  rfl

theorem nodup_keys_groupBy (key : α → κ) (items : List α) :
    ((groupBy key items).map Prod.fst).Nodup := by
  induction items using List.reverseRecOn with
  | nil => exact List.nodup_nil
  | append_singleton items item ih =>
    rw [groupBy_concat]
    exact nodup_keys_appendTo ih

theorem mem_keys_groupBy : k ∈ (groupBy key items).map Prod.fst ↔ ∃ item ∈ items, key item = k := by
  induction items using List.reverseRecOn with
  | nil => simp [groupBy]
  | append_singleton items item ih =>
    rw [groupBy_concat, mem_keys_appendTo, ih]
    simp only [List.mem_append, List.mem_singleton, or_and_right, exists_or, exists_eq_left]
    exact or_congr_right eq_comm

theorem mem_groupBy : (k, group) ∈ groupBy key items ↔
    group = items.filter (key · = k) ∧ group ≠ [] := by
  induction items using List.reverseRecOn generalizing group with
  | nil =>
    refine iff_of_false List.not_mem_nil ?_
    rintro ⟨rfl, hne⟩
    exact hne rfl
  | append_singleton items item ih =>
    rw [groupBy_concat, mem_appendTo (nodup_keys_groupBy key items), mem_keys_groupBy,
      List.filter_append, List.filter_cons, List.filter_nil]
    by_cases hk : key item = k
    · subst hk
      simp only [ne_eq, not_true_eq_false, false_and, true_and, false_or, decide_true, if_true,
        not_exists, not_and, ih]
      constructor
      · rintro (⟨hno, rfl⟩ | ⟨old, ⟨rfl, -⟩, rfl⟩)
        · have hnil : items.filter (key · = key item) = [] := by
            rw [List.filter_eq_nil_iff]
            exact fun other hmem => by rw [decide_eq_true_iff]; exact hno other hmem
          rw [hnil]
          exact ⟨rfl, List.cons_ne_nil _ _⟩
        · exact ⟨rfl, List.append_ne_nil_of_right_ne_nil _ (List.cons_ne_nil _ _)⟩
      · rintro ⟨rfl, -⟩
        by_cases hnil : items.filter (key · = key item) = []
        · rw [hnil]
          refine .inl ⟨fun other hmem heq => ?_, rfl⟩
          exact absurd (decide_eq_true heq) (List.filter_eq_nil_iff.mp hnil other hmem)
        · exact .inr ⟨_, ⟨rfl, hnil⟩, rfl⟩
    · rw [decide_eq_false hk]
      simp only [Bool.false_eq_true, if_false, List.append_nil, ih, Ne.symm hk, false_and, or_false,
        ne_eq, not_false_eq_true, true_and]

theorem perm_flatMap_appendTo : ((appendTo k item groups).flatMap Prod.snd).Perm
    (item :: groups.flatMap Prod.snd) := by
  induction groups with
  | nil => exact List.Perm.refl _
  | cons head groups ih =>
    rw [appendTo]
    split
    next =>
      rw [List.flatMap_cons, List.flatMap_cons, List.append_assoc, List.singleton_append]
      exact List.perm_middle
    next =>
      rw [List.flatMap_cons, List.flatMap_cons]
      exact (ih.append_left _).trans List.perm_middle

theorem perm_flatMap_groupBy (key : α → κ) (items : List α) :
    ((groupBy key items).flatMap Prod.snd).Perm items := by
  induction items using List.reverseRecOn with
  | nil => exact List.Perm.refl _
  | append_singleton items item ih =>
    rw [groupBy_concat]
    exact (perm_flatMap_appendTo.trans (ih.cons item)).trans (List.perm_append_singleton _ _).symm

/-! ### Groups in the order of their keys -/

section Sorted

variable [LinearOrder κ]

def sortedGroups (key : α → κ) (items : List α) : List (κ × List α) :=
  (groupBy key items).insertionSort fun a b => a.1 ≤ b.1

theorem perm_sortedGroups (key : α → κ) (items : List α) :
    (sortedGroups key items).Perm (groupBy key items) := List.perm_insertionSort _ _

theorem perm_flatMap_sortedGroups (key : α → κ) (items : List α) :
    ((sortedGroups key items).flatMap Prod.snd).Perm items :=
  ((perm_sortedGroups key items).flatMap_right _).trans (perm_flatMap_groupBy key items)

theorem mem_sortedGroups : (k, group) ∈ sortedGroups key items ↔
    group = items.filter (key · = k) ∧ group ≠ [] := by
  rw [(perm_sortedGroups key items).mem_iff, mem_groupBy]

theorem pairwise_sortedGroups (key : α → κ) (items : List α) :
    (sortedGroups key items).Pairwise fun a b => a.1 < b.1 := by
  have hsorted := List.pairwise_insertionSort (fun a b : κ × List α => a.1 ≤ b.1)
    (groupBy key items)
  have hnodup : ((sortedGroups key items).map Prod.fst).Nodup :=
    ((perm_sortedGroups key items).map _).nodup_iff.mpr (nodup_keys_groupBy key items)
  rw [List.Nodup, List.pairwise_map] at hnodup
  exact (hsorted.and hnodup).imp fun h => lt_of_le_of_ne h.1 h.2

theorem sortedGroups_eq_map (key : α → κ) (items : List α) : sortedGroups key items =
    ((sortedGroups key items).map Prod.fst).map fun k => (k, items.filter (key · = k)) := by
  rw [List.map_map]
  conv_lhs => rw [← List.map_id (sortedGroups key items)]
  refine List.map_congr_left fun entry hentry => ?_
  exact Prod.ext rfl (mem_sortedGroups.mp hentry).1

theorem forall₂_sortedGroups {others : List α} (h : items.Perm others) :
    List.Forall₂ (fun a b => a.1 = b.1 ∧ a.2.Perm b.2) (sortedGroups key items)
      (sortedGroups key others) := by
  have hkeys : (sortedGroups key items).map Prod.fst = (sortedGroups key others).map Prod.fst := by
    have hless : ∀ list : List α, ((sortedGroups key list).map Prod.fst).Pairwise (· < ·) :=
      fun list => List.pairwise_map.mpr (pairwise_sortedGroups key list)
    have hmem : ∀ (list : List α) (k : κ), k ∈ (sortedGroups key list).map Prod.fst ↔
        ∃ item ∈ list, key item = k := by
      intro list k
      rw [((perm_sortedGroups key list).map _).mem_iff, mem_keys_groupBy]
    refine List.Perm.eq_of_pairwise (fun a b _ _ hab hba => absurd hab hba.not_gt) (hless items)
      (hless others) ((List.perm_ext_iff_of_nodup ((hless items).imp ne_of_lt)
        ((hless others).imp ne_of_lt)).mpr fun k => ?_)
    rw [hmem, hmem]
    exact exists_congr fun item => and_congr_left fun _ => h.mem_iff
  rw [sortedGroups_eq_map key items, sortedGroups_eq_map key others, hkeys,
    List.forall₂_map_left_iff, List.forall₂_map_right_iff, List.forall₂_same]
  exact fun k _ => ⟨rfl, h.filter _⟩

end Sorted

end Grouping
