import Mathlib.Algebra.BigOperators.Group.List.Basic
import Mathlib.Data.List.Induction
import Mathlib.Data.List.Nodup
import Mathlib.Tactic.Abel

/-!
# Lists keyed by an id

A table whose rows carry their own key: a row is looked up, replaced or inserted by it. If no key
occurs twice, an update changes a sum over the table by the difference of two rows.

## Main definitions
* `lookup key items k` — the first item under `k`.
* `replace key items new` — the items with `new` in place of those under its key.
* `upsert key items new` — `replace`, or `new` at the end if nothing is under its key.

## Main results
* `lookup_upsert` — what an update leaves under each key.
-/

namespace KeyedList

variable {α κ : Type*} [DecidableEq κ] {key : α → κ} {items : List α} {k : κ} {new old : α}

def lookup (key : α → κ) (items : List α) (k : κ) : Option α :=
  items.find? (fun item => key item = k)

def replace (key : α → κ) (items : List α) (new : α) : List α :=
  items.map (fun item => if key item = key new then new else item)

def upsert (key : α → κ) (items : List α) (new : α) : List α :=
  if (lookup key items (key new)).isSome then replace key items new else items ++ [new]

theorem key_of_lookup (h : lookup key items k = some old) : key old = k := by
  simpa using List.find?_some h

theorem mem_of_lookup (h : lookup key items k = some old) : old ∈ items :=
  List.mem_of_find?_eq_some h

theorem lookup_eq_none : lookup key items k = none ↔ ∀ item ∈ items, key item ≠ k := by
  unfold lookup
  rw [List.find?_eq_none]
  simp

theorem lookup_of_mem (hkeys : (items.map key).Nodup) (h : old ∈ items) :
    lookup key items (key old) = some old := by
  induction items with
  | nil => cases h
  | cons item items ih =>
    rw [List.map_cons, List.nodup_cons] at hkeys
    unfold lookup
    rcases List.mem_cons.mp h with rfl | h
    · exact List.find?_cons_of_pos (by simp)
    · have hne : key item ≠ key old := by
        intro heq
        exact hkeys.1 (heq ▸ List.mem_map_of_mem h)
      rw [List.find?_cons_of_neg (by simpa using hne)]
      exact ih hkeys.2 h

theorem map_replace {β : Type*} (f : α → β) (h : ∀ item ∈ items, key item = key new →
    f new = f item) : (replace key items new).map f = items.map f := by
  unfold replace
  rw [List.map_map]
  apply List.map_congr_left
  intro item hitem
  show f (if key item = key new then new else item) = f item
  split
  · next heq => exact h item hitem heq
  · rfl

theorem keys_replace : (replace key items new).map key = items.map key :=
  map_replace key (fun _ _ h => h.symm)

theorem mem_replace {item : α} (h : item ∈ replace key items new) :
    item = new ∨ (item ∈ items ∧ key item ≠ key new) := by
  obtain ⟨other, hother, heq⟩ := List.mem_map.mp h
  split at heq
  · exact .inl heq.symm
  · next hne =>
    subst heq
    exact .inr ⟨hother, hne⟩

theorem lookup_replace_self (h : (lookup key items (key new)).isSome) :
    lookup key (replace key items new) (key new) = some new := by
  obtain ⟨old, hold⟩ := Option.isSome_iff_exists.mp h
  unfold lookup replace at *
  induction items with
  | nil => cases hold
  | cons item items ih =>
    by_cases hitem : key item = key new
    · rw [List.map_cons, if_pos hitem]
      exact List.find?_cons_of_pos (by simp)
    · rw [List.find?_cons_of_neg (by simpa using hitem)] at hold h
      rw [List.map_cons, if_neg hitem, List.find?_cons_of_neg (by simpa using hitem)]
      exact ih h hold

theorem lookup_replace_ne (h : k ≠ key new) :
    lookup key (replace key items new) k = lookup key items k := by
  unfold lookup replace
  induction items with
  | nil => rfl
  | cons item items ih =>
    by_cases hitem : key item = key new
    · have hne : key item ≠ k := by
        rw [hitem]
        exact h.symm
      rw [List.map_cons, if_pos hitem, List.find?_cons_of_neg (by simpa using h.symm),
        List.find?_cons_of_neg (by simpa using hne)]
      exact ih
    · rw [List.map_cons, if_neg hitem]
      by_cases hk : key item = k
      · rw [List.find?_cons_of_pos (by simpa using hk), List.find?_cons_of_pos (by simpa using hk)]
      · rw [List.find?_cons_of_neg (by simpa using hk), List.find?_cons_of_neg (by simpa using hk)]
        exact ih

theorem replace_self (hkeys : (items.map key).Nodup) (h : old ∈ items) :
    replace key items old = items := by
  unfold replace
  conv_rhs => rw [← List.map_id items]
  apply List.map_congr_left
  intro item hitem
  split
  · next heq => exact (List.inj_on_of_nodup_map hkeys hitem h heq).symm
  · rfl

theorem lookup_append (other : List α) :
    lookup key (items ++ other) k = (lookup key items k).or (lookup key other k) :=
  List.find?_append

theorem lookup_upsert : lookup key (upsert key items new) k =
    if k = key new then some new else lookup key items k := by
  unfold upsert
  by_cases hold : (lookup key items (key new)).isSome
  · rw [if_pos hold]
    split
    · next heq =>
      rw [heq]
      exact lookup_replace_self hold
    · next hne => exact lookup_replace_ne hne
  · rw [if_neg hold, lookup_append]
    have hsingle : lookup key [new] k = if k = key new then some new else none := by
      unfold lookup
      by_cases hk : k = key new
      · simp [hk]
      · simp [hk, Ne.symm hk]
    rw [hsingle]
    split
    · next heq =>
      rw [heq, Option.not_isSome_iff_eq_none.mp hold]
      rfl
    · rw [Option.or_none]

theorem mem_upsert {item : α} :
    item ∈ upsert key items new ↔ item = new ∨ (item ∈ items ∧ key item ≠ key new) := by
  unfold upsert
  by_cases hold : (lookup key items (key new)).isSome
  · rw [if_pos hold]
    refine ⟨mem_replace, ?_⟩
    rintro (rfl | ⟨hitem, hne⟩)
    · obtain ⟨old, hold⟩ := Option.isSome_iff_exists.mp hold
      exact List.mem_map.mpr ⟨old, mem_of_lookup hold, if_pos (key_of_lookup hold)⟩
    · exact List.mem_map.mpr ⟨item, hitem, if_neg hne⟩
  · rw [if_neg hold, List.mem_append, List.mem_singleton]
    have hnone := lookup_eq_none.mp (Option.not_isSome_iff_eq_none.mp hold)
    constructor
    · rintro (hitem | rfl)
      · exact .inr ⟨hitem, hnone item hitem⟩
      · exact .inl rfl
    · rintro (rfl | ⟨hitem, -⟩)
      · exact .inr rfl
      · exact .inl hitem

theorem nodup_map_upsert {β : Type*} {f : α → β} (h : (items.map f).Nodup)
    (hold : ∀ item ∈ items, key item = key new → f new = f item)
    (hfresh : (∀ item ∈ items, key item ≠ key new) → ∀ item ∈ items, f item ≠ f new) :
    ((upsert key items new).map f).Nodup := by
  unfold upsert
  split
  · rw [map_replace f hold]
    exact h
  · next hnone =>
    rw [List.map_append, List.nodup_append]
    refine ⟨h, List.nodup_singleton _, ?_⟩
    intro value hvalue other hother heq
    obtain ⟨item, hitem, rfl⟩ := List.mem_map.mp hvalue
    rw [List.map_singleton, List.mem_singleton] at hother
    have hnew := lookup_eq_none.mp (Option.not_isSome_iff_eq_none.mp hnone)
    exact hfresh hnew item hitem (heq.trans hother)

theorem nodup_keys_upsert (h : (items.map key).Nodup) :
    ((upsert key items new).map key).Nodup :=
  nodup_map_upsert h (fun _ _ heq => heq.symm) (fun hfresh => hfresh)

/-! ### Tables of items that come one after the other -/

/-- The table that items make, a later one in place of an earlier one under its key. -/
def ofItems (key : α → κ) (items : List α) : List α := items.foldl (upsert key) []

theorem lookup_ofItems : lookup key (ofItems key items) k = lookup key items.reverse k := by
  unfold ofItems
  induction items using List.reverseRecOn with
  | nil => rfl
  | append_singleton items item ih =>
    rw [List.foldl_append, List.foldl_cons, List.foldl_nil, lookup_upsert, ih, List.reverse_append,
      List.reverse_singleton, List.singleton_append]
    unfold lookup
    rw [List.find?_cons]
    by_cases hk : k = key item
    · rw [if_pos hk, hk]
      simp
    · rw [if_neg hk]
      simp [Ne.symm hk]

theorem mem_keys_ofItems : k ∈ (ofItems key items).map key ↔ k ∈ items.map key := by
  have hlookup : ∀ table : List α, k ∈ table.map key ↔ lookup key table k ≠ none := by
    intro table
    rw [ne_eq, lookup_eq_none, List.mem_map]
    push Not
    rfl
  rw [hlookup, lookup_ofItems, ← hlookup, List.map_reverse, List.mem_reverse]

theorem ofItems_of_nodup (hkeys : (items.map key).Nodup) : ofItems key items = items := by
  unfold ofItems
  induction items using List.reverseRecOn with
  | nil => rfl
  | append_singleton items item ih =>
    rw [List.map_append, List.nodup_append] at hkeys
    have hnone : lookup key items (key item) = none := by
      apply lookup_eq_none.mpr
      intro other hother
      exact hkeys.2.2 _ (List.mem_map_of_mem hother) _ List.mem_cons_self
    rw [List.foldl_append, List.foldl_cons, List.foldl_nil, ih hkeys.1]
    unfold upsert
    rw [hnone]
    rfl

theorem ofItems_eq_nil : ofItems key items = [] ↔ items = [] := by
  constructor
  · intro h
    cases items with
    | nil => rfl
    | cons item items =>
      have hmem : key item ∈ (ofItems key (item :: items)).map key :=
        mem_keys_ofItems.mpr List.mem_cons_self
      rw [h] at hmem
      cases hmem
  · rintro rfl
    rfl

/-! ### Sums over a table -/

section Sums

variable {R : Type*} [AddCommGroup R] {f : α → R}

theorem sum_replace (hkeys : (items.map key).Nodup) (h : lookup key items (key new) = some old) :
    ((replace key items new).map f).sum = (items.map f).sum + (f new - f old) := by
  unfold lookup replace at *
  induction items with
  | nil => cases h
  | cons item items ih =>
    rw [List.map_cons, List.nodup_cons] at hkeys
    by_cases hitem : key item = key new
    · rw [List.find?_cons_of_pos (by simpa using hitem)] at h
      obtain rfl := Option.some.inj h
      -- no other item is under the key
      have hrest : items.map (fun other => if key other = key new then new else other) = items := by
        conv_rhs => rw [← List.map_id items]
        apply List.map_congr_left
        intro other hother
        rw [if_neg, id]
        intro heq
        exact hkeys.1 (hitem.trans heq.symm ▸ List.mem_map_of_mem hother)
      rw [List.map_cons, if_pos hitem, hrest, List.map_cons, List.sum_cons, List.map_cons,
        List.sum_cons]
      abel
    · rw [List.find?_cons_of_neg (by simpa using hitem)] at h
      rw [List.map_cons, if_neg hitem, List.map_cons, List.sum_cons, List.map_cons, List.sum_cons,
        ih hkeys.2 h]
      abel

theorem sum_upsert (hkeys : (items.map key).Nodup) :
    ((upsert key items new).map f).sum = (items.map f).sum +
      (f new - ((lookup key items (key new)).map f).getD 0) := by
  unfold upsert
  cases hold : lookup key items (key new) with
  | none => simp [List.map_append, List.sum_append]
  | some old =>
    rw [if_pos Option.isSome_some, sum_replace hkeys hold]
    rfl

theorem sum_filter (p : α → Bool) (items : List α) :
    ((items.filter p).map f).sum = (items.map (fun item => if p item then f item else 0)).sum := by
  induction items with
  | nil => rfl
  | cons item items ih =>
    by_cases hp : p item
    · simp [hp, ih]
    · simp [hp, ih]

theorem sum_ne (hkeys : (items.map key).Nodup) :
    (items.map (fun item => if key item = k then 0 else f item)).sum =
      (items.map f).sum - ((lookup key items k).map f).getD 0 := by
  unfold lookup
  induction items with
  | nil => simp
  | cons item items ih =>
    rw [List.map_cons, List.nodup_cons] at hkeys
    rw [List.map_cons, List.sum_cons, ih hkeys.2, List.map_cons, List.sum_cons]
    by_cases hitem : key item = k
    · -- no other item is under the key
      have hnone : items.find? (fun other => key other = k) = none := by
        apply lookup_eq_none.mpr
        intro other hother heq
        exact hkeys.1 (hitem.trans heq.symm ▸ List.mem_map_of_mem hother)
      rw [if_pos hitem, hnone, List.find?_cons_of_pos (by simpa using hitem)]
      simp
    · rw [if_neg hitem, List.find?_cons_of_neg (by simpa using hitem)]
      abel

end Sums

end KeyedList
