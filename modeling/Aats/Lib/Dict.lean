import Mathlib.Algebra.BigOperators.Group.Finset.Basic
import Mathlib.Data.List.AList

/-!
# Rewriting, filtering and adding up a dictionary

An association list with one entry per key, as Mathlib's `AList`, with the comprehensions over
its entries that a program writes: one that rewrites the values, one that drops entries, and a
sum over all of them.

## Main definitions
* `mapValues f dict` — `{key: f(key, value) for key, value in dict.items()}`.
* `filterValues p dict` — the entries whose value satisfies `p`.
-/

namespace Dict

variable {κ α β : Type*} {key : κ}

def mapValues (f : κ → α → β) (dict : AList fun _ : κ => α) : AList fun _ : κ => β where
  entries := dict.entries.map (fun entry => ⟨entry.1, f entry.1 entry.2⟩)
  nodupKeys := by
    show ((dict.entries.map _).map Sigma.fst).Nodup
    rw [List.map_map]
    exact dict.nodupKeys

def filterValues (p : α → Bool) (dict : AList fun _ : κ => α) : AList fun _ : κ => α where
  entries := dict.entries.filter (fun entry => p entry.2)
  nodupKeys := by
    show ((dict.entries.filter _).map Sigma.fst).Nodup
    exact List.Nodup.sublist (List.Sublist.map _ List.filter_sublist) dict.nodupKeys

variable [DecidableEq κ]

theorem lookup_mapValues (f : κ → α → β) (dict : AList fun _ : κ => α) :
    (mapValues f dict).lookup key = (dict.lookup key).map (f key) :=
  List.dlookup_map₂ (f := f) key

theorem lookup_filterValues (p : α → Bool) (dict : AList fun _ : κ => α) :
    (filterValues p dict).lookup key = (dict.lookup key).filter p := by
  apply Option.ext
  intro value
  have hmem : value ∈ (filterValues p dict).lookup key ↔
      Sigma.mk key value ∈ dict.entries.filter (fun entry => p entry.2) :=
    List.mem_dlookup_iff (filterValues p dict).nodupKeys
  have hdict : value ∈ dict.lookup key ↔ Sigma.mk key value ∈ dict.entries :=
    List.mem_dlookup_iff dict.nodupKeys
  rw [Option.mem_def] at hmem hdict
  rw [hmem, List.mem_filter, ← hdict, Option.filter_eq_some_iff]

/-- The sum over all entries is the sum over any keys outside of which nothing counts. -/
theorem sum_entries {M : Type*} [AddCommMonoid M] (dict : AList fun _ : κ => α) (f : κ → α → M)
    (keys : Finset κ) (h : ∀ k value, dict.lookup k = some value → f k value ≠ 0 → k ∈ keys) :
    (dict.entries.map fun entry => f entry.1 entry.2).sum =
      ∑ k ∈ keys, ((dict.lookup k).map (f k)).getD 0 := by
  have hentry : dict.entries.map (fun entry => f entry.1 entry.2) =
      dict.keys.map (fun k => ((dict.lookup k).map (f k)).getD 0) := by
    show _ = (dict.entries.map Sigma.fst).map _
    rw [List.map_map]
    apply List.map_congr_left
    intro entry hmem
    have hlookup : dict.lookup entry.1 = some entry.2 := AList.mem_lookup_iff.mpr hmem
    rw [Function.comp_apply, hlookup]
    rfl
  have hnodup : dict.keys.Nodup := dict.nodupKeys
  rw [hentry, ← List.sum_toFinset _ hnodup]
  -- a key that is in only one of the two sets contributes nothing
  rw [← Finset.sum_subset (Finset.inter_subset_left : dict.keys.toFinset ∩ keys ⊆ _),
    ← Finset.sum_subset (Finset.inter_subset_right : dict.keys.toFinset ∩ keys ⊆ _)]
  · intro k hkey hnot
    have habsent : dict.lookup k = none := by
      rw [AList.lookup_eq_none]
      intro hmem
      exact hnot (Finset.mem_inter.mpr ⟨List.mem_toFinset.mpr (AList.mem_keys.mp hmem), hkey⟩)
    rw [habsent]
    rfl
  · intro k hkey hnot
    cases hlookup : dict.lookup k with
    | none => rfl
    | some value =>
      by_contra hne
      exact hnot (Finset.mem_inter.mpr ⟨hkey, h k value hlookup hne⟩)

end Dict
