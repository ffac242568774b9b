import Aats.FillOrdering
import Aats.Lib.KWayMerge
import Aats.Lib.KeyedList
import Aats.Lib.LastWindow
import Aats.Lib.Runs

/-!
# The cache of fills

`services/execution_engine/fill_event_cache.py`: a process keeps the recent fills at hand. On
start it loads them from the repository, marks itself as verified and then subscribes to the bus;
from there on it holds what arrives and puts out what it has held longest. Its capacity is counted
in fills, and a fill that it holds is not taken again.

The cache is loaded in the order of processing but fed in the order of arrival. So it has the
recent history only as long as what it puts out is also the first in the order of processing, and
as long as nothing is published between the load and the subscription.

## Main definitions
* `FillEventHotCache` — the cache; `applyLocally`, `reconcileBootstrapTruth`, `fillsForScopeSync`.
* `keepsRecent` — a load of the last fills, no publication that the cache misses, no eviction of a
  later fill.

## Main results
* `fill_cache_holds_recent` — **the cache has the last fills** in runs of such steps.
-/

namespace Aats.Execution

open KeyedList LastWindow Runs

/-! ### The cache -/

/-- A `FillEventHotCache`; its fills in the order in which they were put in. -/
structure FillEventHotCache where
  fills : List FillRecord := []
  bootstrapped : Bool := false
  subscribed : Bool := false
  truthVerified : Bool := false
  /-- What is still to be deleted from the store of the other processes. -/
  pendingEvictions : List String := []
  deriving DecidableEq

def maxPendingEvictions : ℕ := 500

/-- `_apply_locally`: what it holds over its capacity is put out from the front. -/
def FillEventHotCache.applyLocally (capacity : ℕ) (cache : FillEventHotCache) (fill : FillRecord) :
    FillEventHotCache × Bool :=
  if (lookup (fun held : FillRecord => held.fillId) cache.fills fill.fillId).isSome then
    (cache, false)
  else
    let fills := cache.fills ++ [fill]
    let evicted := fills.take (fills.length - capacity)
    ({ cache with
        fills := fills.drop (fills.length - capacity)
        pendingEvictions := lastN maxPendingEvictions
          (cache.pendingEvictions ++ evicted.map fun fill => fill.fillId) }, true)

/-- The slice `[-capacity:]` of the fills in the order of processing. -/
def recentFills (capacity : ℕ) (fills : List FillRecord) : List FillRecord :=
  if capacity = 0 then sortedFills fills else lastN capacity (sortedFills fills)

/-- `_reconcile_bootstrap_truth` with what the loader has returned. -/
def FillEventHotCache.reconcileBootstrapTruth (capacity : ℕ) (cache : FillEventHotCache)
    (truthRows : List FillRecord) : FillEventHotCache :=
  { cache with
    fills := ofItems (fun fill => fill.fillId) (recentFills capacity truthRows)
    pendingEvictions := []
    truthVerified := true }

def scopedFills (inScope : FillRecord → Bool) (since : Option Timestamp)
    (fills : List FillRecord) : List FillRecord :=
  match since with
  | none => fills.filter inScope
  | some since => (fills.filter inScope).filter fun fill => since ≤ fill.ingestionTimestamp

/-- `fills_for_scope_sync`; with `none` the caller reads the repository. -/
def FillEventHotCache.fillsForScopeSync (cache : FillEventHotCache) (inScope : FillRecord → Bool)
    (since : Option Timestamp) : Option (List FillRecord) :=
  if cache.bootstrapped = false ∨ cache.truthVerified = false then none
  else some (sortedFills (scopedFills inScope since cache.fills))

/-! ### The repository, the bus and the start of a cache -/

/-- How far `bootstrap` is. -/
inductive BootstrapPlace
  /-- The fills of the store of the other processes are read. -/
  | hydrating
  /-- The loader reads the repository in a thread. -/
  | loading
  | loaded (truthRows : List FillRecord)
  | subscribing
  | done
  deriving DecidableEq

/-- The fills that were saved and published in a run, the deliveries that are owed to the cache and
those that have happened, and the cache. -/
structure FillWorld where
  repository : List FillRecord := []
  published : List FillRecord := []
  owed : List FillRecord := []
  received : List FillRecord := []
  place : BootstrapPlace := .hydrating
  /-- The repository when the loader read it. -/
  atLoad : Option (List FillRecord) := none
  /-- What was applied to the cache since it was loaded. -/
  applied : List FillRecord := []
  cache : FillEventHotCache := {}

inductive FillLabel
  | save (fill : FillRecord)
  | publish (fill : FillRecord)
  /-- `_handle_remote_event`. -/
  | deliver (fill : FillRecord)
  /-- `publish` or `fire_and_forget_publish` in the process of the cache, after the fill is saved. -/
  | publishLocally (fill : FillRecord)
  /-- `_best_effort_redis_delete_evicted`, later on in such a publication. -/
  | deleteEvicted
  /-- The store has answered; if it has failed, with nothing. -/
  | hydrate (raws : List FillRecord)
  | noTruthLoader
  | loadTruth (truthRows : List FillRecord)
  | truthFailed
  | reconcile
  | subscribe
  | subscribeFailed

def FillWorld.apply (capacity : ℕ) (world : FillWorld) (fill : FillRecord) : FillWorld :=
  { world with
    applied := world.applied ++ [fill]
    cache := (world.cache.applyLocally capacity fill).1 }

/-- One step. A fill is saved once, published after that, and delivered, as often as the bus
likes, if the cache was subscribed at its publication. -/
def fillCacheStep (capacity : ℕ) (world : FillWorld) : FillLabel → Option FillWorld
  | .save fill =>
    if (lookup (fun saved : FillRecord => saved.fillId) world.repository fill.fillId).isSome then
      none
    else some { world with repository := world.repository ++ [fill] }
  | .publish fill =>
    if fill ∈ world.repository then
      some { world with
        published := world.published ++ [fill]
        owed := if world.cache.subscribed = true then world.owed ++ [fill] else world.owed }
    else none
  | .deliver fill =>
    if fill ∈ world.owed then
      some { world.apply capacity fill with received := world.received ++ [fill] }
    else none
  | .publishLocally fill =>
    if fill ∈ world.repository then some (world.apply capacity fill) else none
  | .deleteEvicted => some { world with cache := { world.cache with pendingEvictions := [] } }
  | .hydrate raws =>
    if world.place = .hydrating then
      some { world with
        place := .loading
        cache := { world.cache with
          fills := raws.foldl (upsert fun fill => fill.fillId) world.cache.fills } }
    else none
  | .noTruthLoader =>
    if world.place = .loading then
      some { world with
        place := .subscribing
        cache := { world.cache with bootstrapped := true } }
    else none
  | .loadTruth truthRows =>
    if world.place = .loading then
      some { world with place := .loaded truthRows, atLoad := some world.repository }
    else none
  | .truthFailed =>
    if world.place = .loading then
      some { world with
        place := .subscribing
        cache := { world.cache with truthVerified := false, bootstrapped := true } }
    else none
  | .reconcile =>
    match world.place with
    | .loaded truthRows =>
      some { world with
        place := .subscribing
        applied := []
        cache := { world.cache.reconcileBootstrapTruth capacity truthRows with
          bootstrapped := true } }
    | _ => none
  | .subscribe =>
    if world.place = .subscribing then
      some { world with place := .done, cache := { world.cache with subscribed := true } }
    else none
  | .subscribeFailed =>
    if world.place = .subscribing then some { world with place := .done } else none

/-! ### Steps that keep the recent history -/

/-- A fill that a verified cache is given is held, or finds room, or takes the place of a fill that
comes before it and before all others that are held. -/
def takesFirstPlace (capacity : ℕ) (cache : FillEventHotCache) (fill : FillRecord) : Prop :=
  cache.truthVerified = true →
    (lookup (fun held : FillRecord => held.fillId) cache.fills fill.fillId).isSome = true ∨
      cache.fills.length < capacity ∨
        ∀ first ∈ cache.fills.head?, ∀ other ∈ cache.fills.tail ++ [fill],
          fillProcessingSortKey first < fillProcessingSortKey other

/-- The loader returns the last fills, none is published between the load and the subscription but
those that were loaded, and a fill that takes the place of another takes that of the first. -/
def keepsRecent (capacity : ℕ) (world : FillWorld) : FillLabel → Prop
  | .loadTruth truthRows => recentFills capacity truthRows = recentFills capacity world.repository
  | .publish fill =>
    world.cache.subscribed = true ∨ ∀ saved ∈ world.atLoad, fill ∈ saved
  | .deliver fill | .publishLocally fill => takesFirstPlace capacity world.cache fill
  | _ => True

instance (capacity : ℕ) (cache : FillEventHotCache) (fill : FillRecord) :
    Decidable (takesFirstPlace capacity cache fill) := by
  unfold takesFirstPlace
  infer_instance

instance (capacity : ℕ) (world : FillWorld) (label : FillLabel) :
    Decidable (keepsRecent capacity world label) := by
  unfold keepsRecent
  split <;> infer_instance

/-- What is saved was published, and every delivery owed to the cache has happened. -/
def FillWorld.Settled (world : FillWorld) : Prop :=
  (∀ fill ∈ world.repository, fill ∈ world.published) ∧
    ∀ fill ∈ world.owed, fill ∈ world.received

instance FillWorld.decidableSettled (world : FillWorld) : Decidable world.Settled := by
  unfold FillWorld.Settled
  infer_instance

section Recent

variable {capacity : ℕ} {world next : FillWorld} {cache : FillEventHotCache} {fill : FillRecord}
  {fills : List FillRecord}

/-! ### The fills of the cache -/

theorem recentFills_eq (hcapacity : 0 < capacity) (fills : List FillRecord) :
    recentFills capacity fills = lastN capacity (sortedFills fills) :=
  if_neg hcapacity.ne'

theorem isLast_recentFills (hcapacity : 0 < capacity)
    (hids : (fills.map fun fill => fill.fillId).Nodup) :
    IsLast fillProcessingSortKey capacity {fill | fill ∈ fills} (recentFills capacity fills) := by
  rw [recentFills_eq hcapacity]
  exact (isLast_lastN (sortedFills_pairwise_lt hids) capacity).congr fun _ => mem_sortedFills

theorem nodup_recentFills (hids : (fills.map fun fill => fill.fillId).Nodup) :
    ((recentFills capacity fills).map fun fill => fill.fillId).Nodup := by
  have hsorted : ((sortedFills fills).map fun fill => fill.fillId).Nodup :=
    ((sortedFills_perm fills).map _).nodup_iff.mpr hids
  unfold recentFills
  split
  · exact hsorted
  · exact hsorted.sublist ((List.drop_sublist _ _).map _)

@[simp] theorem applyLocally_subscribed (cache : FillEventHotCache) (fill : FillRecord) :
    (cache.applyLocally capacity fill).1.subscribed = cache.subscribed := by
  unfold FillEventHotCache.applyLocally
  split <;> rfl

@[simp] theorem applyLocally_truthVerified (cache : FillEventHotCache) (fill : FillRecord) :
    (cache.applyLocally capacity fill).1.truthVerified = cache.truthVerified := by
  unfold FillEventHotCache.applyLocally
  split <;> rfl

theorem applyLocally_fills_of_held
    (hheld : (lookup (fun held : FillRecord => held.fillId) cache.fills fill.fillId).isSome = true) :
    (cache.applyLocally capacity fill).1.fills = cache.fills := by
  unfold FillEventHotCache.applyLocally
  rw [if_pos hheld]

theorem applyLocally_fills_of_new
    (hnew : lookup (fun held : FillRecord => held.fillId) cache.fills fill.fillId = none) :
    (cache.applyLocally capacity fill).1.fills =
      (cache.fills ++ [fill]).drop ((cache.fills ++ [fill]).length - capacity) := by
  unfold FillEventHotCache.applyLocally
  rw [hnew]
  rfl

theorem isLast_applyLocally {items : Set FillRecord} (hcapacity : 0 < capacity)
    (h : IsLast fillProcessingSortKey capacity items cache.fills)
    (hid : ∀ other ∈ items, other.fillId = fill.fillId → other = fill)
    (hplace : (lookup (fun held : FillRecord => held.fillId) cache.fills fill.fillId).isSome = true ∨
      cache.fills.length < capacity ∨
        ∀ first ∈ cache.fills.head?, ∀ other ∈ cache.fills.tail ++ [fill],
          fillProcessingSortKey first < fillProcessingSortKey other) :
    IsLast fillProcessingSortKey capacity (insert fill items)
      (cache.applyLocally capacity fill).1.fills := by
  cases hlookup : lookup (fun held : FillRecord => held.fillId) cache.fills fill.fillId with
  | some held =>
    -- the fill is held under its id
    have hmem : held ∈ items := h.subset held (mem_of_lookup hlookup)
    have hkey := key_of_lookup hlookup
    obtain rfl := hid held hmem hkey
    rw [applyLocally_fills_of_held (Option.isSome_iff_exists.mpr ⟨_, hlookup⟩),
      Set.insert_eq_of_mem hmem]
    exact h
  | none =>
    have hnot : fill ∉ cache.fills := fun hmem => lookup_eq_none.mp hlookup fill hmem rfl
    rw [applyLocally_fills_of_new hlookup, List.length_append, List.length_singleton]
    rcases h.length_le.lt_or_eq with hroom | hfull
    · rw [Nat.sub_eq_zero_of_le hroom, List.drop_zero]
      exact h.push hnot hroom
    · rw [hlookup] at hplace
      rcases hplace with hheld | hroom | hfirst
      · cases hheld
      · exact absurd hfull (Nat.ne_of_lt hroom)
      · -- the first fill of a full cache goes
        cases hfills : cache.fills with
        | nil =>
          rw [hfills] at hfull
          exact absurd hfull hcapacity.ne
        | cons first rest =>
          rw [hfills] at h hnot hfull hfirst
          rw [hfull, Nat.add_sub_cancel_left, List.cons_append, List.drop_succ_cons, List.drop_zero]
          exact h.pushFull hnot hfull (hfirst first rfl)

theorem scopedFills_sublist (inScope : FillRecord → Bool) (since : Option Timestamp)
    (fills : List FillRecord) : (scopedFills inScope since fills).Sublist fills := by
  unfold scopedFills
  split
  · exact List.filter_sublist
  · exact List.filter_sublist.trans List.filter_sublist

theorem scopedFills_perm {fills other : List FillRecord} (h : fills.Perm other)
    (inScope : FillRecord → Bool) (since : Option Timestamp) :
    (scopedFills inScope since fills).Perm (scopedFills inScope since other) := by
  unfold scopedFills
  split
  · exact h.filter _
  · exact (h.filter _).filter _

theorem sortedFills_eq_of_perm {fills other : List FillRecord} (h : fills.Perm other)
    (hids : (fills.map fun fill => fill.fillId).Nodup) : sortedFills fills = sortedFills other := by
  refine KWayMerge.eq_of_perm_of_pairwise_lt (sortedFills_pairwise_lt hids)
    (sortedFills_pairwise_lt ((h.map _).nodup_iff.mp hids)) ?_
  exact (sortedFills_perm fills).trans (h.trans (sortedFills_perm other).symm)

/-! ### What every step keeps -/

/-- What is known of a repository, a bus and a cache at any time of such a run. -/
structure RecentInv (capacity : ℕ) (world : FillWorld) : Prop where
  ids : (world.repository.map fun fill => fill.fillId).Nodup
  published : ∀ fill ∈ world.published, fill ∈ world.repository
  owed : ∀ fill ∈ world.owed, fill ∈ world.repository
  applied : ∀ fill ∈ world.applied, fill ∈ world.repository
  received : ∀ fill ∈ world.received, fill ∈ world.owed ∧ fill ∈ world.applied
  atLoad : ∀ saved ∈ world.atLoad, saved.Sublist world.repository
  subscribed : world.cache.subscribed = true → world.place = .done
  unsubscribed : world.cache.subscribed = false → world.owed = []
  missesNone : ∀ saved ∈ world.atLoad, ∀ fill ∈ world.published, fill ∈ saved ∨ fill ∈ world.owed
  loaded : ∀ truthRows, world.place = .loaded truthRows → ∃ saved ∈ world.atLoad,
    recentFills capacity truthRows = recentFills capacity saved
  verified : world.cache.truthVerified = true →
    (world.place = .subscribing ∨ world.place = .done) ∧ ∃ saved ∈ world.atLoad,
      IsLast fillProcessingSortKey capacity {fill | fill ∈ saved ∨ fill ∈ world.applied}
        world.cache.fills

namespace RecentInv

theorem start : RecentInv capacity {} where
  ids := List.nodup_nil
  published := by rintro _ ⟨⟩
  owed := by rintro _ ⟨⟩
  applied := by rintro _ ⟨⟩
  received := by rintro _ ⟨⟩
  atLoad := by rintro _ ⟨⟩
  subscribed := by rintro ⟨⟩
  unsubscribed _ := rfl
  missesNone := by rintro _ ⟨⟩
  loaded := by rintro _ ⟨⟩
  verified := by rintro ⟨⟩

theorem eq_of_fillId (h : RecentInv capacity world) {other : FillRecord}
    (hother : other ∈ world.repository) (hfill : fill ∈ world.repository)
    (heq : other.fillId = fill.fillId) : other = fill :=
  List.inj_on_of_nodup_map h.ids hother hfill heq

theorem subscribed_eq_false (h : RecentInv capacity world) (hplace : world.place ≠ .done) :
    world.cache.subscribed = false :=
  Bool.eq_false_of_not_eq_true fun hsubscribed => hplace (h.subscribed hsubscribed)

theorem truthVerified_ne (h : RecentInv capacity world)
    (hplace : world.place ≠ .subscribing ∧ world.place ≠ .done) :
    world.cache.truthVerified ≠ true := by
  intro hverified
  rcases (h.verified hverified).1 with hsubscribing | hdone
  · exact hplace.1 hsubscribing
  · exact hplace.2 hdone

theorem save (h : RecentInv capacity world)
    (hnew : lookup (fun saved : FillRecord => saved.fillId) world.repository fill.fillId = none) :
    RecentInv capacity { world with repository := world.repository ++ [fill] } :=
  { h with
    ids := by
      have hids : ((upsert (fun saved : FillRecord => saved.fillId) world.repository fill).map
          fun saved => saved.fillId).Nodup := nodup_keys_upsert h.ids
      unfold upsert at hids
      rwa [hnew] at hids
    published := fun fill hfill => List.mem_append_left _ (h.published fill hfill)
    owed := fun fill hfill => List.mem_append_left _ (h.owed fill hfill)
    applied := fun fill hfill => List.mem_append_left _ (h.applied fill hfill)
    atLoad := fun saved hsaved =>
      (h.atLoad saved hsaved).trans (List.sublist_append_left _ _) }

theorem publish (h : RecentInv capacity world) (hfill : fill ∈ world.repository)
    (hok : world.cache.subscribed = true ∨ ∀ saved ∈ world.atLoad, fill ∈ saved) :
    RecentInv capacity { world with
      published := world.published ++ [fill]
      owed := if world.cache.subscribed = true then world.owed ++ [fill] else world.owed } := by
  have howed : ∀ other ∈ world.owed,
      other ∈ if world.cache.subscribed = true then world.owed ++ [fill] else world.owed := by
    intro other hother
    split
    · exact List.mem_append_left _ hother
    · exact hother
  refine { h with
    published := ?_, owed := ?_, received := ?_, unsubscribed := ?_, missesNone := ?_ }
  · intro other hother
    rcases List.mem_append.mp hother with hother | hother
    · exact h.published other hother
    · exact List.mem_singleton.mp hother ▸ hfill
  · intro other hother
    simp only at hother
    split at hother
    · rcases List.mem_append.mp hother with hother | hother
      · exact h.owed other hother
      · exact List.mem_singleton.mp hother ▸ hfill
    · exact h.owed other hother
  · intro other hother
    exact ⟨howed other (h.received other hother).1, (h.received other hother).2⟩
  · intro hnot
    have hnot : world.cache.subscribed = false := hnot
    simp only [hnot]
    exact h.unsubscribed hnot
  · intro saved hsaved other hother
    rcases List.mem_append.mp hother with hother | hother
    · exact (h.missesNone saved hsaved other hother).imp_right (howed other)
    · obtain rfl := List.mem_singleton.mp hother
      rcases hok with hsubscribed | hloaded
      · exact .inr (by rw [if_pos hsubscribed]; exact List.mem_append_right _ hother)
      · exact .inl (hloaded saved hsaved)

theorem apply (hcapacity : 0 < capacity) (h : RecentInv capacity world)
    (hfill : fill ∈ world.repository) (hok : takesFirstPlace capacity world.cache fill) :
    RecentInv capacity (world.apply capacity fill) := by
  refine { h with applied := ?_, received := ?_, subscribed := ?_, unsubscribed := ?_, verified := ?_ }
  · intro other hother
    rcases List.mem_append.mp hother with hother | hother
    · exact h.applied other hother
    · exact List.mem_singleton.mp hother ▸ hfill
  · intro other hother
    exact ⟨(h.received other hother).1, List.mem_append_left _ (h.received other hother).2⟩
  · intro hsubscribed
    exact h.subscribed ((applyLocally_subscribed _ _).symm.trans hsubscribed)
  · intro hnot
    exact h.unsubscribed ((applyLocally_subscribed _ _).symm.trans hnot)
  · intro hverified
    have hbefore : world.cache.truthVerified = true :=
      (applyLocally_truthVerified _ _).symm.trans hverified
    obtain ⟨hplace, saved, hsaved, hlast⟩ := h.verified hbefore
    refine ⟨hplace, saved, hsaved, ?_⟩
    have hid : ∀ other ∈ {fill | fill ∈ saved ∨ fill ∈ world.applied},
        other.fillId = fill.fillId → other = fill := by
      rintro other (hother | hother)
      · exact h.eq_of_fillId ((h.atLoad saved hsaved).subset hother) hfill
      · exact h.eq_of_fillId (h.applied other hother) hfill
    refine (isLast_applyLocally hcapacity hlast hid (hok hbefore)).congr fun other => ?_
    show other = fill ∨ (other ∈ saved ∨ other ∈ world.applied) ↔
      other ∈ saved ∨ other ∈ world.applied ++ [fill]
    rw [List.mem_append, List.mem_singleton]
    exact or_comm.trans or_assoc

theorem beforeLoad (h : RecentInv capacity world)
    (hplace : world.place = .hydrating ∨ world.place = .loading) {place : BootstrapPlace}
    (hnext : ∀ truthRows, place ≠ .loaded truthRows)
    (hsubscribed : cache.subscribed = world.cache.subscribed)
    (hverified : cache.truthVerified = true → world.cache.truthVerified = true) :
    RecentInv capacity { world with place := place, cache := cache } := by
  have hnot : cache.subscribed = false :=
    hsubscribed.trans (h.subscribed_eq_false (by rcases hplace with h | h <;> simp [h]))
  have hunverified : cache.truthVerified ≠ true := fun hnew =>
    h.truthVerified_ne (by rcases hplace with h | h <;> simp [h]) (hverified hnew)
  exact { h with
    subscribed := fun hnew => absurd (hnot.symm.trans hnew) Bool.false_ne_true
    unsubscribed := fun hnew => h.unsubscribed (hsubscribed.symm.trans hnew)
    loaded := fun truthRows heq => absurd heq (hnext truthRows)
    verified := fun hnew => absurd hnew hunverified }

theorem loadTruth (h : RecentInv capacity world) {truthRows : List FillRecord}
    (hplace : world.place = .loading)
    (hok : recentFills capacity truthRows = recentFills capacity world.repository) :
    RecentInv capacity
      { world with place := .loaded truthRows, atLoad := some world.repository } := by
  have hnot := h.subscribed_eq_false (by rw [hplace]; rintro ⟨⟩)
  have hunverified := h.truthVerified_ne (by rw [hplace]; exact ⟨nofun, nofun⟩)
  exact { h with
    atLoad := by
      rintro _ ⟨⟩
      exact List.Sublist.refl _
    subscribed := fun hsubscribed => absurd (hnot.symm.trans hsubscribed) Bool.false_ne_true
    missesNone := by
      rintro _ ⟨⟩ fill hfill
      exact .inl (h.published fill hfill)
    loaded := by
      rintro _ ⟨⟩
      exact ⟨_, rfl, hok⟩
    verified := fun hverified => absurd hverified hunverified }

theorem subscribe (h : RecentInv capacity world) :
    RecentInv capacity
      { world with place := .done, cache := { world.cache with subscribed := true } } :=
  { h with
    subscribed := fun _ => rfl
    unsubscribed := by rintro ⟨⟩
    loaded := by rintro _ ⟨⟩
    verified := fun hverified => ⟨.inr rfl, (h.verified hverified).2⟩ }

theorem reconcile (hcapacity : 0 < capacity) (h : RecentInv capacity world)
    {truthRows : List FillRecord} (hplace : world.place = .loaded truthRows) :
    RecentInv capacity { world with
      place := .subscribing
      applied := []
      cache := { world.cache.reconcileBootstrapTruth capacity truthRows with
        bootstrapped := true } } := by
  have hnot : world.cache.subscribed = false :=
    h.subscribed_eq_false (by rw [hplace]; rintro ⟨⟩)
  have howed : world.owed = [] := h.unsubscribed hnot
  refine { h with
    applied := ?_, received := ?_, subscribed := ?_, loaded := ?_, verified := ?_ }
  · rintro _ ⟨⟩
  · intro fill hfill
    have hnone := (h.received fill hfill).1
    rw [howed] at hnone
    cases hnone
  · intro hsubscribed
    exact absurd (hnot.symm.trans hsubscribed) Bool.false_ne_true
  · rintro _ ⟨⟩
  · intro _
    obtain ⟨saved, hsaved, hrecent⟩ := h.loaded truthRows hplace
    refine ⟨.inl rfl, saved, hsaved, ?_⟩
    have hids : (saved.map fun fill => fill.fillId).Nodup :=
      h.ids.sublist ((h.atLoad saved hsaved).map _)
    have hfills : ofItems (fun fill => fill.fillId) (recentFills capacity truthRows) =
        recentFills capacity saved := by
      rw [hrecent]
      exact ofItems_of_nodup (nodup_recentFills hids)
    show IsLast _ _ _ (ofItems (fun fill => fill.fillId) (recentFills capacity truthRows))
    rw [hfills]
    refine (isLast_recentFills hcapacity hids).congr fun fill => ?_
    show fill ∈ saved ↔ fill ∈ saved ∨ fill ∈ []
    rw [or_iff_left List.not_mem_nil]

theorem step (hcapacity : 0 < capacity) {label : FillLabel} (h : RecentInv capacity world)
    (hok : keepsRecent capacity world label) (hstep : fillCacheStep capacity world label = some next) :
    RecentInv capacity next := by
  unfold fillCacheStep at hstep
  split at hstep
  · split at hstep
    · cases hstep
    · next hnew =>
      cases hstep
      exact h.save (Option.not_isSome_iff_eq_none.mp hnew)
  · split at hstep
    · next hfill =>
      cases hstep
      exact h.publish hfill hok
    · cases hstep
  · split at hstep
    · next fill howed =>
      cases hstep
      have happly := h.apply hcapacity (h.owed fill howed) hok
      refine { happly with received := ?_ }
      intro other hother
      rcases List.mem_append.mp hother with hother | hother
      · exact happly.received other hother
      · obtain rfl := List.mem_singleton.mp hother
        exact ⟨howed, List.mem_append_right _ hother⟩
    · cases hstep
  · split at hstep
    · next hfill =>
      cases hstep
      exact h.apply hcapacity hfill hok
    · cases hstep
  · cases hstep
    exact { h with }
  · split at hstep
    · next hplace =>
      cases hstep
      exact h.beforeLoad (.inl hplace) (by rintro _ ⟨⟩) rfl id
    · cases hstep
  · split at hstep
    · next hplace =>
      cases hstep
      exact h.beforeLoad (.inr hplace) (by rintro _ ⟨⟩) rfl id
    · cases hstep
  · split at hstep
    · next hplace =>
      cases hstep
      exact h.loadTruth hplace hok
    · cases hstep
  · split at hstep
    · next hplace =>
      cases hstep
      exact h.beforeLoad (.inr hplace) (by rintro _ ⟨⟩) rfl (by rintro ⟨⟩)
    · cases hstep
  · split at hstep
    · next hplace =>
      cases hstep
      exact h.reconcile hcapacity hplace
    · cases hstep
  · split at hstep
    · cases hstep
      exact h.subscribe
    · cases hstep
  · split at hstep
    · cases hstep
      exact { h with
        subscribed := fun _ => rfl
        loaded := by rintro _ ⟨⟩
        verified := fun hverified => ⟨.inr rfl, (h.verified hverified).2⟩ }
    · cases hstep

end RecentInv

theorem recentInv_run (hcapacity : 0 < capacity) {labels : List FillLabel}
    (hok : Meets (fillCacheStep capacity) (keepsRecent capacity) {} labels)
    (hrun : run (fillCacheStep capacity) {} labels = some world) : RecentInv capacity world :=
  run_invariant_of_meets (fun _ _ _ h hok hstep => h.step hcapacity hok hstep) RecentInv.start hok
    hrun

/-- **The cache has the last fills**: once all deliveries owed to it have happened, a list that it
returns is that of the fills in the scope, and since the time, among the last ones of the
repository, in the order of processing. -/
theorem fill_cache_holds_recent (hcapacity : 0 < capacity) (labels : List FillLabel)
    (hrun : run (fillCacheStep capacity) {} labels = some world)
    (hok : Meets (fillCacheStep capacity) (keepsRecent capacity) {} labels)
    (hsettled : world.Settled) (inScope : FillRecord → Bool) (since : Option Timestamp)
    (hread : world.cache.fillsForScopeSync inScope since = some fills) :
    fills = sortedFills (scopedFills inScope since
      (lastN capacity (sortedFills world.repository))) := by
  have hinv := recentInv_run hcapacity hok hrun
  unfold FillEventHotCache.fillsForScopeSync at hread
  split at hread
  · cases hread
  · next hverified =>
    rw [not_or] at hverified
    cases hread
    obtain ⟨-, saved, hsaved, hlast⟩ := hinv.verified (Bool.eq_true_of_not_eq_false hverified.2)
    -- what was loaded or applied since then is the whole repository
    have hall : ∀ fill, fill ∈ saved ∨ fill ∈ world.applied ↔ fill ∈ world.repository := by
      intro fill
      constructor
      · rintro (hfill | hfill)
        · exact (hinv.atLoad saved hsaved).subset hfill
        · exact hinv.applied fill hfill
      · intro hfill
        refine (hinv.missesNone saved hsaved fill (hsettled.1 fill hfill)).imp_right ?_
        intro howed
        exact (hinv.received fill (hsettled.2 fill howed)).2
    have hperm : world.cache.fills.Perm (lastN capacity (sortedFills world.repository)) := by
      rw [← recentFills_eq hcapacity]
      exact (hlast.congr hall).perm (isLast_recentFills hcapacity hinv.ids)
    have hids : ((lastN capacity (sortedFills world.repository)).map
        fun fill => fill.fillId).Nodup := by
      rw [← recentFills_eq hcapacity]
      exact nodup_recentFills hinv.ids
    refine (sortedFills_eq_of_perm (scopedFills_perm hperm.symm inScope since) ?_).symm
    exact hids.sublist ((scopedFills_sublist inScope since _).map _)

/-! ### Fills that are missed, and fills that come back -/

/-- A fill that was executed at a time and taken in at once. -/
def fillAt (fillId : String) (time : Timestamp) : FillRecord where
  fillId := fillId
  symbol := "BTC-USDT-SWAP"
  side := .buy
  fillQty := 1
  fillPrice := 100
  feeAmount := 0
  exchangeTimestamp := time
  ingestionTimestamp := time

def fillWorldAfter (capacity : ℕ) (labels : List FillLabel) : FillWorld :=
  (run (fillCacheStep capacity) {} labels).getD {}

/-- A cache is started on an empty repository, and then three fills arrive. -/
def threeFills : List FillLabel :=
  [.hydrate [], .loadTruth [], .reconcile, .subscribe] ++
    [fillAt "f1" 1, fillAt "f2" 2, fillAt "f3" 3].flatMap fun fill =>
      [.save fill, .publish fill, .deliver fill]

theorem fill_cache_holds_recent_threeFills :
    [fillAt "f2" 2, fillAt "f3" 3] = sortedFills (scopedFills (fun _ => true) none
      (lastN 2 (sortedFills (fillWorldAfter 2 threeFills).repository))) :=
  fill_cache_holds_recent (by decide) threeFills
    (Option.getD_of_ne_none (by decide +kernel) _).symm (by decide +kernel) (by decide +kernel) _ _
    (by decide +kernel)

/-- A fill is saved and published after the repository is read and before the subscription. -/
def fillDuringBootstrap : List FillLabel :=
  [.hydrate [], .loadTruth [], .save (fillAt "f1" 1), .publish (fillAt "f1" 1), .reconcile,
    .subscribe]

theorem fill_cache_misses_and_displaces :
    ((run (fillCacheStep 2) {} fillDuringBootstrap).isSome = true ∧
      (fillWorldAfter 2 fillDuringBootstrap).Settled ∧
      (fillWorldAfter 2 fillDuringBootstrap).cache.fillsForScopeSync (fun _ => true) none =
        some [] ∧
      lastN 2 (sortedFills (fillWorldAfter 2 fillDuringBootstrap).repository) =
        [fillAt "f1" 1]) ∧
    ((run (fillCacheStep 2) {} (threeFills ++ [.deliver (fillAt "f1" 1)])).isSome = true ∧
      (fillWorldAfter 2 (threeFills ++ [.deliver (fillAt "f1" 1)])).Settled ∧
      (fillWorldAfter 2 (threeFills ++ [.deliver (fillAt "f1" 1)])).cache.fillsForScopeSync
        (fun _ => true) none = some [fillAt "f1" 1, fillAt "f3" 3] ∧
      lastN 2 (sortedFills
          (fillWorldAfter 2 (threeFills ++ [.deliver (fillAt "f1" 1)])).repository) =
        [fillAt "f2" 2, fillAt "f3" 3]) := by
  decide +kernel

end Recent

end Aats.Execution
