import Aats.Lib.Runs
import Aats.Reconciliation.ReplayEngine

/-!
# Incremental replay and full replay

A replay starts from the last snapshot before its window and reads the events from the start of the
window on. It ends in what a replay of the whole history ends in if the fills can be cut at that
snapshot and the window reaches back to it. Nothing in the engine sees to the latter: the seed is
from before the window, and what was recorded between the two is read by no replay.

## Main definitions
* `Rebuilt` — a history whose stored snapshots are rebuilds of the fills before them.
* `Agrees` — it ends in what a replay of the whole history ends in.

## Main results
* `filter_selectEvents_eq` — two selections order their common events alike.
* `replays_agree` — **every replay of a run that misses nothing agrees**.
-/

namespace Aats.Reconciliation

open Execution (Timestamp)
open Portfolio (PortfolioSnapshot PortfolioState loadPortfolioSnapshot)
open Recovery
open Runs

/-! ### What a replay reads -/

def fillsOf (events : List EventEnvelope) : List FillRecord := events.filterMap EventEnvelope.fill?

def snapshotsOf (events : List EventEnvelope) : List StoredSnapshot :=
  events.filterMap EventEnvelope.snapshot?

def lastBaseline (events : List EventEnvelope) : Option StoredSnapshot :=
  ((snapshotsOf events).filter StoredSnapshot.isBaseline).getLast?

def FeesSupported (fills : List FillRecord) : Prop :=
  ∀ fill ∈ fills, Portfolio.FeeSupported fill.toFillEvent

/-- A fill that counts on a baseline was taken in at its time or later. -/
def countsOn (baseline : Option StoredSnapshot) (fill : FillRecord) : Bool :=
  match baseline with
  | none => true
  | some snapshot => decide (snapshot.snapshotTs ≤ fill.ingestionTimestamp)

def startOn (initialUsdtBalance : ℚ) (baseline : Option StoredSnapshot) : PortfolioState :=
  match baseline with
  | none => initialState initialUsdtBalance
  | some snapshot => loadPortfolioSnapshot snapshot.toPortfolioSnapshot ∅ 0

theorem rebuildOn_eq (usdt : ℚ) (baseline : Option StoredSnapshot) (fills : List FillRecord) :
    rebuildOn usdt baseline fills =
      Portfolio.replay (startOn usdt baseline)
        (orderedFills (fills.filter (countsOn baseline))) := by
  cases baseline with
  | none =>
    have hall : fills.filter (countsOn none) = fills := List.filter_eq_self.mpr fun _ _ => rfl
    rw [hall]
    rfl
  | some snapshot =>
    unfold orderedFills
    rw [← sortedFills_filter]
    rfl

theorem rebuildOn_isOk (usdt : ℚ) (baseline : Option StoredSnapshot) {fills : List FillRecord}
    (h : FeesSupported fills) : ∃ state, rebuildOn usdt baseline fills = .ok state := by
  rw [rebuildOn_eq]
  apply replay_isOk
  intro fill hmem
  obtain ⟨record, hrecord, rfl⟩ := List.mem_map.mp hmem
  exact h record (List.mem_of_mem_filter (mem_sortedFills.mp hrecord))

theorem processAll_eq_ok (settings : ReplaySettings) {events : List EventEnvelope}
    {progress : Progress} (h : FeesSupported (progress.processedFills ++ fillsOf events)) :
    processAll settings progress events = .ok (events.foldl Progress.note progress) := by
  induction events generalizing progress with
  | nil => rfl
  | cons event events ih =>
    have hprocess : process settings progress event = .ok (progress.note event) := by
      unfold process
      cases event.snapshot? with
      | none => rfl
      | some snapshot =>
        simp only []
        split
        · rfl
        · obtain ⟨state, hstate⟩ := rebuildOn_isOk settings.initialUsdtBalance
            progress.baselineSnapshot fun fill hmem => h fill (List.mem_append_left _ hmem)
          unfold rebuildSnapshot
          rw [hstate]
          rfl
    have hfills : (progress.note event).processedFills ++ fillsOf events =
        progress.processedFills ++ fillsOf (event :: events) := by
      unfold Progress.note fillsOf EventEnvelope.fill?
      rw [List.filterMap_cons]
      cases event.payload <;> simp
    rw [processAll, hprocess, List.foldl_cons]
    exact ih (hfills ▸ h)

theorem foldl_note_processedFills (progress : Progress) (events : List EventEnvelope) :
    (events.foldl Progress.note progress).processedFills =
      progress.processedFills ++ fillsOf events := by
  induction events generalizing progress with
  | nil => exact (List.append_nil _).symm
  | cons event events ih =>
    rw [List.foldl_cons, ih]
    unfold Progress.note fillsOf EventEnvelope.fill?
    rw [List.filterMap_cons]
    cases event.payload <;> simp

theorem foldl_note_storedSnapshotCount (progress : Progress) (events : List EventEnvelope) :
    (events.foldl Progress.note progress).storedSnapshotCount =
      progress.storedSnapshotCount + (snapshotsOf events).length := by
  induction events generalizing progress with
  | nil => rfl
  | cons event events ih =>
    rw [List.foldl_cons, ih]
    unfold Progress.note snapshotsOf EventEnvelope.snapshot?
    rw [List.filterMap_cons]
    cases event.payload <;> simp [Nat.add_assoc, Nat.add_comm 1]

theorem foldl_note_baselineSnapshot (progress : Progress) (events : List EventEnvelope) :
    (events.foldl Progress.note progress).baselineSnapshot =
      (lastBaseline events).or progress.baselineSnapshot := by
  induction events generalizing progress with
  | nil => rfl
  | cons event events ih =>
    rw [List.foldl_cons, ih]
    unfold Progress.note lastBaseline snapshotsOf EventEnvelope.snapshot?
    rw [List.filterMap_cons]
    cases event.payload with
    | portfolioSnapshot snapshot =>
      simp only [List.filter_cons]
      split
      · rw [List.getLast?_cons]
        generalize List.getLast? (List.filter _ _) = last
        cases last <;> rfl
      · rfl
    | _ => rfl

/-- There is a fill or a snapshot among the events. -/
def ShowsSomething (events : List EventEnvelope) : Prop :=
  fillsOf events ≠ [] ∨ snapshotsOf events ≠ []

/-- What a replay of events ends in: a snapshot of the rebuild of their fills on their last
baseline, or on the seed if there is none. -/
structure EndsIn (usdt : ℚ) (seed : Option StoredSnapshot) (events : List EventEnvelope)
    (final : Option PortfolioSnapshot) : Prop where
  none_of_not : ¬ ShowsSomething events → final = none
  some_of : ShowsSomething events → ∃ snapshot state, final = some snapshot ∧
    rebuildOn usdt ((lastBaseline events).or seed) (fillsOf events) = .ok state ∧
    Shows snapshot state

theorem replayEvents_eq_ok (settings : ReplaySettings) (start : Option Timestamp)
    (seed : Option StoredSnapshot) {events : List EventEnvelope}
    (h : FeesSupported (fillsOf events)) :
    ∃ result, replayEvents settings start seed events = .ok result ∧
      EndsIn settings.initialUsdtBalance seed events result.finalReconstructedSnapshot := by
  -- the loop only collects; whether there is a snapshot depends on what it has seen
  have hall : processAll settings { baselineSnapshot := seed } events =
      .ok (events.foldl Progress.note { baselineSnapshot := seed }) := processAll_eq_ok settings h
  have hfills : (events.foldl Progress.note { baselineSnapshot := seed }).processedFills =
      fillsOf events := foldl_note_processedFills _ _
  have hcount : (events.foldl Progress.note { baselineSnapshot := seed }).storedSnapshotCount =
      (snapshotsOf events).length := by
    rw [foldl_note_storedSnapshotCount]
    exact Nat.zero_add _
  have hbaseline : (events.foldl Progress.note { baselineSnapshot := seed }).baselineSnapshot =
      (lastBaseline events).or seed := foldl_note_baselineSnapshot _ _
  generalize events.foldl Progress.note { baselineSnapshot := seed } = progress at *
  have hshows : (0 < progress.storedSnapshotCount ∨ progress.processedFills ≠ []) ↔
      ShowsSomething events := by
    rw [hfills, hcount, List.length_pos_iff, or_comm]
    rfl
  unfold replayEvents finalSnapshot rebuildSnapshot
  rw [hall]
  simp only [hfills, hbaseline]
  rw [hfills] at hshows
  by_cases hsome : ShowsSomething events
  · obtain ⟨state, hstate⟩ := rebuildOn_isOk settings.initialUsdtBalance
      ((lastBaseline events).or seed) h
    rw [if_pos (hshows.mpr hsome), hstate]
    exact ⟨_, rfl, fun hnot => absurd hsome hnot,
      fun _ => ⟨_, state, rfl, hstate, shows_buildSnapshot _ _ _ _ _ _ state⟩⟩
  · rw [if_neg (hsome ∘ hshows.mp)]
    exact ⟨_, rfl, fun _ => rfl, fun hshown => absurd hshown hsome⟩

/-! ### The events that count -/

def OfScope (store : ReplayStore) : Prop :=
  ∀ event ∈ store.events, event.fill?.isSome = true ∨ event.snapshot?.isSome = true →
    event.inScope = true

/-- All fills that are recorded, in the order of their events. -/
def recordedFills (store : ReplayStore) : List FillRecord := fillsOf (allEvents store)

section Select

variable {store : ReplayStore} {start : Option Timestamp} {generation : Option BaselineGeneration}

theorem mem_of_mem_selectEvents {event : EventEnvelope}
    (h : event ∈ selectEvents store start generation) : event ∈ store.events :=
  (mem_selectEvents.mp h).mem

theorem mem_allEvents {event : EventEnvelope} (hscope : event.inScope = true) :
    event ∈ allEvents store ↔ event ∈ store.events :=
  ⟨mem_of_mem_selectEvents, fun hmem => mem_selectEvents.mpr (.window event hmem hscope rfl)⟩

theorem sorted_selectEvents : (selectEvents store start generation).Pairwise
    (fun a b => eventSortKey a ≤ eventSortKey b) :=
  List.pairwise_insertionSort _ _

theorem filter_selectEvents_eq {start' : Option Timestamp} {generation' : Option BaselineGeneration}
    {keep : EventEnvelope → Bool}
    (h : ∀ event, keep event = true → (event ∈ selectEvents store start generation ↔
      event ∈ selectEvents store start' generation')) :
    (selectEvents store start generation).filter keep =
      (selectEvents store start' generation').filter keep := by
  have hnodup : ∀ start generation, ((selectEvents store start generation).filter keep).Nodup :=
    fun start generation => (List.Nodup.of_map _ nodup_selectEvents).filter _
  have hperm : List.Perm ((selectEvents store start generation).filter keep)
      ((selectEvents store start' generation').filter keep) := by
    rw [List.perm_ext_iff_of_nodup (hnodup _ _) (hnodup _ _)]
    intro event
    rw [List.mem_filter, List.mem_filter]
    exact and_congr_left (h event)
  refine List.Perm.eq_of_pairwise ?_ (sorted_selectEvents.filter keep)
    (sorted_selectEvents.filter keep) hperm
  intro a b ha hb hab hba
  have hkey : eventSortKey a = eventSortKey b := le_antisymm hab hba
  have hid : a.eventId = b.eventId := by
    unfold eventSortKey at hkey
    exact (Prod.mk.inj (toLex.injective (Prod.mk.inj (toLex.injective hkey)).2)).2
  exact store.eq_of_eventId (mem_of_mem_selectEvents (List.mem_of_mem_filter ha))
    (mem_of_mem_selectEvents (List.mem_of_mem_filter hb)) hid

theorem fillsOf_filter (keep : FillRecord → Bool) (events : List EventEnvelope) :
    fillsOf (events.filter (fun event => event.fill?.any keep)) = (fillsOf events).filter keep := by
  unfold fillsOf
  rw [List.filterMap_filter, List.filter_filterMap]
  apply congrArg (List.filterMap · events)
  funext event
  cases event.fill? with
  | none => rfl
  | some fill => cases hkeep : keep fill <;> simp [hkeep, Option.filter]

theorem filter_fillsOf_eq (hscope : OfScope store) {keep : FillRecord → Bool}
    (h : ∀ event ∈ store.events, ∀ fill, event.fill? = some fill → keep fill = true →
      Selected store start generation event) :
    (fillsOf (selectEvents store start generation)).filter keep =
      (recordedFills store).filter keep := by
  unfold recordedFills
  rw [← fillsOf_filter, ← fillsOf_filter]
  apply congrArg fillsOf
  apply filter_selectEvents_eq
  intro event hkeep
  obtain ⟨fill, hfill, hpass⟩ := (Option.any_eq_true _ _).mp hkeep
  constructor
  · intro hmem
    have hstored := mem_of_mem_selectEvents hmem
    exact (mem_allEvents (hscope event hstored (Or.inl (by rw [hfill]; rfl)))).mpr hstored
  · intro hmem
    exact mem_selectEvents.mpr (h event (mem_of_mem_selectEvents hmem) fill hfill hpass)

end Select

/-! ### Histories -/

def currentBaseline (store : ReplayStore) : Option StoredSnapshot := lastBaseline (allEvents store)

def baselineBy (store : ReplayStore) (time : Timestamp) : Option StoredSnapshot :=
  (((snapshotsOf (allEvents store)).filter StoredSnapshot.isBaseline).filter
    (fun snapshot => snapshot.snapshotTs ≤ time)).getLast?

def fillsBefore (store : ReplayStore) (snapshot : StoredSnapshot) : List FillRecord :=
  (recordedFills store).filter (fun fill => !countsOn (some snapshot) fill)

/-- The snapshot is the rebuild of the fills taken in before it on the last baseline. -/
def IsRebuild (usdt : ℚ) (store : ReplayStore) (snapshot : StoredSnapshot) : Prop :=
  ∃ state, rebuildOn usdt (baselineBy store snapshot.snapshotTs) (fillsBefore store snapshot) =
    .ok state ∧ Shows snapshot.toPortfolioSnapshot state

/-- A history of one scope in which every stored snapshot but the baselines is such a rebuild. -/
structure Rebuilt (usdt : ℚ) (store : ReplayStore) : Prop where
  ofScope : OfScope store
  isRebuild : ∀ snapshot ∈ store.snapshots ++ snapshotsOf (allEvents store),
    snapshot.isBaseline = false → IsRebuild usdt store snapshot

/-! ### Where a replay can go on -/

/-- The snapshot that the next replay ends on: the last baseline it selects, else the seed. -/
def replayBase (store : ReplayStore) : Option StoredSnapshot :=
  (lastBaseline (nextEvents store)).or (baselineSeedSnapshot store (windowStart store))

abbrev Picked (store : ReplayStore) : EventEnvelope → Prop :=
  Selected store (windowStart store) store.baselineGeneration

/-- A snapshot from which the fills taken in since can be replayed: no baseline has come since, all
fills it includes are processed before those and have other ids, and rounding has changed
nothing. -/
structure Resumable (usdt : ℚ) (store : ReplayStore) (snapshot : StoredSnapshot) : Prop where
  baseline : currentBaseline store = baselineBy store snapshot.snapshotTs
  inOrder : ∀ fill ∈ fillsBefore store snapshot, countsOn (currentBaseline store) fill = true →
    ∀ later ∈ recordedFills store, countsOn (some snapshot) later = true →
      fillProcessingSortKey fill < fillProcessingSortKey later
  once : ∀ fill ∈ fillsBefore store snapshot, countsOn (currentBaseline store) fill = true →
    ∀ later ∈ recordedFills store, countsOn (some snapshot) later = true →
      fill.fillId ≠ later.fillId
  rounded : ∀ state, rebuildOn usdt (baselineBy store snapshot.snapshotTs)
    (fillsBefore store snapshot) = .ok state → Rounded state

/-- A base on which a replay can go on: that of the whole history or a resumable snapshot. -/
def CanGoOn (usdt : ℚ) (store : ReplayStore) : Option StoredSnapshot → Prop
  | none => currentBaseline store = none
  | some snapshot =>
    if snapshot.isBaseline then currentBaseline store = some snapshot
    else Resumable usdt store snapshot

/-- The next replay misses nothing: it can go on where it starts, selects all fills taken in since,
and selects a fill or a snapshot if there is one. -/
structure Complete (usdt : ℚ) (store : ReplayStore) : Prop where
  fees : FeesSupported (recordedFills store)
  base : CanGoOn usdt store (replayBase store)
  fills : ∀ event ∈ store.events, ∀ fill, event.fill? = some fill →
    countsOn (replayBase store) fill = true → Picked store event
  shown : ShowsSomething (allEvents store) → ∃ event, Picked store event ∧
    (event.fill?.isSome = true ∨ event.snapshot?.isSome = true)

structure ShowSame (left right : PortfolioSnapshot) : Prop where
  quantity : ∀ key, left.quantityOf key = right.quantityOf key
  avgEntryPrice : ∀ key, left.avgEntryPriceOf key = right.avgEntryPriceOf key
  balance : ∀ currency, left.balances.balance currency = right.balances.balance currency

/-- The next replay and a replay of the whole history end in the same. -/
def Agrees (settings : ReplaySettings) (store : ReplayStore) : Prop :=
  ∃ result next full, replay settings store = .ok (result, next) ∧
    fullReplay settings store = .ok full ∧
    Option.Rel ShowSame result.finalReconstructedSnapshot full.finalReconstructedSnapshot

section Agreement

variable {usdt : ℚ} {store : ReplayStore} {snapshot : StoredSnapshot}

theorem isBaseline_of_lastBaseline {events : List EventEnvelope}
    (h : lastBaseline events = some snapshot) : snapshot.isBaseline = true :=
  (List.mem_filter.mp (List.mem_of_getLast? h)).2

theorem snapshotTs_le_of_baselineBy {time : Timestamp} (h : baselineBy store time = some snapshot) :
    snapshot.snapshotTs ≤ time :=
  of_decide_eq_true (List.mem_filter.mp (List.mem_of_getLast? h)).2

theorem mem_snapshots_of_replayBase (h : replayBase store = some snapshot)
    (hnot : snapshot.isBaseline = false) : snapshot ∈ store.snapshots := by
  unfold replayBase at h
  rcases Option.or_eq_some_iff.mp h with hlast | ⟨-, hseed⟩
  · exact absurd (isBaseline_of_lastBaseline hlast) (Bool.eq_false_iff.mp hnot)
  · unfold baselineSeedSnapshot at hseed
    split at hseed
    · cases hseed
    · exact List.mem_of_mem_filter (List.mem_of_getLast? hseed)

theorem Resumable.sortedFills_eq (h : Resumable usdt store snapshot) :
    sortedFills ((recordedFills store).filter (countsOn (currentBaseline store))) =
      sortedFills ((fillsBefore store snapshot).filter (countsOn (currentBaseline store))) ++
        sortedFills ((recordedFills store).filter (countsOn (some snapshot))) := by
  -- the snapshot is not older than the baseline
  have hsince : ∀ fill, countsOn (some snapshot) fill = true →
      countsOn (currentBaseline store) fill = true := by
    intro fill hfill
    cases hbaseline : currentBaseline store with
    | none => rfl
    | some baseline =>
      have hle := snapshotTs_le_of_baselineBy (h.baseline.symm.trans hbaseline)
      exact decide_eq_true (hle.trans (of_decide_eq_true hfill))
  rw [sortedFills_append (fun fill => !countsOn (some snapshot) fill)]
  · congr 2
    · rw [fillsBefore, List.filter_filter, List.filter_filter]
      simp only [Bool.and_comm]
    · rw [List.filter_filter]
      apply List.filter_congr
      intro fill _
      rw [Bool.not_not]
      cases hfill : countsOn (some snapshot) fill with
      | false => rfl
      | true => rw [hsince fill hfill, Bool.and_self]
  · intro fill hfill later hlater hbefore hsince'
    obtain ⟨hmem, hcounts⟩ := List.mem_filter.mp hfill
    exact h.inOrder fill (List.mem_filter.mpr ⟨hmem, hbefore⟩) hcounts later
      (List.mem_of_mem_filter hlater) (by simpa using hsince')

theorem startOn_applied (usdt : ℚ) (baseline : Option StoredSnapshot) :
    (startOn usdt baseline).appliedFillIds = ∅ := by
  cases baseline <;> rfl

theorem flatClosed_startOn (usdt : ℚ) (baseline : Option StoredSnapshot) :
    FlatClosed (startOn usdt baseline) := by
  cases baseline with
  | none => exact flatClosed_initialState usdt
  | some snapshot => exact flatClosed_load _ _ _

theorem Resumable.sameAccount (h : Resumable usdt store snapshot)
    (hrebuild : IsRebuild usdt store snapshot) {full : PortfolioState}
    (hfull : rebuildOn usdt (currentBaseline store) (recordedFills store) = .ok full) :
    ∃ state, rebuildOn usdt (some snapshot) (recordedFills store) = .ok state ∧
      SameAccount state full := by
  obtain ⟨mid, hmid, hshows⟩ := hrebuild
  have hrounded := h.rounded mid hmid
  rw [← h.baseline, rebuildOn_eq] at hmid
  -- the replay of the whole history comes through the state the snapshot was taken of
  rw [rebuildOn_eq, orderedFills, h.sortedFills_eq, List.map_append, replay_append_eq_ok] at hfull
  obtain ⟨mid', hmid', hsince⟩ := hfull
  obtain rfl : mid = mid' := Except.ok.inj (hmid.symm.trans hmid')
  have hload : SameAccount (startOn usdt (some snapshot)) mid :=
    hshows.load hrounded (flatClosed_replay (flatClosed_startOn usdt _) hmid) ∅ 0
  -- none of the fills since has the id of one that the snapshot shows
  have hnew : ∀ fill ∈ orderedFills ((recordedFills store).filter (countsOn (some snapshot))),
      fill.fillId ∉ mid.appliedFillIds := by
    intro fill hfill happlied
    obtain ⟨later, hlater, rfl⟩ := List.mem_map.mp hfill
    obtain ⟨hmem, hcounts⟩ := List.mem_filter.mp (mem_sortedFills.mp hlater)
    rw [Portfolio.mem_appliedFillIds_of_replay hmid, startOn_applied] at happlied
    rcases happlied with hempty | ⟨other, hother, hid⟩
    · exact absurd hempty (Finset.notMem_empty _)
    · obtain ⟨earlier, hearlier, rfl⟩ := List.mem_map.mp hother
      obtain ⟨hbefore, hcounted⟩ := List.mem_filter.mp (mem_sortedFills.mp hearlier)
      exact h.once earlier hbefore hcounted later hmem hcounts hid
  rw [rebuildOn_eq]
  exact hload.replay (fun fill _ => Finset.notMem_empty fill.fillId) hnew hsince

theorem CanGoOn.sameAccount {base : Option StoredSnapshot} (h : CanGoOn usdt store base)
    (hrebuild : ∀ snapshot, base = some snapshot → snapshot.isBaseline = false →
      IsRebuild usdt store snapshot) {full : PortfolioState}
    (hfull : rebuildOn usdt (currentBaseline store) (recordedFills store) = .ok full) :
    ∃ state, rebuildOn usdt base (recordedFills store) = .ok state ∧ SameAccount state full := by
  cases base with
  | none =>
    rw [CanGoOn] at h
    rw [h] at hfull
    exact ⟨full, hfull, sameAccount_refl full⟩
  | some snapshot =>
    by_cases hbaseline : snapshot.isBaseline = true
    · rw [CanGoOn, if_pos hbaseline] at h
      rw [h] at hfull
      exact ⟨full, hfull, sameAccount_refl full⟩
    · rw [CanGoOn, if_neg hbaseline] at h
      exact h.sameAccount (hrebuild snapshot rfl (Bool.eq_false_iff.mpr hbaseline)) hfull

theorem showsSomething_iff {events : List EventEnvelope} : ShowsSomething events ↔
    ∃ event ∈ events, event.fill?.isSome = true ∨ event.snapshot?.isSome = true := by
  have hne : ∀ {α : Type} (f : EventEnvelope → Option α), events.filterMap f ≠ [] ↔
      ∃ event ∈ events, (f event).isSome = true := by
    intro α f
    rw [Ne, List.filterMap_eq_nil_iff]
    simp [Option.isSome_iff_ne_none]
  unfold ShowsSomething fillsOf snapshotsOf
  rw [hne, hne]
  simp only [and_or_left, exists_or]

theorem ShowSame.of_shows {left right : PortfolioSnapshot} {state full : PortfolioState}
    (hleft : Shows left state) (hright : Shows right full) (h : SameAccount state full) :
    ShowSame left right where
  quantity key := by rw [hleft.quantity, hright.quantity, h.quantity]
  avgEntryPrice key := by rw [hleft.avgEntryPrice, hright.avgEntryPrice, h.avgEntryPrice]
  balance currency := by rw [hleft.balance, hright.balance, h.balance]

theorem Complete.feesSupported (h : Complete usdt store) (hrebuilt : Rebuilt usdt store) :
    FeesSupported (fillsOf (nextEvents store)) := by
  intro fill hmem
  obtain ⟨event, hevent, hfill⟩ := List.mem_filterMap.mp hmem
  have hstored := mem_of_mem_selectEvents hevent
  have hscope := hrebuilt.ofScope event hstored (Or.inl (by rw [hfill]; rfl))
  exact h.fees fill (List.mem_filterMap.mpr ⟨event, (mem_allEvents hscope).mpr hstored, hfill⟩)

theorem Complete.showsSomething_iff (h : Complete usdt store) (hrebuilt : Rebuilt usdt store) :
    ShowsSomething (nextEvents store) ↔ ShowsSomething (allEvents store) := by
  constructor
  · intro hnext
    obtain ⟨event, hevent, hkind⟩ := Reconciliation.showsSomething_iff.mp hnext
    have hstored := mem_of_mem_selectEvents hevent
    exact Reconciliation.showsSomething_iff.mpr
      ⟨event, (mem_allEvents (hrebuilt.ofScope event hstored hkind)).mpr hstored, hkind⟩
  · intro hall
    obtain ⟨event, hpicked, hkind⟩ := h.shown hall
    exact Reconciliation.showsSomething_iff.mpr ⟨event, mem_selectEvents.mpr hpicked, hkind⟩

/-- **A replay that misses nothing ends in what a replay of the whole history ends in.** -/
theorem Complete.agrees {settings : ReplaySettings}
    (h : Complete settings.initialUsdtBalance store)
    (hrebuilt : Rebuilt settings.initialUsdtBalance store) : Agrees settings store := by
  have hshown := h.showsSomething_iff hrebuilt
  obtain ⟨result, hresult, hends⟩ := replayEvents_eq_ok settings (windowStart store)
    (baselineSeedSnapshot store (windowStart store)) (h.feesSupported hrebuilt)
  obtain ⟨full, hfull, hendsFull⟩ := replayEvents_eq_ok settings none none h.fees
  refine ⟨result, _, full, by rw [replay, hresult]; rfl, hfull, ?_⟩
  by_cases hsome : ShowsSomething (nextEvents store)
  · obtain ⟨left, state, hleft, hstate, hshows⟩ := hends.some_of hsome
    obtain ⟨right, state', hright, hstate', hshows'⟩ := hendsFull.some_of (hshown.mp hsome)
    rw [Option.or_none] at hstate'
    obtain ⟨going, hgoing, hsame⟩ := h.base.sameAccount (fun snapshot hbase hnot =>
      hrebuilt.isRebuild snapshot
        (List.mem_append_left _ (mem_snapshots_of_replayBase hbase hnot)) hnot) hstate'
    -- of the fills that count on the base the replay misses none
    have heq : state = going := by
      rw [rebuildOn_eq] at hstate hgoing
      rw [← filter_fillsOf_eq hrebuilt.ofScope h.fills] at hgoing
      exact Except.ok.inj (hstate.symm.trans hgoing)
    rw [hleft, hright]
    exact .some (ShowSame.of_shows hshows hshows' (heq ▸ hsame))
  · rw [hends.none_of_not hsome, hendsFull.none_of_not (hsome ∘ hshown.mpr)]
    exact .none

end Agreement

/-! ### Runs -/

inductive StoreAction
  | append (event : EventEnvelope)
  | saveSnapshot (snapshot : StoredSnapshot)
  | saveBaselineGeneration (generation : BaselineGeneration)
  | saveExchangeAckWatermark (acknowledgedAt : Timestamp)
  | replay

/-- The store after an action. A replay that raises leaves no offset. -/
def act (settings : ReplaySettings) (store : ReplayStore) : StoreAction → Option ReplayStore
  | .append event => some (store.append event)
  | .saveSnapshot snapshot => some { store with snapshots := store.snapshots ++ [snapshot] }
  | .saveBaselineGeneration generation => some { store with baselineGeneration := some generation }
  | .saveExchangeAckWatermark acknowledgedAt =>
    some { store with acknowledgedAt := some acknowledgedAt }
  | .replay =>
    match replay settings store with
    | .error _ => some store
    | .ok (_, next) => some next

def ReplayStore.empty : ReplayStore := { events := [], nodup_eventId := List.nodup_nil }

theorem act_replay {settings : ReplaySettings} {store : ReplayStore}
    (h : FeesSupported (fillsOf (nextEvents store))) :
    act settings store .replay = some (persistReplayOffset store (nextEvents store)) := by
  obtain ⟨result, hresult, -⟩ := replayEvents_eq_ok settings (windowStart store)
    (baselineSeedSnapshot store (windowStart store)) h
  rw [act, replay, hresult]
  rfl

/-! ### Purchases and a snapshot between them -/

def purchaseEvent (eventId : String) (time : Timestamp) : EventEnvelope where
  eventId := eventId
  eventTimestamp := time
  createdAt := time
  payload := .fillEvent (boughtAt eventId (time, time))

def priceEvent (eventId : String) (time : Timestamp) : EventEnvelope where
  eventId := eventId
  eventTimestamp := time
  createdAt := time
  payload := .marketSnapshot "BTC-USDT" 1

def firstSnapshot : StoredSnapshot where
  sourceFillId := some "f1"
  snapshotTs := 2
  createdAt := 2
  balances := AList.insert "BTC" 1 (AList.insert "USDT" (-1) ∅)
  positions := AList.insert "BTC-USDT"
    { symbol := "BTC-USDT", positionQty := 1, positionNotional := 1, avgEntryPrice := 1,
      unrealizedPnl := 0 } ∅
  realizedPnl := 0
  unrealizedPnl := 0
  totalEquity := 0
  grossExposure := 1
  netExposure := 1

def snapshotEvent : EventEnvelope where
  eventId := "s1"
  eventTimestamp := 2
  createdAt := 2
  payload := .portfolioSnapshot firstSnapshot

theorem bought_first :
    ∃ state, rebuildOn 0 none [boughtAt "f1" (1, 1)] = .ok state ∧ Bought 1 state := by
  have hbought : ∀ fill ∈ [boughtAt "f1" (1, 1)], ∃ id, fill = boughtAt id (timesOf fill) := by
    intro fill hmem
    rw [List.mem_singleton.mp hmem]
    exact ⟨"f1", rfl⟩
  obtain ⟨state, hstate, hcount⟩ := Bought.initial.replay hbought (List.nodup_singleton _)
    (fun fill _ => Finset.notMem_empty fill.fillId)
  exact ⟨state, hstate, hcount⟩

theorem shows_firstSnapshot {state : PortfolioState} (h : Bought 1 state) :
    Shows firstSnapshot.toPortfolioSnapshot state := by
  constructor
  · intro key
    rw [h.rounded.quantity, h.quantity]
    by_cases hkey : key = "BTC-USDT"
    · subst hkey
      rfl
    · have hnone : firstSnapshot.positions.lookup key = none :=
        AList.lookup_insert_ne hkey
      unfold PortfolioSnapshot.quantityOf
      rw [hnone, if_neg hkey]
      rfl
  · intro key
    rw [h.rounded.avgEntryPrice, h.avgEntryPrice]
    by_cases hkey : key = "BTC-USDT"
    · subst hkey
      rfl
    · have hnone : firstSnapshot.positions.lookup key = none :=
        AList.lookup_insert_ne hkey
      unfold PortfolioSnapshot.avgEntryPriceOf
      rw [hnone, if_neg fun hand => hkey hand.1]
      rfl
  · intro currency
    rw [h.rounded.balance, h.balance]
    have hbalances : firstSnapshot.balances =
        AList.insert "BTC" 1 (AList.insert "USDT" (-1) ∅) := rfl
    rw [hbalances, Portfolio.Balances.balance_insert, Portfolio.Balances.balance_insert]
    simp only [eq_comm (a := currency)]
    rfl

theorem rebuilt_of_firstSnapshot {store : ReplayStore} (hscope : OfScope store)
    (hsnapshots : ∀ snapshot ∈ store.snapshots ++ snapshotsOf (allEvents store),
      snapshot = firstSnapshot) (hbaseline : baselineBy store 2 = none)
    (hfills : fillsBefore store firstSnapshot = [boughtAt "f1" (1, 1)]) : Rebuilt 0 store where
  ofScope := hscope
  isRebuild snapshot hmem _ := by
    obtain ⟨state, hstate, hcount⟩ := bought_first
    rw [hsnapshots snapshot hmem]
    have hbefore : baselineBy store firstSnapshot.snapshotTs = none := hbaseline
    refine ⟨state, ?_, shows_firstSnapshot hcount⟩
    rw [hbefore, hfills]
    exact hstate

theorem feesSupported_boughtAt {fills : List FillRecord}
    (h : ∀ fill ∈ fills, ∃ id, fill = boughtAt id (timesOf fill)) : FeesSupported fills := by
  intro fill hmem
  obtain ⟨id, hfill⟩ := h fill hmem
  rw [hfill]
  exact ⟨0, rfl⟩

/-- A purchase with its snapshot and a price, all replayed. -/
def seededStore : ReplayStore where
  events := [purchaseEvent "f1" 1, snapshotEvent, priceEvent "m1" 3]
  nodup_eventId := by decide
  snapshots := [firstSnapshot]
  replayOffset := some 3

def continuedStore : ReplayStore where
  events := [purchaseEvent "f1" 1, snapshotEvent, priceEvent "m1" 3, purchaseEvent "f2" 4]
  nodup_eventId := by decide
  snapshots := [firstSnapshot]
  replayOffset := some 3

theorem baselineBy_continuedStore : baselineBy continuedStore firstSnapshot.snapshotTs = none := by
  decide +kernel

theorem fillsBefore_continuedStore :
    fillsBefore continuedStore firstSnapshot = [boughtAt "f1" (1, 1)] := by decide +kernel

theorem rebuilt_continuedStore : Rebuilt 0 continuedStore :=
  rebuilt_of_firstSnapshot (by unfold OfScope; decide) (by decide +kernel)
    baselineBy_continuedStore fillsBefore_continuedStore

theorem resumable_continuedStore : Resumable 0 continuedStore firstSnapshot where
  baseline := by decide +kernel
  inOrder := by decide +kernel
  once := by decide +kernel
  rounded state hstate := by
    obtain ⟨first, hfirst, hcount⟩ := bought_first
    rw [baselineBy_continuedStore, fillsBefore_continuedStore, hfirst] at hstate
    cases hstate
    exact hcount.rounded

theorem complete_continuedStore : Complete 0 continuedStore where
  fees := by
    have hfills : recordedFills continuedStore = [boughtAt "f1" (1, 1), boughtAt "f2" (4, 4)] := by
      decide +kernel
    apply feesSupported_boughtAt
    rw [hfills]
    simp only [List.forall_mem_cons]
    exact ⟨⟨_, rfl⟩, ⟨_, rfl⟩, fun _ h => nomatch h⟩
  base := by
    have hbase : replayBase continuedStore = some firstSnapshot := by decide +kernel
    rw [hbase]
    exact resumable_continuedStore
  fills event hmem fill hfill hcounts := by
    have hall : ∀ event ∈ continuedStore.events,
        event.fill?.any (countsOn (replayBase continuedStore)) = true →
          event ∈ nextEvents continuedStore := by
      decide +kernel
    exact mem_selectEvents.mp (hall event hmem (by rw [hfill]; exact hcounts))
  shown _ := by
    have hmem : purchaseEvent "f2" 4 ∈ nextEvents continuedStore := by decide +kernel
    exact ⟨_, mem_selectEvents.mp hmem, Or.inl rfl⟩

/-- A purchase with its snapshot, a purchase without one, and a price. -/
def gapStore : ReplayStore where
  events := [purchaseEvent "f1" 1, snapshotEvent, purchaseEvent "f2" 5, priceEvent "m1" 10]
  nodup_eventId := by decide
  snapshots := [firstSnapshot]

def gapActions : List StoreAction :=
  [.append (purchaseEvent "f1" 1), .saveSnapshot firstSnapshot, .append snapshotEvent,
    .append (purchaseEvent "f2" 5), .append (priceEvent "m1" 10)]

theorem replay_gapStore (settings : ReplaySettings) : act settings gapStore .replay =
    some { gapStore with replayOffset := some 10 } := by
  have hnext : nextEvents gapStore = gapStore.events := by decide +kernel
  rw [act_replay, hnext]
  · rfl
  · rw [hnext]
    apply feesSupported_boughtAt
    show ∀ fill ∈ [boughtAt "f1" (1, 1), boughtAt "f2" (5, 5)], _
    simp only [List.forall_mem_cons]
    exact ⟨⟨_, rfl⟩, ⟨_, rfl⟩, fun _ h => nomatch h⟩

/-- The same after a replay and one more purchase. -/
def skippedStore : ReplayStore where
  events := gapStore.events ++ [purchaseEvent "f3" 12]
  nodup_eventId := by decide
  snapshots := [firstSnapshot]
  replayOffset := some 10

/-! ### Every replay of a run -/

/-- **In every run whose replays miss nothing**, each ends in what a replay of the whole history up
to then ends in. -/
theorem replays_agree (settings : ReplaySettings) (start : ReplayStore) (actions : List StoreAction)
    (hrebuilt : Meets (act settings) (fun store action => action = .replay →
      Rebuilt settings.initialUsdtBalance store) start actions)
    (hcomplete : Meets (act settings) (fun store action => action = .replay →
      Complete settings.initialUsdtBalance store) start actions) :
    ∀ before after store, actions = before ++ .replay :: after →
      run (act settings) start before = some store → Agrees settings store := by
  rintro before after store rfl hrun
  have hhere := ((meets_append hrun).mp hcomplete).2.1 rfl
  exact hhere.agrees (((meets_append hrun).mp hrebuilt).2.1 rfl)

theorem replays_agree_continued : Agrees { initialUsdtBalance := 0 } continuedStore := by
  have happend : act { initialUsdtBalance := 0 } seededStore (.append (purchaseEvent "f2" 4)) =
      some continuedStore := rfl
  refine replays_agree { initialUsdtBalance := 0 } seededStore
    [.append (purchaseEvent "f2" 4), .replay] ?_ ?_ [.append (purchaseEvent "f2" 4)] []
    continuedStore rfl rfl
  · rw [meets_cons happend]
    exact ⟨nofun, fun _ => rebuilt_continuedStore, by split <;> trivial⟩
  · rw [meets_cons happend]
    exact ⟨nofun, fun _ => complete_continuedStore, by split <;> trivial⟩

/-- A fill taken in between the snapshot and the offset is skipped. -/
theorem fill_before_offset_skipped : ¬ ∀ (settings : ReplaySettings) (actions : List StoreAction),
    Meets (act settings) (fun store action => action = .replay →
      Rebuilt settings.initialUsdtBalance store) .empty actions →
    ∀ before after store, actions = before ++ .replay :: after →
      run (act settings) .empty before = some store → Agrees settings store := by
  intro hall
  have hgap : Rebuilt 0 gapStore :=
    rebuilt_of_firstSnapshot (by unfold OfScope; decide) (by decide +kernel) (by decide +kernel)
      (by decide +kernel)
  have hskipped : Rebuilt 0 skippedStore :=
    rebuilt_of_firstSnapshot (by unfold OfScope; decide) (by decide +kernel) (by decide +kernel)
      (by decide +kernel)
  -- before both replays every stored snapshot is a rebuild, so that the second one had to agree
  have hagrees : Agrees { initialUsdtBalance := 0 } skippedStore := by
    have hbefore : run (act { initialUsdtBalance := 0 }) .empty gapActions = some gapStore := rfl
    have hbetween : run (act { initialUsdtBalance := 0 }) gapStore
        [.replay, .append (purchaseEvent "f3" 12)] = some skippedStore :=
      run_cons_eq_some.mpr ⟨_, replay_gapStore _, rfl⟩
    refine hall _ (gapActions ++ ([.replay, .append (purchaseEvent "f3" 12)] ++ [.replay])) ?_
      (gapActions ++ [.replay, .append (purchaseEvent "f3" 12)]) [] skippedStore
      (List.append_assoc _ _ _).symm ((run_append hbefore).trans hbetween)
    rw [meets_append hbefore, meets_append hbetween]
    refine ⟨meets_of_forall ?_, ⟨fun _ => hgap, ?_⟩, fun _ => hskipped, by split <;> trivial⟩
    · intro action hmem store hreplay
      simp [gapActions, hreplay] at hmem
    · rw [replay_gapStore]
      exact ⟨by rintro ⟨⟩, trivial⟩
  obtain ⟨result, next, full, hreplay, hfull, hsame⟩ := hagrees
  -- the seed has one bitcoin and the window one more, but three were bought
  have htwo : (replay { initialUsdtBalance := 0 } skippedStore).toOption.map
      (fun found => found.1.finalReconstructedSnapshot.map (·.quantityOf "BTC-USDT")) =
        some (some 2) := by decide +kernel
  have hthree : (fullReplay { initialUsdtBalance := 0 } skippedStore).toOption.map
      (fun found => found.finalReconstructedSnapshot.map (·.quantityOf "BTC-USDT")) =
        some (some 3) := by decide +kernel
  rw [hreplay] at htwo
  rw [hfull] at hthree
  rw [Except.toOption, Option.map_some, Option.some.injEq] at htwo hthree
  obtain ⟨left, hleft, htwo⟩ := Option.map_eq_some_iff.mp htwo
  obtain ⟨right, hright, hthree⟩ := Option.map_eq_some_iff.mp hthree
  rw [hleft, hright] at hsame
  cases hsame with
  | some hfigures =>
    have hquantity := hfigures.quantity "BTC-USDT"
    rw [htwo, hthree] at hquantity
    norm_num at hquantity

end Aats.Reconciliation
