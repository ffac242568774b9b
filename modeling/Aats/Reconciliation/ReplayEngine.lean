import Aats.Lib.Worklist
import Aats.Recovery.BaselineReplay

/-!
# The replay of recorded events

`ReplayEngine.replay` (`reconciliation_service/replay.py`) without arguments: from the window it
starts at and the events it selects to the snapshot it reconstructs and the offset it leaves. The
checks of decision chains, execution chains, audit records and baseline switches only report and are
left out, and so is the archive of the event store. Of the events of other topics only the ids they
refer to are read.
-/

namespace Aats.Reconciliation

open Execution (Timestamp)
open KeyedList
open Portfolio (PortfolioSnapshot PortfolioState Position PriceProvider buildSnapshot)
open Recovery (productTypeOf rebuildState rebuildFromBaseline)

/-! ### Events -/

/-- A stored `PortfolioSnapshot`, with the reference that tells a baseline. -/
structure StoredSnapshot extends PortfolioSnapshot where
  sourceIntentId : Option String := none
  deriving DecidableEq

/-- `is_baseline_snapshot`. -/
def StoredSnapshot.isBaseline (snapshot : StoredSnapshot) : Bool :=
  (match snapshot.snapshotOrigin with
    | .exchangeImport | .operatorRebaseline | .runtimeBootstrap | .recoveryRebuild
    | .recoveryAutoHealed | .manualRebuild => true
    | .fillDerived | .localRepair => false) ||
  (snapshot.sourceFillId.isNone && snapshot.sourceIntentId.isNone)

inductive Payload
  | marketSnapshot (symbol : String) (lastPrice : ℚ)
  | fillEvent (fill : FillRecord)
  | portfolioSnapshot (snapshot : StoredSnapshot)
  | decisionContext (refs : List String)
  | auditRecord (refs : List String)
  | accountBaseline (previousBaselineRef operatorActionRef : Option String)
  | other
  deriving DecidableEq

/-- `_referenced_event_ids_for_events`, for one event. -/
def Payload.referencedEventIds : Payload → List String
  | .decisionContext refs => refs
  | .auditRecord refs => refs
  | .accountBaseline previousBaselineRef operatorActionRef =>
    [previousBaselineRef, operatorActionRef].reduceOption
  | _ => []

/-- `EventEnvelope`; an event is in scope if its topic is replayed and it matches the scope. -/
structure EventEnvelope where
  eventId : String
  eventTimestamp : Timestamp
  createdAt : Timestamp
  decisionId : Option String := none
  inScope : Bool := true
  payload : Payload
  deriving DecidableEq

def EventEnvelope.refs (event : EventEnvelope) : List String := event.payload.referencedEventIds

def EventEnvelope.fill? (event : EventEnvelope) : Option FillRecord :=
  match event.payload with
  | .fillEvent fill => some fill
  | _ => none

def EventEnvelope.snapshot? (event : EventEnvelope) : Option StoredSnapshot :=
  match event.payload with
  | .portfolioSnapshot snapshot => some snapshot
  | _ => none

/-- `BaselineGenerationRecord`. -/
structure BaselineGeneration where
  baselineEventRef : String
  importedAt : Timestamp

/-- What a replay reads: the event store, the repository of the snapshots and the watermarks of one
scope. An event id is recorded once. -/
structure ReplayStore where
  events : List EventEnvelope
  nodup_eventId : (events.map (·.eventId)).Nodup
  snapshots : List StoredSnapshot := []
  baselineGeneration : Option BaselineGeneration := none
  acknowledgedAt : Option Timestamp := none
  replayOffset : Option Timestamp := none

/-- `append`: an event id that is known is not recorded again. -/
def ReplayStore.append (store : ReplayStore) (event : EventEnvelope) : ReplayStore :=
  if h : event.eventId ∈ store.events.map (·.eventId) then store
  else
    { store with
      events := store.events ++ [event]
      nodup_eventId := by
        rw [List.map_append, List.map_singleton]
        exact List.nodup_append.mpr ⟨store.nodup_eventId, List.nodup_singleton _,
          fun a ha b hb heq => h (by rw [← List.mem_singleton.mp hb, ← heq]; exact ha)⟩ }

/-! ### The window -/

/-- `_incremental_window_start_at`: the latest of the three watermarks. -/
def windowStart (store : ReplayStore) : Option Timestamp :=
  [store.baselineGeneration.map (·.importedAt), store.acknowledgedAt,
    store.replayOffset].reduceOption.max?

/-- `_baseline_seed_snapshot`: the last stored snapshot from before the start. -/
def baselineSeedSnapshot (store : ReplayStore) : Option Timestamp → Option StoredSnapshot
  | none => none
  | some start => (store.snapshots.filter (fun snapshot => snapshot.snapshotTs < start)).getLast?

/-! ### The selected events -/

def fromStart (start : Option Timestamp) (event : EventEnvelope) : Bool :=
  match start with
  | none => true
  | some start => decide (start ≤ event.eventTimestamp)

def windowEvents (store : ReplayStore) (start : Option Timestamp) : List EventEnvelope :=
  store.events.filter (fun event => event.inScope && fromStart start event)

def baselineEvent (store : ReplayStore) (generation : Option BaselineGeneration) :
    Option EventEnvelope :=
  generation.bind fun generation => lookup (·.eventId) store.events generation.baselineEventRef

def withBaselineEvent (store : ReplayStore) (generation : Option BaselineGeneration)
    (events : List EventEnvelope) : List EventEnvelope :=
  match baselineEvent store generation with
  | none => events
  | some event => if event.eventId ∈ events.map (·.eventId) then events else events ++ [event]

def sharesDecision (events : List EventEnvelope) (event : EventEnvelope) : Bool :=
  match event.decisionId with
  | none => false
  | some decisionId => decide (some decisionId ∈ events.map (·.decisionId))

/-- The events with all those of their decisions. The source goes through the decisions in order;
the order is of no account, since the events are sorted in the end. -/
def withDecisions (store : ReplayStore) (events : List EventEnvelope) : List EventEnvelope :=
  events ++ store.events.filter (fun event =>
    decide (event.eventId ∉ events.map (·.eventId)) && sharesDecision events event)

def appendReferencedEvents (store : ReplayStore) (events : List EventEnvelope) :
    List EventEnvelope :=
  let appended := withDecisions store events
  let pending := appended.flatMap EventEnvelope.refs
  Worklist.visit (·.eventId) EventEnvelope.refs store.events
    (Worklist.rounds (·.eventId) EventEnvelope.refs store.events pending appended) pending appended

def eventSortKey (event : EventEnvelope) : Timestamp ×ₗ Timestamp ×ₗ String :=
  toLex (event.eventTimestamp, toLex (event.createdAt, event.eventId))

def selectEvents (store : ReplayStore) (start : Option Timestamp)
    (generation : Option BaselineGeneration) : List EventEnvelope :=
  (appendReferencedEvents store
    (withBaselineEvent store generation (windowEvents store start))).insertionSort
      (fun a b => eventSortKey a ≤ eventSortKey b)

/-! ### The replay -/

structure ReplaySettings where
  initialUsdtBalance : ℚ
  productType : ProductType := .derivatives
  marginMode : MarginMode := .cross
  now : Timestamp := 0

def replayMark (position : Position) : Option ℚ :=
  if epsilon12 < |position.positionQty| then some (position.positionNotional / position.positionQty)
  else if 0 < position.avgEntryPrice then some position.avgEntryPrice
  else none

/-- `_snapshot_price_provider`: the mark of the last stored snapshot, else the latest price. -/
def snapshotPriceProvider (storedSnapshot : Option StoredSnapshot)
    (latestPrices : AList fun _ : String => ℚ) : PriceProvider := fun symbol =>
  let mark := storedSnapshot.bind fun snapshot =>
    snapshot.positions.entries.foldl
      (fun mark entry => if entry.2.symbol = symbol then (replayMark entry.2).or mark else mark) none
  mark.getD ((latestPrices.lookup symbol).getD 0)

def rebuildOn (initialUsdtBalance : ℚ) (baseline : Option StoredSnapshot) (fills : List FillRecord) :
    Except UnsupportedFeeCurrencyError PortfolioState :=
  match baseline with
  | none => rebuildState initialUsdtBalance fills
  | some snapshot => rebuildFromBaseline fills snapshot.toPortfolioSnapshot

def rebuildSnapshot (settings : ReplaySettings) (fills : List FillRecord)
    (baselineSnapshot : Option StoredSnapshot) (prices : PriceProvider) :
    Except UnsupportedFeeCurrencyError PortfolioSnapshot :=
  (rebuildOn settings.initialUsdtBalance baselineSnapshot fills).map fun state =>
    buildSnapshot prices .fillDerived none settings.now (productTypeOf settings.productType state)
      settings.marginMode state

/-- What a replay has read so far. -/
structure Progress where
  latestPrices : AList (fun _ : String => ℚ) := ∅
  processedFills : List FillRecord := []
  baselineSnapshot : Option StoredSnapshot
  storedSnapshotCount : ℕ := 0
  finalStoredSnapshot : Option StoredSnapshot := none

def Progress.note (progress : Progress) (event : EventEnvelope) : Progress :=
  match event.payload with
  | .marketSnapshot symbol lastPrice =>
    { progress with latestPrices := progress.latestPrices.insert symbol lastPrice }
  | .fillEvent fill => { progress with processedFills := progress.processedFills ++ [fill] }
  | .portfolioSnapshot snapshot =>
    { progress with
      storedSnapshotCount := progress.storedSnapshotCount + 1
      finalStoredSnapshot := some snapshot
      baselineSnapshot :=
        if snapshot.isBaseline then some snapshot else progress.baselineSnapshot }
  | _ => progress

/-- One event of the replay. A snapshot that is no baseline is compared with a rebuild, which may
fail. -/
def process (settings : ReplaySettings) (progress : Progress) (event : EventEnvelope) :
    Except UnsupportedFeeCurrencyError Progress :=
  match event.snapshot? with
  | none => .ok (progress.note event)
  | some snapshot =>
    if snapshot.isBaseline then .ok (progress.note event)
    else
      (rebuildSnapshot settings progress.processedFills progress.baselineSnapshot
        (snapshotPriceProvider (some snapshot) progress.latestPrices)).map
          fun _ => progress.note event

def processAll (settings : ReplaySettings) (progress : Progress) :
    List EventEnvelope → Except UnsupportedFeeCurrencyError Progress
  | [] => .ok progress
  | event :: events =>
    match process settings progress event with
    | .error e => .error e
    | .ok next => processAll settings next events

structure ReplayResult where
  replayedEventCount : ℕ
  storedSnapshotCount : ℕ
  finalReconstructedSnapshot : Option PortfolioSnapshot
  incrementalWindowStartAt : Option Timestamp

/-- The snapshot that is reconstructed in the end: none if nothing was read. -/
def finalSnapshot (settings : ReplaySettings) (progress : Progress) :
    Except UnsupportedFeeCurrencyError (Option PortfolioSnapshot) :=
  if 0 < progress.storedSnapshotCount ∨ progress.processedFills ≠ [] then
    (rebuildSnapshot settings progress.processedFills progress.baselineSnapshot
      (snapshotPriceProvider progress.finalStoredSnapshot progress.latestPrices)).map some
  else .ok none

def replayEvents (settings : ReplaySettings) (start : Option Timestamp)
    (seed : Option StoredSnapshot) (events : List EventEnvelope) :
    Except UnsupportedFeeCurrencyError ReplayResult :=
  match processAll settings { baselineSnapshot := seed } events with
  | .error e => .error e
  | .ok progress =>
    (finalSnapshot settings progress).map fun final =>
      { replayedEventCount := events.length
        storedSnapshotCount := progress.storedSnapshotCount
        finalReconstructedSnapshot := final
        incrementalWindowStartAt := start }

def nextEvents (store : ReplayStore) : List EventEnvelope :=
  selectEvents store (windowStart store) store.baselineGeneration

/-- `_persist_replay_offset`: the time of the last event, if there was one. -/
def persistReplayOffset (store : ReplayStore) (events : List EventEnvelope) : ReplayStore :=
  match events.getLast? with
  | none => store
  | some event => { store with replayOffset := some event.eventTimestamp }

/-- `replay` without arguments. -/
def replay (settings : ReplaySettings) (store : ReplayStore) :
    Except UnsupportedFeeCurrencyError (ReplayResult × ReplayStore) :=
  (replayEvents settings (windowStart store) (baselineSeedSnapshot store (windowStart store))
    (nextEvents store)).map fun result => (result, persistReplayOffset store (nextEvents store))

def allEvents (store : ReplayStore) : List EventEnvelope := selectEvents store none none

def fullReplay (settings : ReplaySettings) (store : ReplayStore) :
    Except UnsupportedFeeCurrencyError ReplayResult :=
  replayEvents settings none none (allEvents store)

/-! ### Which events are selected -/

/-- What a replay selects from the start on: the events of the window and that of the baseline
generation, all events of their decisions, and what any of these refer to. -/
inductive Selected (store : ReplayStore) (start : Option Timestamp)
    (generation : Option BaselineGeneration) : EventEnvelope → Prop
  | window (event : EventEnvelope) (hmem : event ∈ store.events) (hscope : event.inScope = true)
      (hstart : fromStart start event = true) : Selected store start generation event
  | baseline (event : EventEnvelope) (h : baselineEvent store generation = some event) :
      Selected store start generation event
  | decision (event other : EventEnvelope) (decisionId : String) (hmem : event ∈ store.events)
      (hother : other ∈ store.events)
      (hin : (other.inScope = true ∧ fromStart start other = true) ∨
        baselineEvent store generation = some other)
      (hevent : event.decisionId = some decisionId) (hdecision : other.decisionId = some decisionId) :
      Selected store start generation event
  | referenced (event other : EventEnvelope) (hother : Selected store start generation other)
      (hmem : event ∈ store.events) (hrefers : event.eventId ∈ other.refs) :
      Selected store start generation event

section Selection

variable {store : ReplayStore} {start : Option Timestamp} {generation : Option BaselineGeneration}

theorem baselineEvent_mem {event : EventEnvelope} (h : baselineEvent store generation = some event) :
    event ∈ store.events := by
  obtain ⟨record, _, hlookup⟩ := Option.bind_eq_some_iff.mp h
  exact mem_of_lookup hlookup

theorem ReplayStore.eq_of_eventId {event other : EventEnvelope} (hevent : event ∈ store.events)
    (hother : other ∈ store.events) (h : event.eventId = other.eventId) : event = other :=
  List.inj_on_of_nodup_map store.nodup_eventId hevent hother h

theorem mem_withBaselineEvent {events : List EventEnvelope} {event : EventEnvelope}
    (hevents : ∀ event ∈ events, event ∈ store.events) :
    event ∈ withBaselineEvent store generation events ↔
      event ∈ events ∨ baselineEvent store generation = some event := by
  unfold withBaselineEvent
  cases hbaseline : baselineEvent store generation with
  | none => simp
  | some other =>
    simp only [Option.some.injEq]
    split
    · next hknown =>
      constructor
      · exact Or.inl
      · rintro (hin | rfl)
        · exact hin
        · obtain ⟨same, hsame, heq⟩ := List.mem_map.mp hknown
          rw [← store.eq_of_eventId (hevents same hsame) (baselineEvent_mem hbaseline) heq]
          exact hsame
    · rw [List.mem_append, List.mem_singleton]
      exact or_congr_right eq_comm

def InWindow (store : ReplayStore) (start : Option Timestamp)
    (generation : Option BaselineGeneration) (event : EventEnvelope) : Prop :=
  (event ∈ store.events ∧ event.inScope = true ∧ fromStart start event = true) ∨
    baselineEvent store generation = some event

theorem mem_base {event : EventEnvelope} :
    event ∈ withBaselineEvent store generation (windowEvents store start) ↔
      InWindow store start generation event := by
  have hevents : ∀ event ∈ windowEvents store start, event ∈ store.events :=
    fun event hmem => (List.mem_filter.mp hmem).1
  rw [mem_withBaselineEvent hevents]
  unfold windowEvents InWindow
  rw [List.mem_filter, Bool.and_eq_true]

theorem InWindow.mem {event : EventEnvelope} (h : InWindow store start generation event) :
    event ∈ store.events := by
  rcases h with h | h
  · exact h.1
  · exact baselineEvent_mem h

theorem mem_withDecisions {event : EventEnvelope} :
    event ∈ withDecisions store (withBaselineEvent store generation (windowEvents store start)) ↔
      InWindow store start generation event ∨
      (event ∈ store.events ∧ ∃ other decisionId, InWindow store start generation other ∧
        event.decisionId = some decisionId ∧ other.decisionId = some decisionId) := by
  have hshares : ∀ events : List EventEnvelope, sharesDecision events event = true ↔
      ∃ other ∈ events, ∃ decisionId, event.decisionId = some decisionId ∧
        other.decisionId = some decisionId := by
    intro events
    unfold sharesDecision
    cases event.decisionId with
    | none => simp
    | some decisionId => simp
  unfold withDecisions
  rw [List.mem_append, mem_base, List.mem_filter, Bool.and_eq_true, hshares, decide_eq_true_iff]
  constructor
  · rintro (hin | ⟨hmem, _, other, hother, decisionId, hevent, hdecision⟩)
    · exact Or.inl hin
    · exact Or.inr ⟨hmem, other, decisionId, mem_base.mp hother, hevent, hdecision⟩
  · rintro (hin | ⟨hmem, other, decisionId, hother, hevent, hdecision⟩)
    · exact Or.inl hin
    -- one that is there already is of the window itself, as ids are unique
    · by_cases hknown : event.eventId ∈
          (withBaselineEvent store generation (windowEvents store start)).map (·.eventId)
      · left
        obtain ⟨same, hsame, heq⟩ := List.mem_map.mp hknown
        have hwindow := mem_base.mp hsame
        rw [← store.eq_of_eventId hwindow.mem hmem heq]
        exact hwindow
      · exact Or.inr ⟨hmem, hknown, other, mem_base.mpr hother, decisionId, hevent, hdecision⟩

theorem mem_of_mem_withDecisions {event : EventEnvelope} (h : event ∈ withDecisions store
    (withBaselineEvent store generation (windowEvents store start))) : event ∈ store.events := by
  rcases mem_withDecisions.mp h with hwindow | hdecision
  · exact hwindow.mem
  · exact hdecision.1

theorem mem_selectEvents {event : EventEnvelope} :
    event ∈ selectEvents store start generation ↔ Selected store start generation event := by
  unfold selectEvents
  rw [List.mem_insertionSort]
  unfold appendReferencedEvents
  simp only []
  rw [Worklist.mem_visit store.nodup_eventId (fun event hmem => mem_of_mem_withDecisions hmem)]
  constructor
  · intro hreached
    induction hreached with
    | start event hmem =>
      rcases mem_withDecisions.mp hmem with (⟨hmem, hscope, hstart⟩ | hbaseline) |
        ⟨hmem, other, decisionId, hother, hevent, hdecision⟩
      · exact .window event hmem hscope hstart
      · exact .baseline event hbaseline
      · refine .decision event other decisionId hmem hother.mem ?_ hevent hdecision
        exact hother.imp_left And.right
    | follow other event _ hrefers hnext ih =>
      exact .referenced event other ih (mem_of_lookup hnext) hrefers
  · intro hselected
    induction hselected with
    | window event hmem hscope hstart =>
      exact .start event (mem_withDecisions.mpr (Or.inl (Or.inl ⟨hmem, hscope, hstart⟩)))
    | baseline event hbaseline =>
      exact .start event (mem_withDecisions.mpr (Or.inl (Or.inr hbaseline)))
    | decision event other decisionId hmem hother hin hevent hdecision =>
      refine .start event (mem_withDecisions.mpr (Or.inr ⟨hmem, other, decisionId, ?_, hevent,
        hdecision⟩))
      exact hin.imp_left (And.intro hother)
    | referenced event other _ hmem hrefers ih =>
      exact .follow other event ih hrefers (lookup_of_mem store.nodup_eventId hmem)

theorem Selected.mem {event : EventEnvelope} (h : Selected store start generation event) :
    event ∈ store.events := by
  cases h with
  | window event hmem _ _ => exact hmem
  | baseline event h => exact baselineEvent_mem h
  | decision event other decisionId hmem _ _ _ _ => exact hmem
  | referenced event other _ hmem _ => exact hmem

theorem nodup_selectEvents : ((selectEvents store start generation).map (·.eventId)).Nodup := by
  have hbase : ((withBaselineEvent store generation (windowEvents store start)).map
      (·.eventId)).Nodup := by
    have hwindow : ((windowEvents store start).map (·.eventId)).Nodup :=
      store.nodup_eventId.sublist (List.Sublist.map _ List.filter_sublist)
    unfold withBaselineEvent
    split
    · exact hwindow
    · split
      · exact hwindow
      · next event _ hnew =>
        rw [List.map_append, List.map_singleton]
        exact List.nodup_append.mpr ⟨hwindow, List.nodup_singleton _, fun a ha b hb heq =>
          hnew (by rw [← List.mem_singleton.mp hb, ← heq]; exact ha)⟩
  have hdecisions : ((withDecisions store
      (withBaselineEvent store generation (windowEvents store start))).map (·.eventId)).Nodup := by
    unfold withDecisions
    rw [List.map_append]
    refine List.nodup_append.mpr
      ⟨hbase, store.nodup_eventId.sublist (List.Sublist.map _ List.filter_sublist), ?_⟩
    intro a ha b hb heq
    obtain ⟨event, hevent, rfl⟩ := List.mem_map.mp hb
    have hnew := (Bool.and_eq_true_iff.mp (List.mem_filter.mp hevent).2).1
    exact of_decide_eq_true hnew (heq ▸ ha)
  unfold selectEvents
  rw [((List.perm_insertionSort _ _).map _).nodup_iff]
  exact Worklist.nodup_visit _ hdecisions

end Selection

end Aats.Reconciliation
