import Aats.Storage.EventStore

/-!
# Archiving and the readers

The readers of the event store see the archive and then the hot events. So they see the events in the
order in which they were appended only as long as each archiving moves a beginning of the hot events.

## Main definitions
* `Consistent` — the indexes are those of the two lists, and no event occurs twice.
* `SameAnswers` — two stores answer every query alike.

## Main results
* `consistent_storeAfter` — **every reachable store is consistent**.
* `byTopic_eq`, `byDecision_eq`, `get_eq`, … — each reader filters `all`.
* `sameAnswers_archiveBefore_iff` — **an archiving is invisible exactly if it moves a beginning**.
* `archiving_invisible_iff` — what readers see after any run.
-/

namespace Aats.Storage

open Execution (Timestamp strip)
open Recovery (RuntimeStateScope)

/-! ### Indexes -/

theorem rebuildIndex_concat (labelOf : EventEnvelope → Option String) (events : List EventEnvelope)
    (event : EventEnvelope) :
    rebuildIndex labelOf (events ++ [event]) = (rebuildIndex labelOf events).note labelOf event := by
  unfold rebuildIndex
  rw [List.foldl_append]
  rfl

theorem rebuildIndex_apply (labelOf : EventEnvelope → Option String) (events : List EventEnvelope)
    (label : String) :
    rebuildIndex labelOf events label =
      (events.filter fun event => labelOf event = some label).map (·.eventId) := by
  induction events using List.reverseRecOn with
  | nil => rfl
  | append_singleton events event ih =>
    rw [rebuildIndex_concat, List.filter_append, List.map_append, ← ih]
    unfold IdIndex.note
    cases hlabel : labelOf event with
    | none => simp [hlabel]
    | some other =>
      dsimp only
      unfold IdIndex.add
      by_cases heq : other = label
      · subst heq
        rw [Function.update_self]
        simp [hlabel]
      · rw [Function.update_of_ne (Ne.symm heq)]
        simp [hlabel, heq]

abbrev topicLabel (event : EventEnvelope) : Option String := some event.topic

/-! ### Consistent stores -/

structure Consistent (store : InMemoryEventStore) : Prop where
  nodup : (store.all.map (·.eventId)).Nodup
  index : ∀ eventId event, store.index eventId = some event ↔
    event ∈ store.events ∧ event.eventId = eventId
  archivedIds : ∀ eventId, eventId ∈ store.archivedIds ↔
    ∃ event ∈ store.archiveEvents, event.eventId = eventId
  topicIndex : store.topicIndex = rebuildIndex topicLabel store.events
  decisionIndex : store.decisionIndex = rebuildIndex EventEnvelope.decisionId store.events
  archiveTopicIndex : store.archiveTopicIndex = rebuildIndex topicLabel store.archiveEvents
  archiveDecisionIndex :
    store.archiveDecisionIndex = rebuildIndex EventEnvelope.decisionId store.archiveEvents

theorem consistent_empty : Consistent {} where
  nodup := List.nodup_nil
  index _ _ := iff_of_false (fun h => by cases h) fun h => absurd h.1 List.not_mem_nil
  archivedIds _ := iff_of_false List.not_mem_nil fun ⟨_, h, _⟩ => absurd h List.not_mem_nil
  topicIndex := rfl
  decisionIndex := rfl
  archiveTopicIndex := rfl
  archiveDecisionIndex := rfl

namespace Consistent

variable {store : InMemoryEventStore}

theorem eq_of_eventId (h : Consistent store) {event other : EventEnvelope} (hmem : event ∈ store.all)
    (hother : other ∈ store.all) (heq : event.eventId = other.eventId) : event = other :=
  List.inj_on_of_nodup_map h.nodup hmem hother heq

theorem known_iff (h : Consistent store) (eventId : String) :
    ((store.index eventId).isSome || store.archivedIds.contains eventId) = true ↔
      ∃ event ∈ store.all, event.eventId = eventId := by
  rw [Bool.or_eq_true, Option.isSome_iff_exists, List.contains_iff_mem, h.archivedIds]
  simp only [h.index, InMemoryEventStore.all, List.mem_append]
  constructor
  · rintro (⟨event, hmem, heq⟩ | ⟨event, hmem, heq⟩)
    · exact ⟨event, .inr hmem, heq⟩
    · exact ⟨event, .inl hmem, heq⟩
  · rintro ⟨event, hmem | hmem, heq⟩
    · exact .inr ⟨event, hmem, heq⟩
    · exact .inl ⟨event, hmem, heq⟩

theorem append_of_known (h : Consistent store) {envelope : EventEnvelope}
    (hknown : ∃ event ∈ store.all, event.eventId = envelope.eventId) :
    store.append envelope = store :=
  if_pos ((h.known_iff _).mpr hknown)

theorem append_all (h : Consistent store) {envelope : EventEnvelope}
    (hnew : ¬∃ event ∈ store.all, event.eventId = envelope.eventId) :
    (store.append envelope).all = store.all ++ [envelope] := by
  unfold InMemoryEventStore.append
  rw [if_neg (mt (h.known_iff _).mp hnew)]
  exact (List.append_assoc _ _ _).symm

theorem append (h : Consistent store) (envelope : EventEnvelope) :
    Consistent (store.append envelope) := by
  by_cases hknown : ∃ event ∈ store.all, event.eventId = envelope.eventId
  · rw [h.append_of_known hknown]
    exact h
  · have hall := h.append_all hknown
    have hnew : ∀ event ∈ store.events, event.eventId ≠ envelope.eventId :=
      fun event hmem heq => hknown ⟨event, List.mem_append_right _ hmem, heq⟩
    refine ⟨?_, ?_, ?_, ?_, ?_, ?_, ?_⟩
    · rw [hall, List.map_append, List.map_singleton]
      refine List.nodup_append.mpr ⟨h.nodup, List.nodup_singleton _, ?_⟩
      intro eventId hmem other hother heq
      obtain ⟨event, hevent, rfl⟩ := List.mem_map.mp hmem
      exact hknown ⟨event, hevent, heq.trans (List.mem_singleton.mp hother)⟩
    all_goals
      unfold InMemoryEventStore.append
      rw [if_neg (mt (h.known_iff _).mp hknown)]
      dsimp only
    · intro eventId event
      by_cases heq : eventId = envelope.eventId
      · subst heq
        rw [Function.update_self, Option.some.injEq, List.mem_append, List.mem_singleton]
        constructor
        · rintro rfl
          exact ⟨.inr rfl, rfl⟩
        · rintro ⟨hmem | rfl, heq⟩
          · exact absurd heq (hnew event hmem)
          · rfl
      · rw [Function.update_of_ne heq, h.index, List.mem_append, List.mem_singleton]
        constructor
        · exact fun hmem => ⟨.inl hmem.1, hmem.2⟩
        · rintro ⟨hmem | rfl, hid⟩
          · exact ⟨hmem, hid⟩
          · exact absurd hid.symm heq
    · exact h.archivedIds
    · rw [rebuildIndex_concat, h.topicIndex]
    · rw [rebuildIndex_concat, h.decisionIndex]
    · exact h.archiveTopicIndex
    · exact h.archiveDecisionIndex

end Consistent

/-! ### Archiving -/

theorem foldl_forget (moved : List EventEnvelope) (index : String → Option EventEnvelope)
    (eventId : String) :
    moved.foldl (fun (index : String → Option EventEnvelope) event =>
        Function.update index event.eventId none) index eventId =
      if eventId ∈ moved.map (·.eventId) then none else index eventId := by
  induction moved generalizing index with
  | nil => simp
  | cons event moved ih =>
    rw [List.foldl_cons, ih]
    simp only [List.map_cons, List.mem_cons, Function.update_apply]
    by_cases hmem : eventId ∈ moved.map (·.eventId)
    · rw [if_pos hmem, if_pos (.inr hmem)]
    · simp only [hmem, or_false, if_false]

theorem all_archiveBefore (store : InMemoryEventStore) (beforeTs : Timestamp) :
    (store.archiveBefore beforeTs).1.all =
      store.archiveEvents ++
        (store.events.filter (fun event => event.eventTimestamp < beforeTs) ++
          store.events.filter fun event => ¬event.eventTimestamp < beforeTs) := by
  unfold InMemoryEventStore.archiveBefore
  dsimp only
  split
  · next hmoved =>
    rw [List.isEmpty_iff] at hmoved
    rw [hmoved, List.nil_append, List.filter_eq_self.mpr]
    · rfl
    · intro event hmem
      simpa using List.filter_eq_nil_iff.mp hmoved event hmem
  · exact List.append_assoc _ _ _

theorem all_archiveBefore_perm (store : InMemoryEventStore) (beforeTs : Timestamp) :
    (store.archiveBefore beforeTs).1.all.Perm store.all := by
  rw [all_archiveBefore]
  refine List.Perm.append_left _ ?_
  simp only [decide_not]
  exact List.filter_append_perm _ _

theorem Consistent.archiveBefore {store : InMemoryEventStore} (h : Consistent store)
    (beforeTs : Timestamp) : Consistent (store.archiveBefore beforeTs).1 := by
  have hnodup :=
    ((all_archiveBefore_perm store beforeTs).map (·.eventId)).nodup_iff.mpr h.nodup
  unfold InMemoryEventStore.archiveBefore at hnodup ⊢
  dsimp only at hnodup ⊢
  split at hnodup
  · next hmoved =>
    rw [if_pos hmoved]
    exact h
  · next hmoved =>
    rw [if_neg hmoved]
    refine ⟨hnodup, ?_, ?_, rfl, rfl, rfl, rfl⟩
    · intro eventId event
      dsimp only
      rw [foldl_forget, List.mem_filter]
      split
      · next hmem =>
        -- the event of this id has been moved
        obtain ⟨other, hother, hid⟩ := List.mem_map.mp hmem
        rw [List.mem_filter, decide_eq_true_eq] at hother
        refine iff_of_false (fun hnone => by cases hnone) ?_
        rintro ⟨⟨hevent, hlate⟩, heq⟩
        have hsame : event = other :=
          h.eq_of_eventId (List.mem_append_right _ hevent) (List.mem_append_right _ hother.1)
            (heq.trans hid.symm)
        exact of_decide_eq_true hlate (hsame ▸ hother.2)
      · next hmem =>
        rw [h.index]
        refine and_congr_left fun heq => (and_iff_left_of_imp fun hevent => ?_).symm
        refine decide_eq_true fun hearly => hmem ?_
        exact List.mem_map.mpr ⟨event, List.mem_filter.mpr ⟨hevent, decide_eq_true hearly⟩, heq⟩
    · intro eventId
      simp only [List.mem_append, h.archivedIds, List.mem_map, or_and_right, exists_or]

theorem Consistent.perform {store : InMemoryEventStore} (h : Consistent store) (action : Action) :
    Consistent (store.perform action) := by
  cases action with
  | append envelope => exact h.append envelope
  | archiveBefore beforeTs => exact h.archiveBefore beforeTs

theorem storeAfter_concat (actions : List Action) (action : Action) :
    storeAfter (actions ++ [action]) = (storeAfter actions).perform action :=
  List.foldl_append

theorem consistent_storeAfter (actions : List Action) : Consistent (storeAfter actions) := by
  induction actions using List.reverseRecOn with
  | nil => exact consistent_empty
  | append_singleton actions action ih =>
    rw [storeAfter_concat]
    exact ih.perform action

/-! ### The readers filter `all` -/

theorem lookup_filterMap_key (index : String → Option EventEnvelope) (eventIds : List String)
    (eventId : String) :
    (eventIds.filterMap fun id => (index id).map fun event => (id, event)).lookup eventId =
      if eventId ∈ eventIds then index eventId else none := by
  induction eventIds with
  | nil => rfl
  | cons first rest ih =>
    cases hfirst : index first with
    | none =>
      rw [List.filterMap_cons_none (by rw [hfirst]; rfl), ih]
      by_cases heq : eventId = first
      · subst heq
        simp [hfirst]
      · simp [heq]
    | some event =>
      rw [List.filterMap_cons_some (by rw [hfirst]; rfl), List.lookup_cons, ih]
      by_cases heq : eventId = first
      · subst heq
        simp [hfirst]
      · rw [beq_false_of_ne heq]
        simp [heq]

theorem lookup_map_eventId (events : List EventEnvelope) (eventId : String) :
    (events.map fun event => (event.eventId, event)).lookup eventId =
      events.find? fun event => event.eventId = eventId := by
  induction events with
  | nil => rfl
  | cons event rest ih =>
    rw [List.map_cons, List.lookup_cons, List.find?_cons, ih]
    by_cases heq : event.eventId = eventId
    · simp [heq]
    · rw [beq_false_of_ne (Ne.symm heq)]
      simp [heq]

namespace Consistent

variable {store : InMemoryEventStore}

theorem filterMap_index (h : Consistent store) {events : List EventEnvelope}
    (hsub : events ⊆ store.events) : (events.map (·.eventId)).filterMap store.index = events := by
  rw [List.filterMap_map]
  refine (List.filterMap_congr fun event hmem => ?_).trans (List.filterMap_some)
  exact (h.index _ _).mpr ⟨hsub hmem, rfl⟩

theorem filter_archiveEvents (h : Consistent store) (test : EventEnvelope → Bool) :
    (store.archiveEvents.filter fun event =>
        event.eventId ∈ (store.archiveEvents.filter test).map (·.eventId)) =
      store.archiveEvents.filter test := by
  refine List.filter_congr fun event hmem => ?_
  rw [Bool.eq_iff_iff, decide_eq_true_eq]
  constructor
  · intro hid
    obtain ⟨other, hother, heq⟩ := List.mem_map.mp hid
    rw [List.mem_filter] at hother
    rw [← h.eq_of_eventId (List.mem_append_left _ hother.1) (List.mem_append_left _ hmem) heq]
    exact hother.2
  · exact fun htest => List.mem_map.mpr ⟨event, List.mem_filter.mpr ⟨hmem, htest⟩, rfl⟩

theorem byIndex_eq (h : Consistent store) (labelOf : EventEnvelope → Option String) (label : String) :
    store.byIndex (rebuildIndex labelOf store.archiveEvents label)
        (rebuildIndex labelOf store.events label) =
      store.all.filter fun event => labelOf event = some label := by
  unfold InMemoryEventStore.byIndex InMemoryEventStore.all
  rw [rebuildIndex_apply, rebuildIndex_apply, h.filterMap_index (List.filter_subset_self _),
    h.filter_archiveEvents, List.filter_append]
  dsimp only
  split
  · next hnone =>
    rw [List.isEmpty_iff, List.map_eq_nil_iff] at hnone
    rw [hnone, List.nil_append]
  · rfl

theorem byTopic_eq (h : Consistent store) (topic : String) :
    store.byTopic topic = store.all.filter (·.topic = topic) := by
  unfold InMemoryEventStore.byTopic
  rw [h.archiveTopicIndex, h.topicIndex, h.byIndex_eq]
  simp only [Option.some.injEq]

theorem byDecision_eq (h : Consistent store) (decisionId : String) :
    store.byDecision decisionId =
      store.all.filter (InMemoryEventStore.ofDecision decisionId) := by
  unfold InMemoryEventStore.byDecision
  rw [h.archiveDecisionIndex, h.decisionIndex, h.byIndex_eq]
  rfl

theorem get_eq (h : Consistent store) (eventId : String) :
    store.get eventId = store.all.find? fun event => event.eventId = eventId := by
  unfold InMemoryEventStore.get InMemoryEventStore.all
  rw [List.find?_append]
  cases hhot : store.index eventId with
  | some event =>
    obtain ⟨hmem, rfl⟩ := (h.index _ _).mp hhot
    have hold : store.archiveEvents.find? (fun other => other.eventId = event.eventId) = none := by
      refine List.find?_eq_none.mpr fun other hother heq => ?_
      exact (List.nodup_append.mp (List.map_append ▸ h.nodup)).2.2 _
        (List.mem_map_of_mem hother) _ (List.mem_map_of_mem hmem) (of_decide_eq_true heq)
    have hfound : store.events.find? (fun other => other.eventId = event.eventId) = some event := by
      cases hfind : store.events.find? (fun other => other.eventId = event.eventId) with
      | none => exact absurd (decide_eq_true rfl) (List.find?_eq_none.mp hfind event hmem)
      | some other =>
        have hid := List.find?_some hfind
        rw [h.eq_of_eventId (List.mem_append_right _ (List.mem_of_find?_eq_some hfind))
          (List.mem_append_right _ hmem) (of_decide_eq_true hid)]
    rw [hold, hfound]
    rfl
  | none =>
    have hnone : store.events.find? (fun other => other.eventId = eventId) = none := by
      refine List.find?_eq_none.mpr fun other hother heq => ?_
      rw [(h.index _ _).mpr ⟨hother, of_decide_eq_true heq⟩] at hhot
      cases hhot
    rw [hnone, Option.or_none]

theorem lookup_getMany (h : Consistent store) (eventIds : List String) (eventId : String) :
    (store.getMany eventIds).lookup eventId =
      if eventId ∈ InMemoryEventStore.uniqueIds eventIds then
        store.all.find? fun event => event.eventId = eventId
      else none := by
  unfold InMemoryEventStore.getMany
  dsimp only
  rw [List.lookup_append, lookup_filterMap_key, lookup_map_eventId, ← h.get_eq, List.find?_filter]
  unfold InMemoryEventStore.get
  by_cases hwanted : eventId ∈ InMemoryEventStore.uniqueIds eventIds
  · rw [if_pos hwanted, if_pos hwanted]
    cases hhot : store.index eventId with
    | some event => rfl
    | none =>
      rw [Option.none_or]
      refine congrArg (fun test => store.archiveEvents.find? test) (funext fun event => ?_)
      rw [Bool.eq_iff_iff]
      simp only [List.mem_filter, decide_eq_true_eq, and_iff_right_iff_imp]
      rintro rfl
      exact ⟨hwanted, by rw [hhot]; rfl⟩
  · rw [if_neg hwanted, if_neg hwanted, Option.none_or, List.find?_eq_none]
    intro event _ hfound
    simp only [List.mem_filter, decide_eq_true_eq] at hfound
    exact hwanted (hfound.2 ▸ hfound.1.1)

theorem count_eq (h : Consistent store) (topic decisionId : Option String) :
    store.count topic decisionId =
      store.all.countP fun event =>
        topic.all (event.topic = ·) && decisionId.all (InMemoryEventStore.ofDecision · event) := by
  cases topic with
  | none => cases decisionId with
    | none => simp [InMemoryEventStore.count, InMemoryEventStore.all]
    | some decisionId =>
      simp only [InMemoryEventStore.count, h.archiveDecisionIndex, h.decisionIndex,
        rebuildIndex_apply, List.length_map, InMemoryEventStore.all,
        List.countP_eq_length_filter, Option.all_none, Option.all_some, Bool.true_and]
      rw [List.filter_append, List.length_append]
      rfl
  | some topic => cases decisionId with
    | none =>
      simp [InMemoryEventStore.count, h.archiveTopicIndex, h.topicIndex, rebuildIndex_apply,
        InMemoryEventStore.all, List.countP_eq_length_filter]
    | some decisionId => rfl

end Consistent

theorem latest_eq (store : InMemoryEventStore) (topic : String) (key : Option String) :
    store.latest topic key =
      store.all.reverse.find? (InMemoryEventStore.hasTopicAndKey topic key) := by
  unfold InMemoryEventStore.latest InMemoryEventStore.all
  rw [List.reverse_append, List.find?_append]
  cases store.events.reverse.find? (InMemoryEventStore.hasTopicAndKey topic key) <;> rfl

/-! ### When an archiving is seen -/

structure SameAnswers (before after : InMemoryEventStore) : Prop where
  all : after.all = before.all
  count : after.count = before.count
  get : after.get = before.get
  getMany : ∀ eventIds eventId,
    (after.getMany eventIds).lookup eventId = (before.getMany eventIds).lookup eventId
  latest : after.latest = before.latest
  byTopic : after.byTopic = before.byTopic
  recentByTopic : after.recentByTopic = before.recentByTopic
  recentByTopicAndKey : after.recentByTopicAndKey = before.recentByTopicAndKey
  byTopicScoped : after.byTopicScoped = before.byTopicScoped
  latestByTopicScoped : after.latestByTopicScoped = before.latestByTopicScoped
  countByTopicScoped : after.countByTopicScoped = before.countByTopicScoped
  byDecision : after.byDecision = before.byDecision
  between : after.between = before.between

theorem Consistent.sameAnswers {before after : InMemoryEventStore} (hbefore : Consistent before)
    (hafter : Consistent after) (hall : after.all = before.all) : SameAnswers before after := by
  have htopic : after.byTopic = before.byTopic :=
    funext fun topic => by rw [hafter.byTopic_eq, hbefore.byTopic_eq, hall]
  have hscoped : after.byTopicScoped = before.byTopicScoped := by
    unfold InMemoryEventStore.byTopicScoped
    rw [htopic]
  refine ⟨hall, ?_, ?_, ?_, ?_, htopic, ?_, ?_, hscoped, ?_, ?_, ?_, ?_⟩
  · funext topic decisionId
    rw [hafter.count_eq, hbefore.count_eq, hall]
  · funext eventId
    rw [hafter.get_eq, hbefore.get_eq, hall]
  · intro eventIds eventId
    rw [hafter.lookup_getMany, hbefore.lookup_getMany, hall]
  · funext topic key
    rw [latest_eq, latest_eq, hall]
  · unfold InMemoryEventStore.recentByTopic
    rw [htopic]
  · unfold InMemoryEventStore.recentByTopicAndKey
    rw [htopic]
  · unfold InMemoryEventStore.latestByTopicScoped
    rw [htopic]
  · unfold InMemoryEventStore.countByTopicScoped
    rw [hscoped, htopic]
  · funext decisionId
    rw [hafter.byDecision_eq, hbefore.byDecision_eq, hall]
  · unfold InMemoryEventStore.between
    rw [hall]

def MovesBeginning (store : InMemoryEventStore) (beforeTs : Timestamp) : Prop :=
  store.events.Pairwise fun first second =>
    second.eventTimestamp < beforeTs → first.eventTimestamp < beforeTs

theorem all_archiveBefore_iff (store : InMemoryEventStore) (beforeTs : Timestamp) :
    (store.archiveBefore beforeTs).1.all = store.all ↔ MovesBeginning store beforeTs := by
  rw [all_archiveBefore]
  unfold InMemoryEventStore.all MovesBeginning
  rw [List.append_cancel_left_eq, eq_comm]
  simp only [decide_not]
  exact StableSort.eq_filter_append_iff.trans (by simp only [decide_eq_true_eq])

theorem sameAnswers_archiveBefore_iff {store : InMemoryEventStore} (h : Consistent store)
    (beforeTs : Timestamp) :
    SameAnswers store (store.archiveBefore beforeTs).1 ↔ MovesBeginning store beforeTs := by
  rw [← all_archiveBefore_iff]
  exact ⟨SameAnswers.all, h.sameAnswers (h.archiveBefore beforeTs)⟩

/-! ### Runs -/

def appended (actions : List Action) : List EventEnvelope :=
  actions.filterMap fun action =>
    match action with
    | .append envelope => some envelope
    | .archiveBefore _ => none

def distinctById (events : List EventEnvelope) : List EventEnvelope :=
  events.foldl (fun kept event =>
    if ∃ other ∈ kept, other.eventId = event.eventId then kept else kept ++ [event]) []

/-- Every archiving of a run moves a beginning. -/
def ArchivesBeginnings (actions : List Action) : Prop :=
  ∀ before beforeTs after, actions = before ++ Action.archiveBefore beforeTs :: after →
    MovesBeginning (storeAfter before) beforeTs

theorem ArchivesBeginnings.init {actions : List Action} {action : Action}
    (h : ArchivesBeginnings (actions ++ [action])) : ArchivesBeginnings actions :=
  fun before beforeTs after heq =>
    h before beforeTs (after ++ [action]) (by rw [heq, List.append_assoc, List.cons_append])

theorem appended_append (actions : List Action) (envelope : EventEnvelope) :
    appended (actions ++ [.append envelope]) = appended actions ++ [envelope] :=
  List.filterMap_append

theorem appended_archiveBefore (actions : List Action) (beforeTs : Timestamp) :
    appended (actions ++ [.archiveBefore beforeTs]) = appended actions :=
  List.filterMap_append.trans (List.append_nil _)

theorem distinctById_concat (events : List EventEnvelope) (event : EventEnvelope) :
    distinctById (events ++ [event]) =
      if ∃ other ∈ distinctById events, other.eventId = event.eventId then distinctById events
      else distinctById events ++ [event] :=
  List.foldl_append

theorem Consistent.all_append {store : InMemoryEventStore} (h : Consistent store)
    (envelope : EventEnvelope) :
    (store.append envelope).all =
      if ∃ event ∈ store.all, event.eventId = envelope.eventId then store.all
      else store.all ++ [envelope] := by
  split
  · next hknown => rw [h.append_of_known hknown]
  · next hnew => exact h.append_all hnew

/-- **Every id that was appended is there once**, with the event that came first. -/
theorem all_storeAfter_perm (actions : List Action) :
    (storeAfter actions).all.Perm (distinctById (appended actions)) := by
  induction actions using List.reverseRecOn with
  | nil => exact List.Perm.nil
  | append_singleton actions action ih =>
    rw [storeAfter_concat]
    cases action with
    | append envelope =>
      rw [appended_append, distinctById_concat]
      refine ((consistent_storeAfter actions).all_append envelope).symm ▸ ?_
      simp only [ih.mem_iff]
      split
      · exact ih
      · exact ih.append_right _
    | archiveBefore beforeTs =>
      rw [appended_archiveBefore]
      exact (all_archiveBefore_perm _ beforeTs).trans ih

/-- **In a run that archives beginnings, the events stay in the order of their first appends.** -/
theorem all_storeAfter_eq {actions : List Action} (h : ArchivesBeginnings actions) :
    (storeAfter actions).all = distinctById (appended actions) := by
  induction actions using List.reverseRecOn with
  | nil => rfl
  | append_singleton actions action ih =>
    rw [storeAfter_concat]
    cases action with
    | append envelope =>
      rw [appended_append, distinctById_concat, ← ih h.init]
      exact (consistent_storeAfter actions).all_append envelope
    | archiveBefore beforeTs =>
      rw [appended_archiveBefore, ← ih h.init]
      exact (all_archiveBefore_iff _ beforeTs).mpr (h actions beforeTs [] rfl)

/-- The readers that look events up agree with a pass over `all`. -/
structure AnswersFromAll (store : InMemoryEventStore) : Prop where
  get : ∀ eventId, store.get eventId = store.all.find? fun event => event.eventId = eventId
  getMany : ∀ eventIds eventId, (store.getMany eventIds).lookup eventId =
    if eventId ∈ InMemoryEventStore.uniqueIds eventIds then
      store.all.find? fun event => event.eventId = eventId
    else none
  byTopic : ∀ topic, store.byTopic topic = store.all.filter (·.topic = topic)
  byDecision : ∀ decisionId,
    store.byDecision decisionId = store.all.filter (InMemoryEventStore.ofDecision decisionId)
  count : ∀ topic decisionId, store.count topic decisionId =
    store.all.countP fun event =>
      topic.all (event.topic = ·) && decisionId.all (InMemoryEventStore.ofDecision · event)

/-- **Archiving and the readers**, after any appends and archivings. -/
theorem archiving_invisible_iff (actions : List Action) :
    ((storeAfter actions).all.map (·.eventId)).Nodup ∧
      (storeAfter actions).all.Perm (distinctById (appended actions)) ∧
      (∀ envelope : EventEnvelope,
        (∃ event ∈ (storeAfter actions).all, event.eventId = envelope.eventId) →
          (storeAfter actions).append envelope = storeAfter actions) ∧
      AnswersFromAll (storeAfter actions) ∧
      (∀ beforeTs, SameAnswers (storeAfter actions) ((storeAfter actions).archiveBefore beforeTs).1 ↔
        MovesBeginning (storeAfter actions) beforeTs) ∧
      (ArchivesBeginnings actions →
        (storeAfter actions).all = distinctById (appended actions)) := by
  have h := consistent_storeAfter actions
  refine ⟨h.nodup, all_storeAfter_perm actions, fun _ => h.append_of_known, ?_,
    sameAnswers_archiveBefore_iff h, all_storeAfter_eq⟩
  exact ⟨h.get_eq, h.lookup_getMany, h.byTopic_eq, h.byDecision_eq, h.count_eq⟩

/-- An event of a later time that is appended before an event of an earlier one. -/
def lateThenEarly : InMemoryEventStore :=
  storeAfter [.append ⟨"late", 10, "prices", "BTC", []⟩, .append ⟨"early", 5, "prices", "BTC", []⟩]

/-- The archiving moves the second event before the first, and `latest` finds the first. -/
theorem archiving_changes_latest :
    (lateThenEarly.latest "prices" none).map (·.eventId) = some "early" ∧
      ((lateThenEarly.archiveBefore 7).1.latest "prices" none).map (·.eventId) = some "late" ∧
      ¬SameAnswers lateThenEarly (lateThenEarly.archiveBefore 7).1 := by
  have hbefore : (lateThenEarly.latest "prices" none).map (·.eventId) = some "early" := rfl
  have hafter :
      ((lateThenEarly.archiveBefore 7).1.latest "prices" none).map (·.eventId) = some "late" := rfl
  refine ⟨hbefore, hafter, fun hsame => ?_⟩
  rw [hsame.latest, hbefore] at hafter
  exact absurd hafter (by decide)

end Aats.Storage
