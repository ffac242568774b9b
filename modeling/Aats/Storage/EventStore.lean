import Aats.Recovery.OrderLedger
import Mathlib.Data.List.Lookmap

/-!
# The event store in memory

`InMemoryEventStore` of `storage/event_store.py`. Events that are older than a time are moved to an
archive, and the readers put the archive before the events that are still hot. Seven indexes find the
events by their id, their topic or their decision; those of the hot events and of the archive are built
again when events are moved.

## Main definitions
* `InMemoryEventStore` — the two lists and the indexes, with `append` and `archiveBefore`.
-/

namespace Aats.Storage

open Execution (Timestamp strip)
open Recovery (RuntimeStateScope inferProductTypeFromSymbol)

/-! ### Events -/

inductive PayloadValue where
  | null
  | flag (value : Bool)
  | number (value : ℚ)
  | text (value : String)
  | list (items : List PayloadValue)
  | dict (items : List (String × PayloadValue))

namespace PayloadValue

/-- `isinstance(value, str)`. -/
def text? : PayloadValue → Option String
  | text value => some value
  | _ => none

/-- Does `or` keep the value? -/
def truthy : PayloadValue → Bool
  | null => false
  | flag value => value
  | number value => value ≠ 0
  | text value => value ≠ ""
  | list items => !items.isEmpty
  | dict items => !items.isEmpty

/-- `value is None`. -/
def isNull : PayloadValue → Bool
  | null => true
  | _ => false

/-- `items.get(key)`. -/
def get (items : List (String × PayloadValue)) (key : String) : PayloadValue :=
  (items.lookup key).getD null

end PayloadValue

/-- `EventEnvelope`, with what the store reads. -/
structure EventEnvelope where
  eventId : String
  eventTimestamp : Timestamp
  topic : String
  key : String
  payload : List (String × PayloadValue) := []

/-- `payload.get("decision_id")`, if it is a text. -/
def EventEnvelope.decisionId (event : EventEnvelope) : Option String :=
  (PayloadValue.get event.payload "decision_id").text?

def productTypeName : ProductType → String
  | .spot => "spot"
  | .derivatives => "derivatives"

def marginModeName : MarginMode → String
  | .cash => "cash"
  | .cross => "cross"
  | .isolated => "isolated"

def eventMatchesScope (event : EventEnvelope) (scope : RuntimeStateScope) : Bool :=
  let details := match PayloadValue.get event.payload "details" with
    | .dict items => items
    | _ => []
  let pick (key : String) : PayloadValue :=
    if (PayloadValue.get event.payload key).truthy then PayloadValue.get event.payload key
    else PayloadValue.get details key
  let symbol := pick "symbol"
  let productType : PayloadValue := match pick "product_type", symbol with
    | .null, .text name => .text (productTypeName (inferProductTypeFromSymbol name))
    | value, _ => value
  let marginMode : PayloadValue := match pick "margin_mode", productType.text? with
    | .null, some "spot" => .text "cash"
    | value, _ => value
  if !productType.isNull && productType.text? != some (productTypeName scope.productType) then false
  else if !marginMode.isNull && marginMode.text? != some (marginModeName scope.marginMode) then false
  else match symbol, pick "allowed_symbols" with
    | .text name, _ => scope.symbolAllowed name
    | _, .list items => items.all fun item =>
        match item with
        | .text name => scope.symbolAllowed name
        | _ => false
    | _, _ => true

/-! ### The store -/

/-- The ids of some events by a label: `dict[str, list[str]]`, where a label without ids has none. -/
abbrev IdIndex := String → List String

/-- `index.setdefault(label, []).append(event_id)`. -/
def IdIndex.add (index : IdIndex) (label eventId : String) : IdIndex :=
  Function.update index label (index label ++ [eventId])

def IdIndex.note (labelOf : EventEnvelope → Option String) (index : IdIndex) (event : EventEnvelope) :
    IdIndex :=
  match labelOf event with
  | some label => index.add label event.eventId
  | none => index

/-- `_rebuild_topic_index` and `_rebuild_decision_index`. -/
def rebuildIndex (labelOf : EventEnvelope → Option String) (events : List EventEnvelope) : IdIndex :=
  events.foldl (IdIndex.note labelOf) fun _ => []

structure InMemoryEventStore where
  events : List EventEnvelope := []
  archiveEvents : List EventEnvelope := []
  index : String → Option EventEnvelope := fun _ => none
  decisionIndex : IdIndex := fun _ => []
  topicIndex : IdIndex := fun _ => []
  archiveDecisionIndex : IdIndex := fun _ => []
  archiveTopicIndex : IdIndex := fun _ => []
  archivedIds : List String := []

/-- The result of `archive_before`. -/
structure ArchiveCounts where
  archivedEventCount : ℕ
  hotEventCount : ℕ
  archiveEventCount : ℕ
  deriving DecidableEq, Repr

namespace InMemoryEventStore

def append (store : InMemoryEventStore) (envelope : EventEnvelope) : InMemoryEventStore :=
  if (store.index envelope.eventId).isSome || store.archivedIds.contains envelope.eventId then store
  else
    { store with
      events := store.events ++ [envelope]
      index := Function.update store.index envelope.eventId (some envelope)
      topicIndex := store.topicIndex.note (fun event => some event.topic) envelope
      decisionIndex := store.decisionIndex.note EventEnvelope.decisionId envelope }

def archiveBefore (store : InMemoryEventStore) (beforeTs : Timestamp) :
    InMemoryEventStore × ArchiveCounts :=
  let moved := store.events.filter fun event => event.eventTimestamp < beforeTs
  let retained := store.events.filter fun event => ¬event.eventTimestamp < beforeTs
  if moved.isEmpty then
    (store, ⟨0, store.events.length, store.archiveEvents.length⟩)
  else
    let archive := store.archiveEvents ++ moved
    ({ events := retained
       archiveEvents := archive
       topicIndex := rebuildIndex (fun event => some event.topic) retained
       decisionIndex := rebuildIndex EventEnvelope.decisionId retained
       archiveTopicIndex := rebuildIndex (fun event => some event.topic) archive
       archiveDecisionIndex := rebuildIndex EventEnvelope.decisionId archive
       index := moved.foldl (fun index event => Function.update index event.eventId none) store.index
       archivedIds := store.archivedIds ++ moved.map (·.eventId) },
      ⟨moved.length, retained.length, archive.length⟩)

/-! ### The readers -/

variable (store : InMemoryEventStore)

def all : List EventEnvelope := store.archiveEvents ++ store.events

/-- `payload.get("decision_id") == decision_id`. -/
def ofDecision (decisionId : String) (event : EventEnvelope) : Bool :=
  event.decisionId = some decisionId

def count (topic decisionId : Option String) : ℕ :=
  match topic, decisionId with
  | none, none => store.archiveEvents.length + store.events.length
  | some topic, none => (store.archiveTopicIndex topic).length + (store.topicIndex topic).length
  | none, some decisionId =>
    (store.archiveDecisionIndex decisionId).length + (store.decisionIndex decisionId).length
  | some topic, some decisionId =>
    store.all.countP fun event => event.topic = topic && ofDecision decisionId event

def get (eventId : String) : Option EventEnvelope :=
  match store.index eventId with
  | some event => some event
  | none => store.archiveEvents.find? fun event => event.eventId = eventId

/-- The ids a reader asks for: stripped, not empty, each once. -/
def uniqueIds (eventIds : List String) : List String :=
  ((eventIds.map strip).filter (· ≠ "")).reverse.dedup.reverse

/-- `get_many`: the rows, each under the id of its event. -/
def getMany (eventIds : List String) : List (String × EventEnvelope) :=
  let wanted := uniqueIds eventIds
  let rows := wanted.filterMap fun eventId => (store.index eventId).map fun event => (eventId, event)
  let missing := wanted.filter fun eventId => (store.index eventId).isNone
  rows ++ (store.archiveEvents.filter fun event => event.eventId ∈ missing).map fun event =>
    (event.eventId, event)

/-- The test of `latest`. -/
def hasTopicAndKey (topic : String) (key : Option String) (event : EventEnvelope) : Bool :=
  event.topic = topic && key.all (event.key = ·)

def latest (topic : String) (key : Option String) : Option EventEnvelope :=
  match store.events.reverse.find? (hasTopicAndKey topic key) with
  | some event => some event
  | none => store.archiveEvents.reverse.find? (hasTopicAndKey topic key)

/-- `by_topic` and `by_decision`: hot events by their index, archived ones by their ids. -/
def byIndex (archiveIds hotIds : List String) : List EventEnvelope :=
  let hotEvents := hotIds.filterMap store.index
  if archiveIds.isEmpty then hotEvents
  else (store.archiveEvents.filter fun event => event.eventId ∈ archiveIds) ++ hotEvents

def byTopic (topic : String) : List EventEnvelope :=
  store.byIndex (store.archiveTopicIndex topic) (store.topicIndex topic)

def byDecision (decisionId : String) : List EventEnvelope :=
  store.byIndex (store.archiveDecisionIndex decisionId) (store.decisionIndex decisionId)

/-- `items[-limit:]` for a positive limit, and nothing for the others. -/
def lastOnes (limit : ℤ) (items : List EventEnvelope) : List EventEnvelope :=
  if limit ≤ 0 then [] else items.drop (items.length - limit.toNat)

def recentByTopic (topic : String) (limit : ℤ) : List EventEnvelope :=
  lastOnes limit (store.byTopic topic)

def recentByTopicAndKey (topic key : String) (limit : ℤ) : List EventEnvelope :=
  lastOnes limit ((store.byTopic topic).filter fun event => event.key = key)

def byTopicScoped (topic : String) (scope : RuntimeStateScope) (limit : Option ℤ) :
    List EventEnvelope :=
  let rows := (store.byTopic topic).filter fun event => eventMatchesScope event scope
  match limit with
  | none => rows
  | some limit => lastOnes limit rows

def latestByTopicScoped (topic : String) (scope : RuntimeStateScope) (key : Option String) :
    Option EventEnvelope :=
  (store.byTopic topic).reverse.find? fun event =>
    key.all (event.key = ·) && eventMatchesScope event scope

def countByTopicScoped (topic : String) (scope : RuntimeStateScope) (limit : Option ℤ) : ℕ :=
  match limit with
  | some limit => (store.byTopicScoped topic scope (some limit)).length
  | none => (store.byTopic topic).countP fun event => eventMatchesScope event scope

def between (startAt endAt : Option Timestamp) (topic decisionId : Option String) :
    List EventEnvelope :=
  store.all.filter fun event =>
    startAt.all (· ≤ event.eventTimestamp) && endAt.all (event.eventTimestamp ≤ ·) &&
      topic.all (event.topic = ·) && decisionId.all (ofDecision · event)

end InMemoryEventStore

/-! ### Runs -/

inductive Action where
  | append (envelope : EventEnvelope)
  | archiveBefore (beforeTs : Timestamp)

def InMemoryEventStore.perform (store : InMemoryEventStore) : Action → InMemoryEventStore
  | .append envelope => store.append envelope
  | .archiveBefore beforeTs => (store.archiveBefore beforeTs).1

def storeAfter (actions : List Action) : InMemoryEventStore :=
  actions.foldl InMemoryEventStore.perform {}

end Aats.Storage
