import Aats.Replay.SnapshotRefs

/-!
# The events of a replay and their dictionaries

`data_platform/replay/derivatives_backtest/events.py`: six classes of events, each with a header
and a body of its own. The constructor of a class checks the event as a whole, `to_dict` writes
its dictionary, and `parse_derivative_replay_event` reads a dictionary back.

The id of an event is a digest of its dictionary without the id and without the paths of
snapshots. The digest is a parameter `sha256`.
-/

namespace Aats.Replay

open Fallible WireValue
open Execution (Timestamp)

/-! ### Where a record comes from -/

/-- `SourceRecordRefV1`. -/
structure SourceRecordRef where
  streamId : String
  sourceRegistryId : String
  parentArtifactSha256 : String
  sourceRecordSha256 : String
  deriving DecidableEq, Repr

namespace SourceRecordRef

def postInit (ref : SourceRecordRef) : Except ContractError SourceRecordRef := do
  let _ ← requireIdentifier (.str ref.streamId) "stream_id"
  let _ ← requireCanonicalUuid (.str ref.sourceRegistryId) "source_registry_id"
  let _ ← requireSha256 (.str ref.parentArtifactSha256) "parent_artifact_sha256"
  let _ ← requireSha256 (.str ref.sourceRecordSha256) "source_record_sha256"
  return ref

def items (ref : SourceRecordRef) : List (String × WireValue) :=
  [("stream_id", .str ref.streamId), ("source_registry_id", .str ref.sourceRegistryId),
    ("parent_artifact_sha256", .str ref.parentArtifactSha256),
    ("source_record_sha256", .str ref.sourceRecordSha256)]

def toDict (ref : SourceRecordRef) : WireValue := dictOf ref.items

def fromDict (value : WireValue) : Except ContractError SourceRecordRef := do
  let payload ← requireExactMappingKeys value
    ["stream_id", "source_registry_id", "parent_artifact_sha256", "source_record_sha256"]
    "source_record_ref_shape_invalid"
  let streamId ← requireIdentifier (payload.get "stream_id") "stream_id"
  let sourceRegistryId ← requireCanonicalUuid (payload.get "source_registry_id")
    "source_registry_id"
  let parentArtifactSha256 ← requireSha256 (payload.get "parent_artifact_sha256")
    "parent_artifact_sha256"
  let sourceRecordSha256 ← requireSha256 (payload.get "source_record_sha256")
    "source_record_sha256"
  postInit
    { streamId := streamId, sourceRegistryId := sourceRegistryId
      parentArtifactSha256 := parentArtifactSha256, sourceRecordSha256 := sourceRecordSha256 }

end SourceRecordRef

def revalidateSourceRef (value : SourceRecordRef) : Except ContractError SourceRecordRef := do
  let validated ← SourceRecordRef.fromDict value.toDict
  raiseIf (validated ≠ value) { code := "source_record_ref_revalidation_mismatch" }
  return validated

def revalidateSnapshotSet (value : DerivativesSnapshotRefs) :
    Except ContractError DerivativesSnapshotRefs := do
  let dict ← value.toDict
  let validated ← DerivativesSnapshotRefs.fromDict dict
  raiseIf (validated ≠ value) { code := "snapshot_set_revalidation_mismatch" }
  return validated

def revalidateSnapshotRef (value : ImmutableSnapshotRef) :
    Except ContractError ImmutableSnapshotRef := do
  let dict ← value.toDict
  let validated ← ImmutableSnapshotRef.fromDict dict
  raiseIf (validated ≠ value) { code := "snapshot_ref_revalidation_mismatch" }
  return validated

/-! ### Events -/

/-- `LiquidityRoleV1`. -/
inductive LiquidityRole
  | maker
  | taker
  deriving DecidableEq, Repr

def LiquidityRole.value : LiquidityRole → String
  | maker => "maker"
  | taker => "taker"

/-- `LiquidityRoleV1(value)`. -/
def LiquidityRole.ofWire (value : WireValue) : Except ContractError LiquidityRole :=
  match [LiquidityRole.maker, .taker].find? (fun role : LiquidityRole => isStr value role.value) with
  | some role => .ok role
  | none => .error { code := "liquidity_role_invalid" }

/-- `DerivativeEventKindV1(value)`. -/
def DerivativeEventKind.ofWire (value : WireValue) : Except ContractError DerivativeEventKind :=
  match derivativeEventKinds.find? (fun kind : DerivativeEventKind => isStr value kind.value) with
  | some kind => .ok kind
  | none => .error { code := "event_type_invalid" }

structure Bar (δ : Type) where
  barStartTs : Timestamp
  barEndTs : Timestamp
  openPrice : δ
  highPrice : δ
  lowPrice : δ
  closePrice : δ
  volumeContracts : δ
  featureRef : SourceRecordRef
  deriving DecidableEq, Repr

/-- The fields of an event after its header, one constructor for each class.  `δ` is the type of
its decimals. -/
inductive EventPayload (δ : Type)
  | contractTierEffective (snapshotRefs : DerivativesSnapshotRefs)
  | indexPrice (price : δ)
  | markPrice (price : δ)
  | fundingSettlement (rate : δ) (scheduleRef : ImmutableSnapshotRef) (observedAtTs : Timestamp)
  | tradable (referencePrice availableContracts : δ) (liquidityRole : LiquidityRole)
  | barClose (bar : Bar δ)
  deriving DecidableEq, Repr

/-- What an event has besides the fields of the header that the merge reads. -/
structure EventBody (δ : Type) where
  sourceRef : SourceRecordRef
  payload : EventPayload δ
  deriving DecidableEq, Repr

abbrev ReplayEvent (δ : Type) := DerivativeReplayEvent (EventBody δ)

section Map

variable {δ ε : Type}

def Bar.map (f : δ → ε) (bar : Bar δ) : Bar ε :=
  { barStartTs := bar.barStartTs, barEndTs := bar.barEndTs, openPrice := f bar.openPrice
    highPrice := f bar.highPrice, lowPrice := f bar.lowPrice, closePrice := f bar.closePrice
    volumeContracts := f bar.volumeContracts, featureRef := bar.featureRef }

def EventPayload.map (f : δ → ε) : EventPayload δ → EventPayload ε
  | contractTierEffective refs => contractTierEffective refs
  | indexPrice price => indexPrice (f price)
  | markPrice price => markPrice (f price)
  | fundingSettlement rate scheduleRef observed => fundingSettlement (f rate) scheduleRef observed
  | tradable price available role => tradable (f price) (f available) role
  | barClose bar => barClose (bar.map f)

def mapDecimals (f : δ → ε) (event : ReplayEvent δ) : ReplayEvent ε :=
  { header := event.header
    body := { sourceRef := event.body.sourceRef, payload := event.body.payload.map f } }

def EventPayload.kind : EventPayload δ → DerivativeEventKind
  | contractTierEffective _ => .contractTierEffective
  | indexPrice _ => .indexPrice
  | markPrice _ => .markPrice
  | fundingSettlement _ _ _ => .fundingSettlement
  | tradable _ _ _ => .tradable
  | barClose _ => .barClose

end Map

/-- What `==` compares: two decimals are equal if they are worth the same. -/
def worth (event : ReplayEvent Decimal) : ReplayEvent (Option ℚ) := mapDecimals Decimal.value event

/-! ### Writing -/

def derivativesReplayEventSchema : String := "derivatives-replay-event/v1"

def derivativesBacktestSymbol : String := "BTC-USDT-SWAP"

def derivativesMaxSourceSequence : ℤ := 2 ^ 63 - 1

/-- `EXPECTED_EVENT_STREAM_ID_V1`. -/
def expectedEventStreamId : DerivativeEventKind → String
  | .contractTierEffective => "contract-schedule"
  | .indexPrice => "index-price"
  | .markPrice => "mark-price"
  | .fundingSettlement => "funding-settlement"
  | .tradable => "tradable"
  | .barClose => "bar-close"

/-- `BAR_FEATURE_STREAM_ID_V1`. -/
def barFeatureStreamId : String := "bar-features"

/-- `identity_fields` of the header. -/
def identityFields (header : ReplayEventHeader) (sourceRef : SourceRecordRef) :
    Except ContractError (List (String × WireValue)) := do
  let ts ← canonicalUtcTimestamp header.ts "event_ts"
  return [("schema", .str derivativesReplayEventSchema), ("event_type", .str header.eventType.value),
    ("symbol", .str derivativesBacktestSymbol), ("ts", .str ts),
    ("source_sequence", .int header.sourceSequence), ("source_ref", sourceRef.toDict)]

/-- The dictionary under `ohlcv`. -/
def ohlcvDict (openPrice high low close volume : String) : WireValue :=
  dictOf [("open", .str openPrice), ("high", .str high), ("low", .str low), ("close", .str close),
    ("volume_contracts", .str volume)]

/-- `body`, or `identity_body` where a reference is written without its path. -/
def bodyWith (set : DerivativesSnapshotRefs → Except ContractError WireValue)
    (ref : ImmutableSnapshotRef → Except ContractError WireValue) :
    EventPayload Decimal → Except ContractError (List (String × WireValue))
  | .contractTierEffective snapshotRefs => do
    let refs ← set snapshotRefs
    return [("snapshot_refs", refs)]
  | .indexPrice price => do
    let price ← canonicalAccountingDecimal price "index_price"
    return [("price", .str price)]
  | .markPrice price => do
    let price ← canonicalAccountingDecimal price "mark_price"
    return [("price", .str price)]
  | .fundingSettlement rate scheduleRef observedAtTs => do
    let rate ← canonicalAccountingDecimal rate "funding_rate"
    let scheduleRef ← ref scheduleRef
    let observed ← canonicalUtcTimestamp observedAtTs "observed_at_ts"
    return [("rate", .str rate), ("schedule_ref", scheduleRef), ("observed_at_ts", .str observed)]
  | .tradable referencePrice availableContracts liquidityRole => do
    let price ← canonicalAccountingDecimal referencePrice "reference_price"
    let available ← canonicalAccountingDecimal availableContracts "available_contracts"
    return [("reference_price", .str price), ("available_contracts", .str available),
      ("liquidity_role", .str liquidityRole.value)]
  | .barClose bar => do
    let start ← canonicalUtcTimestamp bar.barStartTs "bar_start_ts"
    let finish ← canonicalUtcTimestamp bar.barEndTs "bar_end_ts"
    let openPrice ← canonicalAccountingDecimal bar.openPrice "open_price"
    let high ← canonicalAccountingDecimal bar.highPrice "high_price"
    let low ← canonicalAccountingDecimal bar.lowPrice "low_price"
    let close ← canonicalAccountingDecimal bar.closePrice "close_price"
    let volume ← canonicalAccountingDecimal bar.volumeContracts "volume_contracts"
    return [("bar_start_ts", .str start), ("bar_end_ts", .str finish),
      ("ohlcv", ohlcvDict openPrice high low close volume), ("feature_ref", bar.featureRef.toDict)]

def body : EventPayload Decimal → Except ContractError (List (String × WireValue)) :=
  bodyWith DerivativesSnapshotRefs.toDict ImmutableSnapshotRef.toDict

def identityBody : EventPayload Decimal → Except ContractError (List (String × WireValue)) :=
  bodyWith DerivativesSnapshotRefs.semanticIdentityDict ImmutableSnapshotRef.semanticIdentityDict

def toDict (event : ReplayEvent Decimal) : Except ContractError WireValue := do
  let items ← body event.body.payload
  let fields ← identityFields event.header event.body.sourceRef
  return dictOf (fields ++ [("event_id", .str event.header.eventId)] ++ items)

/-! ### Constructing -/

/-- `__post_init__` of the header. -/
def headerPostInit (header : ReplayEventHeader) (sourceRef : SourceRecordRef) :
    Except ContractError Unit := do
  let _ ← requireUtcDatetime header.ts "event_ts"
  let _ ← requireExactInt (.int header.sourceSequence) "source_sequence" 0
    derivativesMaxSourceSequence
  let _ ← requireSha256 (.str header.eventId) "event_id"
  let _ ← revalidateSourceRef sourceRef
  return ()

section Sha

-- `typed_json_sha256`.
variable (sha256 : WireValue → String)

def validateHeader (event : ReplayEvent Decimal) : Except ContractError Unit := do
  let items ← identityBody event.body.payload
  raiseIf (event.header.eventType ≠ event.body.payload.kind) { code := "event_header_type_mismatch" }
  headerPostInit event.header event.body.sourceRef
  raiseIf (event.body.sourceRef.streamId ≠ expectedEventStreamId event.header.eventType)
    { code := "event_source_stream_mismatch" }
  let fields ← identityFields event.header event.body.sourceRef
  raiseIf (event.header.eventId ≠ sha256 (dictOf (fields ++ items))) { code := "event_id_mismatch" }

/-- `ts.minute`. -/
def minuteOf (ts : Timestamp) : ℤ := ts / 60000000 % 60

/-- `ts.second`. -/
def secondOf (ts : Timestamp) : ℤ := ts / 1000000 % 60

/-- `ts.microsecond`. -/
def microsecondOf (ts : Timestamp) : ℤ := ts % 1000000

/-- `timedelta(minutes=15)`. -/
def fifteenMinutes : ℤ := 15 * 60 * 1000000

/-- The window of a bar: a quarter of an hour, up to the time of the event. -/
def BarWindow (start finish ts : Timestamp) : Prop :=
  finish - start = fifteenMinutes ∧ ts = finish ∧
    minuteOf start % 15 = 0 ∧ secondOf start = 0 ∧ microsecondOf start = 0 ∧
    minuteOf finish % 15 = 0 ∧ secondOf finish = 0 ∧ microsecondOf finish = 0

instance decidableBarWindow (start finish ts : Timestamp) : Decidable (BarWindow start finish ts) :=
  inferInstanceAs (Decidable (_ ∧ _))

/-- `__post_init__` of a bar before its header is checked. -/
def checkBar (bar : Bar Decimal) : Except ContractError Unit := do
  let _ ← requireUtcDatetime bar.barStartTs "bar_start_ts"
  let _ ← requireUtcDatetime bar.barEndTs "bar_end_ts"
  let openPrice ← requirePositiveDecimal bar.openPrice "open_price"
  let high ← requirePositiveDecimal bar.highPrice "high_price"
  let low ← requirePositiveDecimal bar.lowPrice "low_price"
  let close ← requirePositiveDecimal bar.closePrice "close_price"
  let _ ← requireNonNegativeDecimal bar.volumeContracts "volume_contracts"
  raiseIf (high.value < max (max openPrice.value close.value) low.value ∨
    min (min openPrice.value close.value) high.value < low.value) { code := "bar_ohlc_invalid" }
  let featureRef ← revalidateSourceRef bar.featureRef
  raiseIf (featureRef.streamId ≠ barFeatureStreamId) { code := "bar_feature_stream_mismatch" }

/-- `__post_init__` of a class up to the check of the header. -/
def checkPayload : EventPayload Decimal → Except ContractError Unit
  | .contractTierEffective snapshotRefs => do
    let _ ← revalidateSnapshotSet snapshotRefs
    return ()
  | .indexPrice price => do
    let _ ← requirePositiveDecimal price "index_price"
    return ()
  | .markPrice price => do
    let _ ← requirePositiveDecimal price "mark_price"
    return ()
  | .fundingSettlement rate scheduleRef observedAtTs => do
    let rate ← requireFiniteDecimal rate "funding_rate"
    raiseIf (¬(-1 < rate.value ∧ rate.value < 1)) { code := "funding_rate_invalid" }
    let scheduleRef ← revalidateSnapshotRef scheduleRef
    raiseIf (scheduleRef.kind.value ≠ "funding_schedule") { code := "funding_schedule_ref_invalid" }
    let _ ← requireUtcDatetime observedAtTs "observed_at_ts"
    return ()
  | .tradable referencePrice availableContracts liquidityRole => do
    let _ ← requirePositiveDecimal referencePrice "reference_price"
    let _ ← requireNonNegativeDecimal availableContracts "available_contracts"
    raiseIf (liquidityRole ≠ .taker) { code := "liquidity_role_out_of_v1_scope" }
  | .barClose bar => checkBar bar

/-- `__post_init__` of a class after the check of the header. -/
def checkAtTime (ts : Timestamp) : EventPayload Decimal → Except ContractError Unit
  | .contractTierEffective snapshotRefs =>
    eachOf (fun ref => raiseIf (ts < ref.effectiveFrom ∨
        ref.effectiveTo.any (fun effectiveTo => effectiveTo ≤ ts))
      { code := "snapshot_not_effective_at_activation", field := some ref.kind.value })
      snapshotRefs.refs
  | .fundingSettlement _ _ observedAtTs =>
    raiseIf (ts < observedAtTs) { code := "funding_observation_in_future" }
  | .barClose bar =>
    raiseIf (¬BarWindow bar.barStartTs bar.barEndTs ts) { code := "bar_window_invalid" }
  | _ => .ok ()

def postInit (event : ReplayEvent Decimal) : Except ContractError (ReplayEvent Decimal) := do
  checkPayload event.body.payload
  validateHeader sha256 event
  checkAtTime event.header.ts event.body.payload
  return event

/-- An event that its class can have: its constructor gives it back. -/
def ValidEvent (event : ReplayEvent Decimal) : Prop := postInit sha256 event = .ok event

/-! ### Reading -/

def parseHeader (payload : WireValue) : Except ContractError (ReplayEventHeader × SourceRecordRef) := do
  raiseIf (¬isStr (payload.get "schema") derivativesReplayEventSchema)
    { code := "event_schema_invalid" }
  raiseIf (¬isStr (payload.get "symbol") derivativesBacktestSymbol)
    { code := "event_symbol_out_of_v1_scope" }
  let kind ← DerivativeEventKind.ofWire (payload.get "event_type")
  let ts ← requireCanonicalUtcTimestamp (payload.get "ts") "event_ts"
  let sourceSequence ← requireExactInt (payload.get "source_sequence") "source_sequence" 0
    derivativesMaxSourceSequence
  let eventId ← requireSha256 (payload.get "event_id") "event_id"
  let sourceRef ← SourceRecordRef.fromDict (payload.get "source_ref")
  let header : ReplayEventHeader :=
    { eventType := kind, ts := ts, sourceSequence := sourceSequence.toNat, eventId := eventId }
  headerPostInit header sourceRef
  return (header, sourceRef)

def commonKeys : List String :=
  ["schema", "event_type", "symbol", "ts", "source_sequence", "source_ref", "event_id"]

def bodyKeys : DerivativeEventKind → List String
  | .contractTierEffective => ["snapshot_refs"]
  | .indexPrice => ["price"]
  | .markPrice => ["price"]
  | .fundingSettlement => ["rate", "schedule_ref", "observed_at_ts"]
  | .tradable => ["reference_price", "available_contracts", "liquidity_role"]
  | .barClose => ["bar_start_ts", "bar_end_ts", "ohlcv", "feature_ref"]

def parseBar (value : WireValue) : Except ContractError (Bar Decimal) := do
  let ohlcv ← requireExactMappingKeys (value.get "ohlcv")
    ["open", "high", "low", "close", "volume_contracts"] "bar_ohlcv_shape_invalid"
  let barStartTs ← requireCanonicalUtcTimestamp (value.get "bar_start_ts") "bar_start_ts"
  let barEndTs ← requireCanonicalUtcTimestamp (value.get "bar_end_ts") "bar_end_ts"
  let openPrice ← parseCanonicalAccountingDecimal (ohlcv.get "open") "open_price"
  let highPrice ← parseCanonicalAccountingDecimal (ohlcv.get "high") "high_price"
  let lowPrice ← parseCanonicalAccountingDecimal (ohlcv.get "low") "low_price"
  let closePrice ← parseCanonicalAccountingDecimal (ohlcv.get "close") "close_price"
  let volumeContracts ← parseCanonicalAccountingDecimal (ohlcv.get "volume_contracts")
    "volume_contracts"
  let featureRef ← SourceRecordRef.fromDict (value.get "feature_ref")
  return { barStartTs := barStartTs, barEndTs := barEndTs, openPrice := openPrice
           highPrice := highPrice, lowPrice := lowPrice, closePrice := closePrice
           volumeContracts := volumeContracts, featureRef := featureRef }

def parsePayload (value : WireValue) : DerivativeEventKind →
    Except ContractError (EventPayload Decimal)
  | .contractTierEffective => do
    let snapshotRefs ← DerivativesSnapshotRefs.fromDict (value.get "snapshot_refs")
    return .contractTierEffective snapshotRefs
  | .indexPrice => do
    let price ← parseCanonicalAccountingDecimal (value.get "price") "price"
    return .indexPrice price
  | .markPrice => do
    let price ← parseCanonicalAccountingDecimal (value.get "price") "price"
    return .markPrice price
  | .fundingSettlement => do
    let rate ← parseCanonicalAccountingDecimal (value.get "rate") "funding_rate"
    let scheduleRef ← ImmutableSnapshotRef.fromDict (value.get "schedule_ref")
    let observedAtTs ← requireCanonicalUtcTimestamp (value.get "observed_at_ts") "observed_at_ts"
    return .fundingSettlement rate scheduleRef observedAtTs
  | .tradable => do
    let role ← LiquidityRole.ofWire (value.get "liquidity_role")
    let referencePrice ← parseCanonicalAccountingDecimal (value.get "reference_price")
      "reference_price"
    let availableContracts ← parseCanonicalAccountingDecimal (value.get "available_contracts")
      "available_contracts"
    return .tradable referencePrice availableContracts role
  | .barClose => do
    let bar ← parseBar value
    return .barClose bar

def parseDerivativeReplayEvent (value : WireValue) : Except ContractError (ReplayEvent Decimal) :=
  match value with
  | .dict _ _ => do
    let (header, sourceRef) ← parseHeader value
    let _ ← requireExactMappingKeys value (commonKeys ++ bodyKeys header.eventType)
      "event_shape_invalid"
    let payload ← parsePayload value header.eventType
    postInit sha256 { header := header, body := { sourceRef := sourceRef, payload := payload } }
  | _ => .error { code := "event_shape_invalid" }

end Sha

end Aats.Replay
