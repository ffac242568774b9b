import Aats.Replay.Wire

/-!
# The snapshots that a replay refers to

`data_platform/replay/derivatives_backtest/snapshot_refs.py`: a reference to a snapshot of the
instrument, of the position tiers, of the fees or of the funding schedule, with the window in
which it is effective, and the four of them that move as one set.

What identifies a snapshot is a digest of its dictionary without its path. The digest is a
parameter `sha256`.

## Main results
* `ImmutableSnapshotRef.fromDict_eq_ok`, `DerivativesSnapshotRefs.fromDict_eq_ok` — **what is read
  from a dictionary is a valid value with that dictionary**, and every valid value is read from
  its own.
-/

namespace Aats.Replay

open Fallible WireValue
open Execution (Timestamp)

/-- `SnapshotKindV1`. -/
inductive SnapshotKind
  | instrument
  | positionTier
  | executionFee
  | fundingSchedule
  deriving DecidableEq, Repr

def SnapshotKind.value : SnapshotKind → String
  | instrument => "instrument"
  | positionTier => "position_tier"
  | executionFee => "execution_fee"
  | fundingSchedule => "funding_schedule"

def derivativesSnapshotRefSchema : String := "derivatives-snapshot-ref/v1"

def derivativesSnapshotSetSchema : String := "derivatives-snapshot-set/v1"

def derivativesSnapshotMaxBytes : ℤ := 4 * 1024 * 1024

/-- `ImmutableSnapshotRefV1`. -/
structure ImmutableSnapshotRef where
  kind : SnapshotKind
  snapshotId : String
  relativePath : String
  rawSha256 : String
  sizeBytes : ℤ
  semanticSha256 : String
  sourceRegistryId : String
  sourceSealFingerprint : String
  sourceSchema : String
  effectiveFrom : Timestamp
  effectiveTo : Option Timestamp
  deriving DecidableEq, Repr

/-- The texts of a schema: short, without a blank, and of printable characters. -/
def isSchemaText (text : List Char) : Bool :=
  text ≠ [] && text.length ≤ 128 && text.all fun c => 33 ≤ c.toNat && c.toNat ≤ 126

/-- `_require_schema_text`. A text that `strip` changes has a character that is not printable. -/
def requireSchemaText : WireValue → String → Except ContractError String :=
  requireText isSchemaText "snapshot_source_schema_invalid"

def isStr (value : WireValue) (text : String) : Bool :=
  match value with
  | .str given => given = text
  | _ => false

theorem isStr_eq_true {value : WireValue} {text : String} :
    isStr value text = true ↔ value = .str text := by
  unfold isStr
  cases value <;> simp

def optionalTimestamp (ts : Option Timestamp) (fieldName : String) :
    Except ContractError WireValue :=
  match ts with
  | none => .ok .null
  | some ts => do
    let text ← canonicalUtcTimestamp ts fieldName
    return .str text

def requireOptionalTimestamp (value : WireValue) (fieldName : String) :
    Except ContractError (Option Timestamp) :=
  match value with
  | .null => .ok none
  | value => do
    let ts ← requireCanonicalUtcTimestamp value fieldName
    return some ts

theorem requireOptionalTimestamp_eq_ok {value : WireValue} {fieldName : String}
    {ts : Option Timestamp} : requireOptionalTimestamp value fieldName = .ok ts ↔
      optionalTimestamp ts fieldName = .ok value := by
  have hsome : ∀ v : WireValue, v ≠ .null →
      requireOptionalTimestamp v fieldName = (do
        let ts ← requireCanonicalUtcTimestamp v fieldName
        return some ts) := by
    intro v hv
    cases v <;> first | rfl | exact absurd rfl hv
  by_cases hnull : value = .null
  · subst hnull
    cases ts with
    | none => exact iff_of_true rfl rfl
    | some ts =>
      refine iff_of_false (by rintro ⟨⟩) fun h => ?_
      obtain ⟨text, -, h⟩ := bind_eq_ok.mp h
      cases pure_eq_ok.mp h
  · rw [hsome value hnull, bind_eq_ok]
    constructor
    · rintro ⟨parsed, hparsed, h⟩
      cases pure_eq_ok.mp h
      obtain ⟨text, htext, rfl⟩ := requireCanonicalUtcTimestamp_eq_ok.mp hparsed
      exact bind_eq_ok.mpr ⟨text, htext, rfl⟩
    · intro h
      cases ts with
      | none =>
        cases h
        exact absurd rfl hnull
      | some ts =>
        obtain ⟨text, htext, h⟩ := bind_eq_ok.mp h
        cases pure_eq_ok.mp h
        exact ⟨ts, requireCanonicalUtcTimestamp_eq_ok.mpr ⟨text, htext, rfl⟩, rfl⟩

/-! ### One reference -/

namespace ImmutableSnapshotRef

def postInit (ref : ImmutableSnapshotRef) : Except ContractError ImmutableSnapshotRef := do
  let _ ← requireCanonicalUuid (.str ref.snapshotId) "snapshot_id"
  let _ ← requireSafeRelativePosixPath (.str ref.relativePath) "relative_path"
  let _ ← requireSha256 (.str ref.rawSha256) "raw_sha256"
  let _ ← requireExactInt (.int ref.sizeBytes) "size_bytes" 1 derivativesSnapshotMaxBytes
  let _ ← requireSha256 (.str ref.semanticSha256) "semantic_sha256"
  let _ ← requireCanonicalUuid (.str ref.sourceRegistryId) "source_registry_id"
  let _ ← requireSha256 (.str ref.sourceSealFingerprint) "source_seal_fingerprint"
  let _ ← requireSchemaText (.str ref.sourceSchema) "source_schema"
  let effectiveFrom ← requireUtcDatetime ref.effectiveFrom "effective_from"
  match ref.effectiveTo with
  | none => return ref
  | some effectiveTo => do
    let effectiveTo ← requireUtcDatetime effectiveTo "effective_to"
    raiseIf (effectiveTo ≤ effectiveFrom) { code := "snapshot_effective_window_invalid" }
    return ref

def keys : List String :=
  ["schema", "kind", "snapshot_id", "relative_path", "raw_sha256", "size_bytes", "semantic_sha256",
    "source_registry_id", "source_seal_fingerprint", "source_schema", "effective_window"]

/-- The items of the dictionary of a reference after its path. -/
def laterItems (ref : ImmutableSnapshotRef) (start finish : WireValue) :
    List (String × WireValue) :=
  [("raw_sha256", .str ref.rawSha256), ("size_bytes", .int ref.sizeBytes),
    ("semantic_sha256", .str ref.semanticSha256), ("source_registry_id", .str ref.sourceRegistryId),
    ("source_seal_fingerprint", .str ref.sourceSealFingerprint),
    ("source_schema", .str ref.sourceSchema),
    ("effective_window", dictOf [("start", start), ("end", finish)])]

/-- The items of the dictionary of a reference before its path. -/
def firstItems (ref : ImmutableSnapshotRef) : List (String × WireValue) :=
  [("schema", .str derivativesSnapshotRefSchema), ("kind", .str ref.kind.value),
    ("snapshot_id", .str ref.snapshotId)]

def toDict (ref : ImmutableSnapshotRef) : Except ContractError WireValue := do
  let start ← canonicalUtcTimestamp ref.effectiveFrom "effective_from"
  let finish ← optionalTimestamp ref.effectiveTo "effective_to"
  return dictOf (ref.firstItems ++ [("relative_path", .str ref.relativePath)] ++
    ref.laterItems (.str start) finish)

/-- `semantic_identity_dict`, which has no path. -/
def semanticIdentityDict (ref : ImmutableSnapshotRef) : Except ContractError WireValue := do
  let start ← canonicalUtcTimestamp ref.effectiveFrom "effective_from"
  let finish ← optionalTimestamp ref.effectiveTo "effective_to"
  return dictOf (ref.firstItems ++ ref.laterItems (.str start) finish)

def fingerprint (sha256 : WireValue → String) (ref : ImmutableSnapshotRef) :
    Except ContractError String := do
  let payload ← ref.semanticIdentityDict
  return sha256 payload

end ImmutableSnapshotRef

/-- `SnapshotKindV1(value)`. -/
def SnapshotKind.ofWire (value : WireValue) : Except ContractError SnapshotKind :=
  match [SnapshotKind.instrument, .positionTier, .executionFee, .fundingSchedule].find?
      (fun kind : SnapshotKind => isStr value kind.value) with
  | some kind => .ok kind
  | none => .error { code := "snapshot_kind_invalid" }

theorem SnapshotKind.ofWire_eq_ok {value : WireValue} {kind : SnapshotKind} :
    SnapshotKind.ofWire value = .ok kind ↔ value = .str kind.value := by
  unfold SnapshotKind.ofWire
  constructor
  · intro h
    split at h
    · next found hfound =>
      cases h
      exact isStr_eq_true.mp (List.find?_some
        (p := fun kind : SnapshotKind => isStr value kind.value) hfound)
    · cases h
  · rintro rfl
    cases kind <;> rfl

theorem exists_optionalTimestamp {ts : Option Timestamp} (fieldName : String)
    (h : ∀ t, ts = some t → 0 ≤ t ∧ t < datetimeEnd) :
    ∃ value, optionalTimestamp ts fieldName = .ok value := by
  cases ts with
  | none => exact ⟨.null, rfl⟩
  | some t =>
    refine ⟨_, bind_eq_ok.mpr ⟨_, canonicalUtcTimestamp_eq_ok.mpr ⟨h t rfl, rfl⟩, rfl⟩⟩

namespace ImmutableSnapshotRef

def fromDict (value : WireValue) : Except ContractError ImmutableSnapshotRef := do
  let payload ← requireExactMappingKeys value keys "snapshot_ref_shape_invalid"
  raiseIf (¬isStr (payload.get "schema") derivativesSnapshotRefSchema)
    { code := "snapshot_ref_schema_invalid" }
  let window ← requireExactMappingKeys (payload.get "effective_window") ["start", "end"]
    "snapshot_effective_window_invalid"
  let kind ← SnapshotKind.ofWire (payload.get "kind")
  let snapshotId ← requireCanonicalUuid (payload.get "snapshot_id") "snapshot_id"
  let relativePath ← requireSafeRelativePosixPath (payload.get "relative_path") "relative_path"
  let rawSha256 ← requireSha256 (payload.get "raw_sha256") "raw_sha256"
  let sizeBytes ← requireExactInt (payload.get "size_bytes") "size_bytes" 1
    derivativesSnapshotMaxBytes
  let semanticSha256 ← requireSha256 (payload.get "semantic_sha256") "semantic_sha256"
  let sourceRegistryId ← requireCanonicalUuid (payload.get "source_registry_id")
    "source_registry_id"
  let sourceSealFingerprint ← requireSha256 (payload.get "source_seal_fingerprint")
    "source_seal_fingerprint"
  let sourceSchema ← requireSchemaText (payload.get "source_schema") "source_schema"
  let effectiveFrom ← requireCanonicalUtcTimestamp (window.get "start") "effective_from"
  let effectiveTo ← requireOptionalTimestamp (window.get "end") "effective_to"
  postInit
    { kind := kind, snapshotId := snapshotId, relativePath := relativePath, rawSha256 := rawSha256
      sizeBytes := sizeBytes, semanticSha256 := semanticSha256
      sourceRegistryId := sourceRegistryId, sourceSealFingerprint := sourceSealFingerprint
      sourceSchema := sourceSchema, effectiveFrom := effectiveFrom, effectiveTo := effectiveTo }

/-- What `__post_init__` asks for. -/
structure Valid (ref : ImmutableSnapshotRef) : Prop where
  snapshotId : isCanonicalUuid ref.snapshotId.toList = true
  relativePath : isSafeRelativePosixPath ref.relativePath.toList = true
  rawSha256 : isSha256 ref.rawSha256.toList = true
  sizeBytes : 1 ≤ ref.sizeBytes ∧ ref.sizeBytes ≤ derivativesSnapshotMaxBytes
  semanticSha256 : isSha256 ref.semanticSha256.toList = true
  sourceRegistryId : isCanonicalUuid ref.sourceRegistryId.toList = true
  sourceSealFingerprint : isSha256 ref.sourceSealFingerprint.toList = true
  sourceSchema : isSchemaText ref.sourceSchema.toList = true
  effectiveFrom : 0 ≤ ref.effectiveFrom ∧ ref.effectiveFrom < datetimeEnd
  effectiveTo : ∀ effectiveTo, ref.effectiveTo = some effectiveTo →
    (0 ≤ effectiveTo ∧ effectiveTo < datetimeEnd) ∧ ref.effectiveFrom < effectiveTo

theorem window_eq_ok {ref ref' : ImmutableSnapshotRef} :
    (match ref.effectiveTo with
      | none => (pure ref : Except ContractError ImmutableSnapshotRef)
      | some effectiveTo => do
        let effectiveTo ← requireUtcDatetime effectiveTo "effective_to"
        raiseIf (effectiveTo ≤ ref.effectiveFrom) { code := "snapshot_effective_window_invalid" }
        pure ref) = .ok ref' ↔
      (∀ effectiveTo, ref.effectiveTo = some effectiveTo →
        (0 ≤ effectiveTo ∧ effectiveTo < datetimeEnd) ∧ ref.effectiveFrom < effectiveTo) ∧
          ref' = ref := by
  cases ref.effectiveTo with
  | none =>
    simp only [pure_eq_ok, reduceCtorEq, false_imp_iff, implies_true, true_and]
    exact eq_comm
  | some effectiveTo =>
    simp only [bind_eq_ok, requireUtcDatetime_eq_ok, raiseIf_eq_ok, pure_eq_ok, Option.some.injEq,
      forall_eq', not_le]
    constructor
    · rintro ⟨resolved, ⟨hrange, rfl⟩, u, hlater, rfl⟩
      exact ⟨⟨hrange, hlater⟩, rfl⟩
    · rintro ⟨⟨hrange, hlater⟩, rfl⟩
      exact ⟨effectiveTo, ⟨hrange, rfl⟩, (), hlater, rfl⟩

theorem postInit_eq_ok {ref ref' : ImmutableSnapshotRef} :
    postInit ref = .ok ref' ↔ Valid ref ∧ ref' = ref := by
  simp only [postInit, bind_eq_ok, requireCanonicalUuid, requireSafeRelativePosixPath,
    requireSha256, requireSchemaText, requireText_eq_ok, requireExactInt_eq_ok,
    requireUtcDatetime_eq_ok, WireValue.str.injEq, WireValue.int.injEq, and_assoc,
    exists_eq_left']
  constructor
  · rintro ⟨h₁, h₂, h₃, h₄, h₄', h₅, h₆, h₇, h₈, resolved, h₉, h₉', rfl, hwindow⟩
    obtain ⟨hto, hsame⟩ := window_eq_ok.mp hwindow
    exact ⟨⟨h₁, h₂, h₃, ⟨h₄, h₄'⟩, h₅, h₆, h₇, h₈, ⟨h₉, h₉'⟩, hto⟩, hsame⟩
  · rintro ⟨⟨h₁, h₂, h₃, ⟨h₄, h₄'⟩, h₅, h₆, h₇, h₈, ⟨h₉, h₉'⟩, hto⟩, hsame⟩
    exact ⟨h₁, h₂, h₃, h₄, h₄', h₅, h₆, h₇, h₈, ref.effectiveFrom, h₉, h₉', rfl,
      window_eq_ok.mpr ⟨hto, hsame⟩⟩

theorem toDict_eq_ok {ref : ImmutableSnapshotRef} {value : WireValue} :
    ref.toDict = .ok value ↔ ∃ start finish,
      canonicalUtcTimestamp ref.effectiveFrom "effective_from" = .ok start ∧
        optionalTimestamp ref.effectiveTo "effective_to" = .ok finish ∧
        value = dictOf (ref.firstItems ++ [("relative_path", .str ref.relativePath)] ++
          ref.laterItems (.str start) finish) := by
  unfold toDict
  constructor
  · intro h
    obtain ⟨start, hstart, h⟩ := bind_eq_ok.mp h
    obtain ⟨finish, hfinish, h⟩ := bind_eq_ok.mp h
    exact ⟨start, finish, hstart, hfinish, (pure_eq_ok.mp h).symm⟩
  · rintro ⟨start, finish, hstart, hfinish, rfl⟩
    rw [hstart, ok_bind, hfinish, ok_bind]
    rfl

/-- **What is read from a dictionary is a valid reference with that dictionary**, and every valid
reference is read from its own. -/
theorem fromDict_eq_ok {value : WireValue} {ref : ImmutableSnapshotRef} :
    fromDict value = .ok ref ↔ Valid ref ∧ ref.toDict = .ok value := by
  simp only [fromDict, bind_eq_ok, requireCanonicalUuid, requireSafeRelativePosixPath,
    requireSha256, requireSchemaText, requireText_eq_ok, requireExactInt_eq_ok, raiseIf_eq_ok,
    not_not, isStr_eq_true, SnapshotKind.ofWire_eq_ok, requireCanonicalUtcTimestamp_eq_ok,
    requireOptionalTimestamp_eq_ok, postInit_eq_ok]
  constructor
  · rintro ⟨payload, hkeys, u, hschema, window, hwindow, kind, hkind, snapshotId, ⟨h₁, -⟩,
      relativePath, ⟨h₂, -⟩, rawSha256, ⟨h₃, -⟩, sizeBytes, ⟨h₄, -⟩, semanticSha256, ⟨h₅, -⟩,
      sourceRegistryId, ⟨h₆, -⟩, sourceSealFingerprint, ⟨h₇, -⟩, sourceSchema, ⟨h₈, -⟩,
      effectiveFrom, ⟨start, hstart, hstartValue⟩, effectiveTo, hfinish, hvalid, rfl⟩
    obtain ⟨-, rfl⟩ := requireExactMappingKeys_eq_ok.mp hkeys
    obtain ⟨-, rfl⟩ := requireExactMappingKeys_eq_ok.mp hwindow
    refine ⟨hvalid, toDict_eq_ok.mpr ⟨start, _, hstart, hfinish, ?_⟩⟩
    refine eq_dictOf hkeys _ rfl ?_
    have hwindowDict := eq_dictOf hwindow
      [("start", .str start), ("end", (payload.get "effective_window").get "end")] rfl
      (by simpa using hstartValue)
    simp only [firstItems, laterItems, List.cons_append, List.nil_append, List.forall_mem_cons,
      List.not_mem_nil, false_imp_iff, implies_true, and_true]
    exact ⟨hschema, hkind, h₁, h₂, h₃, h₄, h₅, h₆, h₇, h₈, hwindowDict⟩
  · rintro ⟨hvalid, hdict⟩
    obtain ⟨start, finish, hstart, hfinish, rfl⟩ := toDict_eq_ok.mp hdict
    obtain ⟨hkeys, hitems⟩ := dictOf_spec
      (ref.firstItems ++ [("relative_path", .str ref.relativePath)] ++
        ref.laterItems (.str start) finish) keys "snapshot_ref_shape_invalid" rfl (by decide)
    obtain ⟨hwindow, hwindowItems⟩ := dictOf_spec [("start", .str start), ("end", finish)]
      ["start", "end"] "snapshot_effective_window_invalid" rfl (by decide)
    generalize dictOf (_ ++ _ ++ _) = payload at *
    simp only [firstItems, laterItems, List.cons_append, List.nil_append, List.forall_mem_cons,
      List.not_mem_nil, false_imp_iff, implies_true, and_true] at hitems hwindowItems
    obtain ⟨hschema, hkind, h₁, h₂, h₃, h₄, h₅, h₆, h₇, h₈, h₉⟩ := hitems
    rw [← h₉] at hwindow hwindowItems
    exact ⟨payload, hkeys, (), hschema, _, hwindow, ref.kind, hkind, _, ⟨h₁, hvalid.snapshotId⟩,
      _, ⟨h₂, hvalid.relativePath⟩, _, ⟨h₃, hvalid.rawSha256⟩, _, ⟨h₄, hvalid.sizeBytes⟩,
      _, ⟨h₅, hvalid.semanticSha256⟩, _, ⟨h₆, hvalid.sourceRegistryId⟩,
      _, ⟨h₇, hvalid.sourceSealFingerprint⟩, _, ⟨h₈, hvalid.sourceSchema⟩,
      ref.effectiveFrom, ⟨start, hstart, hwindowItems.1⟩, ref.effectiveTo,
      hwindowItems.2.symm ▸ hfinish, hvalid, rfl⟩

theorem Valid.exists_toDict {ref : ImmutableSnapshotRef} (h : ref.Valid) :
    ∃ value, ref.toDict = .ok value := by
  obtain ⟨finish, hfinish⟩ := exists_optionalTimestamp "effective_to" fun t ht =>
    (h.effectiveTo t ht).1
  exact ⟨_, toDict_eq_ok.mpr ⟨_, finish, canonicalUtcTimestamp_eq_ok.mpr ⟨h.effectiveFrom, rfl⟩,
    hfinish, rfl⟩⟩

end ImmutableSnapshotRef

namespace ImmutableSnapshotRef

def EffectiveAt (ref : ImmutableSnapshotRef) (ts : Timestamp) : Prop :=
  ref.effectiveFrom ≤ ts ∧ ∀ effectiveTo, ref.effectiveTo = some effectiveTo → ts < effectiveTo

def validateAt (ref : ImmutableSnapshotRef) (ts : Timestamp) : Except ContractError Unit := do
  let point ← requireUtcDatetime ts "snapshot_use_ts"
  raiseIf (point < ref.effectiveFrom ∨ ref.effectiveTo.any (fun effectiveTo => effectiveTo ≤ point))
    { code := "snapshot_not_effective_at_timestamp", field := some ref.kind.value }

theorem validateAt_eq_ok {ref : ImmutableSnapshotRef} {ts : Timestamp} {u : Unit} :
    ref.validateAt ts = .ok u ↔ (0 ≤ ts ∧ ts < datetimeEnd) ∧ ref.EffectiveAt ts := by
  simp only [validateAt, bind_eq_ok, requireUtcDatetime_eq_ok, raiseIf_eq_ok, EffectiveAt]
  constructor
  · rintro ⟨point, ⟨hrange, rfl⟩, hnot⟩
    rw [not_or, not_lt] at hnot
    refine ⟨hrange, hnot.1, fun effectiveTo hto => ?_⟩
    rw [hto] at hnot
    simpa using hnot.2
  · rintro ⟨hrange, hfrom, hto⟩
    refine ⟨ts, ⟨hrange, rfl⟩, ?_⟩
    rintro (hlt | hany)
    · exact absurd hlt (not_lt.mpr hfrom)
    · obtain ⟨effectiveTo, heq, hle⟩ := (Option.any_eq_true _ _).mp hany
      exact absurd (hto effectiveTo heq) (not_lt.mpr (of_decide_eq_true hle))

end ImmutableSnapshotRef

/-! ### A set of references -/

/-- `DerivativesSnapshotRefsV1`. -/
structure DerivativesSnapshotRefs where
  instrument : ImmutableSnapshotRef
  positionTier : ImmutableSnapshotRef
  executionFee : ImmutableSnapshotRef
  fundingSchedule : ImmutableSnapshotRef
  deriving DecidableEq, Repr

namespace DerivativesSnapshotRefs

/-- The four references, in the order in which they are looked at. -/
def refs (s : DerivativesSnapshotRefs) : List ImmutableSnapshotRef :=
  [s.instrument, s.positionTier, s.executionFee, s.fundingSchedule]

/-- `__post_init__`. The letters of a path are those that `casefold` only lowers. -/
def postInit (s : DerivativesSnapshotRefs) : Except ContractError DerivativesSnapshotRefs := do
  raiseIf (s.refs.map (·.kind) ≠
    [.instrument, .positionTier, .executionFee, .fundingSchedule])
    { code := "snapshot_set_kind_mismatch" }
  raiseIf (¬(s.refs.map (·.snapshotId)).Nodup ∨
    ¬(s.refs.map fun ref => ref.relativePath.toList.map Char.toLower).Nodup)
    { code := "snapshot_set_identity_duplicate" }
  return s

def keys : List String :=
  ["schema", "instrument", "position_tier", "execution_fee", "funding_schedule"]

/-- The dictionary of a set, from what each reference gives. -/
def toDictWith (dict : ImmutableSnapshotRef → Except ContractError WireValue)
    (s : DerivativesSnapshotRefs) : Except ContractError WireValue := do
  let instrument ← dict s.instrument
  let positionTier ← dict s.positionTier
  let executionFee ← dict s.executionFee
  let fundingSchedule ← dict s.fundingSchedule
  return dictOf [("schema", .str derivativesSnapshotSetSchema), ("instrument", instrument),
    ("position_tier", positionTier), ("execution_fee", executionFee),
    ("funding_schedule", fundingSchedule)]

def toDict (s : DerivativesSnapshotRefs) : Except ContractError WireValue :=
  toDictWith ImmutableSnapshotRef.toDict s

def semanticIdentityDict (s : DerivativesSnapshotRefs) : Except ContractError WireValue :=
  toDictWith ImmutableSnapshotRef.semanticIdentityDict s

def fingerprint (sha256 : WireValue → String) (s : DerivativesSnapshotRefs) :
    Except ContractError String := do
  let payload ← s.semanticIdentityDict
  return sha256 payload

def fromDict (value : WireValue) : Except ContractError DerivativesSnapshotRefs := do
  let payload ← requireExactMappingKeys value keys "snapshot_set_shape_invalid"
  raiseIf (¬isStr (payload.get "schema") derivativesSnapshotSetSchema)
    { code := "snapshot_set_schema_invalid" }
  let instrument ← ImmutableSnapshotRef.fromDict (payload.get "instrument")
  let positionTier ← ImmutableSnapshotRef.fromDict (payload.get "position_tier")
  let executionFee ← ImmutableSnapshotRef.fromDict (payload.get "execution_fee")
  let fundingSchedule ← ImmutableSnapshotRef.fromDict (payload.get "funding_schedule")
  postInit
    { instrument := instrument, positionTier := positionTier, executionFee := executionFee
      fundingSchedule := fundingSchedule }

def validateAt (s : DerivativesSnapshotRefs) (ts : Timestamp) : Except ContractError Unit :=
  eachOf (fun ref => ref.validateAt ts) s.refs

/-- A set of which the references and the set itself pass the checks of their constructors. -/
structure Valid (s : DerivativesSnapshotRefs) : Prop where
  refs : ∀ ref ∈ s.refs, ref.Valid
  kinds : s.refs.map (·.kind) = [.instrument, .positionTier, .executionFee, .fundingSchedule]
  ids : (s.refs.map (·.snapshotId)).Nodup
  paths : (s.refs.map fun ref => ref.relativePath.toList.map Char.toLower).Nodup

theorem postInit_eq_ok {s s' : DerivativesSnapshotRefs} : postInit s = .ok s' ↔
    (s.refs.map (·.kind) = [.instrument, .positionTier, .executionFee, .fundingSchedule] ∧
      (s.refs.map (·.snapshotId)).Nodup ∧
      (s.refs.map fun ref => ref.relativePath.toList.map Char.toLower).Nodup) ∧ s' = s := by
  simp only [postInit, bind_eq_ok, raiseIf_eq_ok, pure_eq_ok, not_not, not_or, ne_eq]
  constructor
  · rintro ⟨u, hkinds, v, ⟨hids, hpaths⟩, rfl⟩
    exact ⟨⟨hkinds, hids, hpaths⟩, rfl⟩
  · rintro ⟨⟨hkinds, hids, hpaths⟩, rfl⟩
    exact ⟨(), hkinds, (), ⟨hids, hpaths⟩, rfl⟩

/-- **What is read from a dictionary is a valid set with that dictionary**, and every valid set is
read from its own. -/
theorem fromDict_eq_ok {value : WireValue} {s : DerivativesSnapshotRefs} :
    fromDict value = .ok s ↔ Valid s ∧ s.toDict = .ok value := by
  simp only [fromDict, toDict, toDictWith, bind_eq_ok, raiseIf_eq_ok, not_not, isStr_eq_true,
    ImmutableSnapshotRef.fromDict_eq_ok, postInit_eq_ok, pure_eq_ok]
  constructor
  · rintro ⟨payload, hkeys, u, hschema, instrument, ⟨hv₁, h₁⟩, positionTier, ⟨hv₂, h₂⟩,
      executionFee, ⟨hv₃, h₃⟩, fundingSchedule, ⟨hv₄, h₄⟩, ⟨hkinds, hids, hpaths⟩, rfl⟩
    obtain ⟨-, rfl⟩ := requireExactMappingKeys_eq_ok.mp hkeys
    refine ⟨⟨?_, hkinds, hids, hpaths⟩, _, h₁, _, h₂, _, h₃, _, h₄, ?_⟩
    · simp only [refs, List.forall_mem_cons, List.not_mem_nil, false_imp_iff, implies_true,
        and_true]
      exact ⟨hv₁, hv₂, hv₃, hv₄⟩
    · refine (eq_dictOf hkeys _ rfl ?_).symm
      simp only [List.forall_mem_cons, List.not_mem_nil, false_imp_iff, implies_true, and_true]
      exact hschema
  · rintro ⟨⟨hrefs, hkinds, hids, hpaths⟩, d₁, h₁, d₂, h₂, d₃, h₃, d₄, h₄, rfl⟩
    obtain ⟨hkeys, hitems⟩ := dictOf_spec
      [("schema", .str derivativesSnapshotSetSchema), ("instrument", d₁), ("position_tier", d₂),
        ("execution_fee", d₃), ("funding_schedule", d₄)] keys "snapshot_set_shape_invalid"
      rfl (by decide)
    simp only [List.forall_mem_cons, List.not_mem_nil, false_imp_iff, implies_true,
      and_true] at hitems
    simp only [refs, List.forall_mem_cons, List.not_mem_nil, false_imp_iff, implies_true,
      and_true] at hrefs
    obtain ⟨hschema, hd₁, hd₂, hd₃, hd₄⟩ := hitems
    obtain ⟨hv₁, hv₂, hv₃, hv₄⟩ := hrefs
    exact ⟨_, hkeys, (), hschema, s.instrument, ⟨hv₁, hd₁.symm ▸ h₁⟩, s.positionTier,
      ⟨hv₂, hd₂.symm ▸ h₂⟩, s.executionFee, ⟨hv₃, hd₃.symm ▸ h₃⟩, s.fundingSchedule,
      ⟨hv₄, hd₄.symm ▸ h₄⟩, ⟨hkinds, hids, hpaths⟩, rfl⟩

theorem Valid.exists_toDict {s : DerivativesSnapshotRefs} (h : s.Valid) :
    ∃ value, s.toDict = .ok value := by
  have hrefs := h.refs
  simp only [DerivativesSnapshotRefs.refs, List.forall_mem_cons, List.not_mem_nil, false_imp_iff,
    implies_true, and_true] at hrefs
  obtain ⟨d₁, h₁⟩ := hrefs.1.exists_toDict
  obtain ⟨d₂, h₂⟩ := hrefs.2.1.exists_toDict
  obtain ⟨d₃, h₃⟩ := hrefs.2.2.1.exists_toDict
  obtain ⟨d₄, h₄⟩ := hrefs.2.2.2.exists_toDict
  simp only [toDict, toDictWith, bind_eq_ok, pure_eq_ok]
  exact ⟨_, d₁, h₁, d₂, h₂, d₃, h₃, d₄, h₄, rfl⟩

/-- All references of a set are effective at a time. -/
def EffectiveAt (s : DerivativesSnapshotRefs) (ts : Timestamp) : Prop :=
  ∀ ref ∈ s.refs, ref.EffectiveAt ts

end DerivativesSnapshotRefs

/-- The check of one reference and of the one that takes its place; has it changed? -/
def transitionRef (sha256 : WireValue → String) (point : Timestamp)
    (previous replacement : ImmutableSnapshotRef) : Except ContractError Bool := do
  let before ← previous.fingerprint sha256
  let after ← replacement.fingerprint sha256
  if before = after then do
    previous.validateAt point
    replacement.validateAt point
    return false
  else do
    raiseIf (previous.snapshotId = replacement.snapshotId) { code := "snapshot_identity_conflict" }
    raiseIf (previous.effectiveTo ≠ some point ∨ replacement.effectiveFrom ≠ point)
      { code := "snapshot_transition_window_invalid", field := some replacement.kind.value }
    replacement.validateAt point
    return true

/-- The loop over the references of both sets; has one of them changed? -/
def transitionRefs (sha256 : WireValue → String) (point : Timestamp) :
    List (ImmutableSnapshotRef × ImmutableSnapshotRef) → Except ContractError Bool
  | [] => .ok false
  | (previous, replacement) :: rest => do
    let changed ← transitionRef sha256 point previous replacement
    let later ← transitionRefs sha256 point rest
    return changed || later

def validateSnapshotTransition (sha256 : WireValue → String)
    (active incoming : DerivativesSnapshotRefs) (switchTs : Timestamp) :
    Except ContractError (DerivativesSnapshotRefs × DerivativesSnapshotRefs) := do
  let point ← requireUtcDatetime switchTs "snapshot_switch_ts"
  let activeDict ← active.toDict
  let previous ← DerivativesSnapshotRefs.fromDict activeDict
  let incomingDict ← incoming.toDict
  let replacement ← DerivativesSnapshotRefs.fromDict incomingDict
  raiseIf (previous ≠ active ∨ replacement ≠ incoming)
    { code := "snapshot_transition_revalidation_mismatch" }
  let before ← previous.fingerprint sha256
  let after ← replacement.fingerprint sha256
  raiseIf (before = after) { code := "snapshot_activation_noop" }
  let changed ← transitionRefs sha256 point (previous.refs.zip replacement.refs)
  raiseIf (¬changed) { code := "snapshot_activation_noop" }
  return (previous, replacement)

theorem validateSnapshotTransition_eq_ok {sha256 : WireValue → String}
    {active incoming : DerivativesSnapshotRefs} {switchTs : Timestamp}
    {pair : DerivativesSnapshotRefs × DerivativesSnapshotRefs}
    (h : validateSnapshotTransition sha256 active incoming switchTs = .ok pair) :
    pair = (active, incoming) ∧ active.Valid ∧ incoming.Valid ∧
      active.fingerprint sha256 ≠ incoming.fingerprint sha256 := by
  simp only [validateSnapshotTransition, bind_eq_ok, DerivativesSnapshotRefs.fromDict_eq_ok,
    raiseIf_eq_ok, pure_eq_ok, not_or, not_not, ne_eq] at h
  obtain ⟨point, -, activeDict, -, previous, ⟨hactive, -⟩, incomingDict, -, replacement,
    ⟨hincoming, -⟩, u, ⟨rfl, rfl⟩, before, hbefore, after, hafter, v, hne, changed, -, w, -, rfl⟩ := h
  refine ⟨rfl, hactive, hincoming, fun heq => hne ?_⟩
  rw [hbefore, hafter] at heq
  exact Except.ok.inj heq

/-! ### A set -/

def newYear : Timestamp := 63902822400000000

/-- A reference to an artifact that is effective from the beginning of 2026. The bytes of an
artifact are those of its canonical JSON, so that both digests are the same. -/
def newYearRef (kind : SnapshotKind) (snapshotId sourceRegistryId : String) (sealDigit : Char)
    (sizeBytes : ℤ) (digest : String) : ImmutableSnapshotRef :=
  { kind := kind, snapshotId := snapshotId, relativePath := "snapshots/" ++ kind.value ++ ".json"
    rawSha256 := digest, sizeBytes := sizeBytes, semanticSha256 := digest
    sourceRegistryId := sourceRegistryId
    sourceSealFingerprint := String.ofList (List.replicate 64 sealDigit)
    sourceSchema := "aats.synthetic." ++ kind.value ++ ".v1"
    effectiveFrom := newYear, effectiveTo := none }

theorem newYearRef_valid {kind : SnapshotKind} {snapshotId sourceRegistryId digest : String}
    {sealDigit : Char} {sizeBytes : ℤ} (hid : isCanonicalUuid snapshotId.toList = true)
    (hregistry : isCanonicalUuid sourceRegistryId.toList = true)
    (hseal : isHexDigit sealDigit = true)
    (hsize : 1 ≤ sizeBytes ∧ sizeBytes ≤ derivativesSnapshotMaxBytes)
    (hdigest : isSha256 digest.toList = true) :
    (newYearRef kind snapshotId sourceRegistryId sealDigit sizeBytes digest).Valid where
  snapshotId := hid
  relativePath := by
    show isSafeRelativePosixPath ("snapshots/" ++ kind.value ++ ".json").toList = true
    cases kind <;> decide +kernel
  rawSha256 := hdigest
  sizeBytes := hsize
  semanticSha256 := hdigest
  sourceRegistryId := hregistry
  sourceSealFingerprint := isSha256_replicate hseal
  sourceSchema := by
    show isSchemaText ("aats.synthetic." ++ kind.value ++ ".v1").toList = true
    cases kind <;> decide +kernel
  effectiveFrom := by
    show 0 ≤ newYear ∧ newYear < datetimeEnd
    decide +kernel
  effectiveTo := nofun

/-- The references to four artifacts of the tests, from the beginning of 2026. -/
def newYearRefs : DerivativesSnapshotRefs :=
  { instrument := newYearRef .instrument "00000000-0000-4000-8000-000000000001"
      "00000000-0000-4000-8000-000000000011" '9' 1488
      "e10e46c5560fc3eef584e7efa1e1786b883972deb7ba31bff35e4a85f0dc8899"
    positionTier := newYearRef .positionTier "00000000-0000-4000-8000-000000000002"
      "00000000-0000-4000-8000-000000000012" 'a' 889
      "cdf8dadb8c9a979afd27f3a2faefbc3ef37c51055b4c4dec89419dcf235e75b8"
    executionFee := newYearRef .executionFee "00000000-0000-4000-8000-000000000003"
      "00000000-0000-4000-8000-000000000013" 'b' 793
      "9980742eba18f2da5eb48b1514f7d92168891b5c343fb5ec07ae5a89996e8686"
    fundingSchedule := newYearRef .fundingSchedule "00000000-0000-4000-8000-000000000004"
      "00000000-0000-4000-8000-000000000014" 'c' 889
      "34ba3cbe4d2e43ffbd987e68a243ec771f5144f4de5825064804f09e9f989470" }

theorem newYearRefs_valid : newYearRefs.Valid where
  refs := by
    intro ref hmem
    simp only [DerivativesSnapshotRefs.refs, newYearRefs, List.mem_cons, List.not_mem_nil,
      or_false] at hmem
    rcases hmem with rfl | rfl | rfl | rfl <;>
      exact newYearRef_valid (admits_ofList (by decide)) (admits_ofList (by decide)) (by decide)
        (by decide) (admits_ofList (by decide))
  kinds := rfl
  ids := by decide +kernel
  paths := by decide +kernel

def newYearFingerprint : String :=
  "393a79b3d09cb77a48119601fde4a0f5de048ac6e2c017f683e5f3bc48f50dfe"

end Aats.Replay
