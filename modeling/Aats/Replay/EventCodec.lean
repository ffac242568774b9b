import Aats.Replay.Events

/-!
# Reading and writing the events of a replay

An event is written with one spelling of each decimal and of each time, and reading checks the
spelling by writing again. What the constructor of an event checks depends on its decimals only
through what they are worth, so that an event and the one that is read back from its dictionary
pass the same checks.

## Main results
* `parseDerivativeReplayEvent_eq_ok` — **what is read from a dictionary is a valid event with that
  dictionary**, and every valid event, without the zeros at the end of its decimals, is read from
  its own.
* `parse_toDict` — **the round trips**.
-/

namespace Aats.Replay

open DecimalText Fallible WireValue
open Execution (Timestamp)

/-! ### References -/

namespace SourceRecordRef

/-- What `__post_init__` asks for. -/
structure Valid (ref : SourceRecordRef) : Prop where
  streamId : isIdentifier ref.streamId.toList = true
  sourceRegistryId : isCanonicalUuid ref.sourceRegistryId.toList = true
  parentArtifactSha256 : isSha256 ref.parentArtifactSha256.toList = true
  sourceRecordSha256 : isSha256 ref.sourceRecordSha256.toList = true

theorem postInit_eq_ok {ref ref' : SourceRecordRef} :
    postInit ref = .ok ref' ↔ Valid ref ∧ ref' = ref := by
  simp only [postInit, bind_eq_ok, requireIdentifier, requireCanonicalUuid, requireSha256,
    requireText_eq_ok, WireValue.str.injEq, pure_eq_ok, and_assoc, exists_eq_left']
  constructor
  · rintro ⟨h₁, h₂, h₃, h₄, rfl⟩
    exact ⟨⟨h₁, h₂, h₃, h₄⟩, rfl⟩
  · rintro ⟨⟨h₁, h₂, h₃, h₄⟩, rfl⟩
    exact ⟨h₁, h₂, h₃, h₄, rfl⟩

/-- **What is read from a dictionary is a valid reference with that dictionary**, and every valid
reference is read from its own. -/
theorem fromDict_eq_ok {value : WireValue} {ref : SourceRecordRef} :
    fromDict value = .ok ref ↔ Valid ref ∧ ref.toDict = value := by
  simp only [fromDict, bind_eq_ok, requireIdentifier, requireCanonicalUuid, requireSha256,
    requireText_eq_ok, postInit_eq_ok]
  constructor
  · rintro ⟨payload, hkeys, streamId, ⟨h₁, -⟩, sourceRegistryId, ⟨h₂, -⟩, parent, ⟨h₃, -⟩,
      record, ⟨h₄, -⟩, hvalid, rfl⟩
    obtain ⟨-, rfl⟩ := requireExactMappingKeys_eq_ok.mp hkeys
    refine ⟨hvalid, (eq_dictOf hkeys _ rfl ?_).symm⟩
    simp only [items, List.forall_mem_cons, List.not_mem_nil, false_imp_iff, implies_true,
      and_true]
    exact ⟨h₁, h₂, h₃, h₄⟩
  · rintro ⟨hvalid, rfl⟩
    obtain ⟨hkeys, hitems⟩ := dictOf_spec ref.items
      ["stream_id", "source_registry_id", "parent_artifact_sha256", "source_record_sha256"]
      "source_record_ref_shape_invalid" rfl (by decide)
    simp only [items, List.forall_mem_cons, List.not_mem_nil, false_imp_iff, implies_true,
      and_true] at hitems
    obtain ⟨h₁, h₂, h₃, h₄⟩ := hitems
    exact ⟨_, hkeys, _, ⟨h₁, hvalid.streamId⟩, _, ⟨h₂, hvalid.sourceRegistryId⟩, _,
      ⟨h₃, hvalid.parentArtifactSha256⟩, _, ⟨h₄, hvalid.sourceRecordSha256⟩, hvalid, rfl⟩

end SourceRecordRef

theorem revalidateSourceRef_eq_ok {value validated : SourceRecordRef} :
    revalidateSourceRef value = .ok validated ↔ value.Valid ∧ validated = value := by
  simp only [revalidateSourceRef, bind_eq_ok, SourceRecordRef.fromDict_eq_ok, raiseIf_eq_ok,
    pure_eq_ok, not_not, ne_eq]
  constructor
  · rintro ⟨ref, ⟨hvalid, -⟩, u, rfl, rfl⟩
    exact ⟨hvalid, rfl⟩
  · rintro ⟨hvalid, rfl⟩
    exact ⟨validated, ⟨hvalid, rfl⟩, (), rfl, rfl⟩

theorem revalidateSnapshotRef_eq_ok {value validated : ImmutableSnapshotRef} :
    revalidateSnapshotRef value = .ok validated ↔ value.Valid ∧ validated = value := by
  simp only [revalidateSnapshotRef, bind_eq_ok, ImmutableSnapshotRef.fromDict_eq_ok, raiseIf_eq_ok,
    pure_eq_ok, not_not, ne_eq]
  constructor
  · rintro ⟨dict, -, ref, ⟨hvalid, -⟩, u, rfl, rfl⟩
    exact ⟨hvalid, rfl⟩
  · rintro ⟨hvalid, rfl⟩
    obtain ⟨dict, hdict⟩ := hvalid.exists_toDict
    exact ⟨dict, hdict, validated, ⟨hvalid, hdict⟩, (), rfl, rfl⟩

theorem revalidateSnapshotSet_eq_ok {value validated : DerivativesSnapshotRefs} :
    revalidateSnapshotSet value = .ok validated ↔ value.Valid ∧ validated = value := by
  simp only [revalidateSnapshotSet, bind_eq_ok, DerivativesSnapshotRefs.fromDict_eq_ok,
    raiseIf_eq_ok, pure_eq_ok, not_not, ne_eq]
  constructor
  · rintro ⟨dict, -, s, ⟨hvalid, -⟩, u, rfl, rfl⟩
    exact ⟨hvalid, rfl⟩
  · rintro ⟨hvalid, rfl⟩
    obtain ⟨dict, hdict⟩ := hvalid.exists_toDict
    exact ⟨dict, hdict, validated, ⟨hvalid, hdict⟩, (), rfl, rfl⟩

/-! ### Enumerations -/

theorem LiquidityRole.ofWire_eq_ok {value : WireValue} {role : LiquidityRole} :
    LiquidityRole.ofWire value = .ok role ↔ value = .str role.value := by
  unfold LiquidityRole.ofWire
  constructor
  · intro h
    split at h
    · next found hfound =>
      cases h
      exact isStr_eq_true.mp (List.find?_some
        (p := fun role : LiquidityRole => isStr value role.value) hfound)
    · cases h
  · rintro rfl
    cases role <;> rfl

theorem DerivativeEventKind.ofWire_eq_ok {value : WireValue} {kind : DerivativeEventKind} :
    DerivativeEventKind.ofWire value = .ok kind ↔ value = .str kind.value := by
  unfold DerivativeEventKind.ofWire
  constructor
  · intro h
    split at h
    · next found hfound =>
      cases h
      exact isStr_eq_true.mp (List.find?_some
        (p := fun kind : DerivativeEventKind => isStr value kind.value) hfound)
    · cases h
  · rintro rfl
    cases kind <;> rfl

/-! ### Decimals -/

theorem requirePositiveDecimal_eq_ok {d : Decimal} {fieldName : String} {number : Dec} :
    requirePositiveDecimal d fieldName = .ok number ↔ Admits d number ∧ 0 < number.value := by
  simp only [requirePositiveDecimal, bind_eq_ok, requireFiniteDecimal_eq_ok, raiseIf_eq_ok,
    pure_eq_ok, not_le]
  constructor
  · rintro ⟨n, hadmits, u, hpos, rfl⟩
    exact ⟨hadmits, hpos⟩
  · rintro ⟨hadmits, hpos⟩
    exact ⟨number, hadmits, (), hpos, rfl⟩

theorem requireNonNegativeDecimal_eq_ok {d : Decimal} {fieldName : String} {number : Dec} :
    requireNonNegativeDecimal d fieldName = .ok number ↔ Admits d number ∧ 0 ≤ number.value := by
  simp only [requireNonNegativeDecimal, bind_eq_ok, requireFiniteDecimal_eq_ok, raiseIf_eq_ok,
    pure_eq_ok, not_lt]
  constructor
  · rintro ⟨n, hadmits, u, hpos, rfl⟩
    exact ⟨hadmits, hpos⟩
  · rintro ⟨hadmits, hpos⟩
    exact ⟨number, hadmits, (), hpos, rfl⟩

theorem Decimal.trimmed_eq_of_value_eq {d d' : Decimal} {number : Dec} (h : Admits d number)
    (hvalue : d.value = d'.value) : d.trimmed = d'.trimmed := by
  rw [h.value_eq] at hvalue
  cases d' with
  | nonFinite name => cases hvalue
  | finite number' =>
    rw [h.trimmed_eq, Decimal.trimmed]
    exact congrArg Decimal.finite (Dec.trimmed_eq_of_value_eq (Option.some.inj hvalue))

/-! ### The header -/

/-- What `__post_init__` of a header asks for. -/
structure HeaderValid (header : ReplayEventHeader) (sourceRef : SourceRecordRef) : Prop where
  ts : 0 ≤ header.ts ∧ header.ts < datetimeEnd
  sourceSequence : (header.sourceSequence : ℤ) ≤ derivativesMaxSourceSequence
  eventId : isSha256 header.eventId.toList = true
  sourceRef : sourceRef.Valid

theorem headerPostInit_eq_ok {header : ReplayEventHeader} {sourceRef : SourceRecordRef} {u : Unit} :
    headerPostInit header sourceRef = .ok u ↔ HeaderValid header sourceRef := by
  simp only [headerPostInit, bind_eq_ok, requireUtcDatetime_eq_ok, requireExactInt_eq_ok,
    requireSha256, requireText_eq_ok, revalidateSourceRef_eq_ok, WireValue.int.injEq,
    WireValue.str.injEq, and_assoc, exists_eq_left']
  constructor
  · rintro ⟨ts, h₁, h₁', -, -, h₂, h₃, ref, h₄, -, -⟩
    exact ⟨⟨h₁, h₁'⟩, h₂, h₃, h₄⟩
  · rintro ⟨⟨h₁, h₁'⟩, h₂, h₃, h₄⟩
    exact ⟨header.ts, h₁, h₁', rfl, Int.natCast_nonneg _, h₂, h₃, sourceRef, h₄, rfl, rfl⟩

theorem identityFields_eq_ok {header : ReplayEventHeader} {sourceRef : SourceRecordRef}
    {fields : List (String × WireValue)} : identityFields header sourceRef = .ok fields ↔
      ∃ ts, canonicalUtcTimestamp header.ts "event_ts" = .ok ts ∧ fields =
        [("schema", .str derivativesReplayEventSchema),
          ("event_type", .str header.eventType.value), ("symbol", .str derivativesBacktestSymbol),
          ("ts", .str ts), ("source_sequence", .int header.sourceSequence),
          ("source_ref", sourceRef.toDict)] := by
  simp only [identityFields, bind_eq_ok, pure_eq_ok, @eq_comm _ _ fields]

theorem parseHeader_eq_ok {payload : WireValue} {header : ReplayEventHeader}
    {sourceRef : SourceRecordRef} : parseHeader payload = .ok (header, sourceRef) ↔
      HeaderValid header sourceRef ∧ ∃ fields, identityFields header sourceRef = .ok fields ∧
        ∀ p ∈ fields ++ [("event_id", WireValue.str header.eventId)], payload.get p.1 = p.2 := by
  simp only [parseHeader, bind_eq_ok, raiseIf_eq_ok, not_not, isStr_eq_true,
    DerivativeEventKind.ofWire_eq_ok, requireCanonicalUtcTimestamp_eq_ok, requireExactInt_eq_ok,
    requireSha256, requireText_eq_ok, SourceRecordRef.fromDict_eq_ok, headerPostInit_eq_ok,
    pure_eq_ok, identityFields_eq_ok, Prod.mk.injEq]
  constructor
  · rintro ⟨u, hschema, v, hsymbol, kind, hkind, ts, ⟨text, htext, hts⟩, sequence, ⟨hseq, hnn, -⟩,
      eventId, ⟨hid, -⟩, ref, ⟨-, href⟩, w, hvalid, rfl, rfl⟩
    refine ⟨hvalid, _, ⟨text, htext, rfl⟩, ?_⟩
    have hcast : ((sequence.toNat : ℕ) : ℤ) = sequence := Int.toNat_of_nonneg hnn
    simp only [List.cons_append, List.nil_append, List.forall_mem_cons, List.not_mem_nil,
      false_imp_iff, implies_true, and_true, hcast]
    exact ⟨hschema, hkind, hsymbol, hts, hseq, href.symm, hid⟩
  · rintro ⟨hvalid, fields, ⟨text, htext, rfl⟩, hitems⟩
    simp only [List.cons_append, List.nil_append, List.forall_mem_cons, List.not_mem_nil,
      false_imp_iff, implies_true, and_true] at hitems
    obtain ⟨hschema, hkind, hsymbol, hts, hseq, href, hid⟩ := hitems
    exact ⟨(), hschema, (), hsymbol, header.eventType, hkind, header.ts, ⟨text, htext, hts⟩,
      header.sourceSequence, ⟨hseq, Int.natCast_nonneg _, hvalid.sourceSequence⟩, header.eventId,
      ⟨hid, hvalid.eventId⟩, sourceRef, ⟨hvalid.sourceRef, href.symm⟩, (), hvalid, rfl, rfl⟩

/-! ### The fields of a class -/

def EventPayload.decimals {δ : Type} : EventPayload δ → List δ
  | contractTierEffective _ => []
  | indexPrice price => [price]
  | markPrice price => [price]
  | fundingSettlement rate _ _ => [rate]
  | tradable price available _ => [price, available]
  | barClose bar =>
    [bar.openPrice, bar.highPrice, bar.lowPrice, bar.closePrice, bar.volumeContracts]

def EventPayload.RefsValid {δ : Type} : EventPayload δ → Prop
  | contractTierEffective refs => refs.Valid
  | fundingSettlement _ ref _ => ref.Valid
  | barClose bar => bar.featureRef.Valid
  | _ => True

def EventPayload.Finite (payload : EventPayload Decimal) : Prop :=
  ∀ d ∈ payload.decimals, ∃ number, Admits d number

section Fields

variable {set : DerivativesSnapshotRefs → Except ContractError WireValue}
  {ref : ImmutableSnapshotRef → Except ContractError WireValue} {payload : EventPayload Decimal}
  {items : List (String × WireValue)}

theorem bodyWith_keys (h : bodyWith set ref payload = .ok items) :
    items.map Prod.fst = bodyKeys payload.kind := by
  cases payload with
  | contractTierEffective refs =>
    simp only [bodyWith, bind_eq_ok, pure_eq_ok] at h
    obtain ⟨_, -, rfl⟩ := h
    rfl
  | indexPrice price =>
    simp only [bodyWith, bind_eq_ok, pure_eq_ok] at h
    obtain ⟨_, -, rfl⟩ := h
    rfl
  | markPrice price =>
    simp only [bodyWith, bind_eq_ok, pure_eq_ok] at h
    obtain ⟨_, -, rfl⟩ := h
    rfl
  | fundingSettlement rate scheduleRef observed =>
    simp only [bodyWith, bind_eq_ok, pure_eq_ok] at h
    obtain ⟨_, -, _, -, _, -, rfl⟩ := h
    rfl
  | tradable price available role =>
    simp only [bodyWith, bind_eq_ok, pure_eq_ok] at h
    obtain ⟨_, -, _, -, rfl⟩ := h
    rfl
  | barClose bar =>
    simp only [bodyWith, bind_eq_ok, pure_eq_ok] at h
    obtain ⟨_, -, _, -, _, -, _, -, _, -, _, -, _, -, rfl⟩ := h
    rfl

theorem bodyWith_trimmed (h : payload.Finite) :
    bodyWith set ref (payload.map Decimal.trimmed) = bodyWith set ref payload := by
  have htext : ∀ d ∈ payload.decimals, ∀ fieldName,
      canonicalAccountingDecimal d.trimmed fieldName = canonicalAccountingDecimal d fieldName := by
    intro d hd fieldName
    obtain ⟨number, hnumber⟩ := h d hd
    exact canonicalAccountingDecimal_trimmed hnumber fieldName
  cases payload with
  | contractTierEffective refs => rfl
  | indexPrice price =>
    simp only [EventPayload.map, bodyWith, htext price (by simp [EventPayload.decimals])]
  | markPrice price =>
    simp only [EventPayload.map, bodyWith, htext price (by simp [EventPayload.decimals])]
  | fundingSettlement rate scheduleRef observed =>
    simp only [EventPayload.map, bodyWith, htext rate (by simp [EventPayload.decimals])]
  | tradable price available role =>
    simp only [EventPayload.map, bodyWith, htext price (by simp [EventPayload.decimals]),
      htext available (by simp [EventPayload.decimals])]
  | barClose bar =>
    simp only [EventPayload.map, Bar.map, bodyWith,
      htext bar.openPrice (by simp [EventPayload.decimals]),
      htext bar.highPrice (by simp [EventPayload.decimals]),
      htext bar.lowPrice (by simp [EventPayload.decimals]),
      htext bar.closePrice (by simp [EventPayload.decimals]),
      htext bar.volumeContracts (by simp [EventPayload.decimals])]

end Fields

theorem kind_of_parsePayload {value : WireValue} {kind : DerivativeEventKind}
    {payload : EventPayload Decimal} (h : parsePayload value kind = .ok payload) :
    payload.kind = kind := by
  cases kind with
  | contractTierEffective =>
    obtain ⟨refs, -, h⟩ := bind_eq_ok.mp h
    cases pure_eq_ok.mp h
    rfl
  | indexPrice =>
    obtain ⟨price, -, h⟩ := bind_eq_ok.mp h
    cases pure_eq_ok.mp h
    rfl
  | markPrice =>
    obtain ⟨price, -, h⟩ := bind_eq_ok.mp h
    cases pure_eq_ok.mp h
    rfl
  | fundingSettlement =>
    obtain ⟨rate, -, h⟩ := bind_eq_ok.mp h
    obtain ⟨ref, -, h⟩ := bind_eq_ok.mp h
    obtain ⟨observed, -, h⟩ := bind_eq_ok.mp h
    cases pure_eq_ok.mp h
    rfl
  | tradable =>
    obtain ⟨role, -, h⟩ := bind_eq_ok.mp h
    obtain ⟨price, -, h⟩ := bind_eq_ok.mp h
    obtain ⟨available, -, h⟩ := bind_eq_ok.mp h
    cases pure_eq_ok.mp h
    rfl
  | barClose =>
    obtain ⟨bar, -, h⟩ := bind_eq_ok.mp h
    cases pure_eq_ok.mp h
    rfl

theorem parseBar_eq_ok {value : WireValue} {bar : Bar Decimal} : parseBar value = .ok bar ↔
    bar.map Decimal.trimmed = bar ∧ bar.featureRef.Valid ∧
      ∃ items, body (.barClose bar) = .ok items ∧ ∀ p ∈ items, value.get p.1 = p.2 := by
  simp only [parseBar, bind_eq_ok, requireCanonicalUtcTimestamp_eq_ok,
    parseCanonicalAccountingDecimal_eq_ok, SourceRecordRef.fromDict_eq_ok, pure_eq_ok, body,
    bodyWith]
  constructor
  · rintro ⟨ohlcv, hkeys, start, ⟨t₁, ht₁, hv₁⟩, finish, ⟨t₂, ht₂, hv₂⟩, openPrice,
      ⟨htrim₁, s₁, hs₁, hw₁⟩, high, ⟨htrim₂, s₂, hs₂, hw₂⟩, low, ⟨htrim₃, s₃, hs₃, hw₃⟩, close,
      ⟨htrim₄, s₄, hs₄, hw₄⟩, volume, ⟨htrim₅, s₅, hs₅, hw₅⟩, ref, ⟨hvalid, href⟩, rfl⟩
    obtain ⟨-, rfl⟩ := requireExactMappingKeys_eq_ok.mp hkeys
    have hohlcv : value.get "ohlcv" = ohlcvDict s₁ s₂ s₃ s₄ s₅ := by
      refine eq_dictOf hkeys _ rfl ?_
      simp only [List.forall_mem_cons, List.not_mem_nil, false_imp_iff, implies_true, and_true]
      exact ⟨hw₁, hw₂, hw₃, hw₄, hw₅⟩
    refine ⟨?_, hvalid, _, ⟨t₁, ht₁, t₂, ht₂, s₁, hs₁, s₂, hs₂, s₃, hs₃, s₄, hs₄, s₅, hs₅, rfl⟩, ?_⟩
    · simp only [Bar.map, htrim₁, htrim₂, htrim₃, htrim₄, htrim₅]
    · simp only [List.forall_mem_cons, List.not_mem_nil, false_imp_iff, implies_true, and_true]
      exact ⟨hv₁, hv₂, hohlcv, href.symm⟩
  · rintro ⟨htrim, hvalid, items, ⟨t₁, ht₁, t₂, ht₂, s₁, hs₁, s₂, hs₂, s₃, hs₃, s₄, hs₄, s₅, hs₅,
      rfl⟩, hitems⟩
    simp only [List.forall_mem_cons, List.not_mem_nil, false_imp_iff, implies_true,
      and_true] at hitems
    obtain ⟨hv₁, hv₂, hohlcv, href⟩ := hitems
    obtain ⟨hkeys, hw⟩ := dictOf_spec
      [("open", .str s₁), ("high", .str s₂), ("low", .str s₃), ("close", .str s₄),
        ("volume_contracts", .str s₅)] ["open", "high", "low", "close", "volume_contracts"]
      "bar_ohlcv_shape_invalid" rfl (by decide)
    simp only [List.forall_mem_cons, List.not_mem_nil, false_imp_iff, implies_true,
      and_true] at hw
    obtain ⟨hw₁, hw₂, hw₃, hw₄, hw₅⟩ := hw
    obtain ⟨start, finish, openPrice, high, low, close, volume, ref⟩ := bar
    simp only [Bar.map, Bar.mk.injEq, true_and, and_true] at htrim
    obtain ⟨htrim₁, htrim₂, htrim₃, htrim₄, htrim₅⟩ := htrim
    exact ⟨ohlcvDict s₁ s₂ s₃ s₄ s₅, hohlcv.symm ▸ hkeys, start, ⟨t₁, ht₁, hv₁⟩, finish,
      ⟨t₂, ht₂, hv₂⟩, openPrice, ⟨htrim₁, s₁, hs₁, hw₁⟩, high, ⟨htrim₂, s₂, hs₂, hw₂⟩, low,
      ⟨htrim₃, s₃, hs₃, hw₃⟩, close, ⟨htrim₄, s₄, hs₄, hw₄⟩, volume, ⟨htrim₅, s₅, hs₅, hw₅⟩, ref,
      ⟨hvalid, href.symm⟩, rfl⟩

/-- **The fields of a class are read from the items of their own dictionary only.** -/
theorem parsePayload_eq_ok {value : WireValue} {payload : EventPayload Decimal} :
    parsePayload value payload.kind = .ok payload ↔
      payload.map Decimal.trimmed = payload ∧ payload.RefsValid ∧
        ∃ items, body payload = .ok items ∧ ∀ p ∈ items, value.get p.1 = p.2 := by
  have hone : ∀ (key : String) (v : WireValue),
      (∀ p ∈ [(key, v)], value.get p.1 = p.2) ↔ value.get key = v := by simp
  cases payload with
  | contractTierEffective refs =>
    simp only [EventPayload.kind, parsePayload, bind_eq_ok, DerivativesSnapshotRefs.fromDict_eq_ok,
      pure_eq_ok, EventPayload.contractTierEffective.injEq, EventPayload.map,
      EventPayload.RefsValid, body, bodyWith, true_and]
    constructor
    · rintro ⟨s, ⟨hvalid, hdict⟩, rfl⟩
      exact ⟨hvalid, _, ⟨_, hdict, rfl⟩, (hone _ _).mpr rfl⟩
    · rintro ⟨hvalid, items, ⟨dict, hdict, rfl⟩, hitems⟩
      exact ⟨refs, ⟨hvalid, ((hone _ _).mp hitems).symm ▸ hdict⟩, rfl⟩
  | indexPrice price =>
    simp only [EventPayload.kind, parsePayload, bind_eq_ok, parseCanonicalAccountingDecimal_eq_ok,
      pure_eq_ok, EventPayload.indexPrice.injEq, EventPayload.map, EventPayload.RefsValid, body,
      bodyWith, true_and]
    constructor
    · rintro ⟨d, ⟨htrim, text, htext, hvalue⟩, rfl⟩
      exact ⟨htrim, _, ⟨text, canonicalAccountingDecimal_field htext _, rfl⟩,
        (hone _ _).mpr hvalue⟩
    · rintro ⟨htrim, items, ⟨text, htext, rfl⟩, hitems⟩
      exact ⟨price, ⟨htrim, text, canonicalAccountingDecimal_field htext _,
        (hone _ _).mp hitems⟩, rfl⟩
  | markPrice price =>
    simp only [EventPayload.kind, parsePayload, bind_eq_ok, parseCanonicalAccountingDecimal_eq_ok,
      pure_eq_ok, EventPayload.markPrice.injEq, EventPayload.map, EventPayload.RefsValid, body,
      bodyWith, true_and]
    constructor
    · rintro ⟨d, ⟨htrim, text, htext, hvalue⟩, rfl⟩
      exact ⟨htrim, _, ⟨text, canonicalAccountingDecimal_field htext _, rfl⟩,
        (hone _ _).mpr hvalue⟩
    · rintro ⟨htrim, items, ⟨text, htext, rfl⟩, hitems⟩
      exact ⟨price, ⟨htrim, text, canonicalAccountingDecimal_field htext _,
        (hone _ _).mp hitems⟩, rfl⟩
  | fundingSettlement rate scheduleRef observed =>
    simp only [EventPayload.kind, parsePayload, bind_eq_ok, parseCanonicalAccountingDecimal_eq_ok,
      ImmutableSnapshotRef.fromDict_eq_ok, requireCanonicalUtcTimestamp_eq_ok, pure_eq_ok,
      EventPayload.fundingSettlement.injEq, EventPayload.map, EventPayload.RefsValid, body,
      bodyWith, and_true]
    constructor
    · rintro ⟨d, ⟨htrim, text, htext, hrate⟩, ref, ⟨hvalid, hdict⟩, ts, ⟨time, htime, hts⟩,
        rfl, rfl, rfl⟩
      refine ⟨htrim, hvalid, _, ⟨text, htext, _, hdict, time, htime, rfl⟩, ?_⟩
      simp only [List.forall_mem_cons, List.not_mem_nil, false_imp_iff, implies_true, and_true]
      exact ⟨hrate, trivial, hts⟩
    · rintro ⟨htrim, hvalid, items, ⟨text, htext, dict, hdict, time, htime, rfl⟩, hitems⟩
      simp only [List.forall_mem_cons, List.not_mem_nil, false_imp_iff, implies_true,
        and_true] at hitems
      obtain ⟨hrate, href, hts⟩ := hitems
      exact ⟨rate, ⟨htrim, text, htext, hrate⟩, scheduleRef, ⟨hvalid, href.symm ▸ hdict⟩, observed,
        ⟨time, htime, hts⟩, rfl, rfl, rfl⟩
  | tradable price available role =>
    simp only [EventPayload.kind, parsePayload, bind_eq_ok, parseCanonicalAccountingDecimal_eq_ok,
      LiquidityRole.ofWire_eq_ok, pure_eq_ok, EventPayload.tradable.injEq, EventPayload.map,
      EventPayload.RefsValid, body, bodyWith, and_true, true_and]
    constructor
    · rintro ⟨r, hrole, d₁, ⟨htrim₁, t₁, ht₁, hv₁⟩, d₂, ⟨htrim₂, t₂, ht₂, hv₂⟩, rfl, rfl, rfl⟩
      refine ⟨⟨htrim₁, htrim₂⟩, _, ⟨t₁, ht₁, t₂, ht₂, rfl⟩, ?_⟩
      simp only [List.forall_mem_cons, List.not_mem_nil, false_imp_iff, implies_true, and_true]
      exact ⟨hv₁, hv₂, hrole⟩
    · rintro ⟨⟨htrim₁, htrim₂⟩, items, ⟨t₁, ht₁, t₂, ht₂, rfl⟩, hitems⟩
      simp only [List.forall_mem_cons, List.not_mem_nil, false_imp_iff, implies_true,
        and_true] at hitems
      obtain ⟨hv₁, hv₂, hrole⟩ := hitems
      exact ⟨role, hrole, price, ⟨htrim₁, t₁, ht₁, hv₁⟩, available, ⟨htrim₂, t₂, ht₂, hv₂⟩, rfl, rfl,
        rfl⟩
  | barClose bar =>
    simp only [EventPayload.kind, parsePayload, bind_eq_ok, parseBar_eq_ok, pure_eq_ok,
      EventPayload.barClose.injEq, EventPayload.map, EventPayload.RefsValid]
    constructor
    · rintro ⟨b, h, rfl⟩
      exact h
    · exact fun h => ⟨bar, h, rfl⟩

/-! ### The constructors -/

theorem checkBar_eq_ok {bar : Bar Decimal} {u : Unit} : checkBar bar = .ok u ↔
    (0 ≤ bar.barStartTs ∧ bar.barStartTs < datetimeEnd) ∧
      (0 ≤ bar.barEndTs ∧ bar.barEndTs < datetimeEnd) ∧
      ∃ openPrice high low close volume, (Admits bar.openPrice openPrice ∧ 0 < openPrice.value) ∧
        (Admits bar.highPrice high ∧ 0 < high.value) ∧ (Admits bar.lowPrice low ∧ 0 < low.value) ∧
        (Admits bar.closePrice close ∧ 0 < close.value) ∧
        (Admits bar.volumeContracts volume ∧ 0 ≤ volume.value) ∧
        (max (max openPrice.value close.value) low.value ≤ high.value ∧
          low.value ≤ min (min openPrice.value close.value) high.value) ∧
        bar.featureRef.Valid ∧ bar.featureRef.streamId = barFeatureStreamId := by
  simp only [checkBar, bind_eq_ok, requireUtcDatetime_eq_ok, requirePositiveDecimal_eq_ok,
    requireNonNegativeDecimal_eq_ok, raiseIf_eq_ok, revalidateSourceRef_eq_ok, not_or, not_lt,
    not_not, ne_eq]
  constructor
  · rintro ⟨_, ⟨h₁, -⟩, _, ⟨h₂, -⟩, openPrice, h₃, high, h₄, low, h₅, close, h₆, volume, h₇, -, h₈,
      ref, ⟨h₉, rfl⟩, h₁₀⟩
    exact ⟨h₁, h₂, openPrice, high, low, close, volume, h₃, h₄, h₅, h₆, h₇, h₈, h₉, h₁₀⟩
  · rintro ⟨h₁, h₂, openPrice, high, low, close, volume, h₃, h₄, h₅, h₆, h₇, h₈, h₉, h₁₀⟩
    exact ⟨_, ⟨h₁, rfl⟩, _, ⟨h₂, rfl⟩, openPrice, h₃, high, h₄, low, h₅, close, h₆, volume, h₇, (),
      h₈, bar.featureRef, ⟨h₉, rfl⟩, h₁₀⟩

theorem trimmed_value {d : Decimal} {number : Dec} {p : ℚ → Prop}
    (h : Admits d number ∧ p number.value) :
    Admits d.trimmed number.trimmed ∧ p number.trimmed.value :=
  ⟨h.1.trimmed, by rw [Dec.value_trimmed]; exact h.2⟩

/-- **What a constructor checks of the fields depends on their decimals through what they are
worth only.** -/
theorem checkPayload_trimmed {payload : EventPayload Decimal}
    (h : checkPayload payload = .ok ()) : checkPayload (payload.map Decimal.trimmed) = .ok () := by
  cases payload with
  | contractTierEffective refs => exact h
  | indexPrice price =>
    simp only [checkPayload, bind_eq_ok, requirePositiveDecimal_eq_ok] at h
    obtain ⟨number, hnumber, -⟩ := h
    exact bind_eq_ok.mpr ⟨_, requirePositiveDecimal_eq_ok.mpr (trimmed_value hnumber), rfl⟩
  | markPrice price =>
    simp only [checkPayload, bind_eq_ok, requirePositiveDecimal_eq_ok] at h
    obtain ⟨number, hnumber, -⟩ := h
    exact bind_eq_ok.mpr ⟨_, requirePositiveDecimal_eq_ok.mpr (trimmed_value hnumber), rfl⟩
  | fundingSettlement rate scheduleRef observed =>
    obtain ⟨number, hnumber, h⟩ := bind_eq_ok.mp h
    refine bind_eq_ok.mpr ⟨number.trimmed, ?_, ?_⟩
    · exact requireFiniteDecimal_eq_ok.mpr (requireFiniteDecimal_eq_ok.mp hnumber).trimmed
    · rw [Dec.value_trimmed]
      exact h
  | tradable price available role =>
    obtain ⟨n₁, h₁, h⟩ := bind_eq_ok.mp h
    obtain ⟨n₂, h₂, h⟩ := bind_eq_ok.mp h
    have h₁ := requirePositiveDecimal_eq_ok.mp h₁
    have h₂ := requireNonNegativeDecimal_eq_ok.mp h₂
    refine bind_eq_ok.mpr ⟨_, requirePositiveDecimal_eq_ok.mpr (trimmed_value h₁), ?_⟩
    exact bind_eq_ok.mpr ⟨_, requireNonNegativeDecimal_eq_ok.mpr (trimmed_value h₂), h⟩
  | barClose bar =>
    obtain ⟨hstart, hfinish, openPrice, high, low, close, volume, h₃, h₄, h₅, h₆, h₇, h₈, h₉⟩ :=
      checkBar_eq_ok.mp h
    refine checkBar_eq_ok.mpr ⟨hstart, hfinish, openPrice.trimmed, high.trimmed, low.trimmed,
      close.trimmed, volume.trimmed, trimmed_value h₃, trimmed_value h₄, trimmed_value h₅,
      trimmed_value h₆, trimmed_value h₇, ?_, h₉⟩
    simp only [Dec.value_trimmed]
    exact h₈

theorem finite_of_checkPayload {payload : EventPayload Decimal} (h : checkPayload payload = .ok ()) :
    payload.Finite := by
  unfold EventPayload.Finite
  cases payload with
  | contractTierEffective refs => simp [EventPayload.decimals]
  | indexPrice price =>
    simp only [checkPayload, bind_eq_ok, requirePositiveDecimal_eq_ok] at h
    obtain ⟨number, ⟨hnumber, -⟩, -⟩ := h
    simpa [EventPayload.decimals] using ⟨number, hnumber⟩
  | markPrice price =>
    simp only [checkPayload, bind_eq_ok, requirePositiveDecimal_eq_ok] at h
    obtain ⟨number, ⟨hnumber, -⟩, -⟩ := h
    simpa [EventPayload.decimals] using ⟨number, hnumber⟩
  | fundingSettlement rate scheduleRef observed =>
    simp only [checkPayload, bind_eq_ok, requireFiniteDecimal_eq_ok] at h
    obtain ⟨number, hnumber, -⟩ := h
    simpa [EventPayload.decimals] using ⟨number, hnumber⟩
  | tradable price available role =>
    simp only [checkPayload, bind_eq_ok, requirePositiveDecimal_eq_ok,
      requireNonNegativeDecimal_eq_ok] at h
    obtain ⟨n₁, ⟨h₁, -⟩, n₂, ⟨h₂, -⟩, -⟩ := h
    simpa [EventPayload.decimals] using ⟨⟨n₁, h₁⟩, n₂, h₂⟩
  | barClose bar =>
    obtain ⟨-, -, n₁, n₂, n₃, n₄, n₅, h₁, h₂, h₃, h₄, h₅, -⟩ := checkBar_eq_ok.mp h
    simpa [EventPayload.decimals] using
      ⟨⟨n₁, h₁.1⟩, ⟨n₂, h₂.1⟩, ⟨n₃, h₃.1⟩, ⟨n₄, h₄.1⟩, n₅, h₅.1⟩

theorem refsValid_of_checkPayload {payload : EventPayload Decimal}
    (h : checkPayload payload = .ok ()) : payload.RefsValid := by
  cases payload with
  | contractTierEffective refs =>
    simp only [checkPayload, bind_eq_ok, revalidateSnapshotSet_eq_ok] at h
    obtain ⟨_, ⟨hvalid, -⟩, -⟩ := h
    exact hvalid
  | indexPrice | markPrice | tradable => trivial
  | fundingSettlement rate scheduleRef observed =>
    simp only [checkPayload, bind_eq_ok, revalidateSnapshotRef_eq_ok] at h
    obtain ⟨_, -, _, -, _, ⟨hvalid, -⟩, -⟩ := h
    exact hvalid
  | barClose bar =>
    obtain ⟨-, -, _, _, _, _, _, -, -, -, -, -, -, hvalid, -⟩ := checkBar_eq_ok.mp h
    exact hvalid

section Sha

variable {sha256 : WireValue → String} {event : ReplayEvent Decimal}

theorem postInit_eq_ok {event' : ReplayEvent Decimal} : postInit sha256 event = .ok event' ↔
    (checkPayload event.body.payload = .ok () ∧ validateHeader sha256 event = .ok () ∧
      checkAtTime event.header.ts event.body.payload = .ok ()) ∧ event' = event := by
  simp only [postInit, bind_eq_ok, pure_eq_ok]
  constructor
  · rintro ⟨⟨⟩, h₁, ⟨⟩, h₂, ⟨⟩, h₃, rfl⟩
    exact ⟨⟨h₁, h₂, h₃⟩, rfl⟩
  · rintro ⟨⟨h₁, h₂, h₃⟩, rfl⟩
    exact ⟨(), h₁, (), h₂, (), h₃, rfl⟩

theorem validEvent_iff : ValidEvent sha256 event ↔
    checkPayload event.body.payload = .ok () ∧ validateHeader sha256 event = .ok () ∧
      checkAtTime event.header.ts event.body.payload = .ok () := by
  rw [ValidEvent, postInit_eq_ok, and_iff_left rfl]

theorem validateHeader_of_digest (hkind : event.header.eventType = event.body.payload.kind)
    (hvalid : HeaderValid event.header event.body.sourceRef)
    (hstream : event.body.sourceRef.streamId = expectedEventStreamId event.header.eventType)
    (hid : (do
      let items ← identityBody event.body.payload
      let fields ← identityFields event.header event.body.sourceRef
      return sha256 (dictOf (fields ++ items))) = Except.ok event.header.eventId) :
    validateHeader sha256 event = .ok () := by
  simp only [bind_eq_ok, pure_eq_ok] at hid
  obtain ⟨items, hitems, fields, hfields, hdigest⟩ := hid
  simp only [validateHeader, bind_eq_ok, raiseIf_eq_ok, headerPostInit_eq_ok, not_not, ne_eq]
  exact ⟨items, hitems, (), hkind, (), hvalid, (), hstream, fields, hfields, hdigest.symm⟩

theorem headerValid_of_validateHeader (h : validateHeader sha256 event = .ok ()) :
    event.header.eventType = event.body.payload.kind ∧
      HeaderValid event.header event.body.sourceRef := by
  simp only [validateHeader, bind_eq_ok, raiseIf_eq_ok, headerPostInit_eq_ok, not_not, ne_eq] at h
  obtain ⟨_, -, -, hkind, -, hvalid, -⟩ := h
  exact ⟨hkind, hvalid⟩

theorem ValidEvent.trimmed (h : ValidEvent sha256 event) :
    ValidEvent sha256 (mapDecimals Decimal.trimmed event) := by
  obtain ⟨hpayload, hheader, htime⟩ := validEvent_iff.mp h
  refine validEvent_iff.mpr ⟨checkPayload_trimmed hpayload, ?_, ?_⟩
  · have hkind : (event.body.payload.map Decimal.trimmed).kind = event.body.payload.kind := by
      cases event.body.payload <;> rfl
    have hbody : identityBody (event.body.payload.map Decimal.trimmed) =
        identityBody event.body.payload := bodyWith_trimmed (finite_of_checkPayload hpayload)
    rw [← hheader]
    unfold validateHeader mapDecimals
    simp only [hbody, hkind]
  · rw [← htime]
    simp only [mapDecimals]
    cases event.body.payload <;> rfl

theorem ValidEvent.toDict_trimmed (h : ValidEvent sha256 event) :
    toDict (mapDecimals Decimal.trimmed event) = toDict event := by
  have hpayload := (validEvent_iff.mp h).1
  have hbody : body (event.body.payload.map Decimal.trimmed) = body event.body.payload :=
    bodyWith_trimmed (finite_of_checkPayload hpayload)
  simp only [toDict, mapDecimals, hbody]

theorem toDict_eq_ok {value : WireValue} : toDict event = .ok value ↔ ∃ fields items,
    identityFields event.header event.body.sourceRef = .ok fields ∧
      body event.body.payload = .ok items ∧
      value = dictOf (fields ++ [("event_id", .str event.header.eventId)] ++ items) := by
  simp only [toDict, bind_eq_ok, pure_eq_ok]
  constructor
  · rintro ⟨items, hitems, fields, hfields, rfl⟩
    exact ⟨fields, items, hfields, hitems, rfl⟩
  · rintro ⟨fields, items, hfields, hitems, rfl⟩
    exact ⟨items, hitems, fields, hfields, rfl⟩

theorem dict_keys {fields items : List (String × WireValue)}
    (hfields : identityFields event.header event.body.sourceRef = .ok fields)
    (hitems : body event.body.payload = .ok items) :
    (fields ++ [("event_id", WireValue.str event.header.eventId)] ++ items).map Prod.fst =
      commonKeys ++ bodyKeys event.body.payload.kind := by
  obtain ⟨ts, -, rfl⟩ := identityFields_eq_ok.mp hfields
  rw [List.map_append, bodyWith_keys hitems]
  rfl

theorem nodup_keys (kind : DerivativeEventKind) : (commonKeys ++ bodyKeys kind).Nodup := by
  cases kind <;> decide

/-- **What is read from a dictionary is a valid event with that dictionary**, and every valid
event, without the zeros at the end of its decimals, is read from its own. -/
theorem parseDerivativeReplayEvent_eq_ok {value : WireValue} :
    parseDerivativeReplayEvent sha256 value = .ok event ↔ ValidEvent sha256 event ∧
      mapDecimals Decimal.trimmed event = event ∧ toDict event = .ok value := by
  constructor
  · intro h
    cases value with
    | null | bool | int | str | other => cases h
    | dict keys item =>
      obtain ⟨⟨header, sourceRef⟩, hheader, h⟩ := bind_eq_ok.mp h
      obtain ⟨_, hkeys, h⟩ := bind_eq_ok.mp h
      obtain ⟨payload, hpayload, h⟩ := bind_eq_ok.mp h
      have hsame := (postInit_eq_ok.mp h).2
      subst hsame
      have hkind := kind_of_parsePayload hpayload
      rw [← hkind] at hpayload hkeys
      obtain ⟨-, fields, hfields, hfieldsGet⟩ := parseHeader_eq_ok.mp hheader
      obtain ⟨htrim, -, items, hitems, hitemsGet⟩ := parsePayload_eq_ok.mp hpayload
      refine ⟨h, ?_, toDict_eq_ok.mpr ⟨fields, items, hfields, hitems, ?_⟩⟩
      · simp only [mapDecimals, htrim]
      · refine eq_dictOf hkeys _ (dict_keys hfields hitems) ?_
        intro p hp
        rcases List.mem_append.mp hp with hp | hp
        · exact hfieldsGet p hp
        · exact hitemsGet p hp
  · rintro ⟨hvalid, htrim, hdict⟩
    obtain ⟨fields, items, hfields, hitems, rfl⟩ := toDict_eq_ok.mp hdict
    obtain ⟨hpayload, hheader, -⟩ := validEvent_iff.mp hvalid
    obtain ⟨hkind, hheaderValid⟩ := headerValid_of_validateHeader hheader
    obtain ⟨hkeys, hget⟩ := dictOf_spec _ _ "event_shape_invalid" (dict_keys hfields hitems)
      (nodup_keys _)
    rw [List.forall_mem_append] at hget
    have hparseHeader := parseHeader_eq_ok.mpr ⟨hheaderValid, fields, hfields, hget.1⟩
    have htrimPayload : event.body.payload.map Decimal.trimmed = event.body.payload :=
      congrArg (fun e : ReplayEvent Decimal => e.body.payload) htrim
    have hparsePayload := parsePayload_eq_ok.mpr
      ⟨htrimPayload, refsValid_of_checkPayload hpayload, items, hitems, hget.2⟩
    refine bind_eq_ok.mpr ⟨_, hparseHeader, ?_⟩
    simp only [hkind]
    exact bind_eq_ok.mpr ⟨_, hkeys, bind_eq_ok.mpr ⟨_, hparsePayload, hvalid⟩⟩

theorem exists_body {payload : EventPayload Decimal} {identity : List (String × WireValue)}
    (hidentity : identityBody payload = .ok identity) (hrefs : payload.RefsValid) :
    ∃ items, body payload = .ok items := by
  unfold identityBody at hidentity
  unfold body
  cases payload with
  | contractTierEffective refs =>
    obtain ⟨dict, hdict⟩ := DerivativesSnapshotRefs.Valid.exists_toDict hrefs
    exact ⟨_, bind_eq_ok.mpr ⟨dict, hdict, rfl⟩⟩
  | fundingSettlement rate scheduleRef observed =>
    obtain ⟨dict, hdict⟩ := ImmutableSnapshotRef.Valid.exists_toDict hrefs
    obtain ⟨text, htext, h⟩ := bind_eq_ok.mp hidentity
    obtain ⟨_, -, h⟩ := bind_eq_ok.mp h
    obtain ⟨time, htime, -⟩ := bind_eq_ok.mp h
    exact ⟨_, bind_eq_ok.mpr ⟨text, htext, bind_eq_ok.mpr ⟨dict, hdict,
      bind_eq_ok.mpr ⟨time, htime, rfl⟩⟩⟩⟩
  | indexPrice | markPrice | tradable | barClose =>
    simp only [bodyWith] at hidentity ⊢
    exact ⟨identity, hidentity⟩

theorem ValidEvent.exists_toDict (h : ValidEvent sha256 event) :
    ∃ value, toDict event = .ok value := by
  obtain ⟨hpayload, hheader, -⟩ := validEvent_iff.mp h
  simp only [validateHeader, bind_eq_ok] at hheader
  obtain ⟨identity, hidentity, -, -, -, -, -, -, fields, hfields, -⟩ := hheader
  obtain ⟨items, hitems⟩ := exists_body hidentity (refsValid_of_checkPayload hpayload)
  exact ⟨_, toDict_eq_ok.mpr ⟨fields, items, hfields, hitems, rfl⟩⟩

end Sha

/-! ### What an event is worth -/

@[simp] theorem Decimal.value_trimmed (d : Decimal) : d.trimmed.value = d.value := by
  cases d with
  | finite number => exact congrArg some (Dec.value_trimmed number)
  | nonFinite name => rfl

theorem worth_trimmed (event : ReplayEvent Decimal) :
    worth (mapDecimals Decimal.trimmed event) = worth event := by
  unfold worth mapDecimals
  cases event.body.payload <;> simp [EventPayload.map, Bar.map]

@[simp] theorem Decimal.trimmed_trimmed (d : Decimal) : d.trimmed.trimmed = d.trimmed := by
  cases d with
  | finite number => exact congrArg Decimal.finite (Dec.trimmed_trimmed number)
  | nonFinite name => rfl

theorem mapDecimals_trimmed_trimmed (event : ReplayEvent Decimal) :
    mapDecimals Decimal.trimmed (mapDecimals Decimal.trimmed event) =
      mapDecimals Decimal.trimmed event := by
  unfold mapDecimals
  cases event.body.payload <;> simp [EventPayload.map, Bar.map]

/-- Fields that are equal for `==` are written with the same digits. -/
theorem map_trimmed_eq {payload payload' : EventPayload Decimal} (h : payload.Finite)
    (hworth : payload.map Decimal.value = payload'.map Decimal.value) :
    payload.map Decimal.trimmed = payload'.map Decimal.trimmed := by
  have htrim : ∀ d ∈ payload.decimals, ∀ d' : Decimal, d.value = d'.value →
      d.trimmed = d'.trimmed := by
    intro d hd d' hvalue
    obtain ⟨number, hnumber⟩ := h d hd
    exact Decimal.trimmed_eq_of_value_eq hnumber hvalue
  cases payload with
  | contractTierEffective refs =>
    cases payload' with
    | contractTierEffective refs' =>
      injection hworth with hrefs
      rw [hrefs]
    | indexPrice | markPrice | fundingSettlement | tradable | barClose => cases hworth
  | indexPrice price =>
    cases payload' with
    | indexPrice price' =>
      injection hworth with hprice
      simp only [EventPayload.map, htrim price (by simp [EventPayload.decimals]) price' hprice]
    | contractTierEffective | markPrice | fundingSettlement | tradable | barClose => cases hworth
  | markPrice price =>
    cases payload' with
    | markPrice price' =>
      injection hworth with hprice
      simp only [EventPayload.map, htrim price (by simp [EventPayload.decimals]) price' hprice]
    | contractTierEffective | indexPrice | fundingSettlement | tradable | barClose => cases hworth
  | fundingSettlement rate ref observed =>
    cases payload' with
    | fundingSettlement rate' ref' observed' =>
      injection hworth with hrate href hobserved
      simp only [EventPayload.map, htrim rate (by simp [EventPayload.decimals]) rate' hrate, href,
        hobserved]
    | contractTierEffective | indexPrice | markPrice | tradable | barClose => cases hworth
  | tradable price available role =>
    cases payload' with
    | tradable price' available' role' =>
      injection hworth with hprice havailable hrole
      simp only [EventPayload.map, htrim price (by simp [EventPayload.decimals]) price' hprice,
        htrim available (by simp [EventPayload.decimals]) available' havailable, hrole]
    | contractTierEffective | indexPrice | markPrice | fundingSettlement | barClose => cases hworth
  | barClose bar =>
    cases payload' with
    | barClose bar' =>
      injection hworth with hbar
      simp only [Bar.map, Bar.mk.injEq] at hbar
      obtain ⟨h₁, h₂, h₃, h₄, h₅, h₆, h₇, h₈⟩ := hbar
      simp only [EventPayload.map, Bar.map, h₁, h₂, h₈,
        htrim bar.openPrice (by simp [EventPayload.decimals]) _ h₃,
        htrim bar.highPrice (by simp [EventPayload.decimals]) _ h₄,
        htrim bar.lowPrice (by simp [EventPayload.decimals]) _ h₅,
        htrim bar.closePrice (by simp [EventPayload.decimals]) _ h₆,
        htrim bar.volumeContracts (by simp [EventPayload.decimals]) _ h₇]
    | contractTierEffective | indexPrice | markPrice | fundingSettlement | tradable => cases hworth

theorem toDict_eq_of_worth_eq {sha256 : WireValue → String} {event event' : ReplayEvent Decimal}
    (h : ValidEvent sha256 event) (h' : ValidEvent sha256 event')
    (hworth : worth event = worth event') : toDict event = toDict event' := by
  have hfinite := finite_of_checkPayload (validEvent_iff.mp h).1
  have hheader : event.header = event'.header :=
    congrArg (fun e : ReplayEvent (Option ℚ) => e.header) hworth
  have hsource : event.body.sourceRef = event'.body.sourceRef :=
    congrArg (fun e : ReplayEvent (Option ℚ) => e.body.sourceRef) hworth
  have hpayload : event.body.payload.map Decimal.value = event'.body.payload.map Decimal.value :=
    congrArg (fun e : ReplayEvent (Option ℚ) => e.body.payload) hworth
  have htrim : mapDecimals Decimal.trimmed event = mapDecimals Decimal.trimmed event' := by
    simp only [mapDecimals, hheader, hsource, map_trimmed_eq hfinite hpayload]
  rw [← h.toDict_trimmed, htrim, h'.toDict_trimmed]

/-- An index price of 10.50 at the beginning of 2026. -/
def indexEvent : ReplayEvent Decimal :=
  { header :=
      { eventType := .indexPrice, ts := newYear, sourceSequence := 7
        eventId := "a864726b0c68ea922b90ea88382a7fa61282d7f21bb386ff94cdbdd759acab11" }
    body :=
      { sourceRef :=
          { streamId := "index-price", sourceRegistryId := "00000000-0000-4000-8000-000000000001"
            parentArtifactSha256 := String.ofList (List.replicate 64 'a')
            sourceRecordSha256 := String.ofList (List.replicate 64 'b') }
        payload := .indexPrice
          (.finite { negative := false, coefficient := 1050, exponent := -2 }) } }

theorem indexSourceRef_valid : indexEvent.body.sourceRef.Valid where
  streamId := admits_ofList (by decide)
  sourceRegistryId := admits_ofList (by decide)
  parentArtifactSha256 := isSha256_replicate (by decide)
  sourceRecordSha256 := isSha256_replicate (by decide)

theorem indexEvent_valid {sha256 : WireValue → String}
    (hid : (do
      let items ← identityBody indexEvent.body.payload
      let fields ← identityFields indexEvent.header indexEvent.body.sourceRef
      return sha256 (dictOf (fields ++ items))) = Except.ok indexEvent.header.eventId) :
    ValidEvent sha256 indexEvent :=
  validEvent_iff.mpr ⟨by decide +kernel,
    validateHeader_of_digest rfl
      ⟨by decide +kernel, by decide, admits_ofList (by decide), indexSourceRef_valid⟩ rfl hid,
    rfl⟩

end Aats.Replay
