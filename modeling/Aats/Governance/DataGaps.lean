import Aats.Execution.CancelOrder
import Aats.Lib.Fallible
import Mathlib.Data.List.Nodup

/-!
# Records of data gaps

`data_platform/data_governance/gaps.py`: a gap is recorded once under its scope and its reason, and
a record moves from open to classified and on to the status that ends its classification. Calls
that raise leave the table as it was.

## Main definitions
* `recordDataGap`, `transitionDataGap` — the two writers of `meta.data_gap_records`.
* `GapRow.Checked` — the check constraints of the table.

## Main results
* `gap_table_checked` — **the constraints of the table hold in every run**, without the table
  having to refuse anything but a repeated id.
* `gap_records_only_advance` — **no record is lost or rewritten**, and one that has ended is final.
-/

namespace Aats.Governance

open Execution (Timestamp)
open Fallible

/-! ### Gaps and their records -/

inductive GapClassification
  | deterministicRebuild | officialBackfill | thirdPartyCandidate | prospectiveOnly | cannotRecover
  deriving DecidableEq

inductive GapStatus
  | opened | classified | backfilled | rebuilt | awaitingLiveCollection | cannotRecover
  | thirdPartyOnly
  deriving DecidableEq

def terminalStatusByClassification : GapClassification → GapStatus
  | .deterministicRebuild => .rebuilt
  | .officialBackfill => .backfilled
  | .thirdPartyCandidate => .thirdPartyOnly
  | .prospectiveOnly => .awaitingLiveCollection
  | .cannotRecover => .cannotRecover

namespace GapStatus

def resolved : GapStatus → Bool
  | .backfilled | .rebuilt | .cannotRecover | .thirdPartyOnly => true
  | .opened | .classified | .awaitingLiveCollection => false

/-- The classification that a status ends. -/
def requiredClassification : GapStatus → Option GapClassification
  | .rebuilt => some .deterministicRebuild
  | .backfilled => some .officialBackfill
  | .thirdPartyOnly => some .thirdPartyCandidate
  | .awaitingLiveCollection => some .prospectiveOnly
  | .cannotRecover => some .cannotRecover
  | .opened | .classified => none

def allowedTransitions : GapStatus → List GapStatus
  | .opened => [.classified]
  | .classified => [.backfilled, .rebuilt, .awaitingLiveCollection, .cannotRecover, .thirdPartyOnly]
  | _ => []

def rank : GapStatus → ℕ
  | .opened => 0
  | .classified => 1
  | _ => 2

end GapStatus

/-- A gap; `ε` is what its evidence is made of. -/
structure DataGap (ε : Type) where
  datasetName : String
  symbol : String
  channel : String
  gapStart : Timestamp
  gapEnd : Timestamp
  classification : GapClassification
  status : GapStatus
  reasonCode : String
  sourceId : Option String
  evidence : ε

/-- A row of `meta.data_gap_records`. -/
structure GapRow (ε : Type) extends DataGap ε where
  gapId : String
  resolvedAt : Option Timestamp := none

section Model

variable {ε : Type}

/-- The columns of `uq_data_gap_scope_reason`. -/
def DataGap.scope (gap : DataGap ε) :
    String × String × String × Timestamp × Timestamp × String :=
  (gap.datasetName, gap.symbol, gap.channel, gap.gapStart, gap.gapEnd, gap.reasonCode)

/-- `DataGap.__post_init__`; `isUuid` says which texts `uuid.UUID` reads. -/
def DataGap.postInit (isUuid : String → Bool) (gap : DataGap ε) : Except String Unit := do
  raiseIf (gap.status ∉ [.opened, .classified, terminalStatusByClassification gap.classification])
    "data_gap_status_incompatible_with_classification"
  raiseIf (gap.status.resolved = true) "data_gap_resolved_status_requires_transition"
  raiseIf (gap.gapEnd ≤ gap.gapStart) "data_gap_end_must_follow_start"
  raiseIf (∃ text ∈ [gap.datasetName, gap.symbol, gap.channel, gap.reasonCode],
    Execution.strip text = "")
    "data_gap_identity_must_be_nonempty"
  raiseIf (gap.sourceId.any (!isUuid ·) = true) "data_gap_source_id_invalid"

/-- The check constraints of a row, on the range, on the status and on the resolution. -/
structure GapRow.Checked (row : GapRow ε) : Prop where
  range : row.gapStart < row.gapEnd
  status : row.status ∈ [.opened, .classified, terminalStatusByClassification row.classification]
  resolution : row.resolvedAt.isSome = row.status.resolved

structure GapTableSound (rows : List (GapRow ε)) : Prop where
  checked : ∀ row ∈ rows, row.Checked
  ids : (rows.map (·.gapId)).Nodup
  scopes : (rows.map (·.scope)).Nodup

/-- The same record, as it was or with a later status. -/
structure GapRow.Advances (row later : GapRow ε) : Prop where
  kept : { later with
    status := row.status, evidence := row.evidence, resolvedAt := row.resolvedAt } = row
  status : later = row ∨ row.status.rank < later.status.rank

theorem GapRow.Advances.refl (row : GapRow ε) : row.Advances row := ⟨rfl, .inl rfl⟩

theorem GapRow.Advances.trans {row later latest : GapRow ε} (h : row.Advances later)
    (h' : later.Advances latest) : row.Advances latest := by
  constructor
  · rw [← h.kept, ← h'.kept]
  · rcases h.status with rfl | hrank
    · exact h'.status
    rcases h'.status with rfl | hrank'
    · exact .inr hrank
    · exact .inr (hrank.trans hrank')

theorem gapTableSound_nil : GapTableSound ([] : List (GapRow ε)) :=
  ⟨by simp, List.nodup_nil, List.nodup_nil⟩

variable [DecidableEq ε] [EmptyCollection ε] [Append ε]

/-- The statement that `record_data_gaps` makes for a gap, with the id that a new row would get. -/
def recordDataGap (isUuid : String → Bool) (rows : List (GapRow ε)) (gap : DataGap ε)
    (newId : String) : Except String (List (GapRow ε)) := do
  gap.postInit isUuid
  match rows.find? fun row => row.scope = gap.scope with
  | some row =>
    raiseIf (¬(row.sourceId = gap.sourceId ∧ row.classification = gap.classification ∧
      row.status = gap.status ∧ row.evidence = gap.evidence)) "data_gap_immutable_evidence_conflict"
    return rows
  | none =>
    raiseIf (∃ row ∈ rows, row.gapId = newId) "duplicate key value violates unique constraint"
    return rows ++ [{ gap with gapId := newId }]

/-- The rows that the update of a transition is about. -/
def GapRow.isExpected (gapId : String) (expectedStatus newStatus : GapStatus) (row : GapRow ε) :
    Bool :=
  row.gapId = gapId ∧ row.status = expectedStatus ∧
    ∀ classification ∈ newStatus.requiredClassification, row.classification = classification

def GapRow.advance (newStatus : GapStatus) (resolution : ε) (now : Timestamp) (row : GapRow ε) :
    GapRow ε :=
  { row with
    status := newStatus
    evidence := row.evidence ++ resolution
    resolvedAt := if newStatus.resolved then some now else none }

def transitionDataGap (rows : List (GapRow ε)) (gapId : String)
    (expectedStatus newStatus : GapStatus) (resolution : ε) (now : Timestamp) :
    Except String (List (GapRow ε)) := do
  raiseIf (newStatus ∉ expectedStatus.allowedTransitions) "data_gap_transition_not_allowed"
  raiseIf (resolution = ∅) "data_gap_resolution_evidence_required"
  let expected := GapRow.isExpected gapId expectedStatus newStatus
  raiseIf (rows.countP expected ≠ 1) "data_gap_transition_conflict"
  return rows.map fun row => if expected row then row.advance newStatus resolution now else row

inductive GapCall (ε : Type)
  | record (gap : DataGap ε) (newId : String)
  | transition (gapId : String) (expectedStatus newStatus : GapStatus) (resolution : ε)
      (now : Timestamp)

def GapCall.perform (isUuid : String → Bool) (rows : List (GapRow ε)) :
    GapCall ε → Except String (List (GapRow ε))
  | .record gap newId => recordDataGap isUuid rows gap newId
  | .transition gapId expectedStatus newStatus resolution now =>
    transitionDataGap rows gapId expectedStatus newStatus resolution now

/-- The table after some calls; what raises is rolled back. -/
def gapTableAfter (isUuid : String → Bool) (rows : List (GapRow ε)) (calls : List (GapCall ε)) :
    List (GapRow ε) :=
  calls.foldl (fun rows call =>
    match call.perform isUuid rows with
    | .ok after => after
    | .error _ => rows) rows

/-! ### What every run keeps -/

theorem GapStatus.rank_lt {status next : GapStatus} (h : next ∈ status.allowedTransitions) :
    status.rank < next.rank := by
  revert h
  cases status <;> cases next <;> decide

theorem GapStatus.mem_of_class {status : GapStatus} {classification : GapClassification}
    (h : ∀ required ∈ status.requiredClassification, classification = required) :
    status ∈ [.opened, .classified, terminalStatusByClassification classification] := by
  cases status with
  | opened | classified => simp
  | backfilled | rebuilt | awaitingLiveCollection | cannotRecover | thirdPartyOnly =>
    obtain rfl := h _ rfl
    decide

variable {isUuid : String → Bool} {rows after : List (GapRow ε)}

omit [EmptyCollection ε] [Append ε] in
/-- **Recording a gap** confirms a record that says the same, or adds one. -/
theorem recordDataGap_step {gap : DataGap ε} {newId : String} (h : GapTableSound rows)
    (hok : recordDataGap isUuid rows gap newId = .ok after) :
    GapTableSound after ∧ ∀ row ∈ rows, ∃ later ∈ after, row.Advances later := by
  unfold recordDataGap at hok
  obtain ⟨_, hgap, hok⟩ := bind_eq_ok.mp hok
  split at hok
  · obtain ⟨_, -, hok⟩ := bind_eq_ok.mp hok
    obtain rfl := pure_eq_ok.mp hok
    exact ⟨h, fun row hrow => ⟨row, hrow, .refl row⟩⟩
  · next hscope =>
    obtain ⟨_, hid, hok⟩ := bind_eq_ok.mp hok
    rw [raiseIf_eq_ok] at hid
    obtain rfl := pure_eq_ok.mp hok
    simp only [DataGap.postInit, bind_eq_ok, raiseIf_eq_ok, not_not] at hgap
    obtain ⟨_, hstatus, _, hopen, _, hrange, -⟩ := hgap
    rw [List.find?_eq_none] at hscope
    refine ⟨⟨?_, ?_, ?_⟩, fun row hrow => ⟨row, List.mem_append_left _ hrow, .refl row⟩⟩
    · intro row hrow
      rcases List.mem_append.mp hrow with hrow | hrow
      · exact h.checked row hrow
      · rw [List.mem_singleton.mp hrow]
        exact ⟨not_le.mp hrange, hstatus, (Bool.eq_false_of_not_eq_true hopen).symm⟩
    · rw [List.map_append, List.nodup_append]
      refine ⟨h.ids, List.nodup_singleton _, ?_⟩
      rintro _ hmem _ hnew rfl
      obtain ⟨row, hrow, heq⟩ := List.mem_map.mp hmem
      exact hid ⟨row, hrow, heq.trans (List.mem_singleton.mp hnew)⟩
    · rw [List.map_append, List.nodup_append]
      refine ⟨h.scopes, List.nodup_singleton _, ?_⟩
      rintro _ hmem _ hnew rfl
      obtain ⟨row, hrow, heq⟩ := List.mem_map.mp hmem
      exact hscope row hrow (decide_eq_true (heq.trans (List.mem_singleton.mp hnew)))

/-- **A transition** moves one record on, within its classification. -/
theorem transitionDataGap_step {gapId : String} {expectedStatus newStatus : GapStatus}
    {resolution : ε} {now : Timestamp} (h : GapTableSound rows)
    (hok : transitionDataGap rows gapId expectedStatus newStatus resolution now = .ok after) :
    GapTableSound after ∧ ∀ row ∈ rows, ∃ later ∈ after, row.Advances later := by
  simp only [transitionDataGap, bind_eq_ok, raiseIf_eq_ok, not_not, pure_eq_ok] at hok
  obtain ⟨_, hallowed, _, -, _, -, rfl⟩ := hok
  set move : GapRow ε → GapRow ε := fun row =>
    if GapRow.isExpected gapId expectedStatus newStatus row then
      row.advance newStatus resolution now
    else row with hmove
  have hmoved : ∀ row, row.Advances (move row) ∧ (row.Checked → (move row).Checked) := by
    intro row
    rw [hmove]
    dsimp only
    split
    · next hexpected =>
      obtain ⟨-, hstatus, hclass⟩ := of_decide_eq_true hexpected
      refine ⟨⟨rfl, .inr (hstatus ▸ GapStatus.rank_lt hallowed)⟩, fun hrow => ?_⟩
      refine ⟨hrow.range, GapStatus.mem_of_class hclass, ?_⟩
      show (if newStatus.resolved then some now else none).isSome = newStatus.resolved
      cases newStatus.resolved <;> rfl
    · exact ⟨.refl row, id⟩
  refine ⟨⟨?_, ?_, ?_⟩, fun row hrow => ⟨move row, List.mem_map_of_mem hrow, (hmoved row).1⟩⟩
  · intro row hrow
    obtain ⟨old, hold, rfl⟩ := List.mem_map.mp hrow
    exact (hmoved old).2 (h.checked old hold)
  · rw [List.map_map]
    exact (List.map_congr_left fun row _ => congrArg (·.gapId) (hmoved row).1.kept) ▸ h.ids
  · rw [List.map_map]
    exact (List.map_congr_left fun row _ => congrArg (·.scope) (hmoved row).1.kept) ▸ h.scopes

theorem gapTableAfter_step (calls : List (GapCall ε)) (h : GapTableSound rows) :
    GapTableSound (gapTableAfter isUuid rows calls) ∧
      ∀ row ∈ rows, ∃ later ∈ gapTableAfter isUuid rows calls, row.Advances later := by
  induction calls generalizing rows with
  | nil => exact ⟨h, fun row hrow => ⟨row, hrow, .refl row⟩⟩
  | cons call calls ih =>
    rw [gapTableAfter, List.foldl_cons]
    cases hok : call.perform isUuid rows with
    | error _ => exact ih h
    | ok after =>
      have hstep : GapTableSound after ∧ ∀ row ∈ rows, ∃ later ∈ after, row.Advances later := by
        cases call with
        | record gap newId => exact recordDataGap_step h hok
        | transition => exact transitionDataGap_step h hok
      obtain ⟨hsound, hlater⟩ := ih hstep.1
      refine ⟨hsound, fun row hrow => ?_⟩
      obtain ⟨later, hmem, hadvances⟩ := hstep.2 row hrow
      obtain ⟨latest, hlatest, hadvances'⟩ := hlater later hmem
      exact ⟨latest, hlatest, hadvances.trans hadvances'⟩

/-- **The constraints of the table hold in every run** of records and transitions. -/
theorem gap_table_checked (isUuid : String → Bool) (calls : List (GapCall ε)) :
    (∀ row ∈ gapTableAfter isUuid [] calls, row.Checked) ∧
      ((gapTableAfter isUuid [] calls).map (·.gapId)).Nodup ∧
      ((gapTableAfter isUuid [] calls).map (·.scope)).Nodup :=
  have hsound := (gapTableAfter_step calls gapTableSound_nil).1
  ⟨hsound.checked, hsound.ids, hsound.scopes⟩

/-- **No record is lost or rewritten**: later it stands there as it was, or with a later status; one
that has ended stands there as it was. -/
theorem gap_records_only_advance (isUuid : String → Bool) (calls more : List (GapCall ε)) :
    ∀ row ∈ gapTableAfter isUuid [] calls, ∃ later ∈ gapTableAfter isUuid [] (calls ++ more),
      row.Advances later ∧ (row.status ≠ .opened → row.status ≠ .classified → later = row) := by
  intro row hrow
  have hsound : GapTableSound (gapTableAfter isUuid [] calls) :=
    (gapTableAfter_step calls gapTableSound_nil).1
  obtain ⟨later, hmem, hadvances⟩ := (gapTableAfter_step more hsound).2 row hrow
  refine ⟨later, ?_, hadvances, fun hopened hclassified => ?_⟩
  · rw [gapTableAfter, List.foldl_append]
    exact hmem
  · rcases hadvances.status with heq | hrank
    · exact heq
    · revert hopened hclassified hrank
      cases row.status <;> cases later.status <;> simp [GapStatus.rank]

end Model

def missedTrades : DataGap (List String) :=
  ⟨"trades", "BTC", "ws", 0, 1, .officialBackfill, .opened, "outage", none, []⟩

/-- A gap is recorded, and then classified. -/
theorem gap_records_only_advance_missedTrades :
    ∃ later ∈ gapTableAfter (fun _ => true) [] [.record missedTrades "g1",
        .transition "g1" .opened .classified ["seen"] 5],
      GapRow.Advances { missedTrades with gapId := "g1" } later := by
  obtain ⟨later, hmem, hadvances, -⟩ := gap_records_only_advance (fun _ => true)
    [.record missedTrades "g1"] [.transition "g1" .opened .classified ["seen"] 5]
    { missedTrades with gapId := "g1" } (List.mem_singleton.mpr rfl)
  exact ⟨later, hmem, hadvances⟩

end Aats.Governance
