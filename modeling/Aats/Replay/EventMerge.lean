import Aats.Execution.OrderStateMachine
import Aats.Lib.KWayMerge
import Mathlib.Data.Prod.Lex
import Mathlib.Data.String.Basic

/-!
# Merging the streams of a derivatives replay

`data_platform/replay/derivatives_backtest/event_merge.py`: six streams of events, one per kind,
are merged by a heap that holds the next event of each stream. An event is checked when it is
read: its class, its own contents, and its place after the event read before it from the same
stream. The merge is a generator, so what it gave before an error was already consumed.

## Main results
* `mergeDerivativeEventStreams_spec` — **a merge ends without error exactly if each stream keeps
  its rules, and then gives all events in the global order**.
-/

namespace Aats.Replay

open Execution (Timestamp)
open KWayMerge

/-! ### Events -/

/-- `DerivativeEventKindV1`. -/
inductive DerivativeEventKind
  | contractTierEffective
  | indexPrice
  | markPrice
  | fundingSettlement
  | tradable
  | barClose
  deriving DecidableEq, Repr

open DerivativeEventKind

def derivativeEventKinds : List DerivativeEventKind :=
  [contractTierEffective, indexPrice, markPrice, fundingSettlement, tradable, barClose]

def DerivativeEventKind.value : DerivativeEventKind → String
  | contractTierEffective => "contract_tier_effective"
  | indexPrice => "index_price"
  | markPrice => "mark_price"
  | fundingSettlement => "funding_settlement"
  | tradable => "tradable"
  | barClose => "bar_close"

/-- `EVENT_PHASE_PRIORITY_V1`. -/
def eventPhasePriority : DerivativeEventKind → ℕ
  | contractTierEffective => 5
  | indexPrice => 10
  | markPrice => 20
  | fundingSettlement => 30
  | tradable => 50
  | barClose => 60

/-- `SINGLETON_EVENT_KINDS_PER_TIMESTAMP_V1`. -/
def singletonEventKindsPerTimestamp : List DerivativeEventKind :=
  [contractTierEffective, fundingSettlement, tradable, barClose]

/-- `ReplayEventHeaderV1`, with the fields the merge reads. -/
structure ReplayEventHeader where
  eventType : DerivativeEventKind
  ts : Timestamp
  sourceSequence : ℕ
  eventId : String
  deriving DecidableEq, Repr

/-- An event: a header, and whatever else events of its class carry. -/
structure DerivativeReplayEvent (β : Type*) where
  header : ReplayEventHeader
  body : β
  deriving DecidableEq, Repr

/-- `DerivativesBacktestContractError`. -/
structure ContractError where
  code : String
  field : Option String := none
  deriving DecidableEq, Repr

/-- What the last check of the merge raises. -/
def eventGlobalOrderInvalid : ContractError := { code := "event_global_order_invalid" }

variable {β : Type*}

/-- The class of an event. The constructor of each class refuses a header of another type. -/
def DerivativeReplayEvent.eventClass (event : DerivativeReplayEvent β) : DerivativeEventKind :=
  event.header.eventType

/-- The order key of an event: its time, its phase, its sequence number and its id. -/
abbrev EventOrderKey := Timestamp ×ₗ ℕ ×ₗ ℕ ×ₗ String

/-- `_unchecked_event_order_key`. -/
def eventOrderKey (event : DerivativeReplayEvent β) : EventOrderKey :=
  toLex (event.header.ts, toLex (eventPhasePriority event.header.eventType,
    toLex (event.header.sourceSequence, event.header.eventId)))

/-- The place of an event within its own stream. -/
def localKey (event : DerivativeReplayEvent β) : Timestamp ×ₗ ℕ :=
  toLex (event.header.ts, event.header.sourceSequence)

/-! ### Reading a stream -/

structure HeapEntry (β : Type*) where
  key : EventOrderKey
  kind : DerivativeEventKind
  event : DerivativeReplayEvent β

/-- Entries are compared by their key, then by the name of their kind. -/
def HeapEntry.rank (entry : HeapEntry β) : EventOrderKey ×ₗ String :=
  toLex (entry.key, entry.kind.value)

/-- `heapq.heappush`. The heap is held as the list in the order in which it gives its entries. -/
def heappush (heap : List (HeapEntry β)) (entry : HeapEntry β) : List (HeapEntry β) :=
  heap.orderedInsert (fun a b => a.rank ≤ b.rank) entry

structure MergeState (β : Type*) where
  iterators : DerivativeEventKind → List (DerivativeReplayEvent β)
  lastLocal : DerivativeEventKind → Option (Timestamp ×ₗ ℕ) := fun _ => none
  heap : List (HeapEntry β) := []

/-- The locals after an event of a kind was read and put on the heap. -/
def MergeState.push (s : MergeState β) (kind : DerivativeEventKind)
    (event : DerivativeReplayEvent β) (rest : List (DerivativeReplayEvent β)) : MergeState β where
  iterators := Function.update s.iterators kind rest
  lastLocal := Function.update s.lastLocal kind (some (localKey event))
  heap := heappush s.heap { key := eventOrderKey event, kind := kind, event := event }

/-- What a consumer sees that takes all a generator gives. -/
structure Drained (β : Type*) where
  emitted : List (DerivativeReplayEvent β) := []
  error : Option ContractError := none

section Merge

variable [DecidableEq β]

-- What `parse_derivative_replay_event` makes of the `to_dict` of an event.  The merge itself
-- only compares the outcome with the event.
variable (reparse : DerivativeReplayEvent β → Except ContractError (DerivativeReplayEvent β))

def revalidateEvent (expectedKind : DerivativeEventKind) (event : DerivativeReplayEvent β) :
    Except ContractError (DerivativeReplayEvent β) :=
  if event.eventClass ≠ expectedKind then .error { code := "event_stream_type_mismatch" }
  else
    match reparse event with
    | .error e => .error e
    | .ok validated =>
      if validated.eventClass ≠ event.eventClass ∨ validated ≠ event then
        .error { code := "event_revalidation_mismatch" }
      else .ok validated

/-- The checks of `read_next` on an event, after the event read before it. -/
def checkNext (kind : DerivativeEventKind) (previous : Option (Timestamp ×ₗ ℕ))
    (event : DerivativeReplayEvent β) : Except ContractError (DerivativeReplayEvent β) :=
  if event.eventClass ≠ kind then .error { code := "event_stream_type_mismatch" }
  else
    match revalidateEvent reparse kind event with
    | .error e => .error e
    | .ok event =>
      match previous with
      | none => .ok event
      | some previous =>
        if localKey event ≤ previous then
          .error { code := "event_stream_order_invalid", field := some kind.value }
        else if kind ∈ singletonEventKindsPerTimestamp ∧
            (ofLex (localKey event)).1 = (ofLex previous).1 then
          .error { code := "event_timestamp_cardinality_invalid", field := some kind.value }
        else .ok event

def readNext (kind : DerivativeEventKind) (s : MergeState β) :
    Except ContractError (MergeState β) :=
  match s.iterators kind with
  | [] => .ok s
  | event :: rest =>
    match checkNext reparse kind (s.lastLocal kind) event with
    | .error e => .error e
    | .ok event => .ok (s.push kind event rest)

/-- The first `read_next` of each kind. -/
def readFirst : List DerivativeEventKind → MergeState β → Except ContractError (MergeState β)
  | [], s => .ok s
  | kind :: kinds, s =>
    match readNext reparse kind s with
    | .error e => .error e
    | .ok s => readFirst kinds s

def mergeLoop : ℕ → MergeState β → Option EventOrderKey → Drained β
  | 0, _, _ => {}
  | rounds + 1, s, previousGlobal =>
    match s.heap with
    | [] => {}
    | entry :: heap =>
      if previousGlobal.any (fun previous => entry.key ≤ previous) then
        { error := some eventGlobalOrderInvalid }
      else
        match readNext reparse entry.kind { s with heap := heap } with
        | .error e => { emitted := [entry.event], error := some e }
        | .ok s =>
          let rest := mergeLoop rounds s (some entry.key)
          { rest with emitted := entry.event :: rest.emitted }

def eventCount (streams : DerivativeEventKind → List (DerivativeReplayEvent β)) : ℕ :=
  (derivativeEventKinds.map fun kind => (streams kind).length).sum

/-- `merge_derivative_event_streams`; each round of its loop gives one event. -/
def mergeDerivativeEventStreams
    (streams : DerivativeEventKind → List (DerivativeReplayEvent β)) : Drained β :=
  match readFirst reparse derivativeEventKinds { iterators := streams } with
  | .error e => { error := some e }
  | .ok s => mergeLoop reparse (eventCount streams) s none

end Merge

/-! ### The keys -/

theorem mem_derivativeEventKinds (kind : DerivativeEventKind) : kind ∈ derivativeEventKinds := by
  cases kind <;> decide

theorem nodup_derivativeEventKinds : derivativeEventKinds.Nodup := by decide

theorem eventPhasePriority_injective : Function.Injective eventPhasePriority := by
  intro a b h
  cases a <;> cases b <;> first | rfl | cases h

theorem eventOrderKey_ne {a b : DerivativeReplayEvent β} (h : a.eventClass ≠ b.eventClass) :
    eventOrderKey a ≠ eventOrderKey b := by
  intro heq
  have hphase : eventPhasePriority a.eventClass = eventPhasePriority b.eventClass :=
    congrArg (fun key : EventOrderKey => (ofLex (ofLex key).2).1) heq
  exact h (eventPhasePriority_injective hphase)

theorem eventOrderKey_lt {a b : DerivativeReplayEvent β} (hclass : a.eventClass = b.eventClass)
    (h : localKey a < localKey b) : eventOrderKey a < eventOrderKey b := by
  unfold DerivativeReplayEvent.eventClass at hclass
  unfold localKey at h
  unfold eventOrderKey
  rw [hclass]
  rcases Prod.Lex.toLex_lt_toLex.mp h with hts | ⟨hts, hseq⟩
  · exact Prod.Lex.toLex_lt_toLex.mpr (.inl hts)
  · refine Prod.Lex.toLex_lt_toLex.mpr (.inr ⟨hts, Prod.Lex.toLex_lt_toLex.mpr (.inr ⟨rfl, ?_⟩)⟩)
    exact Prod.Lex.toLex_lt_toLex.mpr (.inl hseq)

/-! ### The rules of one stream -/

section Rules

variable {reparse : DerivativeReplayEvent β → Except ContractError (DerivativeReplayEvent β)}
  {kind : DerivativeEventKind} {previous : Option (Timestamp ×ₗ ℕ)}
  {event : DerivativeReplayEvent β} {stream : List (DerivativeReplayEvent β)}

/-- What the checks of `read_next` ask for. -/
structure Readable (reparse : DerivativeReplayEvent β → Except ContractError (DerivativeReplayEvent β))
    (kind : DerivativeEventKind) (previous : Option (Timestamp ×ₗ ℕ))
    (event : DerivativeReplayEvent β) : Prop where
  ofKind : event.eventClass = kind
  valid : reparse event = .ok event
  later : ∀ p, previous = some p → p < localKey event
  alone : kind ∈ singletonEventKindsPerTimestamp →
    ∀ p, previous = some p → (ofLex (localKey event)).1 ≠ (ofLex p).1

/-- **The rules of one stream**: its events are valid and of its kind, come in the order of their
time and sequence number without a repetition, and for some kinds have different times. -/
structure LocalRules (reparse : DerivativeReplayEvent β → Except ContractError (DerivativeReplayEvent β))
    (kind : DerivativeEventKind) (stream : List (DerivativeReplayEvent β)) : Prop where
  ofKind : ∀ event ∈ stream, event.eventClass = kind
  valid : ∀ event ∈ stream, reparse event = .ok event
  ordered : stream.Pairwise fun a b => localKey a < localKey b
  alone : kind ∈ singletonEventKindsPerTimestamp →
    stream.Pairwise fun a b => a.header.ts ≠ b.header.ts

/-- What is left of a stream passes all checks, the first after `previous`. -/
def Acceptable (reparse : DerivativeReplayEvent β → Except ContractError (DerivativeReplayEvent β))
    (kind : DerivativeEventKind) :
    Option (Timestamp ×ₗ ℕ) → List (DerivativeReplayEvent β) → Prop
  | _, [] => True
  | previous, event :: rest =>
    Readable reparse kind previous event ∧ Acceptable reparse kind (some (localKey event)) rest

/-- Checking each event after the one before it is checking it after all before it. -/
theorem acceptable_iff : Acceptable reparse kind previous stream ↔
    LocalRules reparse kind stream ∧ ∀ p, previous = some p → ∀ event ∈ stream,
      p < localKey event ∧
        (kind ∈ singletonEventKindsPerTimestamp → event.header.ts ≠ (ofLex p).1) := by
  induction stream generalizing previous with
  | nil =>
    refine iff_of_true trivial ⟨⟨by simp, by simp, .nil, fun _ => .nil⟩, by simp⟩
  | cons first rest ih =>
    rw [Acceptable, ih]
    constructor
    · rintro ⟨hread, hrules, hafter⟩
      have hafter := hafter (localKey first) rfl
      refine ⟨⟨?_, ?_, ?_, ?_⟩, ?_⟩
      · exact List.forall_mem_cons.mpr ⟨hread.ofKind, hrules.ofKind⟩
      · exact List.forall_mem_cons.mpr ⟨hread.valid, hrules.valid⟩
      · exact List.pairwise_cons.mpr ⟨fun b hb => (hafter b hb).1, hrules.ordered⟩
      · intro hsingle
        refine List.pairwise_cons.mpr ⟨fun b hb => ?_, hrules.alone hsingle⟩
        exact ((hafter b hb).2 hsingle).symm
      · rintro p rfl event hmem
        have hp := hread.later p rfl
        rcases List.mem_cons.mp hmem with rfl | hmem
        · exact ⟨hp, fun hsingle => hread.alone hsingle p rfl⟩
        · have hlt := (hafter event hmem).1
          refine ⟨hp.trans hlt, fun hsingle heq => ?_⟩
          -- the time of `first` lies between the two and is not the earlier one
          have hfirst := hread.alone hsingle p rfl
          have hle₁ : (ofLex p).1 ≤ first.header.ts := Prod.Lex.monotone_fst p (localKey first) hp.le
          have hle₂ : first.header.ts ≤ event.header.ts := Prod.Lex.monotone_fst (localKey first) (localKey event) hlt.le
          exact hfirst (le_antisymm (heq ▸ hle₂) hle₁)
    · rintro ⟨hrules, hafter⟩
      have hordered := List.pairwise_cons.mp hrules.ordered
      refine ⟨⟨?_, ?_, ?_, ?_⟩, ⟨?_, ?_, hordered.2, ?_⟩, ?_⟩
      · exact hrules.ofKind first List.mem_cons_self
      · exact hrules.valid first List.mem_cons_self
      · exact fun p hp => (hafter p hp first List.mem_cons_self).1
      · exact fun hsingle p hp => (hafter p hp first List.mem_cons_self).2 hsingle
      · exact fun event hmem => hrules.ofKind event (List.mem_cons_of_mem _ hmem)
      · exact fun event hmem => hrules.valid event (List.mem_cons_of_mem _ hmem)
      · exact fun hsingle => (List.pairwise_cons.mp (hrules.alone hsingle)).2
      · rintro p ⟨⟩ event hmem
        refine ⟨hordered.1 event hmem, fun hsingle => ?_⟩
        exact ((List.pairwise_cons.mp (hrules.alone hsingle)).1 event hmem).symm

theorem acceptable_none_iff :
    Acceptable reparse kind none stream ↔ LocalRules reparse kind stream := by
  rw [acceptable_iff]
  simp

variable [DecidableEq β]

theorem revalidateEvent_eq_ok {validated : DerivativeReplayEvent β} (h : event.eventClass = kind) :
    revalidateEvent reparse kind event = .ok validated ↔
      validated = event ∧ reparse event = .ok event := by
  unfold revalidateEvent
  rw [if_neg (not_not.mpr h)]
  cases hparse : reparse event with
  | error e => simp
  | ok parsed =>
    by_cases heq : parsed = event
    · simp only [heq, ne_eq, not_true_eq_false, or_self, if_false, Except.ok.injEq, and_true]
      exact eq_comm
    · simp [heq]

theorem checkNext_eq_ok {checked : DerivativeReplayEvent β} :
    checkNext reparse kind previous event = .ok checked ↔
      checked = event ∧ Readable reparse kind previous event := by
  unfold checkNext
  by_cases hclass : event.eventClass = kind
  · rw [if_neg (not_not.mpr hclass)]
    cases hvalid : revalidateEvent reparse kind event with
    | error e =>
      refine iff_of_false (by rintro ⟨⟩) ?_
      rintro ⟨-, hr⟩
      have hok := (revalidateEvent_eq_ok hclass).mpr ⟨rfl, hr.valid⟩
      rw [hvalid] at hok
      cases hok
    | ok validated =>
      obtain ⟨rfl, hparse⟩ := (revalidateEvent_eq_ok hclass).mp hvalid
      cases previous with
      | none =>
        simp only [Except.ok.injEq]
        exact ⟨fun h => ⟨h.symm, hclass, hparse, by simp, by simp⟩, fun h => h.1.symm⟩
      | some p =>
        simp only
        split
        · next hle =>
          refine iff_of_false (by rintro ⟨⟩) fun h => ?_
          exact absurd (h.2.later p rfl) (not_lt.mpr hle)
        · next hlt =>
          split
          · next hts =>
            refine iff_of_false (by rintro ⟨⟩) fun h => ?_
            exact h.2.alone hts.1 p rfl hts.2
          · next hts =>
            simp only [Except.ok.injEq]
            refine ⟨fun h => ⟨h.symm, hclass, hparse, ?_, ?_⟩, fun h => h.1.symm⟩
            · rintro q ⟨⟩
              exact not_le.mp hlt
            · rintro hsingle q ⟨⟩ heq
              exact hts ⟨hsingle, heq⟩
  · rw [if_pos hclass]
    exact iff_of_false (by rintro ⟨⟩) fun h => hclass h.2.ofKind

theorem readNext_eq_ok {s t : MergeState β} : readNext reparse kind s = .ok t ↔
    (s.iterators kind = [] ∧ t = s) ∨
      ∃ event rest, s.iterators kind = event :: rest ∧
        Readable reparse kind (s.lastLocal kind) event ∧ t = s.push kind event rest := by
  unfold readNext
  cases hit : s.iterators kind with
  | nil => simp [eq_comm]
  | cons event rest =>
    cases hcheck : checkNext reparse kind (s.lastLocal kind) event with
    | error e =>
      simp only [hcheck]
      refine iff_of_false (by rintro ⟨⟩) ?_
      rintro (⟨h, -⟩ | ⟨event', rest', h, hread, -⟩)
      · cases h
      · cases h
        have hok := checkNext_eq_ok.mpr ⟨rfl, hread⟩
        rw [hcheck] at hok
        cases hok
    | ok checked =>
      obtain ⟨rfl, hread⟩ := checkNext_eq_ok.mp hcheck
      simp only [hcheck]
      constructor
      · rintro ⟨⟩
        exact .inr ⟨checked, rest, rfl, hread, rfl⟩
      · rintro (⟨h, -⟩ | ⟨event', rest', h, -, rfl⟩)
        · cases h
        · cases h
          rfl

theorem revalidateEvent_ne_error
    (hparse : ∀ event, reparse event ≠ .error eventGlobalOrderInvalid) :
    revalidateEvent reparse kind event ≠ .error eventGlobalOrderInvalid := by
  unfold revalidateEvent
  split
  · simp [eventGlobalOrderInvalid]
  · split
    · next e herror =>
      rintro ⟨⟩
      exact hparse event herror
    · split <;> simp [eventGlobalOrderInvalid]

theorem checkNext_ne_error
    (hparse : ∀ event, reparse event ≠ .error eventGlobalOrderInvalid) :
    checkNext reparse kind previous event ≠ .error eventGlobalOrderInvalid := by
  unfold checkNext
  split
  · simp [eventGlobalOrderInvalid]
  · split
    · next e herror =>
      rintro ⟨⟩
      exact revalidateEvent_ne_error hparse herror
    · cases previous with
      | none => simp
      | some previous => simp only; split_ifs <;> simp [eventGlobalOrderInvalid]

theorem readNext_ne_error {s : MergeState β}
    (hparse : ∀ event, reparse event ≠ .error eventGlobalOrderInvalid) :
    readNext reparse kind s ≠ .error eventGlobalOrderInvalid := by
  unfold readNext
  split
  · rintro ⟨⟩
  · split
    · next e hcheck =>
      rintro ⟨⟩
      exact checkNext_ne_error hparse hcheck
    · rintro ⟨⟩

theorem readFirst_ne_error {kinds : List DerivativeEventKind} {s : MergeState β}
    (hparse : ∀ event, reparse event ≠ .error eventGlobalOrderInvalid) :
    readFirst reparse kinds s ≠ .error eventGlobalOrderInvalid := by
  induction kinds generalizing s with
  | nil => rintro ⟨⟩
  | cons kind kinds ih =>
    rw [readFirst]
    cases hread : readNext reparse kind s with
    | error e =>
      rintro ⟨⟩
      exact readNext_ne_error hparse hread
    | ok t => exact ih

theorem not_acceptable_of_readNext_error {s : MergeState β} {e : ContractError}
    (h : readNext reparse kind s = .error e) :
    ¬ Acceptable reparse kind (s.lastLocal kind) (s.iterators kind) := by
  intro hacc
  cases hit : s.iterators kind with
  | nil =>
    have hok : readNext reparse kind s = .ok s := readNext_eq_ok.mpr (.inl ⟨hit, rfl⟩)
    rw [h] at hok
    cases hok
  | cons event rest =>
    rw [hit] at hacc
    have hok := readNext_eq_ok.mpr (.inr ⟨event, rest, hit, hacc.1, rfl⟩)
    rw [h] at hok
    cases hok

end Rules

/-! ### The heap and the streams -/

section Loop

theorem push_iterators (s : MergeState β) (kind : DerivativeEventKind)
    (event : DerivativeReplayEvent β) (rest : List (DerivativeReplayEvent β)) :
    (s.push kind event rest).iterators = Function.update s.iterators kind rest := rfl

theorem push_lastLocal (s : MergeState β) (kind : DerivativeEventKind)
    (event : DerivativeReplayEvent β) (rest : List (DerivativeReplayEvent β)) :
    (s.push kind event rest).lastLocal =
      Function.update s.lastLocal kind (some (localKey event)) := rfl

theorem push_heap (s : MergeState β) (kind : DerivativeEventKind)
    (event : DerivativeReplayEvent β) (rest : List (DerivativeReplayEvent β)) :
    (s.push kind event rest).heap =
      heappush s.heap { key := eventOrderKey event, kind := kind, event := event } := rfl

/-- Each kind holds at most one entry, made of the event last read; a kind in `read` without an
entry has nothing left. -/
structure Primed (read : DerivativeEventKind → Prop) (s : MergeState β) : Prop where
  sorted : s.heap.Pairwise fun a b => a.rank ≤ b.rank
  kinds : (s.heap.map HeapEntry.kind).Nodup
  ofKind : ∀ entry ∈ s.heap, entry.event.eventClass = entry.kind
  ofEvent : ∀ entry ∈ s.heap, entry.key = eventOrderKey entry.event
  last : ∀ entry ∈ s.heap, s.lastLocal entry.kind = some (localKey entry.event)
  drained : ∀ kind, read kind → (∀ entry ∈ s.heap, entry.kind ≠ kind) → s.iterators kind = []

/-- What a stream still has to give: its entry and what was not read. -/
def pending (s : MergeState β) (kind : DerivativeEventKind) : List (DerivativeReplayEvent β) :=
  (s.heap.filter fun entry => entry.kind = kind).map HeapEntry.event ++ s.iterators kind

variable {read : DerivativeEventKind → Prop} {s t : MergeState β} {entry : HeapEntry β}
  {heap : List (HeapEntry β)}

theorem pending_of_free {kind : DerivativeEventKind} (h : ∀ entry ∈ s.heap, entry.kind ≠ kind) :
    pending s kind = s.iterators kind := by
  unfold pending
  rw [List.filter_eq_nil_iff.mpr (by simpa using h), List.map_nil, List.nil_append]

theorem mem_heappush {a b : HeapEntry β} : a ∈ heappush heap b ↔ a = b ∨ a ∈ heap :=
  List.mem_orderedInsert _

theorem heappush_perm (heap : List (HeapEntry β)) (entry : HeapEntry β) :
    (heappush heap entry).Perm (entry :: heap) :=
  List.perm_orderedInsert _ _ _

theorem filter_heappush {kind : DerivativeEventKind} (h : entry.kind ≠ kind) :
    (heappush heap entry).filter (fun e => decide (e.kind = kind)) =
      heap.filter fun e => decide (e.kind = kind) := by
  have hne : ¬ (decide (entry.kind = kind) = true) := by simpa using h
  unfold heappush
  induction heap with
  | nil => exact List.filter_cons_of_neg hne
  | cons first heap ih =>
    rw [List.orderedInsert_cons]
    split
    · exact List.filter_cons_of_neg hne
    · rw [List.filter_cons, List.filter_cons, ih]

theorem pending_push {kind : DerivativeEventKind} {event : DerivativeReplayEvent β}
    {rest : List (DerivativeReplayEvent β)}
    (hfree : ∀ entry ∈ s.heap, entry.kind ≠ kind) (hit : s.iterators kind = event :: rest) :
    pending (s.push kind event rest) = pending s := by
  funext k
  unfold pending
  rw [push_iterators, push_heap]
  by_cases hk : k = kind
  · subst hk
    have hnone : (s.heap.filter fun entry => decide (entry.kind = k)) = [] :=
      List.filter_eq_nil_iff.mpr (by simpa using hfree)
    have hperm := (heappush_perm s.heap
      { key := eventOrderKey event, kind := k, event := event }).filter
        (fun entry => decide (entry.kind = k))
    rw [List.filter_cons_of_pos (by simp), hnone] at hperm
    rw [List.perm_singleton.mp hperm, hnone, Function.update_self, hit]
    rfl
  · rw [Function.update_of_ne hk, filter_heappush (Ne.symm hk)]

theorem Primed.readEvent {kind : DerivativeEventKind} {event : DerivativeReplayEvent β}
    {rest : List (DerivativeReplayEvent β)} (h : Primed read s)
    (hfree : ∀ entry ∈ s.heap, entry.kind ≠ kind) (hclass : event.eventClass = kind) :
    Primed (fun k => read k ∨ k = kind) (s.push kind event rest) := by
  refine ⟨?_, ?_, ?_, ?_, ?_, ?_⟩
  · exact List.Pairwise.orderedInsert _ _ h.sorted
  · rw [push_heap, ((heappush_perm _ _).map HeapEntry.kind).nodup_iff, List.map_cons, List.nodup_cons]
    refine ⟨fun hmem => ?_, h.kinds⟩
    obtain ⟨other, hother, heq⟩ := List.mem_map.mp hmem
    exact hfree other hother heq
  · intro entry hentry
    rcases mem_heappush.mp hentry with rfl | hentry
    · exact hclass
    · exact h.ofKind entry hentry
  · intro entry hentry
    rcases mem_heappush.mp hentry with rfl | hentry
    · rfl
    · exact h.ofEvent entry hentry
  · intro entry hentry
    rw [push_lastLocal]
    rcases mem_heappush.mp hentry with rfl | hentry
    · exact Function.update_self ..
    · rw [Function.update_of_ne (hfree entry hentry)]
      exact h.last entry hentry
  · intro k hk hnone
    have hne : k ≠ kind := fun heq =>
      hnone _ (mem_heappush.mpr (.inl rfl)) heq.symm
    rw [push_iterators, Function.update_of_ne hne]
    exact h.drained k (hk.resolve_right hne) fun entry hentry =>
      hnone entry (mem_heappush.mpr (.inr hentry))

theorem Primed.head_mem (h : Primed (fun _ => True) s) {kind : DerivativeEventKind}
    {event : DerivativeReplayEvent β} {rest : List (DerivativeReplayEvent β)}
    (hp : pending s kind = event :: rest) : ∃ entry ∈ s.heap, entry.event = event := by
  unfold pending at hp
  cases hfilter : s.heap.filter fun entry => entry.kind = kind with
  | nil =>
    have hnone : ∀ entry ∈ s.heap, entry.kind ≠ kind := by
      simpa using List.filter_eq_nil_iff.mp hfilter
    rw [hfilter, h.drained kind trivial hnone] at hp
    cases hp
  | cons entry entries =>
    rw [hfilter, List.map_cons, List.cons_append, List.cons.injEq] at hp
    have hmem : entry ∈ s.heap.filter fun entry => entry.kind = kind := by
      rw [hfilter]
      exact List.mem_cons_self
    exact ⟨entry, (List.mem_filter.mp hmem).1, hp.1⟩

theorem Primed.pop (h : Primed (fun _ => True) s) (hheap : s.heap = entry :: heap) :
    Primed (fun k => k ≠ entry.kind) { s with heap := heap } ∧
      (∀ other ∈ heap, other.kind ≠ entry.kind) ∧
      (∀ other ∈ heap, entry.key < other.key) := by
  have hsorted := h.sorted
  have hkinds := h.kinds
  rw [hheap, List.pairwise_cons] at hsorted
  rw [hheap, List.map_cons, List.nodup_cons] at hkinds
  have hentry : entry ∈ s.heap := by rw [hheap]; exact List.mem_cons_self
  have hmem : ∀ other ∈ heap, other ∈ s.heap := by
    intro other hother
    rw [hheap]
    exact List.mem_cons_of_mem _ hother
  have hother : ∀ other ∈ heap, other.kind ≠ entry.kind := fun other hother heq =>
    hkinds.1 (heq ▸ List.mem_map_of_mem hother)
  refine ⟨⟨hsorted.2, hkinds.2, fun o ho => h.ofKind o (hmem o ho),
    fun o ho => h.ofEvent o (hmem o ho), fun o ho => h.last o (hmem o ho), ?_⟩, hother, ?_⟩
  · intro k hk hnone
    refine h.drained k trivial fun o ho => ?_
    rw [hheap] at ho
    rcases List.mem_cons.mp ho with rfl | ho
    · exact hk.symm
    · exact hnone o ho
  · intro o ho
    have hle : entry.key ≤ o.key := Prod.Lex.monotone_fst _ _ (hsorted.1 o ho)
    refine lt_of_le_of_ne hle ?_
    rw [h.ofEvent entry hentry, h.ofEvent o (hmem o ho)]
    refine eventOrderKey_ne ?_
    rw [h.ofKind entry hentry, h.ofKind o (hmem o ho)]
    exact (hother o ho).symm

theorem pending_pop (hheap : s.heap = entry :: heap)
    (hother : ∀ other ∈ heap, other.kind ≠ entry.kind) :
    pending s entry.kind = entry.event :: s.iterators entry.kind ∧
      pending { s with heap := heap } =
        Function.update (pending s) entry.kind (s.iterators entry.kind) := by
  have hnone : (heap.filter fun e => decide (e.kind = entry.kind)) = [] :=
    List.filter_eq_nil_iff.mpr (by simpa using hother)
  constructor
  · unfold pending
    rw [hheap, List.filter_cons_of_pos (by simp), hnone]
    rfl
  · funext k
    by_cases hk : k = entry.kind
    · subst hk
      rw [Function.update_self]
      exact pending_of_free hother
    · rw [Function.update_of_ne hk]
      unfold pending
      rw [hheap, List.filter_cons_of_neg (by simpa using Ne.symm hk)]

theorem eventCount_update {streams : DerivativeEventKind → List (DerivativeReplayEvent β)}
    {kind : DerivativeEventKind} {event : DerivativeReplayEvent β}
    {rest : List (DerivativeReplayEvent β)} (h : streams kind = event :: rest) :
    eventCount streams = eventCount (Function.update streams kind rest) + 1 := by
  have hlength : (streams kind).length = rest.length + 1 := by rw [h, List.length_cons]
  cases kind <;> simp [eventCount, derivativeEventKinds, Function.update] at hlength ⊢ <;> omega

/-! ### The merge -/

section Run

variable [DecidableEq β]
variable {reparse : DerivativeReplayEvent β → Except ContractError (DerivativeReplayEvent β)}
  {kind : DerivativeEventKind}

theorem Primed.readNext (h : Primed read s) (hfree : ∀ entry ∈ s.heap, entry.kind ≠ kind)
    (hr : readNext reparse kind s = .ok t) :
    Primed (fun k => read k ∨ k = kind) t ∧ pending t = pending s ∧
      ((∀ k, Acceptable reparse k (t.lastLocal k) (t.iterators k)) ↔
        ∀ k, Acceptable reparse k (s.lastLocal k) (s.iterators k)) ∧
      (∀ entry ∈ t.heap, entry ∈ s.heap ∨ entry.event.eventClass = kind ∧
        entry.key = eventOrderKey entry.event ∧
        ∀ p, s.lastLocal kind = some p → p < localKey entry.event) ∧
      t.heap.length + eventCount t.iterators = s.heap.length + eventCount s.iterators := by
  rcases readNext_eq_ok.mp hr with ⟨hnil, rfl⟩ | ⟨event, rest, hit, hread, rfl⟩
  · refine ⟨⟨h.sorted, h.kinds, h.ofKind, h.ofEvent, h.last, ?_⟩, rfl, Iff.rfl,
      fun entry hentry => .inl hentry, rfl⟩
    rintro k (hk | rfl) hnone
    · exact h.drained k hk hnone
    · exact hnil
  · refine ⟨h.readEvent hfree hread.ofKind, pending_push hfree hit, ?_, ?_, ?_⟩
    · refine forall_congr' fun k => ?_
      rw [push_lastLocal, push_iterators]
      by_cases hk : k = kind
      · subst hk
        rw [Function.update_self, Function.update_self, hit, Acceptable]
        exact (and_iff_right hread).symm
      · rw [Function.update_of_ne hk, Function.update_of_ne hk]
    · intro entry hentry
      rcases mem_heappush.mp hentry with rfl | hentry
      · exact .inr ⟨hread.ofKind, rfl, hread.later⟩
      · exact .inl hentry
    · rw [push_heap, push_iterators, (heappush_perm _ _).length_eq, List.length_cons,
        eventCount_update hit]
      omega

variable (reparse) in
omit [DecidableEq β] in
theorem Primed.of_heap_nil (h : Primed (fun _ => True) s) (hheap : s.heap = []) :
    (∀ k, Acceptable reparse k (s.lastLocal k) (s.iterators k)) ∧
      Merges eventOrderKey (pending s) [] := by
  have hnil : ∀ k, s.iterators k = [] := fun k => h.drained k trivial (by simp [hheap])
  refine ⟨fun k => by rw [hnil k]; exact trivial, .done fun k => ?_⟩
  rw [pending_of_free (by simp [hheap]), hnil k]

variable (reparse) in
/-- **The loop of the merge**: it ends without error exactly if what is left passes all checks,
and then gives all that the streams have, always the smallest first. Its own check of the order
never fails. -/
theorem mergeLoop_spec {rounds : ℕ} {previousGlobal : Option EventOrderKey}
    (h : Primed (fun _ => True) s) (hrounds : s.heap.length + eventCount s.iterators ≤ rounds)
    (hprevious : ∀ p, previousGlobal = some p → ∀ entry ∈ s.heap, p < entry.key) :
    ((mergeLoop reparse rounds s previousGlobal).error = none ↔
        ∀ k, Acceptable reparse k (s.lastLocal k) (s.iterators k)) ∧
      ((mergeLoop reparse rounds s previousGlobal).error = none →
        Merges eventOrderKey (pending s) (mergeLoop reparse rounds s previousGlobal).emitted) ∧
      ((∀ event, reparse event ≠ .error eventGlobalOrderInvalid) →
        (mergeLoop reparse rounds s previousGlobal).error ≠ some eventGlobalOrderInvalid) := by
  induction rounds generalizing s previousGlobal with
  | zero =>
    have hheap : s.heap = [] := List.length_eq_zero_iff.mp (by omega)
    obtain ⟨hacc, hmerges⟩ := h.of_heap_nil reparse hheap
    exact ⟨iff_of_true rfl hacc, fun _ => hmerges, fun _ => by rintro ⟨⟩⟩
  | succ rounds ih =>
    unfold mergeLoop
    cases hheap : s.heap with
    | nil =>
      obtain ⟨hacc, hmerges⟩ := h.of_heap_nil reparse hheap
      exact ⟨iff_of_true rfl hacc, fun _ => hmerges, fun _ => by rintro ⟨⟩⟩
    | cons entry heap =>
      have hentry : entry ∈ s.heap := by rw [hheap]; exact List.mem_cons_self
      obtain ⟨hpop, hother, hlt⟩ := h.pop hheap
      obtain ⟨hhead, hrest⟩ := pending_pop hheap hother
      -- the check of the global order passes
      have hglobal : previousGlobal.any (fun p => entry.key ≤ p) = false := by
        cases previousGlobal with
        | none => rfl
        | some p => simpa using hprevious p rfl entry hentry
      simp only [hglobal, Bool.false_eq_true, if_false]
      cases hread : readNext reparse entry.kind { s with heap := heap } with
      | error e =>
        refine ⟨iff_of_false (by rintro ⟨⟩) fun hacc => ?_, by rintro ⟨⟩, fun hparse herror => ?_⟩
        · exact not_acceptable_of_readNext_error hread (hacc entry.kind)
        · cases herror
          exact readNext_ne_error hparse hread
      | ok t =>
        obtain ⟨hprimed, hpending, hacc, hnew, hcount⟩ := hpop.readNext hother hread
        have hall : Primed (fun _ => True) t :=
          ⟨hprimed.sorted, hprimed.kinds, hprimed.ofKind, hprimed.ofEvent, hprimed.last,
            fun k _ => hprimed.drained k (ne_or_eq k entry.kind)⟩
        -- the event read after the entry comes later in the same stream
        have hnext : ∀ p, some entry.key = some p → ∀ other ∈ t.heap, p < other.key := by
          rintro p ⟨⟩ other hmem
          rcases hnew other hmem with hmem | ⟨hclass, hkey, hlater⟩
          · exact hlt other hmem
          · rw [h.ofEvent entry hentry, hkey]
            exact eventOrderKey_lt ((h.ofKind entry hentry).trans hclass.symm)
              (hlater _ (h.last entry hentry))
        have hleft : t.heap.length + eventCount t.iterators ≤ rounds := by
          have hlength : s.heap.length = heap.length + 1 := by rw [hheap, List.length_cons]
          simp only at hcount
          omega
        obtain ⟨hiff, hmerges, hnever⟩ := ih hall hleft hnext
        refine ⟨hiff.trans hacc, fun herror => ?_, hnever⟩
        refine .emit entry.kind hhead ?_ (hrest ▸ hpending ▸ hmerges herror)
        intro j b m hb
        obtain ⟨other, hmem, rfl⟩ := h.head_mem hb
        rw [← h.ofEvent entry hentry, ← h.ofEvent other hmem]
        rw [hheap] at hmem
        rcases List.mem_cons.mp hmem with rfl | hmem
        · exact le_rfl
        · exact (hlt other hmem).le

theorem not_acceptable_of_readFirst_error {kinds : List DerivativeEventKind} {e : ContractError}
    (h : Primed read s) (hnodup : kinds.Nodup) (hfree : ∀ entry ∈ s.heap, entry.kind ∉ kinds)
    (hr : readFirst reparse kinds s = .error e) :
    ¬ ∀ k, Acceptable reparse k (s.lastLocal k) (s.iterators k) := by
  induction kinds generalizing read s with
  | nil => cases hr
  | cons kind kinds ih =>
    rw [List.nodup_cons] at hnodup
    rw [readFirst] at hr
    cases hread : readNext reparse kind s with
    | error e => exact fun hacc => not_acceptable_of_readNext_error hread (hacc kind)
    | ok t =>
      rw [hread] at hr
      obtain ⟨hprimed, -, hacc, hnew, -⟩ :=
        h.readNext (fun entry hentry heq => hfree entry hentry (heq ▸ List.mem_cons_self)) hread
      rw [← hacc]
      refine ih hprimed hnodup.2 (fun entry hentry => ?_) hr
      rcases hnew entry hentry with hentry | ⟨hclass, -⟩
      · exact fun hmem => hfree entry hentry (List.mem_cons_of_mem _ hmem)
      · rw [← hprimed.ofKind entry hentry, hclass]
        exact hnodup.1

theorem readFirst_ok {kinds : List DerivativeEventKind} (h : Primed read s) (hnodup : kinds.Nodup)
    (hfree : ∀ entry ∈ s.heap, entry.kind ∉ kinds) (hr : readFirst reparse kinds s = .ok t) :
    Primed (fun k => read k ∨ k ∈ kinds) t ∧ pending t = pending s ∧
      ((∀ k, Acceptable reparse k (t.lastLocal k) (t.iterators k)) ↔
        ∀ k, Acceptable reparse k (s.lastLocal k) (s.iterators k)) ∧
      t.heap.length + eventCount t.iterators = s.heap.length + eventCount s.iterators := by
  induction kinds generalizing read s with
  | nil =>
    cases hr
    refine ⟨⟨h.sorted, h.kinds, h.ofKind, h.ofEvent, h.last, ?_⟩, rfl, Iff.rfl, rfl⟩
    exact fun k hk => h.drained k (hk.resolve_right (List.not_mem_nil))
  | cons kind kinds ih =>
    rw [List.nodup_cons] at hnodup
    rw [readFirst] at hr
    cases hread : readNext reparse kind s with
    | error e =>
      rw [hread] at hr
      cases hr
    | ok u =>
      rw [hread] at hr
      obtain ⟨hprimed, hpending, hacc, hnew, hcount⟩ :=
        h.readNext (fun entry hentry heq => hfree entry hentry (heq ▸ List.mem_cons_self)) hread
      have hfree' : ∀ entry ∈ u.heap, entry.kind ∉ kinds := by
        intro entry hentry
        rcases hnew entry hentry with hentry | ⟨hclass, -⟩
        · exact fun hmem => hfree entry hentry (List.mem_cons_of_mem _ hmem)
        · rw [← hprimed.ofKind entry hentry, hclass]
          exact hnodup.1
      obtain ⟨ht, hpending', hacc', hcount'⟩ := ih hprimed hnodup.2 hfree' hr
      refine ⟨⟨ht.sorted, ht.kinds, ht.ofKind, ht.ofEvent, ht.last, ?_⟩,
        hpending'.trans hpending, hacc'.trans hacc, hcount'.trans hcount⟩
      rintro k (hk | hk) hnone
      · exact ht.drained k (.inl (.inl hk)) hnone
      · rcases List.mem_cons.mp hk with rfl | hk
        · exact ht.drained _ (.inl (.inr rfl)) hnone
        · exact ht.drained k (.inr hk) hnone

variable (reparse) in
/-- **The merge**: it ends without error exactly if every stream keeps its rules, and then gives
a merge of the streams. Its own check of the order never fails. -/
theorem mergeDerivativeEventStreams_merges
    (streams : DerivativeEventKind → List (DerivativeReplayEvent β)) :
    ((mergeDerivativeEventStreams reparse streams).error = none ↔
        ∀ k, LocalRules reparse k (streams k)) ∧
      ((mergeDerivativeEventStreams reparse streams).error = none →
        Merges eventOrderKey streams (mergeDerivativeEventStreams reparse streams).emitted) ∧
      ((∀ event, reparse event ≠ .error eventGlobalOrderInvalid) →
        (mergeDerivativeEventStreams reparse streams).error ≠ some eventGlobalOrderInvalid) := by
  have hstart : Primed (fun _ => False) ({ iterators := streams } : MergeState β) :=
    ⟨.nil, .nil, by simp, by simp, by simp, fun _ h => h.elim⟩
  have hrules : (∀ k, Acceptable reparse k none (streams k)) ↔
      ∀ k, LocalRules reparse k (streams k) :=
    forall_congr' fun k => acceptable_none_iff
  unfold mergeDerivativeEventStreams
  cases hfirst : readFirst reparse derivativeEventKinds { iterators := streams } with
  | error e =>
    refine ⟨iff_of_false (by rintro ⟨⟩) ?_, by rintro ⟨⟩, fun hparse herror => ?_⟩
    · rw [← hrules]
      exact not_acceptable_of_readFirst_error hstart nodup_derivativeEventKinds (by simp) hfirst
    · cases herror
      exact readFirst_ne_error hparse hfirst
  | ok s =>
    obtain ⟨hs, hpending, hacc, hcount⟩ :=
      readFirst_ok hstart nodup_derivativeEventKinds (by simp) hfirst
    have hall : Primed (fun _ => True) s :=
      ⟨hs.sorted, hs.kinds, hs.ofKind, hs.ofEvent, hs.last,
        fun k _ => hs.drained k (.inr (mem_derivativeEventKinds k))⟩
    have hrounds : s.heap.length + eventCount s.iterators ≤ eventCount streams := by
      simpa using hcount.le
    have hfirst : ∀ p, (none : Option EventOrderKey) = some p → ∀ entry ∈ s.heap, p < entry.key :=
      fun _ hp => nomatch hp
    obtain ⟨hiff, hmerges, hglobal⟩ := mergeLoop_spec reparse hall hrounds hfirst
    have hstreams : pending s = streams :=
      hpending.trans (funext fun k => pending_of_free (by simp))
    refine ⟨hiff.trans (hacc.trans hrules), fun herror => ?_, hglobal⟩
    have hmerges := hmerges herror
    rwa [hstreams] at hmerges

omit [DecidableEq β] in
theorem LocalRules.pairwise_lt {stream : List (DerivativeReplayEvent β)}
    (h : LocalRules reparse kind stream) :
    stream.Pairwise fun a b => eventOrderKey a < eventOrderKey b :=
  h.ordered.imp_of_mem fun ha hb hab =>
    eventOrderKey_lt ((h.ofKind _ ha).trans (h.ofKind _ hb).symm) hab

theorem emitted_pairwise_lt {streams : DerivativeEventKind → List (DerivativeReplayEvent β)}
    (herror : (mergeDerivativeEventStreams reparse streams).error = none) :
    (mergeDerivativeEventStreams reparse streams).emitted.Pairwise
      fun a b => eventOrderKey a < eventOrderKey b := by
  obtain ⟨hiff, hmerges, -⟩ := mergeDerivativeEventStreams_merges reparse streams
  have hrules := hiff.mp herror
  refine (hmerges herror).pairwise_lt (fun k => (hrules k).pairwise_lt) ?_
  intro i j hij a ha b hb
  refine eventOrderKey_ne ?_
  rw [(hrules i).ofKind a ha, (hrules j).ofKind b hb]
  exact hij

/-- **Merging the streams of a replay.**  The merge ends without error exactly if each stream
keeps its own rules; its check of the global order never fails. What it gives is then all events
of the streams, strictly increasing in the order key and in each stream's own order, and the same
for all streams that together have the same events. -/
theorem mergeDerivativeEventStreams_spec
    (reparse : DerivativeReplayEvent β → Except ContractError (DerivativeReplayEvent β))
    (streams : DerivativeEventKind → List (DerivativeReplayEvent β)) :
    ((mergeDerivativeEventStreams reparse streams).error = none ↔
        ∀ kind, LocalRules reparse kind (streams kind)) ∧
      ((∀ event, reparse event ≠ .error eventGlobalOrderInvalid) →
        (mergeDerivativeEventStreams reparse streams).error ≠ some eventGlobalOrderInvalid) ∧
      ((mergeDerivativeEventStreams reparse streams).error = none →
        (mergeDerivativeEventStreams reparse streams).emitted.Perm
            (derivativeEventKinds.flatMap streams) ∧
          (mergeDerivativeEventStreams reparse streams).emitted.Pairwise
            (fun a b => eventOrderKey a < eventOrderKey b) ∧
          (∀ kind, (mergeDerivativeEventStreams reparse streams).emitted.filter
            (fun event => event.eventClass = kind) = streams kind) ∧
          ∀ others, (mergeDerivativeEventStreams reparse others).error = none →
            (derivativeEventKinds.flatMap others).Perm (derivativeEventKinds.flatMap streams) →
            (mergeDerivativeEventStreams reparse others).emitted =
              (mergeDerivativeEventStreams reparse streams).emitted) := by
  obtain ⟨hiff, hmerges, hnever⟩ := mergeDerivativeEventStreams_merges reparse streams
  refine ⟨hiff, hnever, fun herror => ?_⟩
  have hperm := (hmerges herror).perm (fun k event hmem => (hiff.mp herror k).ofKind event hmem)
    nodup_derivativeEventKinds mem_derivativeEventKinds
  have hlt := emitted_pairwise_lt herror
  refine ⟨hperm, hlt, fun kind => ?_, fun others hothers hsame => ?_⟩
  · exact (hmerges herror).filter_eq
      (fun k event hmem => (hiff.mp herror k).ofKind event hmem) kind
  · obtain ⟨hiff', hmerges', -⟩ := mergeDerivativeEventStreams_merges reparse others
    have hperm' := (hmerges' hothers).perm
      (fun k event hmem => (hiff'.mp hothers k).ofKind event hmem)
      nodup_derivativeEventKinds mem_derivativeEventKinds
    exact eq_of_perm_of_pairwise_lt (emitted_pairwise_lt hothers) hlt
      (hperm'.trans (hsame.trans hperm.symm))

end Run

end Loop

end Aats.Replay
