import Aats.Execution.OrderStateMachine
import Aats.Lib.KeyedList
import Aats.Lib.Tasks
import Aats.Portfolio.Outbox
import Mathlib.Data.Prod.Lex
import Mathlib.Data.String.Basic

/-!
# Delivery from the outbox

`flush_pending` of `services/execution_engine/outbox.py` over `storage/outbox_repo_postgres.py`:
a flush publishes the pending events it has read, marks those that were published in one
transaction and records each failure in one of its own. Any number of flushes run at once, each
on its own list. A transaction reads a row without a lock, and its commit writes the columns that
it has changed over what the row has by then. It never looks at the status: a flush whose publish
fails can make an event `FAILED` that another flush has published, and a publication counts as an
attempt, too.

## Main results
* `flushesInv_run` — what holds in every run: only published events are marked, none is lost, and
  an event that was never marked is `FAILED` only after the maximum of failures.
* `outbox_delivers_iff` — **the outbox keeps its promise at any time** exactly in the runs in which
  no failure at the maximum is written over a published row.
-/

namespace Aats.Execution

open KeyedList Runs
open Portfolio (OutboxStatus maxPublishAttempts)

/-! ### The table -/

structure OutboxEnvelope where
  eventId : String
  topic : String := ""
  key : String := ""
  createdAt : Timestamp := 0
  deriving DecidableEq

/-- An `OutboxEventModel`. -/
structure OutboxRow extends OutboxEnvelope where
  status : OutboxStatus := .pending
  attemptCount : ℕ := 0
  publishedAt : Option Timestamp := none
  lastError : Option String := none
  deriving DecidableEq

/-- `enqueue_in_session`: an event that has a row gets no other. -/
def enqueueRow (rows : List OutboxRow) (envelope : OutboxEnvelope) : List OutboxRow :=
  if (lookup (fun row : OutboxRow => row.eventId) rows envelope.eventId).isSome then rows
  else rows ++ [{ toOutboxEnvelope := envelope }]

/-- `pending`. -/
def pendingEnvelopes (limit : ℕ) (rows : List OutboxRow) : List OutboxEnvelope :=
  (((rows.filter fun row => row.status = .pending).insertionSort fun a b =>
    toLex (a.createdAt, a.eventId) ≤ toLex (b.createdAt, b.eventId)).take limit).map
      OutboxRow.toOutboxEnvelope

/-- What `mark_published_batch` makes of a row that it has read. -/
def OutboxRow.markPublished (now : Timestamp) (read : OutboxRow) : OutboxRow :=
  { read with
    status := .published
    attemptCount := read.attemptCount + 1
    publishedAt := some now
    lastError := none }

/-- What `record_failure_with_threshold` makes of a row that it has read. -/
def OutboxRow.recordFailure (error : String) (read : OutboxRow) : OutboxRow :=
  { read with
    attemptCount := read.attemptCount + 1
    lastError := some (String.ofList (error.toList.take 512))
    status := if maxPublishAttempts ≤ read.attemptCount + 1 then .failed else read.status }

/-- The commit of a row that was read and changed: the columns that are not as they were read are
written over what the row has by then. -/
def OutboxRow.write (row read new : OutboxRow) : OutboxRow :=
  { row with
    status := if new.status = read.status then row.status else new.status
    attemptCount :=
      if new.attemptCount = read.attemptCount then row.attemptCount else new.attemptCount
    publishedAt := if new.publishedAt = read.publishedAt then row.publishedAt else new.publishedAt
    lastError := if new.lastError = read.lastError then row.lastError else new.lastError }

/-- A row after a transaction that has read some rows and changed them. -/
def committedRow (change : OutboxRow → OutboxRow) (reads : List OutboxRow) (row : OutboxRow) :
    OutboxRow :=
  match lookup (fun read : OutboxRow => read.eventId) reads row.eventId with
  | none => row
  | some read => row.write read (change read)

/-! ### Flushes -/

/-- The table, and what has happened so far: the events that were enqueued, those with a publish
that succeeded, the flush and the event of each publish that failed and of each failure that was
recorded, and the events that were marked as published. -/
structure OutboxState where
  rows : List OutboxRow := []
  enqueued : List String := []
  succeeded : List String := []
  failures : List (ℕ × String) := []
  recorded : List (ℕ × String) := []
  marked : List String := []

structure FailedPublish where
  envelope : OutboxEnvelope
  error : String
  rest : List OutboxEnvelope
  deriving DecidableEq

inductive FlushPlace
  | idle
  /-- `publish_envelope`, with the envelopes that come next and the ids that were published. -/
  | publishing (envelope : OutboxEnvelope) (rest : List OutboxEnvelope)
    (publishedIds : List String)
  /-- `mark_published_batch`, with the ids whose rows are still to be read and the rows it has
  read; after that the failure of a publish may have to be recorded. -/
  | marking (unread : List String) (reads : List OutboxRow) (failure : Option FailedPublish)
  /-- `record_failure_with_threshold`, before it reads the row. -/
  | recording (failure : FailedPublish)
  /-- `record_failure_with_threshold`, before its commit. -/
  | committing (failure : FailedPublish) (read : OutboxRow)
  deriving DecidableEq

inductive FlushInput
  | enqueue (envelope : OutboxEnvelope)
  /-- `flush_pending`. -/
  | flush (limit : ℕ)
  | sent
  | timedOut
  | raises (error : String)
  | read
  | commit (now : Timestamp)
  /-- The database raises, and the flush ends with the error. -/
  | databaseFails

/-- The loop goes on with the next envelope; at its end what was published is marked. -/
def nextEnvelope (pending : List OutboxEnvelope) (publishedIds : List String) : FlushPlace :=
  match pending with
  | envelope :: rest => .publishing envelope rest publishedIds
  | [] => if publishedIds = [] then .idle else .marking publishedIds [] none

/-- A publish has failed: what was published before it is marked first. -/
def afterFailure (failure : FailedPublish) (publishedIds : List String) : FlushPlace :=
  if publishedIds = [] then .recording failure else .marking publishedIds [] (some failure)

def timeoutError : String := "TimeoutError: publish_timeout_seconds=5.0"

def OutboxState.enqueue (s : OutboxState) (envelope : OutboxEnvelope) : OutboxState :=
  { s with
    rows := enqueueRow s.rows envelope
    enqueued := s.enqueued ++ [envelope.eventId] }

def OutboxState.failPublish (s : OutboxState) (me : ℕ) (envelope : OutboxEnvelope) : OutboxState :=
  { s with failures := s.failures ++ [(me, envelope.eventId)] }

/-- The commit of `mark_published_batch`. -/
def OutboxState.commitMarks (s : OutboxState) (now : Timestamp) (reads : List OutboxRow) :
    OutboxState :=
  { s with
    rows := s.rows.map (committedRow (OutboxRow.markPublished now) reads)
    marked := s.marked ++ reads.map fun read => read.eventId }

/-- The commit of `record_failure_with_threshold`. -/
def OutboxState.commitFailure (s : OutboxState) (me : ℕ) (error : String) (read : OutboxRow) :
    OutboxState :=
  { s with
    rows := s.rows.map (committedRow (OutboxRow.recordFailure error) [read])
    recorded := s.recorded ++ [(me, read.eventId)] }

def advanceFlush (s : OutboxState) (me : ℕ) (place : FlushPlace) (input : FlushInput) :
    Option (OutboxState × FlushPlace) :=
  match place, input with
  | .idle, .enqueue envelope => some (s.enqueue envelope, .idle)
  | .idle, .flush limit => some (s, nextEnvelope (pendingEnvelopes limit s.rows) [])
  | .publishing envelope rest publishedIds, .sent =>
    some ({ s with succeeded := s.succeeded ++ [envelope.eventId] },
      nextEnvelope rest (publishedIds ++ [envelope.eventId]))
  | .publishing envelope rest publishedIds, .timedOut =>
    some (s.failPublish me envelope, afterFailure ⟨envelope, timeoutError, rest⟩ publishedIds)
  | .publishing envelope rest publishedIds, .raises error =>
    some (s.failPublish me envelope, afterFailure ⟨envelope, error, rest⟩ publishedIds)
  | .marking (id :: unread) reads failure, .read =>
    match lookup (fun row : OutboxRow => row.eventId) s.rows id with
    | none => some (s, .marking unread reads failure)
    | some row => some (s, .marking unread (reads ++ [row]) failure)
  | .marking [] reads none, .commit now => some (s.commitMarks now reads, .idle)
  | .marking [] reads (some failure), .commit now =>
    some (s.commitMarks now reads, .recording failure)
  | .recording failure, .read =>
    match lookup (fun row : OutboxRow => row.eventId) s.rows failure.envelope.eventId with
    | none => some (s, .idle)
    | some row => some (s, .committing failure row)
  | .committing failure read, .commit _ =>
    some (s.commitFailure me failure.error read,
      if (read.recordFailure failure.error).status = .failed then nextEnvelope failure.rest []
      else .idle)
  | .marking _ _ _, .databaseFails | .recording _, .databaseFails
  | .committing _ _, .databaseFails => some (s, .idle)
  | _, _ => none

/-- One task of those over the table moves. -/
def outboxStep {n : ℕ} :
    Tasks OutboxState FlushPlace n → Fin n × FlushInput → Option (Tasks OutboxState FlushPlace n) :=
  tasksStep advanceFlush

/-- An empty table, before any task has begun. -/
def outboxStart {n : ℕ} : Tasks OutboxState FlushPlace n where
  shared := {}
  task := fun _ => .idle

/-! ### What the outbox promises -/

def timesOf (id : String) (events : List (ℕ × String)) : ℕ :=
  events.countP fun event => event.2 = id

/-- A row that is `PUBLISHED` has an event with a publish that succeeded, a row that was marked is
`PUBLISHED`, every event that was enqueued has a row, and one that is `FAILED` had the maximum of
failed publishes and was not marked. -/
structure Delivers (s : OutboxState) : Prop where
  published : ∀ row ∈ s.rows, row.status = .published → row.eventId ∈ s.succeeded
  stays : ∀ row ∈ s.rows, row.eventId ∈ s.marked → row.status = .published
  kept : ∀ id ∈ s.enqueued, ∃ row ∈ s.rows, row.eventId = id
  failed : ∀ row ∈ s.rows, row.status = .failed →
    maxPublishAttempts ≤ timesOf row.eventId s.failures ∧ row.eventId ∉ s.marked

/-- A failure that makes the row `FAILED` by what was read of it is not written over a row that is
`PUBLISHED` by then. -/
def keepsPublished {n : ℕ} (s : Tasks OutboxState FlushPlace n) (label : Fin n × FlushInput) :
    Prop :=
  match s.task label.1, label.2 with
  | .committing _ read, .commit _ =>
    maxPublishAttempts ≤ read.attemptCount + 1 ∧ read.status ≠ .failed →
      ∀ row ∈ s.shared.rows, row.eventId = read.eventId → row.status ≠ .published
  | _, _ => True

instance {n : ℕ} (s : Tasks OutboxState FlushPlace n) (label : Fin n × FlushInput) :
    Decidable (keepsPublished s label) := by
  unfold keepsPublished
  split <;> infer_instance

section Delivery

variable {n : ℕ} {s t : OutboxState} {me : ℕ} {place : FlushPlace} {row read : OutboxRow}
  {id : String}

/-! ### Commits -/

@[simp] theorem enqueueRow_mem (envelope : OutboxEnvelope) {rows : List OutboxRow}
    (h : row ∈ rows) : row ∈ enqueueRow rows envelope := by
  unfold enqueueRow
  split
  · exact h
  · exact List.mem_append_left _ h

theorem committedRow_cases (change : OutboxRow → OutboxRow) (reads : List OutboxRow)
    (row : OutboxRow) :
    (∃ read ∈ reads, read.eventId = row.eventId ∧
      committedRow change reads row = row.write read (change read)) ∨
    ((∀ read ∈ reads, read.eventId ≠ row.eventId) ∧ committedRow change reads row = row) := by
  unfold committedRow
  split
  · next hnone => exact .inr ⟨lookup_eq_none.mp hnone, rfl⟩
  · next read hread =>
    have hkey := key_of_lookup hread
    exact .inl ⟨read, mem_of_lookup hread, hkey, rfl⟩

@[simp] theorem committedRow_eventId (change : OutboxRow → OutboxRow) (reads : List OutboxRow)
    (row : OutboxRow) : (committedRow change reads row).eventId = row.eventId := by
  rcases committedRow_cases change reads row with ⟨read, -, -, heq⟩ | ⟨-, heq⟩
  · rw [heq]
    rfl
  · rw [heq]

theorem status_write_markPublished (now : Timestamp) (row read : OutboxRow) :
    (row.write read (read.markPublished now)).status =
      if read.status = .published then row.status else .published := by
  show (if OutboxStatus.published = read.status then row.status else OutboxStatus.published) = _
  by_cases h : read.status = .published
  · rw [if_pos h, if_pos h.symm]
  · rw [if_neg h, if_neg (Ne.symm h)]

theorem status_write_recordFailure (error : String) (row read : OutboxRow) :
    (row.write read (read.recordFailure error)).status =
      if maxPublishAttempts ≤ read.attemptCount + 1 ∧ read.status ≠ .failed then .failed
      else row.status := by
  show (if (if maxPublishAttempts ≤ read.attemptCount + 1 then OutboxStatus.failed
    else read.status) = read.status then row.status
    else if maxPublishAttempts ≤ read.attemptCount + 1 then .failed else read.status) = _
  by_cases hmax : maxPublishAttempts ≤ read.attemptCount + 1
  · rw [if_pos hmax]
    by_cases hfailed : read.status = .failed
    · rw [if_pos hfailed.symm, if_neg fun h => h.2 hfailed]
    · rw [if_neg (Ne.symm hfailed), if_pos ⟨hmax, hfailed⟩]
  · rw [if_neg hmax, if_pos rfl, if_neg fun h => hmax h.1]

theorem attemptCount_write_recordFailure (error : String) (row read : OutboxRow) :
    (row.write read (read.recordFailure error)).attemptCount = read.attemptCount + 1 :=
  if_neg (Nat.succ_ne_self _)

/-! ### What holds in every run -/

@[simp] theorem timesOf_concat (id : String) (events : List (ℕ × String)) (event : ℕ × String) :
    timesOf id (events ++ [event]) = timesOf id events + if event.2 = id then 1 else 0 := by
  unfold timesOf
  rw [List.countP_append, List.countP_singleton]
  by_cases h : event.2 = id
  · simp [h]
  · simp [h]

/-- What is known of a row, and of what was read of it at some time. -/
structure RowInv (s : OutboxState) (row : OutboxRow) : Prop where
  enqueued : row.eventId ∈ s.enqueued
  published : row.status = .published → row.eventId ∈ s.marked
  attempts : row.eventId ∉ s.marked → row.attemptCount ≤ timesOf row.eventId s.recorded
  failed : row.eventId ∉ s.marked → row.status = .failed →
    maxPublishAttempts ≤ timesOf row.eventId s.recorded

structure OutboxInv (s : OutboxState) : Prop where
  rows : ∀ row ∈ s.rows, RowInv s row
  marked : ∀ id ∈ s.marked, id ∈ s.succeeded ∧ id ∈ s.enqueued
  kept : ∀ id ∈ s.enqueued, ∃ row ∈ s.rows, row.eventId = id
  recorded : ∀ event, s.recorded.count event ≤ s.failures.count event

def FlushPlace.unmarked : FlushPlace → List String
  | .publishing _ _ publishedIds => publishedIds
  | .marking unread reads _ => unread ++ reads.map fun read => read.eventId
  | .idle | .recording _ | .committing _ _ => []

def FlushPlace.reads : FlushPlace → List OutboxRow
  | .marking _ reads _ => reads
  | .committing _ read => [read]
  | .idle | .publishing _ _ _ | .recording _ => []

def FlushPlace.toRecord : FlushPlace → Option String
  | .marking _ _ failure => failure.map fun failure => failure.envelope.eventId
  | .recording failure => some failure.envelope.eventId
  | .committing _ read => some read.eventId
  | .idle | .publishing _ _ _ => none

structure FlushInv (s : OutboxState) (me : ℕ) (place : FlushPlace) : Prop where
  unmarked : ∀ id ∈ place.unmarked, id ∈ s.succeeded
  reads : ∀ read ∈ place.reads, RowInv s read
  toRecord : ∀ id, (s.recorded.count (me, id) + if place.toRecord = some id then 1 else 0) ≤
    s.failures.count (me, id)

/-- What a step of one flush does to what the others rely on. -/
structure Grows (me : ℕ) (s t : OutboxState) : Prop where
  enqueued : ∀ id ∈ s.enqueued, id ∈ t.enqueued
  succeeded : ∀ id ∈ s.succeeded, id ∈ t.succeeded
  marked : ∀ id ∈ s.marked, id ∈ t.marked
  recorded : ∀ id, timesOf id s.recorded ≤ timesOf id t.recorded
  others : ∀ other ≠ me, ∀ id, t.recorded.count (other, id) = s.recorded.count (other, id) ∧
    s.failures.count (other, id) ≤ t.failures.count (other, id)

theorem Grows.refl (me : ℕ) (s : OutboxState) : Grows me s s where
  enqueued _ h := h
  succeeded _ h := h
  marked _ h := h
  recorded _ := le_rfl
  others _ _ _ := ⟨rfl, le_rfl⟩

theorem RowInv.mono (h : RowInv s row) (hgrows : Grows me s t) : RowInv t row where
  enqueued := hgrows.enqueued _ h.enqueued
  published hpublished := hgrows.marked _ (h.published hpublished)
  attempts hnot :=
    (h.attempts fun hmarked => hnot (hgrows.marked _ hmarked)).trans (hgrows.recorded _)
  failed hnot hfailed :=
    (h.failed (fun hmarked => hnot (hgrows.marked _ hmarked)) hfailed).trans (hgrows.recorded _)

theorem FlushInv.mono {other : ℕ} (h : FlushInv s other place) (hgrows : Grows me s t)
    (hother : other ≠ me) : FlushInv t other place where
  unmarked id hid := hgrows.succeeded id (h.unmarked id hid)
  reads read hread := (h.reads read hread).mono hgrows
  toRecord id := by
    obtain ⟨hrecorded, hfailures⟩ := hgrows.others other hother id
    rw [hrecorded]
    exact (h.toRecord id).trans hfailures

theorem OutboxInv.flush (h : OutboxInv s) (hunmarked : ∀ id ∈ place.unmarked, id ∈ s.succeeded)
    (hreads : place.reads = []) (hnone : place.toRecord = none) : FlushInv s me place where
  unmarked := hunmarked
  reads := by
    rw [hreads]
    rintro _ ⟨⟩
  toRecord id := by
    rw [hnone]
    exact h.recorded (me, id)

theorem OutboxInv.nextEnvelope (h : OutboxInv s) (pending : List OutboxEnvelope)
    {publishedIds : List String} (hids : ∀ id ∈ publishedIds, id ∈ s.succeeded) :
    FlushInv s me (nextEnvelope pending publishedIds) := by
  cases pending with
  | cons envelope rest => exact h.flush hids rfl rfl
  | nil =>
    unfold Execution.nextEnvelope
    simp only
    split
    · exact h.flush (by rintro _ ⟨⟩) rfl rfl
    · refine h.flush ?_ rfl rfl
      intro id hid
      rcases List.mem_append.mp hid with hid | hid
      · exact hids id hid
      · cases hid

/-! ### What one step does -/

theorem grows_enqueue (me : ℕ) (s : OutboxState) (envelope : OutboxEnvelope) :
    Grows me s (s.enqueue envelope) :=
  { Grows.refl me s with enqueued := fun _ hid => List.mem_append_left _ hid }

theorem grows_sent (me : ℕ) (s : OutboxState) (id : String) :
    Grows me s { s with succeeded := s.succeeded ++ [id] } :=
  { Grows.refl me s with succeeded := fun _ hid => List.mem_append_left _ hid }

theorem grows_failPublish (me : ℕ) (s : OutboxState) (envelope : OutboxEnvelope) :
    Grows me s (s.failPublish me envelope) :=
  { Grows.refl me s with
    others := fun _ _ _ => ⟨rfl, (List.sublist_append_left _ _).count_le _⟩ }

theorem grows_commitMarks (me : ℕ) (s : OutboxState) (now : Timestamp) (reads : List OutboxRow) :
    Grows me s (s.commitMarks now reads) :=
  { Grows.refl me s with marked := fun _ hid => List.mem_append_left _ hid }

theorem grows_commitFailure (me : ℕ) (s : OutboxState) (error : String) (read : OutboxRow) :
    Grows me s (s.commitFailure me error read) :=
  { Grows.refl me s with
    recorded := fun id => (List.sublist_append_left _ _).countP_le
    others := fun other hother id => by
      refine ⟨?_, le_rfl⟩
      show (s.recorded ++ [(me, read.eventId)]).count (other, id) = _
      rw [List.count_append, List.count_singleton, if_neg, Nat.add_zero]
      intro heq
      exact hother (congrArg Prod.fst (eq_of_beq heq)).symm }

theorem OutboxInv.enqueue (h : OutboxInv s) (envelope : OutboxEnvelope) :
    OutboxInv (s.enqueue envelope) where
  rows row hrow := by
    have hgrows := grows_enqueue 0 s envelope
    have hrow : row ∈ enqueueRow s.rows envelope := hrow
    unfold enqueueRow at hrow
    split at hrow
    · exact (h.rows row hrow).mono hgrows
    · rcases List.mem_append.mp hrow with hrow | hrow
      · exact (h.rows row hrow).mono hgrows
      · rw [List.mem_singleton.mp hrow]
        exact ⟨List.mem_append_right _ (List.mem_singleton.mpr rfl), (by rintro ⟨⟩),
          fun _ => Nat.zero_le _, (by rintro - ⟨⟩)⟩
  marked id hid := ⟨(h.marked id hid).1, List.mem_append_left _ (h.marked id hid).2⟩
  kept id hid := by
    rcases List.mem_append.mp hid with hid | hid
    · obtain ⟨row, hrow, heq⟩ := h.kept id hid
      exact ⟨row, enqueueRow_mem envelope hrow, heq⟩
    · rw [List.mem_singleton.mp hid]
      show ∃ row ∈ enqueueRow s.rows envelope, row.eventId = envelope.eventId
      unfold enqueueRow
      split
      · next hsome =>
        obtain ⟨row, hrow⟩ := Option.isSome_iff_exists.mp hsome
        have hkey := key_of_lookup hrow
        exact ⟨row, mem_of_lookup hrow, hkey⟩
      · exact ⟨_, List.mem_append_right _ (List.mem_singleton.mpr rfl), rfl⟩
  recorded := h.recorded

theorem OutboxInv.sent (h : OutboxInv s) (id : String) :
    OutboxInv { s with succeeded := s.succeeded ++ [id] } where
  rows row hrow := (h.rows row hrow).mono (grows_sent 0 s id)
  marked other hother := ⟨List.mem_append_left _ (h.marked other hother).1, (h.marked other hother).2⟩
  kept := h.kept
  recorded := h.recorded

theorem OutboxInv.failPublish (h : OutboxInv s) (me : ℕ) (envelope : OutboxEnvelope) :
    OutboxInv (s.failPublish me envelope) where
  rows row hrow := (h.rows row hrow).mono (grows_failPublish me s envelope)
  marked := h.marked
  kept := h.kept
  recorded event := (h.recorded event).trans ((List.sublist_append_left _ _).count_le _)

theorem OutboxInv.commitMarks (h : OutboxInv s) (now : Timestamp) {reads : List OutboxRow}
    (hreads : ∀ read ∈ reads, RowInv s read)
    (hsucceeded : ∀ read ∈ reads, read.eventId ∈ s.succeeded) :
    OutboxInv (s.commitMarks now reads) where
  rows row hrow := by
    obtain ⟨before, hbefore, rfl⟩ := List.mem_map.mp hrow
    rcases committedRow_cases (OutboxRow.markPublished now) reads before with
      ⟨read, hread, hid, heq⟩ | ⟨-, heq⟩
    · -- the row was read, so its event is marked now
      have hmarked : before.eventId ∈ (s.commitMarks now reads).marked :=
        List.mem_append_right _ (hid ▸ List.mem_map_of_mem hread)
      rw [heq]
      exact ⟨(h.rows before hbefore).enqueued, fun _ => hmarked, fun hnot => absurd hmarked hnot,
        fun hnot => absurd hmarked hnot⟩
    · rw [heq]
      exact (h.rows before hbefore).mono (grows_commitMarks 0 s now reads)
  marked id hid := by
    rcases List.mem_append.mp hid with hid | hid
    · exact h.marked id hid
    · obtain ⟨read, hread, rfl⟩ := List.mem_map.mp hid
      exact ⟨hsucceeded read hread, (hreads read hread).enqueued⟩
  kept id hid := by
    obtain ⟨row, hrow, rfl⟩ := h.kept id hid
    exact ⟨_, List.mem_map_of_mem hrow, committedRow_eventId _ _ _⟩
  recorded := h.recorded

theorem RowInv.write_recordFailure (me : ℕ) (error : String) (h : RowInv s row)
    (hread : RowInv s read) (hid : read.eventId = row.eventId) :
    RowInv (s.commitFailure me error read) (row.write read (read.recordFailure error)) := by
  have htimes : timesOf row.eventId (s.commitFailure me error read).recorded =
      timesOf row.eventId s.recorded + 1 := by
    show timesOf row.eventId (s.recorded ++ [(me, read.eventId)]) = _
    rw [timesOf_concat, if_pos hid]
  have hattempts : row.eventId ∉ s.marked →
      read.attemptCount + 1 ≤ timesOf row.eventId s.recorded + 1 := by
    intro hnot
    have hle := hread.attempts (hid ▸ hnot)
    rw [hid] at hle
    exact Nat.add_le_add_right hle 1
  refine ⟨h.enqueued, ?_, ?_, ?_⟩
  · intro hpublished
    rw [status_write_recordFailure] at hpublished
    split at hpublished
    · cases hpublished
    · exact h.published hpublished
  · intro hnot
    show (row.write read (read.recordFailure error)).attemptCount ≤
      timesOf row.eventId (s.commitFailure me error read).recorded
    rw [attemptCount_write_recordFailure, htimes]
    exact hattempts hnot
  · intro hnot hfailed
    show maxPublishAttempts ≤ timesOf row.eventId (s.commitFailure me error read).recorded
    rw [status_write_recordFailure] at hfailed
    rw [htimes]
    split at hfailed
    · next hmax => exact hmax.1.trans (hattempts hnot)
    · exact (h.failed hnot hfailed).trans (Nat.le_succ _)

theorem OutboxInv.commitFailure (h : OutboxInv s) (error : String) (hread : RowInv s read)
    (hcount : ∀ id, (s.recorded.count (me, id) + if some read.eventId = some id then 1 else 0) ≤
      s.failures.count (me, id)) : OutboxInv (s.commitFailure me error read) where
  rows row hrow := by
    obtain ⟨before, hbefore, rfl⟩ := List.mem_map.mp hrow
    rcases committedRow_cases (OutboxRow.recordFailure error) [read] before with
      ⟨other, hother, hid, heq⟩ | ⟨-, heq⟩
    · rw [List.mem_singleton.mp hother] at hid heq
      rw [heq]
      exact (h.rows before hbefore).write_recordFailure me error hread hid
    · rw [heq]
      exact (h.rows before hbefore).mono (grows_commitFailure me s error read)
  marked := h.marked
  kept id hid := by
    obtain ⟨row, hrow, rfl⟩ := h.kept id hid
    exact ⟨_, List.mem_map_of_mem hrow, committedRow_eventId _ _ _⟩
  recorded event := by
    show (s.recorded ++ [(me, read.eventId)]).count event ≤ s.failures.count event
    rw [List.count_append, List.count_singleton]
    by_cases heq : (me, read.eventId) = event
    · have hle := hcount read.eventId
      rw [if_pos rfl] at hle
      rw [← heq, beq_self_eq_true, if_pos rfl]
      exact hle
    · rw [beq_false_of_ne heq]
      exact h.recorded event

theorem OutboxInv.afterFailure (h : OutboxInv s) (failure : FailedPublish)
    {publishedIds : List String} (hids : ∀ id ∈ publishedIds, id ∈ s.succeeded) :
    FlushInv (s.failPublish me failure.envelope) me (afterFailure failure publishedIds) := by
  have hcount : ∀ id, (s.recorded.count (me, id) +
      if some failure.envelope.eventId = some id then 1 else 0) ≤
        (s.failPublish me failure.envelope).failures.count (me, id) := by
    intro id
    show _ ≤ (s.failures ++ [(me, failure.envelope.eventId)]).count (me, id)
    rw [List.count_append, List.count_singleton]
    refine Nat.add_le_add (h.recorded (me, id)) ?_
    by_cases heq : failure.envelope.eventId = id
    · rw [if_pos (congrArg some heq), heq, beq_self_eq_true, if_pos rfl]
    · rw [if_neg fun hsome => heq (Option.some.inj hsome)]
      exact Nat.zero_le _
  unfold Execution.afterFailure
  split
  · refine ⟨?_, ?_, hcount⟩
    · rintro _ ⟨⟩
    · rintro _ ⟨⟩
  · refine ⟨?_, ?_, hcount⟩
    · intro id hid
      rcases List.mem_append.mp hid with hid | hid
      · exact hids id hid
      · cases hid
    · rintro _ ⟨⟩

theorem OutboxInv.rowInv_of_lookup (h : OutboxInv s)
    (hrow : lookup (fun row : OutboxRow => row.eventId) s.rows id = some row) :
    RowInv s row ∧ row.eventId = id := by
  have hkey := key_of_lookup hrow
  exact ⟨h.rows row (mem_of_lookup hrow), hkey⟩

theorem FlushInv.skipRead {unread : List String} {reads : List OutboxRow}
    {failure : Option FailedPublish} (h : FlushInv s me (.marking (id :: unread) reads failure)) :
    FlushInv s me (.marking unread reads failure) where
  unmarked other hother := h.unmarked other (List.mem_cons_of_mem _ hother)
  reads := h.reads
  toRecord := h.toRecord

theorem OutboxInv.readMarked (h : OutboxInv s) {unread : List String} {reads : List OutboxRow}
    {failure : Option FailedPublish} (hflush : FlushInv s me (.marking (id :: unread) reads failure))
    (hrow : lookup (fun row : OutboxRow => row.eventId) s.rows id = some row) :
    FlushInv s me (.marking unread (reads ++ [row]) failure) := by
  obtain ⟨hinv, hid⟩ := h.rowInv_of_lookup hrow
  refine ⟨?_, ?_, hflush.toRecord⟩
  · intro other hother
    have hother : other ∈ unread ++ (reads ++ [row]).map fun read => read.eventId := hother
    rw [List.map_append, List.map_singleton, ← List.append_assoc] at hother
    rcases List.mem_append.mp hother with hother | hother
    · exact hflush.skipRead.unmarked other hother
    · rw [List.mem_singleton.mp hother, hid]
      exact hflush.unmarked id List.mem_cons_self
  · intro read hread
    rcases List.mem_append.mp hread with hread | hread
    · exact hflush.reads read hread
    · rw [List.mem_singleton.mp hread]
      exact hinv

theorem OutboxInv.readFailed (h : OutboxInv s) {failure : FailedPublish}
    (hflush : FlushInv s me (.recording failure))
    (hrow : lookup (fun row : OutboxRow => row.eventId) s.rows failure.envelope.eventId =
      some row) : FlushInv s me (.committing failure row) := by
  obtain ⟨hinv, hid⟩ := h.rowInv_of_lookup hrow
  refine ⟨?_, ?_, ?_⟩
  · rintro _ ⟨⟩
  · intro read hread
    rw [List.mem_singleton.mp hread]
    exact hinv
  · intro other
    show (s.recorded.count (me, other) + if some row.eventId = some other then 1 else 0) ≤ _
    rw [hid]
    exact hflush.toRecord other

theorem advanceFlush_keeps {input : FlushInput} {next : FlushPlace} (h : OutboxInv s)
    (hflush : FlushInv s me place) (hstep : advanceFlush s me place input = some (t, next)) :
    OutboxInv t ∧ FlushInv t me next ∧ Grows me s t := by
  have hidle : FlushInv s me .idle := h.flush (by rintro _ ⟨⟩) rfl rfl
  unfold advanceFlush at hstep
  split at hstep
  · next envelope =>
    cases hstep
    have henqueued := h.enqueue envelope
    exact ⟨henqueued, henqueued.flush (by rintro _ ⟨⟩) rfl rfl, grows_enqueue me s envelope⟩
  · cases hstep
    exact ⟨h, h.nextEnvelope _ (by rintro _ ⟨⟩), Grows.refl me s⟩
  · next envelope rest publishedIds =>
    cases hstep
    have hsent := h.sent envelope.eventId
    refine ⟨hsent, hsent.nextEnvelope rest ?_, grows_sent me s envelope.eventId⟩
    intro id hid
    rcases List.mem_append.mp hid with hid | hid
    · exact List.mem_append_left _ (hflush.unmarked id hid)
    · exact List.mem_append_right _ hid
  · next envelope rest publishedIds =>
    cases hstep
    exact ⟨h.failPublish me envelope,
      h.afterFailure ⟨envelope, timeoutError, rest⟩ hflush.unmarked, grows_failPublish me s envelope⟩
  · next envelope rest publishedIds error =>
    cases hstep
    exact ⟨h.failPublish me envelope, h.afterFailure ⟨envelope, error, rest⟩ hflush.unmarked,
      grows_failPublish me s envelope⟩
  · -- a row of the batch is read
    split at hstep
    · cases hstep
      exact ⟨h, hflush.skipRead, Grows.refl me s⟩
    · next hrow =>
      cases hstep
      exact ⟨h, h.readMarked hflush hrow, Grows.refl me s⟩
  · next reads now =>
    cases hstep
    have hmarked := h.commitMarks now hflush.reads fun read hread =>
      hflush.unmarked read.eventId (List.mem_map_of_mem hread)
    exact ⟨hmarked, hmarked.flush (by rintro _ ⟨⟩) rfl rfl, grows_commitMarks me s now reads⟩
  · next reads failure now =>
    cases hstep
    have hmarked := h.commitMarks now hflush.reads fun read hread =>
      hflush.unmarked read.eventId (List.mem_map_of_mem hread)
    refine ⟨hmarked, ⟨?_, ?_, hflush.toRecord⟩, grows_commitMarks me s now reads⟩
    · rintro _ ⟨⟩
    · rintro _ ⟨⟩
  · -- the row of the failure is read
    split at hstep
    · cases hstep
      exact ⟨h, hidle, Grows.refl me s⟩
    · next hrow =>
      cases hstep
      exact ⟨h, h.readFailed hflush hrow, Grows.refl me s⟩
  · next failure read now =>
    cases hstep
    have hrecorded := h.commitFailure failure.error
      (hflush.reads read (List.mem_singleton.mpr rfl)) hflush.toRecord
    refine ⟨hrecorded, ?_, grows_commitFailure me s failure.error read⟩
    split
    · exact hrecorded.nextEnvelope _ (by rintro _ ⟨⟩)
    · exact hrecorded.flush (by rintro _ ⟨⟩) rfl rfl
  · cases hstep
    exact ⟨h, hidle, Grows.refl me s⟩
  · cases hstep
    exact ⟨h, hidle, Grows.refl me s⟩
  · cases hstep
    exact ⟨h, hidle, Grows.refl me s⟩
  · cases hstep

/-! ### Runs -/

abbrev FlushesInv (s : Tasks OutboxState FlushPlace n) : Prop := TasksInv OutboxInv FlushInv s

theorem flushesInv_step {s t : Tasks OutboxState FlushPlace n} {label : Fin n × FlushInput}
    (h : FlushesInv s) (hstep : outboxStep s label = some t) : FlushesInv t := by
  obtain ⟨i, input⟩ := label
  obtain ⟨shared, task, hadvance, rfl⟩ := tasksStep_eq_some hstep
  obtain ⟨hshared, hmover, hgrows⟩ := advanceFlush_keeps h.shared (h.each i) hadvance
  refine tasksInv_step hshared hmover fun j hj => (h.each j).mono hgrows ?_
  exact fun heq => hj (Fin.ext heq)

theorem flushesInv_start : FlushesInv (outboxStart : Tasks OutboxState FlushPlace n) where
  shared := ⟨by rintro _ ⟨⟩, by rintro _ ⟨⟩, by rintro _ ⟨⟩, fun _ => le_rfl⟩
  each _ := ⟨by rintro _ ⟨⟩, by rintro _ ⟨⟩, fun _ => le_rfl⟩

theorem flushesInv_run {s : Tasks OutboxState FlushPlace n} {labels : List (Fin n × FlushInput)}
    (hrun : run outboxStep outboxStart labels = some s) : FlushesInv s :=
  run_invariant (fun _ _ _ => flushesInv_step) flushesInv_start hrun

/-! ### Published rows that stay -/

/-- A row that was marked is `PUBLISHED`. -/
def StaysPublished (s : OutboxState) : Prop :=
  ∀ row ∈ s.rows, row.eventId ∈ s.marked → row.status = .published

theorem OutboxInv.timesOf_recorded_le (h : OutboxInv s) (id : String) :
    timesOf id s.recorded ≤ timesOf id s.failures :=
  (List.subperm_ext_iff.mpr fun event _ => h.recorded event).countP_le _

theorem OutboxInv.delivers_iff (h : OutboxInv s) : Delivers s ↔ StaysPublished s := by
  refine ⟨Delivers.stays, fun hstays => ⟨?_, hstays, h.kept, ?_⟩⟩
  · exact fun row hrow hpublished => (h.marked _ ((h.rows row hrow).published hpublished)).1
  · intro row hrow hfailed
    have hnot : row.eventId ∉ s.marked := by
      intro hmarked
      rw [hstays row hrow hmarked] at hfailed
      cases hfailed
    exact ⟨((h.rows row hrow).failed hnot hfailed).trans (h.timesOf_recorded_le _), hnot⟩

theorem StaysPublished.enqueue (hstays : StaysPublished s) (h : OutboxInv s)
    (envelope : OutboxEnvelope) : StaysPublished (s.enqueue envelope) := by
  intro row hrow hmarked
  have hrow : row ∈ enqueueRow s.rows envelope := hrow
  unfold enqueueRow at hrow
  split at hrow
  · exact hstays row hrow hmarked
  · next hnone =>
    rcases List.mem_append.mp hrow with hrow | hrow
    · exact hstays row hrow hmarked
    · rw [List.mem_singleton.mp hrow] at hmarked
      obtain ⟨old, hold, heq⟩ := h.kept _ (h.marked _ hmarked).2
      exact absurd heq (lookup_eq_none.mp (Option.not_isSome_iff_eq_none.mp hnone) old hold)

theorem StaysPublished.commitMarks (hstays : StaysPublished s) (now : Timestamp)
    {reads : List OutboxRow} (hreads : ∀ read ∈ reads, RowInv s read) :
    StaysPublished (s.commitMarks now reads) := by
  intro row hrow hmarked
  obtain ⟨before, hbefore, rfl⟩ := List.mem_map.mp hrow
  rcases committedRow_cases (OutboxRow.markPublished now) reads before with
    ⟨read, hread, hid, heq⟩ | ⟨hnone, heq⟩
  · rw [heq, status_write_markPublished]
    split
    · next hpublished =>
      -- the row was marked before, and its status is not written
      exact hstays before hbefore (hid ▸ (hreads read hread).published hpublished)
    · rfl
  · rw [heq] at hmarked ⊢
    rcases List.mem_append.mp hmarked with hmarked | hmarked
    · exact hstays before hbefore hmarked
    · obtain ⟨read, hread, hid⟩ := List.mem_map.mp hmarked
      exact absurd hid (hnone read hread)

/-- **A failure that is recorded** leaves the published rows exactly if it does not make one of
them `FAILED`. -/
theorem StaysPublished.commitFailure_iff (hstays : StaysPublished s) (h : OutboxInv s) (me : ℕ)
    (error : String) (read : OutboxRow) :
    StaysPublished (s.commitFailure me error read) ↔
      (maxPublishAttempts ≤ read.attemptCount + 1 ∧ read.status ≠ .failed →
        ∀ row ∈ s.rows, row.eventId = read.eventId → row.status ≠ .published) := by
  constructor
  · intro hafter hmax row hrow hid hpublished
    have hmarked := (h.rows row hrow).published hpublished
    have hstatus := hafter _ (List.mem_map_of_mem hrow) (by
      rw [committedRow_eventId]
      exact hmarked)
    rcases committedRow_cases (OutboxRow.recordFailure error) [read] row with
      ⟨other, hother, -, heq⟩ | ⟨hnone, -⟩
    · rw [List.mem_singleton.mp hother] at heq
      rw [heq, status_write_recordFailure, if_pos hmax] at hstatus
      cases hstatus
    · exact hnone read (List.mem_singleton.mpr rfl) hid.symm
  · intro hok row hrow hmarked
    obtain ⟨before, hbefore, rfl⟩ := List.mem_map.mp hrow
    rw [committedRow_eventId] at hmarked
    have hpublished := hstays before hbefore hmarked
    rcases committedRow_cases (OutboxRow.recordFailure error) [read] before with
      ⟨other, hother, hid, heq⟩ | ⟨-, heq⟩
    · rw [List.mem_singleton.mp hother] at hid heq
      rw [heq, status_write_recordFailure, if_neg]
      · exact hpublished
      · exact fun hmax => hok hmax before hbefore hid.symm hpublished
    · rw [heq]
      exact hpublished

/-- **One step** keeps the published rows exactly if no failure at the maximum is written over
one. -/
theorem staysPublished_step {s t : Tasks OutboxState FlushPlace n} {label : Fin n × FlushInput}
    (h : FlushesInv s) (hstays : StaysPublished s.shared) (hstep : outboxStep s label = some t) :
    StaysPublished t.shared ↔ keepsPublished s label := by
  obtain ⟨i, input⟩ := label
  obtain ⟨shared, task, hadvance, rfl⟩ := tasksStep_eq_some hstep
  have hflush := h.each i
  unfold keepsPublished
  simp only
  generalize s.task i = place at hadvance hflush
  unfold advanceFlush at hadvance
  split at hadvance
  · cases hadvance
    exact iff_of_true (hstays.enqueue h.shared _) trivial
  · cases hadvance
    exact iff_of_true hstays trivial
  · cases hadvance
    exact iff_of_true hstays trivial
  · cases hadvance
    exact iff_of_true hstays trivial
  · cases hadvance
    exact iff_of_true hstays trivial
  · split at hadvance
    · cases hadvance
      exact iff_of_true hstays trivial
    · cases hadvance
      exact iff_of_true hstays trivial
  · cases hadvance
    exact iff_of_true (hstays.commitMarks _ hflush.reads) trivial
  · cases hadvance
    exact iff_of_true (hstays.commitMarks _ hflush.reads) trivial
  · split at hadvance
    · cases hadvance
      exact iff_of_true hstays trivial
    · cases hadvance
      exact iff_of_true hstays trivial
  · cases hadvance
    exact hstays.commitFailure_iff h.shared _ _ _
  · cases hadvance
    exact iff_of_true hstays trivial
  · cases hadvance
    exact iff_of_true hstays trivial
  · cases hadvance
    exact iff_of_true hstays trivial
  · cases hadvance

/-- **The outbox keeps its promise** at any time of a run exactly if no failure at the maximum is
written over a row that is `PUBLISHED` by then. -/
theorem outbox_delivers_iff {s : Tasks OutboxState FlushPlace n}
    (labels : List (Fin n × FlushInput)) (hrun : run outboxStep outboxStart labels = some s) :
    Meets outboxStep keepsPublished outboxStart labels ↔
      ∀ before after u, labels = before ++ after →
        run outboxStep outboxStart before = some u → Delivers u.shared := by
  rw [meets_iff_throughout (I := fun s : Tasks OutboxState FlushPlace n =>
    FlushesInv s ∧ StaysPublished s.shared) ?_ ?_ hrun]
  · refine forall_congr' fun before => forall_congr' fun after => forall_congr' fun u =>
      forall_congr' fun _ => forall_congr' fun hu => ?_
    have hinv := flushesInv_run hu
    rw [hinv.shared.delivers_iff]
    exact and_iff_right hinv
  · intro s label t h hstep
    rw [and_iff_right (flushesInv_step h.1 hstep)]
    exact staysPublished_step h.1 h.2 hstep
  · exact ⟨flushesInv_start, by rintro _ ⟨⟩⟩

/-! ### A published event that fails -/

/-- The tasks over an empty table after a run. -/
def outboxAfter (labels : List (Fin 3 × FlushInput)) : Tasks OutboxState FlushPlace 3 :=
  (run outboxStep outboxStart labels).getD outboxStart

/-- A publish times out, and the next flush publishes the event. -/
def publishedAfterTimeout : List (Fin 3 × FlushInput) :=
  [(0, .enqueue { eventId := "e1" }), (0, .flush 100), (0, .timedOut), (0, .read), (0, .commit 1),
    (1, .flush 100), (1, .sent), (1, .read), (1, .commit 2)]

theorem outbox_delivers_publishedAfterTimeout :
    Delivers (outboxAfter publishedAfterTimeout).shared :=
  (outbox_delivers_iff (s := outboxAfter publishedAfterTimeout) publishedAfterTimeout
    (Option.getD_of_ne_none (by decide +kernel) _).symm).mp (by decide +kernel)
    publishedAfterTimeout [] _ (List.append_nil _).symm
    (Option.getD_of_ne_none (by decide +kernel) _).symm

/-- Three flushes read the event; two publish it, and the third one times out. -/
def timeoutAfterPublishes : List (Fin 3 × FlushInput) :=
  [(0, .enqueue { eventId := "e1" }), (0, .flush 100), (1, .flush 100), (2, .flush 100),
    (0, .sent), (0, .read), (0, .commit 1), (1, .sent), (1, .read), (1, .commit 2),
    (2, .timedOut), (2, .read)]

/-- The event is `PUBLISHED`, and then it is `FAILED`, after one failed publish. -/
theorem published_event_fails :
    (run outboxStep outboxStart (timeoutAfterPublishes ++ [(2, .commit 3)])).isSome = true ∧
      (outboxAfter timeoutAfterPublishes).shared.rows.map (fun row => row.status) =
        [.published] ∧
      (outboxAfter (timeoutAfterPublishes ++ [(2, .commit 3)])).shared.rows.map
        (fun row => row.status) = [.failed] ∧
      timesOf "e1"
        (outboxAfter (timeoutAfterPublishes ++ [(2, .commit 3)])).shared.failures = 1 := by
  decide +kernel

end Delivery

end Aats.Execution
