import Aats.Portfolio.State
import Mathlib.Data.List.Sort

/-!
# The durable side of the portfolio: outcomes and outbox

One transaction records the outcome of a fill and enqueues its two envelopes
(`persist_fill_projection_in_session`); after the commit the snapshot goes to the cache
and the outbox is flushed to the bus. Every call may raise: the transaction before or
after its commit took effect, the cache publish (which swallows it), each publish on the
bus (which is recorded against the envelope) and each call of the outbox repository made
by the flush (which is *not* caught).

## Main definitions
* `flushPending` — `flush_pending` with the calls that raise as a parameter.
-/

namespace Aats.Portfolio

/-- How a call ended: it returned, or it raised an exception to its caller. -/
inductive Completion
  | returned
  | raised
  deriving DecidableEq, Repr, Inhabited

/-! ### Outcome records -/

/-- `PortfolioBalanceDelta`. -/
structure BalanceDelta where
  fill : FillEvent
  balancesBefore : Balances
  balancesAfter : Balances
  balanceDeltas : List (String × ℚ)
  realizedPnlDelta : ℚ
  feeDelta : ℚ
  deriving DecidableEq

/-- `_balance_delta_event`: the currencies whose balance the fill moved, in sorted order. -/
def balanceDeltaEvent (fill : FillEvent) (before after : Balances) (realizedPnlDelta feeDelta : ℚ) :
    BalanceDelta where
  fill := fill
  balancesBefore := before
  balancesAfter := after
  balanceDeltas :=
    (((before.keys ++ after.keys).dedup.insertionSort (· ≤ ·)).filter
      fun c => after.balance c ≠ before.balance c).map
      fun c => (c, after.balance c - before.balance c)
  realizedPnlDelta := realizedPnlDelta
  feeDelta := feeDelta

/-- `FillOutcomeRecord`. The fields copied from the fill are kept as the fill itself. -/
structure FillOutcomeRecord where
  delta : BalanceDelta
  positionKey : String
  fillNotional : ℚ
  startingPositionQty : ℚ
  startingAvgEntryPrice : ℚ
  endingPositionQty : ℚ
  endingAvgEntryPrice : ℚ
  deriving DecidableEq

def FillOutcomeRecord.fill (outcome : FillOutcomeRecord) : FillEvent := outcome.delta.fill

def FillOutcomeRecord.fromFillAndBalanceDelta (delta : BalanceDelta)
    (result : FillApplicationResult) : FillOutcomeRecord where
  delta := delta
  positionKey := positionKeyForFill delta.fill
  fillNotional := delta.fill.fillQty * delta.fill.fillPrice
  startingPositionQty := result.startingQuantity
  startingAvgEntryPrice := result.startingAvgEntryPrice
  endingPositionQty := result.endingQuantity
  endingAvgEntryPrice := result.endingAvgEntryPrice

/-! ### The outbox table -/

inductive OutboxStatus
  | pending
  | published
  | failed
  deriving DecidableEq, Repr, Inhabited

inductive Topic
  /-- `PORTFOLIO_BALANCE_DELTAS` -/
  | balanceDeltas
  /-- `PORTFOLIO_SNAPSHOTS` -/
  | snapshots
  deriving DecidableEq, Repr, Inhabited

structure OutboxEvent where
  eventId : ℕ
  topic : Topic
  key : String
  status : OutboxStatus := .pending
  attemptCount : ℕ := 0
  deriving DecidableEq, Repr

/-- The outbox rows in the order of `created_at`. -/
abbrev Outbox := List OutboxEvent

def maxPublishAttempts : ℕ := 3

def Outbox.pending (outbox : Outbox) (limit : ℕ) : List OutboxEvent :=
  (outbox.filter (·.status = .pending)).take limit

def Outbox.markPublishedBatch (outbox : Outbox) (ids : List ℕ) : Outbox :=
  outbox.map fun row =>
    if row.eventId ∈ ids then
      { row with status := .published, attemptCount := row.attemptCount + 1 }
    else row

/-- One more failed attempt of a row, `FAILED` from `maxPublishAttempts` on. -/
def OutboxEvent.recordFailure (row : OutboxEvent) : OutboxEvent :=
  let attempts := row.attemptCount + 1
  { row with
    attemptCount := attempts
    status := if maxPublishAttempts ≤ attempts then .failed else row.status }

/-- `record_failure_with_threshold`: the table and the status it answers. -/
def Outbox.recordFailureWithThreshold (outbox : Outbox) (id : ℕ) : Outbox × Option OutboxStatus :=
  match outbox.find? (·.eventId = id) with
  | none => (outbox, none)
  | some row =>
    (outbox.map fun r => if r.eventId = id then r.recordFailure else r,
      some row.recordFailure.status)

/-! ### Flushing -/

/-- A call of the outbox repository made by `flush_pending`. -/
inductive OutboxCall
  | pending
  | markPublishedBatch (ids : List ℕ)
  | recordFailure (id : ℕ)
  deriving DecidableEq, Repr

/-- What goes wrong during one flush: the bus publishes that fail (by event id) and the
repository calls that raise. -/
structure FlushFaults where
  publishFails : ℕ → Bool := fun _ => false
  callRaises : OutboxCall → Bool := fun _ => false

/-- `if published_ids: mark_published_batch(published_ids)`. -/
def markIfAny (faults : FlushFaults) (published : List ℕ) (outbox : Outbox) :
    Completion × Outbox :=
  if published = [] then (.returned, outbox)
  else if faults.callRaises (.markPublishedBatch published) then (.raised, outbox)
  else (.returned, outbox.markPublishedBatch published)

/-- The publish loop of `flush_pending`, with the ids published since the last batch mark. -/
def flushLoop (faults : FlushFaults) : List OutboxEvent → List ℕ → Outbox → Completion × Outbox
  | [], published, outbox => markIfAny faults published outbox
  | envelope :: rest, published, outbox =>
    if faults.publishFails envelope.eventId then
      match markIfAny faults published outbox with
      | (.raised, marked) => (.raised, marked)
      | (.returned, marked) =>
        if faults.callRaises (.recordFailure envelope.eventId) then (.raised, marked)
        else
          match marked.recordFailureWithThreshold envelope.eventId with
          -- the envelope is given up: go on with the rest
          | (recorded, some .failed) => flushLoop faults rest [] recorded
          -- it will be retried by a later flush: stop here, nothing is left to mark
          | (recorded, _) => (.returned, recorded)
    else flushLoop faults rest (published ++ [envelope.eventId]) outbox

/-- `flush_pending` with its default limit. -/
def flushPending (faults : FlushFaults) (outbox : Outbox) : Completion × Outbox :=
  if faults.callRaises .pending then (.raised, outbox)
  else flushLoop faults (outbox.pending 100) [] outbox

def FlushFaults.Quiet (faults : FlushFaults) : Prop :=
  ∀ call, faults.callRaises call = false

theorem markIfAny_returned {faults : FlushFaults} (hq : faults.Quiet) (published : List ℕ)
    (outbox : Outbox) : (markIfAny faults published outbox).1 = .returned := by
  unfold markIfAny
  split
  · rfl
  · rw [hq]
    rfl

theorem flushLoop_returned {faults : FlushFaults} (hq : faults.Quiet) (envelopes : List OutboxEvent)
    (published : List ℕ) (outbox : Outbox) :
    (flushLoop faults envelopes published outbox).1 = .returned := by
  induction envelopes generalizing published outbox with
  | nil => exact markIfAny_returned hq published outbox
  | cons envelope rest ih =>
    unfold flushLoop
    split
    · have hm := markIfAny_returned hq published outbox
      rcases h : markIfAny faults published outbox with ⟨c, marked⟩
      rw [h] at hm
      simp only at hm
      subst hm
      have hr : faults.callRaises (.recordFailure envelope.eventId) = false := hq _
      simp only [hr, Bool.false_eq_true, ↓reduceIte]
      split
      · exact ih _ _
      · rfl
    · exact ih _ _

theorem flushPending_returned {faults : FlushFaults} (hq : faults.Quiet) (outbox : Outbox) :
    (flushPending faults outbox).1 = .returned := by
  unfold flushPending
  rw [hq]
  exact flushLoop_returned hq _ _ _

/-! ### The database -/

/-- The tables the projection writes: outcomes in commit order, and the outbox. -/
structure Database where
  outcomes : List FillOutcomeRecord := []
  outbox : Outbox := []
  nextEventId : ℕ := 0
  deriving DecidableEq

namespace Database

def getOutcome (db : Database) (fillId : String) : Option FillOutcomeRecord :=
  db.outcomes.find? (·.fill.fillId = fillId)

/-- `save_outcome_in_session`: insert, or overwrite the row with that fill id. -/
def saveOutcome (db : Database) (outcome : FillOutcomeRecord) : Database :=
  match db.getOutcome outcome.fill.fillId with
  | none => { db with outcomes := db.outcomes ++ [outcome] }
  | some _ =>
    { db with outcomes := db.outcomes.map fun o =>
        if o.fill.fillId = outcome.fill.fillId then outcome else o }

/-- `enqueue_in_session` of a new envelope. -/
def enqueue (db : Database) (topic : Topic) (key : String) : Database :=
  { db with
    outbox := db.outbox ++ [{ eventId := db.nextEventId, topic := topic, key := key }]
    nextEventId := db.nextEventId + 1 }

/-- `persist_fill_projection_in_session`: what the transaction commits. -/
def persistFillProjectionInSession (db : Database) (outcome : FillOutcomeRecord) : Database :=
  ((db.saveOutcome outcome).enqueue .balanceDeltas outcome.fill.symbol).enqueue .snapshots
    "portfolio"

/-- The fills durably recorded as applied, in the order of their commits. -/
def recordedFills (db : Database) : List FillEvent := db.outcomes.map (·.fill)

theorem getOutcome_eq_none {db : Database} {fillId : String} :
    db.getOutcome fillId = none ↔ ∀ f ∈ db.recordedFills, f.fillId ≠ fillId := by
  simp [getOutcome, recordedFills]

theorem recordedFills_persist {db : Database} {outcome : FillOutcomeRecord}
    (h : db.getOutcome outcome.fill.fillId = none) :
    (db.persistFillProjectionInSession outcome).recordedFills =
      db.recordedFills ++ [outcome.fill] := by
  simp [persistFillProjectionInSession, saveOutcome, h, enqueue, recordedFills]

end Database

/-! ### Persisting a projection -/

inductive TransactionFate
  | commits
  | raises
  /-- The commit takes effect, but the call raises (the acknowledgement is lost). -/
  | raisesAfterCommit
  deriving DecidableEq, Repr, Inhabited

/-- `persist_fill_projection`. A failing cache publish is swallowed by `_publish_to_cache`,
so it does not show here. -/
def persistFillProjection (db : Database) (outcome : FillOutcomeRecord) (fate : TransactionFate)
    (faults : FlushFaults) : Completion × Database :=
  match fate with
  | .raises => (.raised, db)
  | .raisesAfterCommit => (.raised, db.persistFillProjectionInSession outcome)
  | .commits =>
    let committed := db.persistFillProjectionInSession outcome
    match flushPending faults committed.outbox with
    | (completion, outbox) => (completion, { committed with outbox := outbox })

theorem persistFillProjection_returned {faults : FlushFaults} (hq : faults.Quiet) (db : Database)
    (outcome : FillOutcomeRecord) :
    (persistFillProjection db outcome .commits faults).1 = .returned :=
  flushPending_returned hq _

end Aats.Portfolio
