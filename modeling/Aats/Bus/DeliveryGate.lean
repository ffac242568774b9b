import Aats.Lib.AtLeastOnce
import Aats.Lib.Tasks
import Mathlib.Algebra.GroupWithZero.Nat

/-!
# Publications before the delivery gate opens

`bus/nats_bus.py`: while a process is built, `_publish_or_defer_until_activation` keeps what is
published in a bounded queue; `activate_delivery` gives the queue to JetStream, under a lock, and
then opens the gate, after which publications go to JetStream directly and callbacks run. Any
number of such calls take turns at their awaits, `js.publish` may fail before or after JetStream
has the message, and the gate may be aborted at any time.

A bus without a gate publishes directly and is left out.

## Main definitions
* `NatsDeliveryGate`, `NatsEventBus`, `advanceBus` — the gate, the bus with what JetStream has
  received, and what a call does between two awaits.
* `Received` — what JetStream has received against what was deferred.

## Main results
* `deferred_reach_jetStream_in_order` — **nothing deferred is lost or overtaken**.
* `buffer_within_bounds` — the byte counter is exact, and the caps hold.
* `abort_wins` — after an abort before the activation nothing is opened any more.
-/

namespace Aats.Bus

open Runs AtLeastOnce

/-! ### The gate -/

structure NatsDeliveryGate where
  activationEvent : Bool := false
  abortEvent : Bool := false

namespace NatsDeliveryGate

def activated (gate : NatsDeliveryGate) : Bool := gate.activationEvent && !gate.abortEvent

def aborted (gate : NatsDeliveryGate) : Bool := gate.abortEvent

def activate (gate : NatsDeliveryGate) : Bool × NatsDeliveryGate :=
  if gate.abortEvent then (false, gate) else (true, { gate with activationEvent := true })

def abort (gate : NatsDeliveryGate) : NatsDeliveryGate := { gate with abortEvent := true }

end NatsDeliveryGate

/-! ### The bus and its calls -/

/-- `(subject, body, event_id)`. -/
structure Publication where
  subject : String
  body : List UInt8
  eventId : String

def maxPreActivationPublications : ℕ := 4096

def maxPreActivationPublicationBytes : ℕ := 64 * 1024 * 1024

/-- A bus with its gate.  `stream` is what JetStream has received, `deferred` what was ever put in
the queue, and `acknowledged` what was taken from it. -/
structure NatsEventBus where
  deliveryGate : NatsDeliveryGate := {}
  /-- The call that holds the lock across an await. -/
  deliveryPublishLock : Option ℕ := none
  preActivationPublications : List Publication := []
  preActivationPublicationBytes : ℕ := 0
  connected : Bool := true
  stream : List Publication := []
  deferred : List Publication := []
  acknowledged : List Publication := []

/-- Where a call stands; `received` says whether JetStream has the message of its `js.publish`. -/
inductive BusTask
  | publishing (message : Publication)
  /-- Waits for the lock. -/
  | deferring (message : Publication)
  | publishingDirectly (message : Publication) (received : Bool)
  | activating
  /-- In the loop of `activate_delivery`, with the lock. -/
  | flushing (message : Publication) (received : Bool)
  /-- A callback waits at the gate. -/
  | callback
  | handling
  /-- The supervision of the connection and of the lease. -/
  | supervising
  | finished
  | failed (error : String)

inductive BusInput
  | resume
  /-- JetStream stores the message. -/
  | receive
  | acknowledge
  /-- What the call awaits fails, or the call is cancelled. -/
  | raise (error : String)
  | abort
  | connect
  /-- `close`, which aborts the gate first. -/
  | close

def NatsEventBus.release (bus : NatsEventBus) : NatsEventBus :=
  { bus with deliveryPublishLock := none }

def abortedError : String := "nats_delivery_gate_aborted"

def publishDirectly (bus : NatsEventBus) (message : Publication) : NatsEventBus × BusTask :=
  if bus.connected then (bus, .publishingDirectly message false)
  else (bus, .failed "NatsEventBus.publish called before connect()")

/-- `_publish_or_defer_until_activation` up to the lock. -/
def publishOrDefer (bus : NatsEventBus) (message : Publication) : NatsEventBus × BusTask :=
  if bus.deliveryGate.aborted then (bus, .failed abortedError)
  else if bus.deliveryGate.activated then publishDirectly bus message
  else (bus, .deferring message)

/-- With the lock; nothing is awaited before it is released. -/
def deferUntilActivation (bus : NatsEventBus) (message : Publication) : NatsEventBus × BusTask :=
  if bus.deliveryGate.aborted then (bus, .failed abortedError)
  else if bus.deliveryGate.activated then publishDirectly bus message
  else if maxPreActivationPublications ≤ bus.preActivationPublications.length then
    (bus, .failed "nats_pre_activation_publication_capacity_exceeded")
  else if maxPreActivationPublicationBytes < message.body.length ∨
      maxPreActivationPublicationBytes <
        bus.preActivationPublicationBytes + message.body.length then
    (bus, .failed "nats_pre_activation_publication_bytes_exceeded")
  else
    ({ bus with
        preActivationPublications := bus.preActivationPublications ++ [message]
        preActivationPublicationBytes := bus.preActivationPublicationBytes + message.body.length
        deferred := bus.deferred ++ [message] }, .finished)

/-- The head of the loop of `activate_delivery`, up to the next await. -/
def flushNext (bus : NatsEventBus) (me : ℕ) : NatsEventBus × BusTask :=
  match bus.preActivationPublications with
  | [] =>
    if bus.deliveryGate.activate.1 then
      ({ bus with deliveryGate := bus.deliveryGate.activate.2, deliveryPublishLock := none },
        .finished)
    else (bus.release, .failed abortedError)
  | message :: _ =>
    if bus.deliveryGate.aborted then (bus.release, .failed abortedError)
    else if bus.connected then
      ({ bus with deliveryPublishLock := some me }, .flushing message false)
    else (bus.release, .failed "'NoneType' object has no attribute 'publish'")

/-- `activate_delivery` when it gets the lock. -/
def activateDelivery (bus : NatsEventBus) (me : ℕ) : NatsEventBus × BusTask :=
  if bus.deliveryGate.aborted then (bus, .failed abortedError)
  else if bus.connected then flushNext bus me
  else (bus, .failed "NatsEventBus.activate called before connect()")

def NatsEventBus.popLeft (bus : NatsEventBus) (message : Publication) : NatsEventBus :=
  { bus with
    preActivationPublications := bus.preActivationPublications.tail
    preActivationPublicationBytes := bus.preActivationPublicationBytes - message.body.length
    acknowledged := bus.acknowledged ++ [message] }

/-- The loop of `activate_delivery` after `js.publish`. -/
def flushed (bus : NatsEventBus) (me : ℕ) (message : Publication) : NatsEventBus × BusTask :=
  if bus.deliveryGate.aborted then ((bus.popLeft message).release, .failed abortedError)
  else flushNext (bus.popLeft message) me

def NatsEventBus.receive (bus : NatsEventBus) (message : Publication) : NatsEventBus :=
  { bus with stream := bus.stream ++ [message] }

def advanceBus (bus : NatsEventBus) (me : ℕ) (task : BusTask) (input : BusInput) :
    Option (NatsEventBus × BusTask) :=
  match task, input with
  | .publishing message, .resume => some (publishOrDefer bus message)
  | .deferring message, .resume =>
    if bus.deliveryPublishLock = none then some (deferUntilActivation bus message) else none
  | .activating, .resume =>
    if bus.deliveryPublishLock = none then some (activateDelivery bus me) else none
  | .callback, .resume =>
    if bus.deliveryGate.aborted then some (bus, .finished)
    else if bus.deliveryGate.activated then some (bus, .handling)
    else none
  | .publishingDirectly message false, .receive =>
    some (bus.receive message, .publishingDirectly message true)
  | .publishingDirectly _ true, .acknowledge => some (bus, .finished)
  | .flushing message false, .receive => some (bus.receive message, .flushing message true)
  | .flushing message true, .acknowledge => some (flushed bus me message)
  | .flushing _ _, .raise error => some (bus.release, .failed error)
  | .deferring _, .raise error | .activating, .raise error | .callback, .raise error
  | .publishingDirectly _ _, .raise error => some (bus, .failed error)
  | .supervising, .abort => some ({ bus with deliveryGate := bus.deliveryGate.abort }, .supervising)
  | .supervising, .connect => some ({ bus with connected := true }, .supervising)
  | .supervising, .close =>
    some ({ bus with deliveryGate := bus.deliveryGate.abort, connected := false }, .supervising)
  | _, _ => none

def busStep {n : ℕ} :
    Tasks NatsEventBus BusTask n → Fin n × BusInput → Option (Tasks NatsEventBus BusTask n) :=
  tasksStep advanceBus

inductive BusCall
  | publish (message : Publication)
  | activate
  | callback
  | supervise

def BusCall.task : BusCall → BusTask
  | .publish message => .publishing message
  | .activate => .activating
  | .callback => .callback
  | .supervise => .supervising

def busStart {n : ℕ} (calls : Fin n → BusCall) : Tasks NatsEventBus BusTask n where
  shared := {}
  task := fun i => (calls i).task

/-! ### What holds between two awaits -/

/-- JetStream has the messages of `sent`, in order and each once or more in a row, and then what was
published directly, which is nothing before the gate is opened. -/
def Received (bus : NatsEventBus) (sent : List Publication) : Prop :=
  ∃ flushed direct, bus.stream = flushed ++ direct ∧ Repeats sent flushed ∧
    (bus.deliveryGate.activationEvent = false → direct = [])

def HeadReceived (bus : NatsEventBus) : Prop :=
  ∃ message ∈ bus.preActivationPublications.head?, Received bus (bus.acknowledged ++ [message])

structure BusInv (bus : NatsEventBus) : Prop where
  deferred : bus.deferred = bus.acknowledged ++ bus.preActivationPublications
  bytes : bus.preActivationPublicationBytes =
    (bus.preActivationPublications.map fun message => message.body.length).sum
  withinBytes : bus.preActivationPublicationBytes ≤ maxPreActivationPublicationBytes
  withinCount : bus.preActivationPublications.length ≤ maxPreActivationPublications
  received : Received bus bus.acknowledged ∨ HeadReceived bus
  flushed : bus.deliveryGate.activationEvent = true → bus.preActivationPublications = []

/-- What a call relies on while it waits. -/
def BusTaskInv (bus : NatsEventBus) (me : ℕ) : BusTask → Prop
  | .publishingDirectly _ _ | .handling => bus.deliveryGate.activationEvent = true
  | .flushing message received =>
    bus.deliveryPublishLock = some me ∧ bus.preActivationPublications.head? = some message ∧
      (received = true → HeadReceived bus)
  | _ => True

/-- What a move establishes for the bus, for the mover and for the others. -/
structure BusMove (bus : NatsEventBus) (me : ℕ) (after : NatsEventBus × BusTask) : Prop where
  inv : BusInv after.1
  mover : BusTaskInv after.1 me after.2
  others : ∀ other ≠ me, ∀ task, BusTaskInv bus other task → BusTaskInv after.1 other task

section Invariant

variable {bus next : NatsEventBus} {message : Publication} {sent : List Publication} {me other : ℕ}
  {task : BusTask} (h : BusInv bus)

theorem BusTaskInv.others
    (hmine : bus.deliveryPublishLock = none ∨ bus.deliveryPublishLock = some me)
    (hgate : bus.deliveryGate.activationEvent = true → next.deliveryGate.activationEvent = true) :
    ∀ other ≠ me, ∀ task, BusTaskInv bus other task → BusTaskInv next other task := by
  intro other hne task hother
  cases task with
  | publishingDirectly message received => exact hgate hother
  | handling => exact hgate hother
  | flushing message received =>
    rw [hother.1] at hmine
    rcases hmine with hmine | hmine
    · cases hmine
    · exact absurd (Option.some.inj hmine) hne
  | publishing _ | deferring _ | activating | callback | supervising | finished | failed _ =>
    exact trivial

/-- Once the gate was opened JetStream has all that was deferred. -/
theorem BusInv.received_all (h : BusInv bus) (hopen : bus.deliveryGate.activationEvent = true) :
    Received bus bus.deferred := by
  rw [h.deferred, h.flushed hopen, List.append_nil]
  rcases h.received with hreceived | ⟨message, hhead, -⟩
  · exact hreceived
  · rw [h.flushed hopen] at hhead
    cases hhead

include h

theorem busMove_stay (hmover : BusTaskInv bus me task) : BusMove bus me (bus, task) :=
  ⟨h, hmover, fun _ _ _ hother => hother⟩

theorem publishDirectly_move (hopen : bus.deliveryGate.activated = true) :
    BusMove bus me (publishDirectly bus message) := by
  unfold publishDirectly
  split
  · exact busMove_stay h (Bool.and_eq_true_iff.mp hopen).1
  · exact busMove_stay h trivial

theorem publishOrDefer_move : BusMove bus me (publishOrDefer bus message) := by
  unfold publishOrDefer
  split
  · exact busMove_stay h trivial
  split
  · next hopen => exact publishDirectly_move h hopen
  · exact busMove_stay h trivial

/-- **Deferring**: the message goes to the end of a queue that nobody is flushing. -/
theorem deferUntilActivation_move (hfree : bus.deliveryPublishLock = none) :
    BusMove bus me (deferUntilActivation bus message) := by
  unfold deferUntilActivation
  split
  · exact busMove_stay h trivial
  split
  · next hopen => exact publishDirectly_move h hopen
  split
  · exact busMove_stay h trivial
  split
  · exact busMove_stay h trivial
  next habort hclosed hcount hbytes =>
    rw [not_or, not_lt, not_lt] at hbytes
    refine ⟨⟨?_, ?_, hbytes.2, ?_, h.received.imp_right ?_, ?_⟩, trivial,
      BusTaskInv.others (.inl hfree) fun hopen => hopen⟩
    · simp [h.deferred]
    · simp [h.bytes]
    · simp only [List.length_append, List.length_singleton]
      omega
    · rintro ⟨head, hhead, hreceived⟩
      exact ⟨head, by simp_all [List.head?_append], hreceived⟩
    · intro hopen
      simp_all [NatsDeliveryGate.activated, NatsDeliveryGate.aborted]

theorem release_move
    (hmine : bus.deliveryPublishLock = none ∨ bus.deliveryPublishLock = some me) (error : String) :
    BusMove bus me (bus.release, .failed error) :=
  ⟨⟨h.deferred, h.bytes, h.withinBytes, h.withinCount, h.received, h.flushed⟩, trivial,
    BusTaskInv.others hmine fun hopen => hopen⟩

/-- **The loop head**: with an empty queue the gate opens, else the head is given to JetStream. -/
theorem flushNext_move
    (hmine : bus.deliveryPublishLock = none ∨ bus.deliveryPublishLock = some me) :
    BusMove bus me (flushNext bus me) := by
  unfold flushNext
  split
  · next hempty =>
    split
    · next hactivate =>
      have hopened : bus.deliveryGate.activate.2.activationEvent = true := by
        unfold NatsDeliveryGate.activate at hactivate ⊢
        split at hactivate
        · cases hactivate
        · next habort => rw [if_neg habort]
      refine ⟨⟨h.deferred, h.bytes, h.withinBytes, h.withinCount, .inl ?_, fun _ => hempty⟩, trivial,
        BusTaskInv.others hmine fun _ => hopened⟩
      rcases h.received with ⟨flushed, direct, hstream, hrepeats, -⟩ | ⟨head, hhead, -⟩
      · exact ⟨flushed, direct, hstream, hrepeats,
          fun hclosed => absurd (hopened.symm.trans hclosed) (by decide)⟩
      · rw [hempty] at hhead
        cases hhead
    · exact release_move h hmine _
  · next message rest hqueue =>
    split
    · exact release_move h hmine _
    split
    · exact ⟨⟨h.deferred, h.bytes, h.withinBytes, h.withinCount, h.received, h.flushed⟩,
        ⟨rfl, congrArg List.head? hqueue, nofun⟩, BusTaskInv.others hmine fun hopen => hopen⟩
    · exact release_move h hmine _

theorem activateDelivery_move (hfree : bus.deliveryPublishLock = none) :
    BusMove bus me (activateDelivery bus me) := by
  unfold activateDelivery
  split
  · exact busMove_stay h trivial
  split
  · exact flushNext_move h (.inl hfree)
  · exact busMove_stay h trivial

/-- What the loop takes from the queue is its head, and JetStream has it. -/
theorem BusInv.popLeft (hmine : BusTaskInv bus me (.flushing message true)) :
    BusInv (bus.popLeft message) := by
  obtain ⟨-, hhead, hreceived⟩ := hmine
  obtain ⟨head, hhead', hsent⟩ := hreceived rfl
  obtain rfl : head = message := Option.some.inj (hhead'.symm.trans hhead)
  obtain ⟨rest, hqueue⟩ := List.head?_eq_some_iff.mp hhead
  have hbytes := h.bytes
  have hcount := h.withinCount
  rw [hqueue] at hcount
  rw [hqueue, List.map_cons, List.sum_cons] at hbytes
  refine ⟨?_, ?_, (Nat.sub_le _ _).trans h.withinBytes, ?_, .inl hsent, ?_⟩
  · simp [NatsEventBus.popLeft, h.deferred, hqueue]
  · simp only [NatsEventBus.popLeft, hqueue, List.tail_cons]
    omega
  · simp only [NatsEventBus.popLeft, hqueue, List.tail_cons]
    exact (Nat.le_succ _).trans hcount
  · intro hopen
    -- the gate is opened only with an empty queue
    rw [h.flushed hopen] at hqueue
    cases hqueue

theorem flushed_move (hmine : BusTaskInv bus me (.flushing message true)) :
    BusMove bus me (flushed bus me message) := by
  have hpop := h.popLeft hmine
  have hmove : BusMove (bus.popLeft message) me (flushed bus me message) := by
    unfold flushed
    split
    · exact release_move hpop (.inr hmine.1) _
    · exact flushNext_move hpop (.inr hmine.1)
  have hkept : bus.deliveryGate.activationEvent = true →
      (bus.popLeft message).deliveryGate.activationEvent = true := fun hopen => hopen
  refine ⟨hmove.inv, hmove.mover, fun other hne task hother => hmove.others other hne task ?_⟩
  exact BusTaskInv.others (.inr hmine.1) hkept other hne task hother

/-- **JetStream gets a direct publication**: then all that was deferred is there. -/
theorem receive_direct_move (hmine : BusTaskInv bus me (.publishingDirectly message false)) :
    BusMove bus me (bus.receive message, .publishingDirectly message true) := by
  have hopen : bus.deliveryGate.activationEvent = true := hmine
  have hreceived : Received (bus.receive message) bus.deferred := by
    obtain ⟨flushed, direct, hstream, hrepeats, -⟩ := h.received_all hopen
    refine ⟨flushed, direct ++ [message], ?_, hrepeats, ?_⟩
    · simp [NatsEventBus.receive, hstream]
    · exact fun hclosed => absurd (hopen.symm.trans hclosed) (by decide)
  rw [h.deferred, h.flushed hopen, List.append_nil] at hreceived
  refine ⟨⟨h.deferred, h.bytes, h.withinBytes, h.withinCount, .inl hreceived, h.flushed⟩, hopen, ?_⟩
  intro other _ task hother
  cases task with
  | flushing head received =>
    obtain ⟨-, hhead, -⟩ := hother
    rw [h.flushed hopen] at hhead
    cases hhead
  | publishingDirectly _ _ | handling => exact hother
  | publishing _ | deferring _ | activating | callback | supervising | finished | failed _ =>
    exact trivial

/-- **JetStream gets the head of the queue**, for the first time or again. -/
theorem receive_head_move (hmine : BusTaskInv bus me (.flushing message false)) :
    BusMove bus me (bus.receive message, .flushing message true) := by
  obtain ⟨hlock, hhead, -⟩ := hmine
  have hclosed : bus.deliveryGate.activationEvent = false := by
    rw [← Bool.not_eq_true]
    intro hopen
    rw [h.flushed hopen] at hhead
    cases hhead
  have hnext : ∀ flushed direct : List Publication, bus.stream = flushed ++ direct →
      (bus.deliveryGate.activationEvent = false → direct = []) →
      Repeats (bus.acknowledged ++ [message]) (flushed ++ [message]) →
      HeadReceived (bus.receive message) := by
    intro flushed direct hstream hdirect hrepeats
    refine ⟨message, hhead, flushed ++ [message], [], ?_, hrepeats, fun _ => rfl⟩
    simp [NatsEventBus.receive, hstream, hdirect hclosed]
  have hreceived : HeadReceived (bus.receive message) := by
    rcases h.received with ⟨_, _, hstream, hrepeats, hdirect⟩ |
      ⟨head, hhead', _, _, hstream, hrepeats, hdirect⟩
    · exact hnext _ _ hstream hdirect (hrepeats.next message)
    · obtain rfl : head = message := Option.some.inj (hhead'.symm.trans hhead)
      exact hnext _ _ hstream hdirect hrepeats.again
  exact ⟨⟨h.deferred, h.bytes, h.withinBytes, h.withinCount, .inr hreceived, h.flushed⟩,
    ⟨hlock, hhead, fun _ => hreceived⟩, BusTaskInv.others (.inr hlock) fun hopen => hopen⟩

theorem supervise_move {gate : NatsDeliveryGate} (connected : Bool)
    (hgate : gate.activationEvent = bus.deliveryGate.activationEvent) :
    BusMove bus me
      ({ bus with deliveryGate := gate, connected := connected }, .supervising) := by
  cases gate
  obtain rfl := hgate
  exact ⟨⟨h.deferred, h.bytes, h.withinBytes, h.withinCount, h.received, h.flushed⟩, trivial,
    fun _ _ _ hother => hother⟩

theorem advanceBus_move {input : BusInput} {after : NatsEventBus × BusTask}
    (hmine : BusTaskInv bus me task) (hadvance : advanceBus bus me task input = some after) :
    BusMove bus me after := by
  unfold advanceBus at hadvance
  split at hadvance
  · cases hadvance; exact publishOrDefer_move h
  · split at hadvance
    · next hfree => cases hadvance; exact deferUntilActivation_move h hfree
    · cases hadvance
  · split at hadvance
    · next hfree => cases hadvance; exact activateDelivery_move h hfree
    · cases hadvance
  · -- a callback passes only a gate that is open when it goes on
    split at hadvance
    · cases hadvance; exact busMove_stay h trivial
    split at hadvance
    · next hopen => cases hadvance; exact busMove_stay h (Bool.and_eq_true_iff.mp hopen).1
    · cases hadvance
  · cases hadvance; exact receive_direct_move h hmine
  · cases hadvance; exact busMove_stay h trivial
  · cases hadvance; exact receive_head_move h hmine
  · cases hadvance; exact flushed_move h hmine
  · cases hadvance; exact release_move h (.inr hmine.1) _
  · cases hadvance; exact busMove_stay h trivial
  · cases hadvance; exact busMove_stay h trivial
  · cases hadvance; exact busMove_stay h trivial
  · cases hadvance; exact busMove_stay h trivial
  · cases hadvance; exact supervise_move h _ rfl
  · cases hadvance; exact supervise_move h true rfl
  · cases hadvance; exact supervise_move h false rfl
  · cases hadvance

end Invariant

/-! ### Runs -/

section Runs

variable {n : ℕ} {s t : Tasks NatsEventBus BusTask n} {labels : List (Fin n × BusInput)}

theorem busInv_step (label : Fin n × BusInput) (h : TasksInv BusInv BusTaskInv s)
    (hstep : busStep s label = some t) : TasksInv BusInv BusTaskInv t := by
  obtain ⟨i, input⟩ := label
  obtain ⟨bus, task, hadvance, rfl⟩ := tasksStep_eq_some hstep
  have hmove := advanceBus_move h.shared (h.each i) hadvance
  refine tasksInv_step hmove.inv hmove.mover fun j hj => ?_
  exact hmove.others j (fun heq => hj (Fin.ext heq)) _ (h.each j)

theorem busInv_run {calls : Fin n → BusCall} (hrun : run busStep (busStart calls) labels = some s) :
    TasksInv BusInv BusTaskInv s := by
  refine run_invariant (fun _ label _ => busInv_step label) ⟨?_, ?_⟩ hrun
  · exact ⟨rfl, rfl, Nat.zero_le _, Nat.zero_le _,
      .inl ⟨[], [], rfl, .nil, fun _ => rfl⟩, nofun⟩
  · intro i
    show BusTaskInv {} i (calls i).task
    cases calls i <;> exact trivial

/-- **Nothing deferred is lost or overtaken**, whatever calls take turns and whatever fails: what
JetStream lacks of it is in the queue, and a direct publication or a callback finds that JetStream
has all of it, of which it keeps each message once if their ids differ. -/
theorem deferred_reach_jetStream_in_order (calls : Fin n → BusCall)
    (hrun : run busStep (busStart calls) labels = some s) :
    (∃ taken, s.shared.deferred = taken ++ s.shared.preActivationPublications ∧
      (Received s.shared taken ∨ ∃ message ∈ s.shared.preActivationPublications.head?,
        Received s.shared (taken ++ [message]))) ∧
    (s.shared.deliveryGate.activationEvent = true →
      s.shared.preActivationPublications = [] ∧
        ∃ flushed direct, s.shared.stream = flushed ++ direct ∧
          Repeats s.shared.deferred flushed ∧
          ((s.shared.deferred.map (·.eventId)).Nodup →
            received (·.eventId) flushed = s.shared.deferred)) ∧
    ∀ i, (s.task i = .handling ∨ ∃ message received,
        s.task i = .publishingDirectly message received) →
      s.shared.deliveryGate.activationEvent = true := by
  have hinv := busInv_run hrun
  refine ⟨⟨_, hinv.shared.deferred, hinv.shared.received⟩,
    fun hopen => ⟨hinv.shared.flushed hopen, ?_⟩, ?_⟩
  · obtain ⟨flushed, direct, hstream, hrepeats, -⟩ := hinv.shared.received_all hopen
    exact ⟨flushed, direct, hstream, hrepeats, hrepeats.received_eq _⟩
  · intro i htask
    have hmine := hinv.each i
    rcases htask with htask | ⟨message, received, htask⟩
    · rw [htask] at hmine
      exact hmine
    · rw [htask] at hmine
      exact hmine

/-- **The buffer**: at every time its counter is the bytes of what it holds, within both caps. -/
theorem buffer_within_bounds (calls : Fin n → BusCall)
    (hrun : run busStep (busStart calls) labels = some s) :
    s.shared.preActivationPublicationBytes =
        (s.shared.preActivationPublications.map fun message => message.body.length).sum ∧
      s.shared.preActivationPublicationBytes ≤ maxPreActivationPublicationBytes ∧
      s.shared.preActivationPublications.length ≤ maxPreActivationPublications :=
  have hinv := (busInv_run hrun).shared
  ⟨hinv.bytes, hinv.withinBytes, hinv.withinCount⟩

/-! ### After an abort -/

/-- A gate that was aborted before it was opened, when JetStream had `stream`. -/
structure AbortedBus (stream deferred : List Publication) (bus : NatsEventBus) : Prop where
  inv : BusInv bus
  aborted : bus.deliveryGate.abortEvent = true
  closed : bus.deliveryGate.activationEvent = false
  deferred : bus.deferred = deferred
  late : ∃ late, bus.stream = stream ++ late ∧ late.length ≤ 1

/-- JetStream has `stream` as long as the message of the call with the lock is on its way. -/
def AbortedTask (stream : List Publication) (bus : NatsEventBus) (me : ℕ) (task : BusTask) : Prop :=
  BusTaskInv bus me task ∧ ∀ message, task = .flushing message false → bus.stream = stream

variable {bus next : NatsEventBus} {me : ℕ} {task after : BusTask} {input : BusInput}

/-- **A step after the abort**: only a message that was on its way still arrives. -/
theorem advanceBus_of_aborted (haborted : bus.deliveryGate.abortEvent = true)
    (hclosed : bus.deliveryGate.activationEvent = false) (hmine : BusTaskInv bus me task)
    (hadvance : advanceBus bus me task input = some (next, after)) :
    next.deliveryGate.abortEvent = true ∧ next.deliveryGate.activationEvent = false ∧
      next.deferred = bus.deferred ∧ (∀ message, after ≠ .flushing message false) ∧
      (next.stream = bus.stream ∨ ∃ message, task = .flushing message false ∧
        next.stream = bus.stream ++ [message]) := by
  have hpublish : ∀ message, publishOrDefer bus message = (bus, .failed abortedError) :=
    fun _ => if_pos haborted
  have hdefer : ∀ message, deferUntilActivation bus message = (bus, .failed abortedError) :=
    fun _ => if_pos haborted
  have hactivate : activateDelivery bus me = (bus, .failed abortedError) := if_pos haborted
  have hflushed : ∀ message, flushed bus me message =
      ((bus.popLeft message).release, .failed abortedError) := fun _ => if_pos haborted
  have hcallback : bus.deliveryGate.aborted = true := haborted
  unfold advanceBus at hadvance
  simp only [hpublish, hdefer, hactivate, hflushed, hcallback, if_true] at hadvance
  split at hadvance
  case h_2 | h_3 =>
    split at hadvance
    · cases hadvance; exact ⟨haborted, hclosed, rfl, nofun, .inl rfl⟩
    · cases hadvance
  case h_5 => exact absurd (hclosed.symm.trans hmine) (by decide)
  case h_7 => cases hadvance; exact ⟨haborted, hclosed, rfl, nofun, .inr ⟨_, rfl, rfl⟩⟩
  case h_14 | h_16 => cases hadvance; exact ⟨rfl, hclosed, rfl, nofun, .inl rfl⟩
  case h_17 => cases hadvance
  all_goals cases hadvance; exact ⟨haborted, hclosed, rfl, nofun, .inl rfl⟩

theorem abortedBus_step {stream deferred : List Publication} (label : Fin n × BusInput)
    (h : TasksInv (AbortedBus stream deferred) (AbortedTask stream) s)
    (hstep : busStep s label = some t) :
    TasksInv (AbortedBus stream deferred) (AbortedTask stream) t := by
  obtain ⟨i, input⟩ := label
  obtain ⟨bus, task, hadvance, rfl⟩ := tasksStep_eq_some hstep
  have hinv := h.shared
  have hmove := advanceBus_move hinv.inv (h.each i).1 hadvance
  obtain ⟨haborted, hclosed, hdeferred, hafter, hstream⟩ :=
    advanceBus_of_aborted hinv.aborted hinv.closed (h.each i).1 hadvance
  refine tasksInv_step ⟨hmove.inv, haborted, hclosed, hdeferred.trans hinv.deferred, ?_⟩
    ⟨hmove.mover, fun message htask => absurd htask (hafter message)⟩ fun j hj => ⟨?_, ?_⟩
  · rcases hstream with hstream | ⟨message, htask, hstream⟩
    · exact hstream ▸ hinv.late
    · exact ⟨[message], hstream.trans (congrArg (· ++ _) ((h.each i).2 message htask)), le_rfl⟩
  · exact hmove.others j (fun heq => hj (Fin.ext heq)) _ (h.each j).1
  · intro message htask
    rcases hstream with hstream | ⟨other, hother, -⟩
    · exact hstream.trans ((h.each j).2 message htask)
    · -- two calls cannot both have the lock
      have hlock := (h.each j).1
      have hlock' := (h.each i).1
      rw [htask] at hlock
      rw [hother] at hlock'
      exact absurd (Fin.ext (Option.some.inj (hlock.1.symm.trans hlock'.1))) hj

/-- **An abort wins**: if the gate was not opened before, it stays closed in every continuation,
nothing more is deferred, published directly or handled, and only one message may still reach
JetStream. -/
theorem abort_wins (calls : Fin n → BusCall) {later : List (Fin n × BusInput)}
    (hrun : run busStep (busStart calls) labels = some s)
    (haborted : s.shared.deliveryGate.aborted = true)
    (hclosed : s.shared.deliveryGate.activationEvent = false)
    (hlater : run busStep s later = some t) :
    t.shared.deliveryGate.activationEvent = false ∧ t.shared.deferred = s.shared.deferred ∧
      (∃ late, t.shared.stream = s.shared.stream ++ late ∧ late.length ≤ 1) ∧
      ∀ i, t.task i ≠ .handling ∧ ∀ message received,
        t.task i ≠ .publishingDirectly message received := by
  have hinv := busInv_run hrun
  have hend : TasksInv (AbortedBus s.shared.stream s.shared.deferred)
      (AbortedTask s.shared.stream) t := by
    refine run_invariant (fun _ label _ => abortedBus_step label) ⟨?_, fun i => ?_⟩ hlater
    · exact ⟨hinv.shared, haborted, hclosed, rfl, [], (List.append_nil _).symm, Nat.zero_le _⟩
    · exact ⟨hinv.each i, fun _ _ => rfl⟩
  refine ⟨hend.shared.closed, hend.shared.deferred, hend.shared.late, fun i => ?_⟩
  have hmine := (hend.each i).1
  constructor
  · intro htask
    rw [htask] at hmine
    exact absurd (hend.shared.closed.symm.trans hmine) (by decide)
  · intro message received htask
    rw [htask] at hmine
    exact absurd (hend.shared.closed.symm.trans hmine) (by decide)

end Runs

/-! ### A flush that is tried again, and one that is aborted -/

def openingMessage : Publication := ⟨"aats.orders", [1], "e1"⟩

/-- One publication, two activations, and the supervision. -/
def startupCalls (i : Fin 4) : BusCall :=
  if i = 0 then .publish openingMessage else if i = 3 then .supervise else .activate

def busAfter (labels : List (Fin 4 × BusInput)) : Tasks NatsEventBus BusTask 4 :=
  (run busStep (busStart startupCalls) labels).getD (busStart startupCalls)

/-- JetStream has the message, but the first activation fails. -/
def failedFlush : List (Fin 4 × BusInput) :=
  [(0, .resume), (0, .resume), (1, .resume), (1, .receive), (1, .raise "timeout")]

def secondFlush : List (Fin 4 × BusInput) := [(2, .resume), (2, .receive), (2, .acknowledge)]

theorem failedFlush_run :
    run busStep (busStart startupCalls) failedFlush = some (busAfter failedFlush) :=
  (Option.getD_of_ne_none (by decide +kernel) _).symm

theorem secondFlush_run : run busStep (busStart startupCalls) (failedFlush ++ secondFlush) =
    some (busAfter (failedFlush ++ secondFlush)) :=
  (Option.getD_of_ne_none (by decide +kernel) _).symm

theorem secondFlush_in_order :
    ∃ flushed direct, (busAfter (failedFlush ++ secondFlush)).shared.stream = flushed ++ direct ∧
      Repeats [openingMessage] flushed := by
  obtain ⟨flushed, direct, hstream, hrepeats, -⟩ :=
    ((deferred_reach_jetStream_in_order startupCalls secondFlush_run).2.1 (by decide +kernel)).2
  exact ⟨flushed, direct, hstream, hrepeats⟩

theorem buffer_within_bounds_failedFlush :
    (busAfter failedFlush).shared.preActivationPublicationBytes ≤
      maxPreActivationPublicationBytes :=
  (buffer_within_bounds startupCalls failedFlush_run).2.1

theorem abort_wins_failedFlush :
    ((run busStep (busAfter (failedFlush ++ [(3, .abort)])) [(2, .resume)]).getD
      (busStart startupCalls)).shared.deliveryGate.activationEvent = false :=
  (abort_wins startupCalls (Option.getD_of_ne_none (by decide +kernel) _).symm
    (by decide +kernel) (by decide +kernel)
    (Option.getD_of_ne_none (by decide +kernel) _).symm).1

end Aats.Bus
