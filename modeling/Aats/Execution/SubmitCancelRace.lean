import Aats.Lib.Runs
import Aats.Execution.CancelOrder
import Mathlib.Data.Fintype.Basic

/-!
# A cancel against the submit worker

An order in the persistent command flow, before the exchange has acknowledged it. Workers
fetch and claim its submit command, check that the order is still `CREATED` or `SUBMITTING`
(`process_submit_command`) and send the place request. Cancels read the order, look up the
submit command, abandon it if they saw it `PENDING`, and store the order as `CANCELED`
(`_cancel_pending_submit_before_exchange_ack`). Every read and every write is a step of its
own, in any order.

A worker that passes its check between a cancel's look-up and its last write sends the place
request of an order that the cancel then reports as canceled before submission. Without such
a check the cancel is safe: a command seen `PENDING` has never been claimed, and once the order
is `CANCELED` no check passes.

## Main results
* `cancelRace_keeps_inv` — one step whose check does not pass inside a cancel.
-/

namespace Aats.Execution

open Runs

/-! ### Workers and cancels -/

inductive SubmitPhase
  | idle
  | fetched (row : Command)
  /-- The claim succeeded; the status check of `process_submit_command` comes next. -/
  | claimed
  /-- The check has passed; `SUBMITTING` is stored next. -/
  | checked
  /-- `adapter.submit` comes next. -/
  | submitting
  /-- The place request is out; its result is stored next. -/
  | placed
  /-- The executor is done: it returned or raised. -/
  | finished (ok : Bool)
  /-- `mark_acked` comes next. -/
  | sentMarked
  deriving DecidableEq

/-- The worker is between its passed check and the end of its submission. -/
def SubmitPhase.past : SubmitPhase → Bool
  | checked | submitting | placed => true
  | idle | fetched _ | claimed | finished _ | sentMarked => false

def SubmitPhase.unclaimed : SubmitPhase → Bool
  | idle | fetched _ => true
  | claimed | checked | submitting | placed | finished _ | sentMarked => false

inductive CancelPhase
  | idle
  | read (order : OrderState)
  /-- It has seen the submit command `PENDING`; `mark_abandoned` comes next. -/
  | seenPending (order : OrderState)
  /-- It stores the order as `CANCELED` next; `abandoned` says that it abandoned the command. -/
  | canceling (order : OrderState) (abandoned : Bool)
  /-- It stores `CANCEL_PENDING` next (the command was claimed, sent or abandoned before). -/
  | requesting (order : OrderState)
  deriving DecidableEq

/-- The cancel has seen the command `PENDING` and has not stored `CANCELED` yet. -/
def CancelPhase.abandoning : CancelPhase → Bool
  | seenPending _ => true
  | canceling _ abandoned => abandoned
  | idle | read _ | requesting _ => false

/-- The order, its submit command, `m` workers and `k` cancels, and what has happened: how
many place requests were sent and whether a cancel abandoned the command and stored
`CANCELED`. -/
structure CancelRace (m k : ℕ) where
  order : OrderState
  command : Command
  worker : Fin m → SubmitPhase := fun _ => .idle
  cancel : Fin k → CancelPhase := fun _ => .idle
  placed : ℕ := 0
  canceledBeforeSubmit : Bool := false

/-- A step of a worker, of a cancel or of the exchange sync. -/
inductive RaceAction (m k : ℕ)
  | fetch (i : Fin m)
  /-- The worker claims the fetched row. -/
  | claim (i : Fin m) (now : Timestamp)
  /-- The status check of `process_submit_command`. -/
  | check (i : Fin m)
  /-- The worker stores `SUBMITTING`. -/
  | storeSubmitting (i : Fin m) (now : Timestamp)
  /-- The worker sends the place request. -/
  | place (i : Fin m)
  /-- The worker stores the adapter's result. -/
  | storeResult (i : Fin m) (result : OrderState)
  | raise (i : Fin m)
  | mark (i : Fin m) (now : Timestamp)
  /-- The worker's process dies. -/
  | crash (i : Fin m)
  /-- `cancel_order` reads the order. -/
  | readOrder (j : Fin k)
  /-- It looks up the submit command. -/
  | lookup (j : Fin k)
  /-- `mark_abandoned`. -/
  | abandon (j : Fin k) (now : Timestamp)
  | store (j : Fin k) (now : Timestamp)
  | sync (incoming : OrderState)

variable {m k : ℕ}

/-- The row after `_update_state`. -/
def Command.mark (command : Command) (state : CommandState) (now : Timestamp) : Command :=
  { command with state := state, updatedAt := now }

def CancelRace.setWorker (s : CancelRace m k) (i : Fin m) (phase : SubmitPhase) :
    CancelRace m k :=
  { s with worker := Function.update s.worker i phase }

def CancelRace.setCancel (s : CancelRace m k) (j : Fin k) (phase : CancelPhase) :
    CancelRace m k :=
  { s with cancel := Function.update s.cancel j phase }

/-- `process_submit_command` goes on only with these statuses. -/
def submittable (status : OrderStatus) : Bool :=
  decide (status = .created ∨ status = .submitting)

def cancelRace (s : CancelRace m k) : RaceAction m k → Option (CancelRace m k)
  | .fetch i =>
    match s.worker i with
    | .idle =>
      if s.command.state = .pending ∨ s.command.state = .claimed then
        some (s.setWorker i (.fetched s.command))
      else some s
    | _ => none
  | .claim i now =>
    match s.worker i with
    | .fetched row =>
      if s.command.state = row.state ∧ s.command.updatedAt = row.updatedAt then
        some { s.setWorker i .claimed with command := s.command.mark .claimed now }
      else some (s.setWorker i .idle)
    | _ => none
  | .check i =>
    match s.worker i with
    | .claimed =>
      if submittable s.order.status then some (s.setWorker i .checked)
      else some (s.setWorker i (.finished true))
    | _ => none
  | .storeSubmitting i now =>
    match s.worker i with
    | .checked =>
      some { s.setWorker i .submitting with
        order := storeOrder s.order { s.order with status := .submitting, lastUpdateTs := some now } }
    | _ => none
  | .place i =>
    match s.worker i with
    | .submitting => some { s.setWorker i .placed with placed := s.placed + 1 }
    | _ => none
  | .storeResult i result =>
    match s.worker i with
    | .placed => some { s.setWorker i (.finished true) with order := storeOrder s.order result }
    | _ => none
  | .raise i =>
    match s.worker i with
    | .claimed | .checked | .submitting | .placed => some (s.setWorker i (.finished false))
    | _ => none
  | .mark i now =>
    match s.worker i with
    | .finished true =>
      some { s.setWorker i .sentMarked with command := s.command.mark .sent now }
    | .sentMarked => some { s.setWorker i .idle with command := s.command.mark .acked now }
    | .finished false => some { s.setWorker i .idle with command := s.command.mark .failed now }
    | _ => none
  | .crash i => some (s.setWorker i .idle)
  | .readOrder j =>
    match s.cancel j with
    | .idle => if cancelableBeforeAck s.order then some (s.setCancel j (.read s.order)) else some s
    | _ => none
  | .lookup j =>
    match s.cancel j with
    | .read order =>
      match s.command.state with
      | .pending => some (s.setCancel j (.seenPending order))
      | .acked | .failed => some (s.setCancel j (.canceling order false))
      | .claimed | .sent | .abandoned => some (s.setCancel j (.requesting order))
    | _ => none
  | .abandon j now =>
    match s.cancel j with
    | .seenPending order =>
      some { s.setCancel j (.canceling order true) with command := s.command.mark .abandoned now }
    | _ => none
  | .store j now =>
    match s.cancel j with
    | .canceling order abandoned =>
      match saveOrderState s.order (canceledState order now) with
      | .ok merged =>
        some { s.setCancel j .idle with
          order := merged
          canceledBeforeSubmit := s.canceledBeforeSubmit ||
            (abandoned && decide (merged.status = .canceled)) }
      | .error _ => some (s.setCancel j .idle)
    | .requesting order =>
      some { s.setCancel j .idle with
        order := storeOrder s.order (cancelPendingState order now) }
    | _ => none
  | .sync incoming => some { s with order := storeOrder s.order incoming }

def CancelRace.start (m k : ℕ) (order : OrderState) (command : Command) : CancelRace m k where
  order := order
  command := { command with state := .pending }

/-! ### The invariant -/

/-- A cancel before submission prevents the submission: if a cancel abandoned the command and
stored `CANCELED`, no place request was sent. -/
def NoPlaceAfterCancel (s : CancelRace m k) : Prop :=
  s.canceledBeforeSubmit = true → s.placed = 0

/-- Some cancel has seen the command `PENDING`, or one has already gone through. -/
def CancelRace.Canceling (s : CancelRace m k) : Prop :=
  (∃ j, (s.cancel j).abandoning = true) ∨ s.canceledBeforeSubmit = true

/-- A `PENDING` command was never claimed; while a cancel that saw it `PENDING` is under way,
and after it has gone through, nobody is past the check and nothing was placed; and after it
has gone through the order is terminal. -/
structure CancelRaceInv (s : CancelRace m k) : Prop where
  pending : s.command.state = .pending → s.placed = 0 ∧ ∀ i, (s.worker i).unclaimed = true
  canceling : s.Canceling → s.placed = 0 ∧ ∀ i, (s.worker i).past = false
  terminal : s.canceledBeforeSubmit = true → s.order.status.isTerminal = true

/-- The step is not a status check that passes while a cancel is between its look-up and its
last write. -/
def RaceAction.NoCheckInsideCancel (s : CancelRace m k) : RaceAction m k → Prop
  | .check _ => submittable s.order.status = true → ∀ j, (s.cancel j).abandoning = false
  | _ => True

instance (s : CancelRace m k) (a : RaceAction m k) : Decidable (a.NoCheckInsideCancel s) :=
  match a with
  | .check _ => inferInstanceAs (Decidable (_ → ∀ j, (s.cancel j).abandoning = false))
  | .fetch _ | .claim _ _ | .storeSubmitting _ _ | .place _ | .storeResult _ _ | .raise _
  | .mark _ _ | .crash _ | .readOrder _ | .lookup _ | .abandon _ _ | .store _ _ | .sync _ =>
    .isTrue trivial

theorem past_of_unclaimed {phase : SubmitPhase} (h : phase.unclaimed = true) :
    phase.past = false := by
  cases phase <;> first | rfl | cases h

/-! ### Moves of one party -/

theorem raceInv_setWorker {s : CancelRace m k} (h : CancelRaceInv s) (i : Fin m)
    {phase : SubmitPhase} (hpast : phase.past = true → ¬ s.Canceling)
    (hclaimed : phase.unclaimed = false → s.command.state ≠ .pending) :
    CancelRaceInv (s.setWorker i phase) := by
  refine ⟨?_, ?_, h.terminal⟩
  · intro hp
    obtain ⟨hplaced, hall⟩ := h.pending hp
    refine ⟨hplaced, fun i' => ?_⟩
    by_cases hi : i' = i
    · subst hi
      show (Function.update s.worker i' phase i').unclaimed = true
      rw [Function.update_self]
      by_contra hne
      exact hclaimed (by simpa using hne) hp
    · show (Function.update s.worker i phase i').unclaimed = true
      rw [Function.update_of_ne hi]
      exact hall i'
  · intro hc
    obtain ⟨hplaced, hall⟩ := h.canceling hc
    refine ⟨hplaced, fun i' => ?_⟩
    by_cases hi : i' = i
    · subst hi
      show (Function.update s.worker i' phase i').past = false
      rw [Function.update_self]
      by_contra hne
      exact hpast (by simpa using hne) hc
    · show (Function.update s.worker i phase i').past = false
      rw [Function.update_of_ne hi]
      exact hall i'

theorem raceInv_setCancel {s : CancelRace m k} (h : CancelRaceInv s) (j : Fin k)
    {phase : CancelPhase}
    (hseen : phase.abandoning = true → s.Canceling ∨ s.command.state = .pending) :
    CancelRaceInv (s.setCancel j phase) := by
  refine ⟨h.pending, ?_, h.terminal⟩
  intro hc
  have hbefore : s.Canceling ∨ s.command.state = .pending := by
    obtain ⟨j', hj'⟩ | hflag := hc
    · have hphase : (Function.update s.cancel j phase j').abandoning = true := hj'
      by_cases hj : j' = j
      · subst hj
        rw [Function.update_self] at hphase
        exact hseen hphase
      · rw [Function.update_of_ne hj] at hphase
        exact .inl (.inl ⟨j', hphase⟩)
    · exact .inl (.inr hflag)
  obtain hcanceling | hpending := hbefore
  · exact h.canceling hcanceling
  · obtain ⟨hplaced, hall⟩ := h.pending hpending
    exact ⟨hplaced, fun i => past_of_unclaimed (hall i)⟩

theorem raceInv_storeOrder {s : CancelRace m k} (h : CancelRaceInv s) (incoming : OrderState) :
    CancelRaceInv { s with order := storeOrder s.order incoming } :=
  ⟨h.pending, h.canceling, fun hflag => isTerminal_storeOrder incoming (h.terminal hflag)⟩

theorem raceInv_mark {s : CancelRace m k} (h : CancelRaceInv s) {state : CommandState}
    (hstate : state ≠ .pending) (now : Timestamp) :
    CancelRaceInv { s with command := s.command.mark state now } :=
  ⟨fun hp => absurd hp hstate, h.canceling, h.terminal⟩

theorem raceInv_markPhase {s : CancelRace m k} (h : CancelRaceInv s) (i : Fin m)
    {phase : SubmitPhase} {state : CommandState} (hstate : state ≠ .pending)
    (hpast : phase.past = false) (now : Timestamp) :
    CancelRaceInv { s.setWorker i phase with command := s.command.mark state now } := by
  have hmark := raceInv_mark h hstate now
  refine raceInv_setWorker hmark i ?_ (fun _ => hstate)
  intro hp
  rw [hpast] at hp
  cases hp

theorem ne_pending_of_claimed {s : CancelRace m k} (h : CancelRaceInv s) {i : Fin m}
    (hi : (s.worker i).unclaimed = false) : s.command.state ≠ .pending := by
  intro hp
  have hall := (h.pending hp).2 i
  rw [hi] at hall
  cases hall

theorem not_canceling_of_past {s : CancelRace m k} (h : CancelRaceInv s) {i : Fin m}
    (hi : (s.worker i).past = true) : ¬ s.Canceling := by
  intro hc
  have hall := (h.canceling hc).2 i
  rw [hi] at hall
  cases hall

theorem not_canceling_of_check {s : CancelRace m k} (h : CancelRaceInv s)
    (hsub : submittable s.order.status = true) (hout : ∀ j, (s.cancel j).abandoning = false) :
    ¬ s.Canceling := by
  rintro (⟨j, hj⟩ | hflag)
  · rw [hout j] at hj
    cases hj
  · have hterm := h.terminal hflag
    rcases of_decide_eq_true hsub with hs | hs
    · rw [hs] at hterm
      cases hterm
    · rw [hs] at hterm
      cases hterm

theorem raceInv_storeCanceled {s : CancelRace m k} (h : CancelRaceInv s) {j : Fin k}
    {order : OrderState} {abandoned : Bool} (hj : s.cancel j = .canceling order abandoned)
    {incoming merged : OrderState} (hsave : saveOrderState s.order incoming = .ok merged) :
    CancelRaceInv { s.setCancel j .idle with
      order := merged
      canceledBeforeSubmit := s.canceledBeforeSubmit ||
        (abandoned && decide (merged.status = .canceled)) } := by
  have hidle : CancelRaceInv (s.setCancel j .idle) :=
    raceInv_setCancel h j (fun hab => by cases hab)
  refine ⟨hidle.pending, ?_, ?_⟩
  · intro hc
    obtain hab | hflag := hc
    · exact hidle.canceling (.inl hab)
    · simp only [Bool.or_eq_true, Bool.and_eq_true] at hflag
      obtain hflag | ⟨hab, -⟩ := hflag
      · exact h.canceling (.inr hflag)
      · refine h.canceling (.inl ⟨j, ?_⟩)
        rw [hj]
        exact hab
  · intro hflag
    simp only [Bool.or_eq_true, Bool.and_eq_true, decide_eq_true_eq] at hflag
    obtain hflag | ⟨-, hcanceled⟩ := hflag
    · show merged.status.isTerminal = true
      rw [saveOrderState_eq_ok hsave]
      exact isTerminal_merge_of_terminal incoming (h.terminal hflag)
    · show merged.status.isTerminal = true
      rw [hcanceled]
      rfl

/-! ### One step -/

theorem cancelRace_keeps_inv (s : CancelRace m k) (a : RaceAction m k) (t : CancelRace m k)
    (h : CancelRaceInv s) (hok : a.NoCheckInsideCancel s) (hstep : cancelRace s a = some t) :
    CancelRaceInv t := by
  cases a with
  | fetch i =>
    simp only [cancelRace] at hstep
    split at hstep
    · split at hstep
      · injection hstep with hstep
        exact hstep ▸ raceInv_setWorker h i (fun hp => by cases hp) (fun hu => by cases hu)
      · injection hstep with hstep
        exact hstep ▸ h
    · cases hstep
  | claim i now =>
    simp only [cancelRace] at hstep
    split at hstep
    · split at hstep
      · injection hstep with hstep
        exact hstep ▸ raceInv_markPhase h i (by decide) rfl now
      · injection hstep with hstep
        exact hstep ▸ raceInv_setWorker h i (fun hp => by cases hp) (fun hu => by cases hu)
    · cases hstep
  | check i =>
    simp only [cancelRace] at hstep
    split at hstep
    · next hphase =>
      have hheld : s.command.state ≠ .pending := ne_pending_of_claimed h (i := i) (by rw [hphase]; rfl)
      split at hstep
      · next hsub =>
        injection hstep with hstep
        exact hstep ▸ raceInv_setWorker h i (fun _ => not_canceling_of_check h hsub (hok hsub))
          (fun _ => hheld)
      · injection hstep with hstep
        exact hstep ▸ raceInv_setWorker h i (fun hp => by cases hp) (fun _ => hheld)
    · cases hstep
  | storeSubmitting i now =>
    simp only [cancelRace] at hstep
    split at hstep
    · next hphase =>
      injection hstep with hstep
      have hmove : CancelRaceInv (s.setWorker i .submitting) :=
        raceInv_setWorker h i (fun _ => not_canceling_of_past h (i := i) (by rw [hphase]; rfl))
          (fun _ => ne_pending_of_claimed h (i := i) (by rw [hphase]; rfl))
      exact hstep ▸ raceInv_storeOrder hmove _
    · cases hstep
  | place i =>
    simp only [cancelRace] at hstep
    split at hstep
    · next hphase =>
      injection hstep with hstep
      have hout : ¬ s.Canceling := not_canceling_of_past h (i := i) (by rw [hphase]; rfl)
      have hheld : s.command.state ≠ .pending := ne_pending_of_claimed h (i := i) (by rw [hphase]; rfl)
      subst hstep
      exact ⟨fun hp => absurd hp hheld, fun hc => absurd hc hout, h.terminal⟩
    · cases hstep
  | storeResult i result =>
    simp only [cancelRace] at hstep
    split at hstep
    · next hphase =>
      injection hstep with hstep
      have hmove : CancelRaceInv (s.setWorker i (.finished true)) :=
        raceInv_setWorker h i (fun hp => by cases hp)
          (fun _ => ne_pending_of_claimed h (i := i) (by rw [hphase]; rfl))
      exact hstep ▸ raceInv_storeOrder hmove result
    · cases hstep
  | raise i =>
    have hraise : ∀ phase, s.worker i = phase → phase.unclaimed = false →
        CancelRaceInv (s.setWorker i (.finished false)) := by
      intro phase hphase hheld
      exact raceInv_setWorker h i (fun hp => by cases hp)
        (fun _ => ne_pending_of_claimed h (i := i) (by rw [hphase]; exact hheld))
    simp only [cancelRace] at hstep
    split at hstep
    · next hphase =>
      injection hstep with hstep
      exact hstep ▸ hraise _ hphase rfl
    · next hphase =>
      injection hstep with hstep
      exact hstep ▸ hraise _ hphase rfl
    · next hphase =>
      injection hstep with hstep
      exact hstep ▸ hraise _ hphase rfl
    · next hphase =>
      injection hstep with hstep
      exact hstep ▸ hraise _ hphase rfl
    · cases hstep
  | mark i now =>
    simp only [cancelRace] at hstep
    split at hstep
    · injection hstep with hstep
      exact hstep ▸ raceInv_markPhase h i (by decide) rfl now
    · injection hstep with hstep
      exact hstep ▸ raceInv_markPhase h i (by decide) rfl now
    · injection hstep with hstep
      exact hstep ▸ raceInv_markPhase h i (by decide) rfl now
    · cases hstep
  | crash i =>
    injection hstep with hstep
    exact hstep ▸ raceInv_setWorker h i (fun hp => by cases hp) (fun hu => by cases hu)
  | readOrder j =>
    simp only [cancelRace] at hstep
    split at hstep
    · split at hstep
      · injection hstep with hstep
        exact hstep ▸ raceInv_setCancel h j (fun hab => by cases hab)
      · injection hstep with hstep
        exact hstep ▸ h
    · cases hstep
  | lookup j =>
    simp only [cancelRace] at hstep
    split at hstep
    · -- only the sight of a `PENDING` command starts an abandonment
      have hquiet : ∀ phase : CancelPhase, phase.abandoning = false →
          CancelRaceInv (s.setCancel j phase) := by
        intro phase hphase
        exact raceInv_setCancel h j (fun hab => by rw [hphase] at hab; cases hab)
      split at hstep
      · next hp =>
        injection hstep with hstep
        exact hstep ▸ raceInv_setCancel h j (fun _ => .inr hp)
      all_goals
        injection hstep with hstep
        exact hstep ▸ hquiet _ rfl
    · cases hstep
  | abandon j now =>
    simp only [cancelRace] at hstep
    split at hstep
    · next order hphase =>
      injection hstep with hstep
      have hseen : s.Canceling := .inl ⟨j, by rw [hphase]; rfl⟩
      have hmove : CancelRaceInv (s.setCancel j (.canceling order true)) :=
        raceInv_setCancel h j (fun _ => .inl hseen)
      exact hstep ▸ raceInv_mark hmove (by decide) now
    · cases hstep
  | store j now =>
    have hidle : CancelRaceInv (s.setCancel j .idle) :=
      raceInv_setCancel h j (fun hab => by cases hab)
    simp only [cancelRace] at hstep
    split at hstep
    · next order abandoned hphase =>
      split at hstep
      · next merged hsave =>
        injection hstep with hstep
        exact hstep ▸ raceInv_storeCanceled h hphase hsave
      · injection hstep with hstep
        exact hstep ▸ hidle
    · injection hstep with hstep
      exact hstep ▸ raceInv_storeOrder hidle _
    · cases hstep
  | sync incoming =>
    injection hstep with hstep
    exact hstep ▸ raceInv_storeOrder h incoming

/-! ### Runs -/

theorem cancelRaceInv_start (order : OrderState) (command : Command) :
    CancelRaceInv (.start m k order command) where
  pending := fun _ => ⟨rfl, fun _ => rfl⟩
  canceling := fun _ => ⟨rfl, fun _ => rfl⟩
  terminal := fun h => by cases h

/-- **A cancel before submission prevents the submission** in every run, of any number of
workers and cancels, in which no status check passes inside a cancel. -/
theorem no_place_after_cancel_before_submit (m k : ℕ) (order : OrderState) (command : Command)
    (actions : List (RaceAction m k)) (s : CancelRace m k)
    (hmeets : Meets cancelRace (fun s a => a.NoCheckInsideCancel s) (.start m k order command) actions)
    (hrun : run cancelRace (.start m k order command) actions = some s) : NoPlaceAfterCancel s := by
  have hinv : CancelRaceInv s :=
    run_invariant_of_meets cancelRace_keeps_inv (cancelRaceInv_start order command) hmeets hrun
  intro hflag
  exact (hinv.canceling (.inr hflag)).1

def createdOrder : OrderState where
  clientOrderId := "order-1"
  symbol := "BTC-USDT"
  status := .created
  requestedQty := 1
  remainingQty := 1

/-- The submit command of `createdOrder`. -/
def createdSubmit : Command where
  commandId := "cmd-1"
  orderId := "order-1"
  commandType := .submit
  idempotencyKey := "submit:order-1"

/-- One worker and one cancel of `createdOrder` after some steps. -/
def raceAfter (actions : List (RaceAction 1 1)) : CancelRace 1 1 :=
  (run cancelRace (.start 1 1 createdOrder createdSubmit) actions).getD
    (.start 1 1 createdOrder createdSubmit)

/-- The worker claims the command during the cancel and checks the order after it. -/
def checkedLate : List (RaceAction 1 1) :=
  [.fetch 0, .readOrder 0, .lookup 0, .claim 0 1, .abandon 0 2, .store 0 3, .check 0, .mark 0 4]

theorem no_place_after_cancel_checked_late :
    (raceAfter checkedLate).canceledBeforeSubmit = true ∧ NoPlaceAfterCancel (raceAfter checkedLate) :=
  ⟨by decide +kernel, no_place_after_cancel_before_submit 1 1 createdOrder createdSubmit checkedLate _
    (by decide +kernel) (Option.getD_of_ne_none (by decide +kernel) _).symm⟩

/-- The worker checks the order between the cancel's look-up and its writes. -/
def checkedInside : List (RaceAction 1 1) :=
  [.fetch 0, .readOrder 0, .lookup 0, .claim 0 1, .check 0, .abandon 0 2, .store 0 3,
    .storeSubmitting 0 4, .place 0]

/-- The place request is sent after the command was abandoned and the order canceled. -/
theorem place_after_cancel_before_submit :
    ¬ (∀ actions s, run cancelRace (.start 1 1 createdOrder createdSubmit) actions = some s →
      NoPlaceAfterCancel s) := by
  intro h
  have hbad := h checkedInside (raceAfter checkedInside)
    (Option.getD_of_ne_none (by decide +kernel) _).symm
  have hcanceled : (raceAfter checkedInside).canceledBeforeSubmit = true := by decide +kernel
  have hplaced : (raceAfter checkedInside).placed = 1 := by decide +kernel
  rw [NoPlaceAfterCancel, hplaced] at hbad
  exact absurd (hbad hcanceled) one_ne_zero

end Aats.Execution
