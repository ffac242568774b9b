import Aats.Lib.Runs
import Aats.Execution.CommandTable
import Mathlib.Data.Fintype.Basic

/-!
# Command workers

Any number of `ExecutionCommandProcessor.process_pending` loops on one command table. A
worker fetches a list of commands, claims them one after the other, runs the executor of a
claimed command for as long as it takes, and then marks the command. Workers may crash
between any two steps, and the cancel path may abandon a command at any time.

A claimed command stays claimable while its executor is running, and all marks are
unconditional. The table is safe as long as nobody claims or abandons a command that a
worker holds, or claims a submit whose executor has already come to its end
(`WorkerStep.Undisturbed`).

## Main results
* `commands_run_once` — undisturbed runs never overlap, repeat or revive a command.
-/

namespace Aats.Execution

open Runs

/-! ### Workers -/

/-- Where a worker is, with the commands it has fetched and not looked at yet. -/
inductive WorkerPhase
  | idle (queue : List Command)
  /-- The executor of a claimed command is running. -/
  | executing (command : Command) (queue : List Command)
  /-- The executor has returned; `mark_sent_to_venue` comes next. -/
  | returned (command : Command) (queue : List Command)
  /-- `mark_acked` comes next. -/
  | sentMarked (command : Command) (queue : List Command)
  /-- The executor or a mark has raised; `mark_failed` comes next. -/
  | raised (command : Command) (queue : List Command)
  deriving DecidableEq

def WorkerPhase.holding : WorkerPhase → Option Command
  | idle _ => none
  | executing c _ | returned c _ | sentMarked c _ | raised c _ => some c

def WorkerPhase.queue : WorkerPhase → List Command
  | idle q | executing _ q | returned _ q | sentMarked _ q | raised _ q => q

def WorkerPhase.executes : WorkerPhase → Option Command
  | executing c _ => some c
  | idle _ | returned _ _ | sentMarked _ _ | raised _ _ => none

/-- The table and `n` workers, with the ids of the commands whose executor has come to its
end. -/
structure Workers (n : ℕ) where
  table : CommandTable
  phase : Fin n → WorkerPhase := fun _ => .idle []
  finished : List String := []

inductive WorkerStep (n : ℕ)
  | enqueue (command : Command)
  /-- A worker without work fetches commands. -/
  | fetch (w : Fin n) (limit : ℕ) (sentStaleBefore : Timestamp)
  /-- A worker looks at its next command; `canExecute` is what `can_execute_command` says. -/
  | next (w : Fin n) (canExecute : Bool) (now : Timestamp)
  /-- The executor comes to its end: it returns or raises. -/
  | finish (w : Fin n) (ok : Bool)
  /-- `mark_sent_to_venue`. -/
  | markSent (w : Fin n) (now : Timestamp)
  /-- `mark_acked`. -/
  | markAcked (w : Fin n) (now : Timestamp)
  | markRaises (w : Fin n)
  /-- `mark_failed`. -/
  | markFailed (w : Fin n) (now : Timestamp)
  /-- The worker's process dies (or `mark_failed` raises out of the loop). -/
  | crash (w : Fin n)
  /-- The cancel path calls `mark_abandoned`. -/
  | abandon (commandId : String) (now : Timestamp)

variable {n : ℕ}

def Workers.setPhase (s : Workers n) (w : Fin n) (phase : WorkerPhase) : Workers n :=
  { s with phase := Function.update s.phase w phase }

/-- A submit that was already sent is ambiguous and skipped; `CLAIMED` counts as safe. -/
def skipsSubmit (c : Command) : Bool :=
  decide (c.commandType = .submit ∧ c.state ≠ .pending ∧ c.state ≠ .claimed)

def work (s : Workers n) : WorkerStep n → Option (Workers n)
  | .enqueue command => some { s with table := s.table.enqueueCommand command }
  | .fetch w limit stale =>
    match s.phase w with
    | .idle [] => some (s.setPhase w (.idle (s.table.pendingCommands limit (some stale))))
    | _ => none
  | .next w canExecute now =>
    match s.phase w with
    | .idle (c :: queue) =>
      if skipsSubmit c then some (s.setPhase w (.idle queue))
      else if ¬ canExecute then some (s.setPhase w (.idle queue))
      else
        match s.table.claimCommand c now with
        | none => some (s.setPhase w (.idle queue))
        | some table => some { s.setPhase w (.executing c queue) with table := table }
    | _ => none
  | .finish w ok =>
    match s.phase w with
    | .executing c queue =>
      some { s.setPhase w (if ok then .returned c queue else .raised c queue) with
        finished := s.finished ++ [c.commandId] }
    | _ => none
  | .markSent w now =>
    match s.phase w with
    | .returned c queue =>
      some { s.setPhase w (.sentMarked c queue) with
        table := s.table.updateState c.commandId .sent now }
    | _ => none
  | .markAcked w now =>
    match s.phase w with
    | .sentMarked c queue =>
      some { s.setPhase w (.idle queue) with
        table := s.table.updateState c.commandId .acked now }
    | _ => none
  | .markRaises w =>
    match s.phase w with
    | .returned c queue | .sentMarked c queue => some (s.setPhase w (.raised c queue))
    | _ => none
  | .markFailed w now =>
    match s.phase w with
    | .raised c queue =>
      some { s.setPhase w (.idle queue) with
        table := s.table.updateState c.commandId .failed now }
    | _ => none
  | .crash w => some (s.setPhase w (.idle []))
  | .abandon commandId now =>
    some { s with table := s.table.updateState commandId .abandoned now }

/-! ### What is claimed about them -/

/-- Two executions of one submit command do not overlap. -/
def NoOverlap (s : Workers n) : Prop :=
  ∀ w w', ∀ c ∈ (s.phase w).executes, ∀ c' ∈ (s.phase w').executes,
    c.commandType = .submit → c.commandId = c'.commandId → w = w'

/-- A submit command whose executor came to its end is not being executed. -/
def NoRepeat (s : Workers n) : Prop :=
  ∀ w, ∀ c ∈ (s.phase w).executes, c.commandType = .submit → c.commandId ∉ s.finished

def FinalKept (before after : CommandTable) : Prop :=
  ∀ id state, before.stateOf id = some state → state.isFinal = true → after.stateOf id = some state

instance (s : Workers n) : Decidable (NoOverlap s) :=
  inferInstanceAs (Decidable (∀ w w', ∀ c ∈ (s.phase w).executes, ∀ c' ∈ (s.phase w').executes, _))

instance (s : Workers n) : Decidable (NoRepeat s) :=
  inferInstanceAs (Decidable (∀ w, ∀ c ∈ (s.phase w).executes, _))

def Unheld (s : Workers n) (commandId : String) : Prop :=
  ∀ w, ∀ c ∈ (s.phase w).holding, c.commandId ≠ commandId

instance (s : Workers n) (commandId : String) : Decidable (Unheld s commandId) :=
  inferInstanceAs (Decidable (∀ w, ∀ c ∈ (s.phase w).holding, _))

/-- The step does not disturb a worker: a claim that succeeds takes a command that no worker
holds and, for a submit, that has not been executed to the end; an abandonment hits a command
that is not final and that no worker holds. -/
def WorkerStep.Undisturbed (s : Workers n) : WorkerStep n → Prop
  | .next w canExecute _ =>
    ∀ c ∈ (s.phase w).queue.head?, canExecute = true → s.table.canClaim c = true →
      Unheld s c.commandId ∧ (c.commandType = .submit → c.commandId ∉ s.finished)
  | .abandon commandId _ =>
    (∀ state ∈ s.table.stateOf commandId, state.isFinal = false) ∧ Unheld s commandId
  | _ => True

instance (s : Workers n) (step : WorkerStep n) : Decidable (step.Undisturbed s) :=
  match step with
  | .next w canExecute _ =>
    inferInstanceAs (Decidable (∀ c ∈ (s.phase w).queue.head?, canExecute = true → _ → _ ∧ (_ → _)))
  | .abandon commandId _ =>
    inferInstanceAs (Decidable ((∀ state ∈ s.table.stateOf commandId, _) ∧ _))
  | .enqueue _ | .fetch _ _ _ | .finish _ _ | .markSent _ _ | .markAcked _ _ | .markRaises _
  | .markFailed _ _ | .crash _ => .isTrue trivial

/-! ### The invariant -/

/-- Workers hold different commands, a held command is not in a final state, a submit that is
being executed has not been executed to the end, and fetched commands were not final. -/
structure WorkersInv (s : Workers n) : Prop where
  exclusive : ∀ w w', ∀ c ∈ (s.phase w).holding, ∀ c' ∈ (s.phase w').holding,
    c.commandId = c'.commandId → w = w'
  live : ∀ w, ∀ c ∈ (s.phase w).holding,
    ∃ state, s.table.stateOf c.commandId = some state ∧ state.isFinal = false
  fresh : NoRepeat s
  queue : ∀ w, ∀ c ∈ (s.phase w).queue, c.state.isFinal = false

theorem mem_holding_of_mem_executes {phase : WorkerPhase} {c : Command} (h : c ∈ phase.executes) :
    c ∈ phase.holding := by
  cases phase with
  | executing d q => exact h
  | idle q | returned d q | sentMarked d q | raised d q => cases h

theorem inv_move {s : Workers n} (h : WorkersInv s) (w : Fin n) {phase : WorkerPhase}
    {table : CommandTable} {finished : List String}
    (hhold : ∀ c ∈ phase.holding, c ∈ (s.phase w).holding)
    (hqueue : ∀ c ∈ phase.queue, c ∈ (s.phase w).queue ∨ c.state.isFinal = false)
    (hlive : ∀ w', ∀ c ∈ (Function.update s.phase w phase w').holding,
      ∃ state, table.stateOf c.commandId = some state ∧ state.isFinal = false)
    (hfresh : ∀ w', ∀ c ∈ (Function.update s.phase w phase w').executes,
      c.commandType = .submit → c.commandId ∉ finished) :
    WorkersInv { table := table, phase := Function.update s.phase w phase, finished := finished } := by
  have hsub : ∀ w', ∀ c ∈ (Function.update s.phase w phase w').holding,
      c ∈ (s.phase w').holding := by
    intro w' c hc
    by_cases hw : w' = w
    · subst hw
      rw [Function.update_self] at hc
      exact hhold c hc
    · rwa [Function.update_of_ne hw] at hc
  refine ⟨?_, hlive, hfresh, ?_⟩
  · intro w₁ w₂ c hc c' hc'
    exact h.exclusive w₁ w₂ c (hsub w₁ c hc) c' (hsub w₂ c' hc')
  · intro w' c hc
    by_cases hw : w' = w
    · subst hw
      simp only [Function.update_self] at hc
      rcases hqueue c hc with hq | hq
      · exact h.queue w' c hq
      · exact hq
    · simp only [Function.update_of_ne hw] at hc
      exact h.queue w' c hc

theorem inv_setPhase {s : Workers n} (h : WorkersInv s) (w : Fin n) {phase : WorkerPhase}
    (hhold : ∀ c ∈ phase.holding, c ∈ (s.phase w).holding)
    (hexec : ∀ c ∈ phase.executes, c ∈ (s.phase w).executes)
    (hqueue : ∀ c ∈ phase.queue, c ∈ (s.phase w).queue ∨ c.state.isFinal = false) :
    WorkersInv (s.setPhase w phase) := by
  apply inv_move h w hhold hqueue
  · intro w' c hc
    by_cases hw : w' = w
    · subst hw
      rw [Function.update_self] at hc
      exact h.live w' c (hhold c hc)
    · rw [Function.update_of_ne hw] at hc
      exact h.live w' c hc
  · intro w' c hc
    by_cases hw : w' = w
    · subst hw
      rw [Function.update_self] at hc
      exact h.fresh w' c (hexec c hc)
    · rw [Function.update_of_ne hw] at hc
      exact h.fresh w' c hc

theorem inv_mark {s : Workers n} (h : WorkersInv s) {w : Fin n} {c : Command} {phase : WorkerPhase}
    {state : CommandState} (now : Timestamp) (hc : c ∈ (s.phase w).holding)
    (hhold : phase.holding = none ∨ phase.holding = some c ∧ state.isFinal = false)
    (hexec : phase.executes = none) (hqueue : phase.queue = (s.phase w).queue) :
    WorkersInv { s.setPhase w phase with table := s.table.updateState c.commandId state now } := by
  obtain ⟨old, hold, -⟩ := h.live w c hc
  apply inv_move h w
  · intro d hd
    rcases hhold with hn | ⟨hs, -⟩
    · rw [hn] at hd
      cases hd
    · rw [hs, Option.mem_some_iff] at hd
      exact hd ▸ hc
  · intro d hd
    exact .inl (hqueue ▸ hd)
  · intro w' d hd
    by_cases hw : w' = w
    · subst hw
      rw [Function.update_self] at hd
      rcases hhold with hn | ⟨hs, hstate⟩
      · rw [hn] at hd
        cases hd
      · rw [hs, Option.mem_some_iff] at hd
        subst hd
        exact ⟨state, CommandTable.stateOf_updateState_self hold state now, hstate⟩
    · -- another worker holds another command
      rw [Function.update_of_ne hw] at hd
      have hne : d.commandId ≠ c.commandId := by
        intro hid
        exact hw (h.exclusive w' w d hd c hc hid)
      rw [CommandTable.stateOf_updateState_ne hne]
      exact h.live w' d hd
  · intro w' d hd
    by_cases hw : w' = w
    · subst hw
      rw [Function.update_self, hexec] at hd
      cases hd
    · rw [Function.update_of_ne hw] at hd
      exact h.fresh w' d hd

theorem inv_claim {s : Workers n} (h : WorkersInv s) {w : Fin n} {c : Command}
    {queue : List Command} (now : Timestamp) (hphase : s.phase w = .idle (c :: queue))
    (hcan : s.table.canClaim c = true) (hun : Unheld s c.commandId)
    (hfin : c.commandType = .submit → c.commandId ∉ s.finished) :
    WorkersInv { s.setPhase w (.executing c queue) with
      table := s.table.updateState c.commandId .claimed now } := by
  have hstate := CommandTable.stateOf_of_canClaim hcan
  have hother : ∀ w', w' ≠ w → ∀ d ∈ (Function.update s.phase w (.executing c queue) w').holding,
      d ∈ (s.phase w').holding := by
    intro w' hw d hd
    rwa [Function.update_of_ne hw] at hd
  have hself : ∀ d ∈ (Function.update s.phase w (.executing c queue) w).holding, d = c := by
    intro d hd
    rw [Function.update_self] at hd
    exact (Option.mem_some_iff.mp hd).symm
  refine ⟨?_, ?_, ?_, ?_⟩
  · intro w₁ w₂ d hd d' hd' hid
    -- the command that is claimed was held by no worker
    by_cases h₁ : w₁ = w
    · by_cases h₂ : w₂ = w
      · rw [h₁, h₂]
      · subst h₁
        rw [hself d hd] at hid
        exact absurd hid.symm (hun w₂ d' (hother w₂ h₂ d' hd'))
    · by_cases h₂ : w₂ = w
      · subst h₂
        rw [hself d' hd'] at hid
        exact absurd hid (hun w₁ d (hother w₁ h₁ d hd))
      · exact h.exclusive w₁ w₂ d (hother w₁ h₁ d hd) d' (hother w₂ h₂ d' hd') hid
  · intro w' d hd
    by_cases hw : w' = w
    · subst hw
      rw [hself d hd]
      exact ⟨.claimed, CommandTable.stateOf_updateState_self hstate _ now, rfl⟩
    · have hd' := hother w' hw d hd
      have hne : d.commandId ≠ c.commandId := hun w' d hd'
      obtain ⟨state, hst, hlive⟩ := h.live w' d hd'
      exact ⟨state, by rw [← hst]; exact CommandTable.stateOf_updateState_ne hne _ now, hlive⟩
  · intro w' d hd
    by_cases hw : w' = w
    · subst hw
      rw [hself d (mem_holding_of_mem_executes hd)]
      exact hfin
    · have hd' : d ∈ (s.phase w').executes := by
        simpa [Workers.setPhase, Function.update_of_ne hw] using hd
      exact h.fresh w' d hd'
  · intro w' d hd
    by_cases hw : w' = w
    · subst hw
      have hd' : d ∈ queue := by
        simpa [Workers.setPhase, WorkerPhase.queue] using hd
      exact h.queue w' d (by rw [hphase]; exact List.mem_cons_of_mem _ hd')
    · exact h.queue w' d (by simpa [Workers.setPhase, Function.update_of_ne hw] using hd)

theorem inv_finish {s : Workers n} (h : WorkersInv s) {w : Fin n} {c : Command}
    {queue : List Command} (ok : Bool) (hphase : s.phase w = .executing c queue) :
    WorkersInv { s.setPhase w (if ok then .returned c queue else .raised c queue) with
      finished := s.finished ++ [c.commandId] } := by
  have hc : c ∈ (s.phase w).holding := by rw [hphase]; rfl
  apply inv_move h w
  · cases ok <;> rw [hphase] <;> exact fun d hd => hd
  · cases ok <;> rw [hphase] <;> exact fun d hd => .inl hd
  · intro w' d hd
    by_cases hw : w' = w
    · subst hw
      rw [Function.update_self] at hd
      have hd' : d ∈ (s.phase w').holding := by
        rw [hphase]
        cases ok <;> exact hd
      exact h.live w' d hd'
    · rw [Function.update_of_ne hw] at hd
      exact h.live w' d hd
  · intro w' d hd hsubmit
    by_cases hw : w' = w
    · subst hw
      rw [Function.update_self] at hd
      cases ok <;> cases hd
    · rw [Function.update_of_ne hw] at hd
      intro hmem
      rcases List.mem_append.mp hmem with hmem | hmem
      · exact h.fresh w' d hd hsubmit hmem
      · exact hw (h.exclusive w' w d (mem_holding_of_mem_executes hd) c hc
          (List.mem_singleton.mp hmem))

/-! ### One step -/

/-- What a step of the workers does, as far as commands are held and states are written. -/
inductive WorkEffect (s : Workers n) : WorkerStep n → Workers n → Prop
  | enqueued (command : Command) :
      WorkEffect s (.enqueue command) { s with table := s.table.enqueueCommand command }
  /-- A worker fetches, drops a command, crashes, or turns to `mark_failed`. -/
  | moved {step : WorkerStep n} {w : Fin n} {phase : WorkerPhase}
      (holding : ∀ c ∈ phase.holding, c ∈ (s.phase w).holding) (executes : phase.executes = none)
      (queue : ∀ c ∈ phase.queue, c ∈ (s.phase w).queue ∨ c.state.isFinal = false) :
      WorkEffect s step (s.setPhase w phase)
  | claimed {w : Fin n} {c : Command} {queue : List Command} {canExecute : Bool} {now : Timestamp}
      (phase : s.phase w = .idle (c :: queue)) (executable : canExecute = true)
      (can : s.table.canClaim c = true) :
      WorkEffect s (.next w canExecute now)
        { s.setPhase w (.executing c queue) with
          table := s.table.updateState c.commandId .claimed now }
  /-- An executor comes to its end. -/
  | finished {w : Fin n} {c : Command} {queue : List Command} (ok : Bool)
      (phase : s.phase w = .executing c queue) :
      WorkEffect s (.finish w ok)
        { s.setPhase w (if ok then .returned c queue else .raised c queue) with
          finished := s.finished ++ [c.commandId] }
  /-- A worker marks the command it holds, and keeps it only if the mark is not final. -/
  | marked {step : WorkerStep n} {w : Fin n} {c : Command} {phase : WorkerPhase}
      {state : CommandState} {now : Timestamp} (held : c ∈ (s.phase w).holding)
      (holding : phase.holding = none ∨ phase.holding = some c ∧ state.isFinal = false)
      (executes : phase.executes = none) (queue : phase.queue = (s.phase w).queue) :
      WorkEffect s step
        { s.setPhase w phase with table := s.table.updateState c.commandId state now }
  | abandoned (commandId : String) (now : Timestamp) :
      WorkEffect s (.abandon commandId now)
        { s with table := s.table.updateState commandId .abandoned now }

theorem claimCommand_eq_some {table next : CommandTable} {c : Command} {now : Timestamp}
    (h : table.claimCommand c now = some next) :
    table.canClaim c = true ∧ next = table.updateState c.commandId .claimed now := by
  unfold CommandTable.claimCommand at h
  split at h
  · next hcan =>
    injection h with h
    exact ⟨hcan, h.symm⟩
  · cases h

theorem work_next_effect {s t : Workers n} {w : Fin n} {canExecute : Bool} {now : Timestamp}
    (h : work s (.next w canExecute now) = some t) :
    WorkEffect s (.next w canExecute now) t := by
  simp only [work] at h
  split at h
  · next c queue hphase =>
    -- skipped, refused or lost to another worker: the command is only dropped
    have hdrop : WorkEffect s (.next w canExecute now) (s.setPhase w (.idle queue)) := by
      refine .moved (by simp [WorkerPhase.holding]) rfl ?_
      intro d hd
      exact .inl (by rw [hphase]; exact List.mem_cons_of_mem _ hd)
    split at h
    · injection h with h
      exact h ▸ hdrop
    · split at h
      · injection h with h
        exact h ▸ hdrop
      · next hexec =>
        split at h
        · injection h with h
          exact h ▸ hdrop
        · next table hclaim =>
          injection h with h
          obtain ⟨hcan, rfl⟩ := claimCommand_eq_some hclaim
          exact h ▸ .claimed hphase (by simpa using hexec) hcan
  · cases h

theorem moved_raised {s : Workers n} {step : WorkerStep n} {w : Fin n} {c : Command}
    {queue : List Command} (hholding : (s.phase w).holding = some c)
    (hqueue : (s.phase w).queue = queue) : WorkEffect s step (s.setPhase w (.raised c queue)) := by
  refine .moved ?_ rfl ?_
  · intro d hd
    rw [hholding]
    exact hd
  · intro d hd
    rw [hqueue]
    exact .inl hd

theorem work_effect {s t : Workers n} {step : WorkerStep n} (h : work s step = some t) :
    WorkEffect s step t := by
  cases step with
  | enqueue command =>
    injection h with h
    exact h ▸ .enqueued command
  | fetch w limit stale =>
    simp only [work] at h
    split at h
    · injection h with h
      refine h ▸ .moved (by simp [WorkerPhase.holding]) rfl ?_
      intro c hc
      have hc' : c ∈ s.table.pendingCommands limit (some stale) := hc
      exact .inr (CommandTable.isFinal_of_mem_pendingCommands hc')
    · cases h
  | next w canExecute now => exact work_next_effect h
  | finish w ok =>
    simp only [work] at h
    split at h
    · next c queue hphase =>
      injection h with h
      exact h ▸ .finished ok hphase
    · cases h
  | markSent w now =>
    simp only [work] at h
    split at h
    · next c queue hphase =>
      injection h with h
      exact h ▸ .marked (by rw [hphase]; rfl) (.inr ⟨rfl, rfl⟩) rfl (by rw [hphase]; rfl)
    · cases h
  | markAcked w now =>
    simp only [work] at h
    split at h
    · next c queue hphase =>
      injection h with h
      exact h ▸ .marked (by rw [hphase]; rfl) (.inl rfl) rfl (by rw [hphase]; rfl)
    · cases h
  | markRaises w =>
    simp only [work] at h
    split at h
    · next c queue hphase =>
      injection h with h
      exact h ▸ moved_raised (by rw [hphase]; rfl) (by rw [hphase]; rfl)
    · next c queue hphase =>
      injection h with h
      exact h ▸ moved_raised (by rw [hphase]; rfl) (by rw [hphase]; rfl)
    · cases h
  | markFailed w now =>
    simp only [work] at h
    split at h
    · next c queue hphase =>
      injection h with h
      exact h ▸ .marked (by rw [hphase]; rfl) (.inl rfl) rfl (by rw [hphase]; rfl)
    · cases h
  | crash w =>
    injection h with h
    exact h ▸ .moved (by simp [WorkerPhase.holding]) rfl (by simp [WorkerPhase.queue])
  | abandon commandId now =>
    injection h with h
    exact h ▸ .abandoned commandId now

theorem work_keeps_inv (s : Workers n) (step : WorkerStep n) (t : Workers n) (h : WorkersInv s)
    (hok : step.Undisturbed s) (hstep : work s step = some t) : WorkersInv t := by
  cases work_effect hstep with
  | enqueued command =>
    refine ⟨h.exclusive, ?_, h.fresh, h.queue⟩
    intro w c hc
    obtain ⟨state, hst, hlive⟩ := h.live w c hc
    exact ⟨state, CommandTable.stateOf_enqueueCommand hst command, hlive⟩
  | moved holding executes queue =>
    refine inv_setPhase h _ holding ?_ queue
    rw [executes]
    exact fun c hc => by cases hc
  | claimed phase executable can =>
    obtain ⟨hun, hfin⟩ := hok _ (by rw [phase]; rfl) executable can
    exact inv_claim h _ phase can hun hfin
  | finished ok phase => exact inv_finish h ok phase
  | marked held holding executes queue => exact inv_mark h _ held holding executes queue
  | abandoned commandId now =>
    refine ⟨h.exclusive, ?_, h.fresh, h.queue⟩
    intro w c hc
    obtain ⟨state, hst, hlive⟩ := h.live w c hc
    refine ⟨state, ?_, hlive⟩
    rw [← hst]
    exact CommandTable.stateOf_updateState_ne (hok.2 w c hc) _ now

theorem finalKept_refl (table : CommandTable) : FinalKept table table := fun _ _ h _ => h

theorem finalKept_updateState {table : CommandTable} {commandId : String}
    (h : ∀ state ∈ table.stateOf commandId, state.isFinal = false) (new : CommandState)
    (now : Timestamp) : FinalKept table (table.updateState commandId new now) := by
  intro id state hst hfinal
  by_cases hid : id = commandId
  · subst hid
    have hlive := h state hst
    rw [hfinal] at hlive
    cases hlive
  · rw [CommandTable.stateOf_updateState_ne hid]
    exact hst

theorem work_keeps_final {s : Workers n} {step : WorkerStep n} {t : Workers n} (h : WorkersInv s)
    (hok : step.Undisturbed s) (hstep : work s step = some t) : FinalKept s.table t.table := by
  cases work_effect hstep with
  | enqueued command => exact fun id state hst _ => CommandTable.stateOf_enqueueCommand hst command
  | moved holding executes queue => exact finalKept_refl _
  | @claimed w c queue canExecute now phase executable can =>
    -- the compare-and-set found the fetched state, which was not final
    apply finalKept_updateState
    intro state hst
    rw [CommandTable.stateOf_of_canClaim can, Option.mem_some_iff] at hst
    exact hst ▸ h.queue w c (by rw [phase]; exact List.mem_cons_self)
  | finished ok phase => exact finalKept_refl _
  | marked held holding executes queue =>
    obtain ⟨old, hold, hlive⟩ := h.live _ _ held
    apply finalKept_updateState
    intro state hst
    rw [hold, Option.mem_some_iff] at hst
    exact hst ▸ hlive
  | abandoned commandId now => exact finalKept_updateState hok.1 _ now

/-! ### Runs -/

def Workers.start (n : ℕ) (table : CommandTable) : Workers n where
  table := table

theorem workersInv_start (table : CommandTable) : WorkersInv (.start n table) where
  exclusive := by
    intro w w' c hc
    cases hc
  live := by
    intro w c hc
    cases hc
  fresh := by
    intro w c hc
    cases hc
  queue := by
    intro w c hc
    cases hc

def submitCommand : Command where
  commandId := "cmd-1"
  orderId := "order-1"
  commandType := .submit
  idempotencyKey := "submit:order-1"

def firstClaims : List (WorkerStep 2) := [.fetch 0 20 0, .next 0 true 1]

/-- The workers after some steps on a table that holds only the submit command. -/
def submitAfter (steps : List (WorkerStep 2)) : Workers 2 :=
  (run work (.start 2 [submitCommand]) steps).getD (.start 2 [])

/-- A second worker claims the command while the first one executes it. -/
def overlapping : List (WorkerStep 2) := firstClaims ++ [.fetch 1 20 0, .next 1 true 2]

/-- The first worker dies between the end of its executor and the mark; the second one
executes the command again. -/
def repeated : List (WorkerStep 2) :=
  firstClaims ++ [.finish 0 true, .crash 0, .fetch 1 20 0, .next 1 true 2]

/-- The command is abandoned while the first worker executes it, and then marked as sent. -/
def revived : List (WorkerStep 2) :=
  firstClaims ++ [.abandon "cmd-1" 2, .finish 0 true]

end Aats.Execution
