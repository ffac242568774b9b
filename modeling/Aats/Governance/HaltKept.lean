import Aats.Governance.SwitchTasks

/-!
# A halt is not undone

When is a halted switch unblocked?  Three coroutines apply `RUNNING` after an await: a guarded
submission whose authority read names another generation, `resume_async` after its write, and
the handler of a remote resume after its check. None of them looks whether a halt has begun
meanwhile. If none has, or a later resume has already cleared it, the halt stands
(`NoStaleApply`).

## Main results
* `haltInv_step` — one move that does not apply `RUNNING` over a newer halt.
* `halt_kept` — all runs of such moves, of any number of coroutines.
-/

namespace Aats.Governance

open Execution (Timestamp)
open Runs

/-! ### The statement -/

/-- After a halt the switch reports halted, or a resume that was started after the last halt
has applied `RUNNING`. -/
def HaltKept (sw : Switch) : Prop :=
  0 < sw.halts → sw.ks.halted = true ∨ sw.cleared = true

instance (sw : Switch) : Decidable (HaltKept sw) :=
  inferInstanceAs (Decidable (_ → _))

abbrev Machine (n : ℕ) := Tasks Switch Task n

def machineStep (cfg : Config) {n : ℕ} (s : Machine n) (l : Fin n × Input) : Option (Machine n) :=
  tasksStep (advance cfg) s l

/-- A bootstrapped switch and `n` coroutines that have not started. -/
def Machine.start (cfg : Config) (generation : String) (now : Timestamp)
    (answer : StoreAnswer AuthorityRecord) (n : ℕ) : Machine n where
  shared :=
    { ks := KillSwitch.bootstrap cfg generation now answer
      acked := (KillSwitch.bootstrap cfg generation now answer).ownHalted cfg }
  task := fun _ => .idle

/-- The step does not apply `RUNNING` when a halt has begun since the submission's first check,
or since the start of the resume, and has not been cleared. -/
def NoStaleApply {n : ℕ} (s : Machine n) (l : Fin n × Input) : Prop :=
  (∀ seen ∈ appliesRead s.shared (s.task l.1) l.2,
    seen = s.shared.halts ∨ s.shared.cleared = true) ∧
  ∀ applied ∈ appliesResume (s.task l.1) l.2,
    applied.1 = s.shared.halts ∨ s.shared.cleared = true

instance {n : ℕ} (s : Machine n) (l : Fin n × Input) : Decidable (NoStaleApply s l) :=
  inferInstanceAs (Decidable (_ ∧ _))

/-! ### The invariant -/

/-- A submission between its first check and its authority read: if no halt has begun since,
then all halts have been followed by a resume, as `flag` records it. -/
def ReadingOk (flag : Bool) (halts : ℕ) (task : Task) : Prop :=
  ∀ seen ∈ task.readsSince, seen ≤ halts ∧ (seen = halts → 0 < halts → flag = true)

theorem readingOk_of_none {flag : Bool} {halts : ℕ} {task : Task} (h : task.readsSince = none) :
    ReadingOk flag halts task := by
  intro seen hseen
  rw [h] at hseen
  cases hseen

theorem readingOk_mono {flag flag' : Bool} {halts halts' : ℕ} {task : Task}
    (hhalts : halts' = halts) (hflag : flag = true → flag' = true) (h : ReadingOk flag halts task) :
    ReadingOk flag' halts' task := by
  subst hhalts
  intro seen hseen
  obtain ⟨hle, heq⟩ := h seen hseen
  exact ⟨hle, fun hs hpos => hflag (heq hs hpos)⟩

theorem readingOk_succ {flag flag' : Bool} {halts halts' : ℕ} {task : Task}
    (hhalts : halts' = halts + 1) (h : ReadingOk flag halts task) :
    ReadingOk flag' halts' task := by
  intro seen hseen
  obtain ⟨hle, -⟩ := h seen hseen
  refine ⟨by omega, ?_⟩
  intro hs
  omega

def TaskReads (sw : Switch) (_ : ℕ) (task : Task) : Prop :=
  ReadingOk sw.cleared sw.halts task

theorem haltKept_of_quiet (cfg : Config) {sw sw₀ : Switch} (record : sw.SameRecord sw₀)
    (halted : sw.ks.halted = true → sw₀.ks.halted = true) (h : HaltKept sw) :
    HaltKept (sw₀.note cfg .quiet) := by
  intro hpos
  have hpos' : 0 < sw.halts := by
    rw [← record.halts]
    exact hpos
  rcases h hpos' with hh | hc
  · exact .inl (halted hh)
  · exact .inr (record.cleared.trans hc)

theorem haltKept_of_read {cfg : Config} {sw sw₀ : Switch} {expected : String} {seen : ℕ}
    (record : sw.SameRecord sw₀)
    (hreading : ReadingOk sw.cleared sw.halts (.guardReading expected seen))
    (happlies : seen = sw.halts ∨ sw.cleared = true) : HaltKept (sw₀.note cfg .quiet) := by
  intro hpos
  have hpos' : 0 < sw.halts := by
    rw [← record.halts]
    exact hpos
  refine .inr (record.cleared.trans ?_)
  rcases happlies with hseen | hc
  · exact (hreading seen rfl).2 hseen hpos'
  · exact hc

/-! ### One move -/

/-- **One move** that does not apply `RUNNING` over a newer halt keeps the halt. -/
theorem haltInv_step (cfg : Config) {n : ℕ} (s : Machine n) (l : Fin n × Input) (t : Machine n)
    (h : TasksInv HaltKept TaskReads s) (hok : NoStaleApply s l)
    (hstep : machineStep cfg s l = some t) : TasksInv HaltKept TaskReads t := by
  obtain ⟨i, input⟩ := l
  obtain ⟨sw', task', hadv, rfl⟩ := tasksStep_eq_some hstep
  obtain ⟨sw₀, event, rfl, heffect⟩ := advance_effect hadv
  obtain ⟨hread, hresume⟩ := hok
  have hmover := h.each i
  simp only at hread hresume
  -- the other submissions are safe whenever no halt begins and no clearance is taken back
  have hothers : ∀ sw₁ : Switch, sw₁.halts = s.shared.halts →
      (s.shared.cleared = true → sw₁.cleared = true) →
      ∀ j : Fin n, j ≠ i → TaskReads sw₁ j (s.task j) :=
    fun sw₁ hhalts hcleared j _ => readingOk_mono hhalts hcleared (h.each j)
  generalize s.task i = task at *
  cases heffect with
  | internal record fence halted own outside outside' halts drained =>
    exact tasksInv_step (haltKept_of_quiet cfg record halted h.shared) (readingOk_of_none (Task.readsSince_of_outside outside'))
      (hothers _ record.halts (record.cleared.trans ·))
  | began record fence halted own outside' drained =>
    refine tasksInv_step (fun _ => .inl halted) (readingOk_of_none (Task.readsSince_of_outside outside')) ?_
    intro j _
    refine readingOk_succ ?_ (h.each j)
    show sw₀.halts + 1 = s.shared.halts + 1
    rw [record.halts]
  | returned record fence halted halts drained =>
    refine tasksInv_step ?_ (readingOk_of_none rfl) (hothers _ record.halts (record.cleared.trans ·))
    exact haltKept_of_quiet cfg record (halted.trans ·) h.shared
  | drained record free fence halted outside' =>
    exact tasksInv_step (haltKept_of_quiet cfg record (halted.trans ·) h.shared)
      (readingOk_of_none (Task.readsSince_of_outside outside')) (hothers _ record.halts (record.cleared.trans ·))
  | @resumed task task' sw₀ seen generation record fence applies own outside outside' halts drained =>
    have hcleared : s.shared.cleared = true → (sw₀.note cfg (.resumed seen generation)).cleared = true := by
      intro hc
      show (sw₀.cleared || decide (seen = sw₀.halts)) = true
      rw [record.cleared, hc]
      rfl
    refine tasksInv_step ?_ (readingOk_of_none (Task.readsSince_of_outside outside')) (hothers _ record.halts hcleared)
    intro _
    refine .inr ?_
    rcases hresume _ applies with hseen | hc
    · show (sw₀.cleared || decide (seen = sw₀.halts)) = true
      rw [record.halts, decide_eq_true hseen, Bool.or_true]
    · exact hcleared hc
  | entered free running =>
    refine tasksInv_step (haltKept_of_quiet cfg ⟨rfl, rfl, rfl, rfl, rfl⟩ (fun hh => hh) h.shared) ?_
      (hothers _ rfl (fun hc => hc))
    intro seen hseen
    obtain rfl : s.shared.halts = seen := Option.mem_some_iff.mp hseen
    refine ⟨le_refl _, ?_⟩
    intro _ hpos
    rcases h.shared hpos with hh | hc
    · rw [running] at hh
      cases hh
    · exact hc
  | refused record fence halted own =>
    refine tasksInv_step ?_ (readingOk_of_none rfl) (hothers _ record.halts (record.cleared.trans ·))
    rcases halted with hkeep | happlies
    · exact haltKept_of_quiet cfg record hkeep h.shared
    · exact haltKept_of_read record hmover (hread _ happlies)
  | @passed expected seen task' sw₀ r record fence halted running current authorized generation own
      task_eq =>
    have hmover' : TaskReads (sw₀.note cfg .quiet) i task' := by
      apply readingOk_of_none
      rw [task_eq]
      split <;> rfl
    refine tasksInv_step ?_ hmover' (hothers _ record.halts (record.cleared.trans ·))
    rcases halted with hopen | happlies
    · exact haltKept_of_quiet cfg record (fun hh => by rw [hopen] at hh; cases hh) h.shared
    · exact haltKept_of_read record hmover (hread _ happlies)
  | admitted generation issuer =>
    exact tasksInv_step (haltKept_of_quiet cfg (.refl _) (fun hh => hh) h.shared)
      (readingOk_of_none rfl)
      (hothers _ rfl (fun hc => hc))
  | left record fence halted own inside =>
    exact tasksInv_step (haltKept_of_quiet cfg record halted h.shared)
      (readingOk_of_none rfl)
      (hothers _ record.halts (record.cleared.trans ·))

/-! ### Runs -/

theorem haltInv_start (cfg : Config) (generation : String) (now : Timestamp)
    (answer : StoreAnswer AuthorityRecord) (n : ℕ) :
    TasksInv HaltKept TaskReads (Machine.start cfg generation now answer n) where
  shared := fun h => absurd h (lt_irrefl 0)
  each := fun _ => readingOk_of_none rfl

/-- **A halt is not undone** in any run, of any number of coroutines and with any answers of the
store and the bus, in which nothing applies `RUNNING` over a newer halt. -/
theorem halt_kept (cfg : Config) (generation : String) (now : Timestamp)
    (answer : StoreAnswer AuthorityRecord) (n : ℕ) (steps : List (Fin n × Input)) (s : Machine n)
    (hmeets : Meets (machineStep cfg) NoStaleApply (.start cfg generation now answer n) steps)
    (hrun : run (machineStep cfg) (.start cfg generation now answer n) steps = some s) :
    HaltKept s.shared :=
  (run_invariant_of_meets (haltInv_step cfg) (haltInv_start cfg generation now answer n) hmeets
    hrun).shared

def executionConfig : Config where
  processRole := .execution
  failClosedOnAuthorityLoss := true

/-- The authority says that trading runs under a generation. -/
def runningRecord (generation : String) (setAtTs : Timestamp) : AuthorityRecord where
  halted := false
  state := .running
  generation := generation
  setAtTs := setAtTs
  sourceRole := some "gateway"
  resumeAuthorized := true

/-- Two coroutines of a switch that was bootstrapped from a running record, after some steps. -/
def switchAfter (steps : List (Fin 2 × Input)) : Machine 2 :=
  (run (machineStep executionConfig)
    (.start executionConfig "ksgen-0" 1 (.value (runningRecord "ksgen-1" 1)) 2) steps).getD
    (.start executionConfig "ksgen-0" 1 .missing 2)

def submissionReads : List (Fin 2 × Input) := [(0, .guard "ksgen-1"), (0, .proceed 2)]

def haltAfterRead : List (Fin 2 × Input) :=
  submissionReads ++ [(0, .authority (.value (runningRecord "ksgen-1" 1)) 3),
    (1, .haltAsync "manual" none none "ksgen-2" 4), (0, .permission .missing)]

theorem halt_kept_after_read :
    (switchAfter haltAfterRead).shared.halts = 1 ∧ HaltKept (switchAfter haltAfterRead).shared :=
  ⟨by decide +kernel, halt_kept executionConfig "ksgen-0" 1 (.value (runningRecord "ksgen-1" 1)) 2
    haltAfterRead _ (by decide +kernel) (Option.getD_of_ne_none (by decide +kernel) _).symm⟩

/-! ### Halts that are undone -/

/-- A halt begins while the submission awaits its read; the answer was taken before. -/
def staleRead : List (Fin 2 × Input) :=
  submissionReads ++ [(1, .haltAsync "manual" none none "ksgen-2" 3),
    (0, .authority (.value (runningRecord "ksgen-1" 1)) 4)]

/-- A halt, a resume that awaits its write, and a second halt before the write returns. -/
def overtakenResume : List (Fin 2 × Input) :=
  [(0, .remoteEvent { runningRecord "ksgen-2" 2 with halted := true, state := .halted }),
    (0, .resumeAsync "ksgen-3" 3), (1, .haltAsync "manual" none none "ksgen-4" 4), (0, .done true 5)]

/-- Both the stale read and the overtaken resume set the switch back to `RUNNING`. -/
theorem halt_undone_by_stale_read_or_resume :
    ¬ (∀ steps s, run (machineStep executionConfig)
        (.start executionConfig "ksgen-0" 1 (.value (runningRecord "ksgen-1" 1)) 2) steps = some s →
        HaltKept s.shared) ∧
      ¬ HaltKept (switchAfter staleRead).shared ∧ ¬ HaltKept (switchAfter overtakenResume).shared := by
  have hstale : ¬ HaltKept (switchAfter staleRead).shared := by decide +kernel
  refine ⟨?_, hstale, by decide +kernel⟩
  intro h
  exact hstale (h staleRead _ (Option.getD_of_ne_none (by decide +kernel) _).symm)

end Aats.Governance
